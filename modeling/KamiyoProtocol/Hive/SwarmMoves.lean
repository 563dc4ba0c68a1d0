/-
What one instruction of the hive program does to swarm actions and to the
votes on them.

`step_moved` is the inversion lemma both tallies are derived from, the
weighted one of a swarm action and the running maximum of a sealed-bid
one. The registry and the token accounts are left out of it: no tally
depends on them.
-/
import KamiyoProtocol.Hive.Swarm

namespace KamiyoProtocol.Hive.Swarm

open Solana Exec

variable {env : Env Seed} {zk : Zk} {w w' : World}

/-- The accounts an instruction has for its own side: nothing of it is in
the tallies. -/
structure Aside (w w' : World) : Prop where
  slot : w.slot ≤ w'.slot
  actions : w'.actions = w.actions
  records : w'.records = w.records
  bidActions : w'.bidActions = w.bidActions
  bidRecords : w'.bidRecords = w.bidRecords

/-- An accepted `create_swarm_action`. -/
structure Created (w w' : World) (k : Pubkey) (act : SwarmAction) :
    Prop where
  fresh : w.actions k = none
  threshold : 0 < act.threshold ∧ act.threshold ≤ 100
  weightedFor : act.weightedVotesFor = 10000
  weightedAgainst : act.weightedVotesAgainst = 0
  after : ∃ b r, w' = ({ w with tokens := b, registry := r }).setAction k act

/-- An accepted `vote_swarm_action`. -/
structure Voted (w w' : World) (kr : Pubkey) (r : VoteRecord)
    (act : SwarmAction) : Prop where
  action : w.actions r.swarmAction = some act
  hidden : r.revealed = false
  after : ∃ ns votes, w' = ({ w with
      nullifiers := ns
      records := w.records ++ [(kr, r)] }).setAction r.swarmAction
        { act with votesFor := votes }

/-- An accepted `reveal_vote`. -/
structure Revealed (w w' : World) (i : Nat) (kr : Pubkey) (r : VoteRecord)
    (act act' : SwarmAction) (voteValue : Bool) : Prop where
  record : w.records[i]? = some (kr, r)
  action : w.actions r.swarmAction = some act
  hidden : r.revealed = false
  counted : countReveal act voteValue = .ok act'
  after : w' = ({ w with
      records := w.records.set i (kr,
        { r with revealed := true, voteValue := voteCode voteValue })
      }).setAction r.swarmAction act'

/-- An accepted `execute_swarm_action`. -/
structure Executed (w w' : World) (k : Pubkey) (act : SwarmAction) :
    Prop where
  action : w.actions k = some act
  approved : act.threshold ≤ act.weightedVotesFor * 100
    / (act.weightedVotesFor + act.weightedVotesAgainst)
  votes : 0 < act.weightedVotesFor + act.weightedVotesAgainst
  after : w' = w.setAction k { act with executed := true }

/-- An accepted `create_swarm_action_bid`. -/
structure BidCreated (w w' : World) (k : Pubkey) (act : SwarmActionBid) :
    Prop where
  fresh : w.bidActions k = none
  voteCount : act.voteCount = 0
  revealedCount : act.revealedCount = 0
  yesVotes : act.yesVotes = 0
  noVotes : act.noVotes = 0
  notExecuted : act.executed = false
  highest : act.highestYesBid = 0
  leader : act.highestYesBidderNullifier = zeroHash
  after : w' = w.setBidAction k act

/-- An accepted `vote_bid_swarm_action`. -/
structure BidVoted (w w' : World) (kr : Pubkey) (r : VoteBidRecord)
    (act : SwarmActionBid) : Prop where
  action : w.bidActions r.swarmAction = some act
  hidden : r.revealed = false
  open' : w.slot ≤ act.voteDeadlineSlot
  after : ∃ ns, w' = ({ w with
      bidNullifiers := ns
      bidRecords := w.bidRecords ++ [(kr, r)] }).setBidAction r.swarmAction
        { act with voteCount := act.voteCount + 1 }

/-- An accepted `reveal_vote_bid`. -/
structure BidRevealed (w w' : World) (i : Nat) (kr : Pubkey)
    (r : VoteBidRecord) (act act' : SwarmActionBid) (reveal : BidReveal) :
    Prop where
  record : w.bidRecords[i]? = some (kr, r)
  action : w.bidActions r.swarmAction = some act
  hidden : r.revealed = false
  notExecuted : act.executed = false
  closed : act.voteDeadlineSlot < w.slot
  notLate : w.slot ≤ act.revealDeadlineSlot
  enough : act.minBid ≤ reveal.bidAmount
  counted : countBid act r.voteNullifier reveal.voteValue reveal.bidAmount
    = .ok act'
  after : w' = ({ w with
      bidRecords := w.bidRecords.set i (kr,
        { r with
          revealed := true
          voteValue := voteCode reveal.voteValue
          bidAmount := reveal.bidAmount }) }).setBidAction r.swarmAction act'

/-- An accepted `execute_swarm_action_bid`. -/
structure BidExecuted (w w' : World) (k : Pubkey) (act : SwarmActionBid) :
    Prop where
  action : w.bidActions k = some act
  notExecuted : act.executed = false
  closed : act.revealDeadlineSlot < w.slot
  votes : 0 < act.yesVotes + act.noVotes
  approved : act.threshold ≤ act.yesVotes * 100 / (act.yesVotes + act.noVotes)
  after : w' = w.setBidAction k { act with executed := true }

/-- What one instruction does. -/
inductive Moved (env : Env Seed) (a : Action env) (w w' : World) : Prop
  | created (k : Pubkey) (act : SwarmAction) (h : Created w w' k act)
  | voted (kr : Pubkey) (r : VoteRecord) (act : SwarmAction)
      (h : Voted w w' kr r act)
  | revealed (i : Nat) (kr : Pubkey) (r : VoteRecord)
      (act act' : SwarmAction) (v : Bool)
      (h : Revealed w w' i kr r act act' v)
  | executed (k : Pubkey) (act : SwarmAction)
      (hop : a.op = .executeSwarmAction k) (h : Executed w w' k act)
  | bidCreated (k : Pubkey) (act : SwarmActionBid)
      (h : BidCreated w w' k act)
  | bidVoted (kr : Pubkey) (r : VoteBidRecord) (act : SwarmActionBid)
      (h : BidVoted w w' kr r act)
  | bidRevealed (i : Nat) (kr : Pubkey) (r : VoteBidRecord)
      (act act' : SwarmActionBid) (acc : RevealAccounts)
      (reveal : BidReveal) (hop : a.op = .revealVoteBid acc reveal)
      (hlocate : Keyed.locate Prod.fst w.bidRecords acc.voteRecord
        = some (i, kr, r))
      (h : BidRevealed w w' i kr r act act' reveal)
  | bidExecuted (k : Pubkey) (act : SwarmActionBid)
      (hop : a.op = .executeSwarmActionBid k) (h : BidExecuted w w' k act)
  | aside (h : Aside w w')

variable {a : Action env}

variable {proof : Proof}

/-- Creation opens an action at an address that was free. -/
theorem createSwarmAction_created {acc : FeeAccounts} {actionHash : Bytes}
    {nullifier : Bytes} {threshold : Nat}
    (h : createSwarmAction env zk a.tx acc actionHash proof nullifier
      threshold w = .ok w') :
    ∃ act, Created w w' (env.pda (.swarmAction actionHash)) act := by
  simp only [createSwarmAction, bind_ok, requireFresh_ok, ensure_ok] at h
  obtain ⟨-, -, -, hfresh, _, -, -, -, -, hthreshold, paid, -, _, -,
    deadline, -, hw⟩ := h
  cases hw
  exact ⟨_, hfresh, hthreshold, rfl, rfl, _, _, rfl⟩

/-- A vote opens one record, of a commitment. -/
theorem voteSwarmAction_voted {acc : VoteAccounts}
    {nullifier commitment : Bytes}
    (h : voteSwarmAction env zk a.tx acc nullifier commitment proof w
      = .ok w') : ∃ kr r act, Voted w w' kr r act := by
  simp only [voteSwarmAction, bind_ok, load_ok] at h
  obtain ⟨-, -, act, hact, _, -, _, -, _, -, -, -, -, -, -, -, -, -, -, -,
    votes, -, hw⟩ := h
  cases hw
  exact ⟨_, ⟨acc.swarmAction, nullifier, commitment, false, 0⟩, act, hact,
    rfl, _, votes, rfl⟩

/-- Execution marks an action and nothing else. -/
theorem executeSwarmAction_executed {k : Pubkey}
    (h : executeSwarmAction k w = .ok w') :
    ∃ act, Executed w w' k act := by
  simp only [executeSwarmAction, bind_ok, load_ok, ensure_ok,
    okOr_ok, Fixed.checkedAdd_some, Fixed.checkedMul_some] at h
  obtain ⟨act, hact, -, -, -, -, total, -, -, -, weighted, ⟨-, rfl⟩, -,
    hpos, scaled, ⟨-, rfl⟩, -, hle, hw⟩ := h
  cases hw
  exact ⟨act, hact, hle, hpos, rfl⟩

/-- A reveal opens a commitment and moves the tally. -/
theorem revealVote_revealed {acc : RevealAccounts} {v : Bool}
    {voteSalt : Bytes} (h : revealVote zk acc v voteSalt w = .ok w') :
    ∃ i kr r act act', Revealed w w' i kr r act act' v := by
  simp only [revealVote, bind_ok, load_ok, ensure_ok, require_ok] at h
  obtain ⟨⟨i, kr, r⟩, hr, -, hof, act, hact, -, hhidden, -, -, _, -, -, -,
    act', hcount, hw⟩ := h
  cases hw
  obtain ⟨hi, hkr⟩ := Keyed.locate_some hr
  have hof' : r.swarmAction = acc.swarmAction := hof
  have hkr' : kr = acc.voteRecord := hkr
  refine ⟨i, kr, r, act, act', hi, hof' ▸ hact, hhidden, hcount, ?_⟩
  rw [hof', hkr']

/-- The same of an action with bids. -/
theorem createSwarmActionBid_created {payer : Pubkey} {t : BidTerms}
    {nullifier : Bytes}
    (h : createSwarmActionBid env zk a.tx payer t proof nullifier w
      = .ok w') : ∃ k act, BidCreated w w' k act := by
  simp only [createSwarmActionBid, bind_ok, requireFresh_ok] at h
  obtain ⟨-, -, -, hfresh, -, -, -, -, -, -, -, -, _, -, d, -, d', -, hw⟩ := h
  cases hw
  exact ⟨_, _, hfresh, rfl, rfl, rfl, rfl, rfl, rfl, rfl, rfl⟩

/-- A vote with a bid; the record names its action. -/
theorem voteBidSwarmAction_voted {acc : VoteAccounts}
    {nullifier voteCommitment bidCommitment : Bytes}
    (h : voteBidSwarmAction env zk a.tx acc nullifier voteCommitment
      bidCommitment proof w = .ok w') :
    ∃ kr r act, r.swarmAction = acc.swarmAction ∧ BidVoted w w' kr r act := by
  simp only [voteBidSwarmAction, bind_ok, load_ok, ensure_ok, countVote_ok] at h
  obtain ⟨-, -, act, hact, _, -, _, -, _, -, -, -, -, -, -, hslot, -, -, -,
    -, votes, ⟨-, rfl⟩, hw⟩ := h
  cases hw
  exact ⟨_, ⟨acc.swarmAction, nullifier, voteCommitment, bidCommitment,
    false, 0, 0⟩, act, rfl, hact, rfl, hslot, _, rfl⟩

/-- A reveal with a bid, of the record at the given address. -/
theorem revealVoteBid_revealed {acc : RevealAccounts} {reveal : BidReveal}
    (h : revealVoteBid zk acc reveal w = .ok w') :
    ∃ i kr r act act',
      Keyed.locate Prod.fst w.bidRecords acc.voteRecord = some (i, kr, r)
        ∧ BidRevealed w w' i kr r act act' reveal := by
  simp only [revealVoteBid, bind_ok, load_ok, ensure_ok, require_ok] at h
  obtain ⟨⟨i, kr, r⟩, hr, -, hof, act, hact, -, hhidden, -, hexec, -,
    hclosed, -, hlate, _, -, -, -, _, -, -, -, -, hmin, act', hcount,
    hw⟩ := h
  cases hw
  obtain ⟨hi, hkr⟩ := Keyed.locate_some hr
  have hof' : r.swarmAction = acc.swarmAction := hof
  have hkr' : kr = acc.voteRecord := hkr
  refine ⟨i, kr, r, act, act', hr, hi, hof' ▸ hact, hhidden, hexec,
    hclosed, hlate, hmin, hcount, ?_⟩
  rw [hof', hkr']

/-- Execution of an action with bids. -/
theorem executeSwarmActionBid_executed {k : Pubkey}
    (h : executeSwarmActionBid k w = .ok w') :
    ∃ act, BidExecuted w w' k act := by
  simp only [executeSwarmActionBid, bind_ok, load_ok, ensure_ok,
    okOr_ok, Fixed.checkedAdd_some, Fixed.checkedMul_some] at h
  obtain ⟨act, hact, -, hexec, -, hclosed, total, ⟨-, rfl⟩, -, hpos, scaled,
    ⟨-, rfl⟩, -, hle, -, -, hw⟩ := h
  cases hw
  exact ⟨act, hact, hexec, hclosed, hpos, hle, rfl⟩

/-- Every instruction makes one of the moves, or none of them. -/
theorem step_moved (h : step env zk a w = .ok w') : Moved env a w w' := by
  unfold step at h
  cases hop : a.op with
  | createSwarmAction acc ah p n t =>
    rw [hop] at h
    obtain ⟨act, hc⟩ := createSwarmAction_created h
    exact .created _ act hc
  | voteSwarmAction acc n c p =>
    rw [hop] at h
    obtain ⟨kr, r, act, hv⟩ := voteSwarmAction_voted h
    exact .voted kr r act hv
  | executeSwarmAction k =>
    rw [hop] at h
    obtain ⟨act, he⟩ := executeSwarmAction_executed h
    exact .executed k act hop he
  | revealVote acc v s =>
    rw [hop] at h
    obtain ⟨i, kr, r, act, act', hr⟩ := revealVote_revealed h
    exact .revealed i kr r act act' v hr
  | createSwarmActionBid payer t p n =>
    rw [hop] at h
    obtain ⟨k, act, hc⟩ := createSwarmActionBid_created h
    exact .bidCreated k act hc
  | voteBidSwarmAction acc n vc bc p =>
    rw [hop] at h
    obtain ⟨kr, r, act, -, hv⟩ := voteBidSwarmAction_voted h
    exact .bidVoted kr r act hv
  | revealVoteBid acc reveal =>
    rw [hop] at h
    obtain ⟨i, kr, r, act, act', hl, hr⟩ := revealVoteBid_revealed h
    exact .bidRevealed i kr r act act' acc reveal hop hl hr
  | executeSwarmActionBid k =>
    rw [hop] at h
    obtain ⟨act, he⟩ := executeSwarmActionBid_executed h
    exact .bidExecuted k act hop he
  | advanceSlot slot =>
    rw [hop] at h
    simp only [bind_ok, require_ok] at h
    obtain ⟨-, hslot, hw⟩ := h
    cases hw
    exact .aside ⟨hslot, rfl, rfl, rfl, rfl⟩
  | changeRegistry registry =>
    rw [hop] at h
    cases h
    exact .aside ⟨Nat.le_refl _, rfl, rfl, rfl, rfl⟩
  | viaTokens op =>
    rw [hop] at h
    simp only [bind_ok] at h
    obtain ⟨b, -, hw⟩ := h
    cases hw
    exact .aside ⟨Nat.le_refl _, rfl, rfl, rfl, rfl⟩

end KamiyoProtocol.Hive.Swarm
