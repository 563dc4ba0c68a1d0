/-
The allocation by sealed bids: what the account of a sealed-bid action
holds is what the history of reveals says.

The history is a ghost beside the state, the reveals in their order. A
reveal is accepted after the vote deadline and a commitment up to it, so
the passing of slots separates the two phases; the leader is replaced by
a strictly higher bid only, so it is the earliest of the highest. A bid of
zero never leads, even when it is the highest.
-/
import KamiyoProtocol.Hive.Concrete
import KamiyoProtocol.Hive.SwarmMoves

namespace KamiyoProtocol.Hive.Swarm

open Solana Exec Function

variable {env : Env Seed} {zk : Zk} {w w' : World} {a : Action env}
  {j k : Pubkey}

-- ==== the history

/-- A revealed vote and bid. -/
structure Reveal where
  swarmAction : Pubkey
  nullifier : Bytes
  voteValue : Bool
  bidAmount : Nat

/-- The reveals so far, in order. -/
abbrev History := List Reveal

/-- Append the reveal, under the nullifier of its record. -/
def track (a : Action env) (w : World) (hist : History) : History :=
  match a.op with
  | .revealVoteBid acc reveal =>
    match Keyed.locate Prod.fst w.bidRecords acc.voteRecord with
    | some r => hist ++ [⟨r.2.2.swarmAction, r.2.2.voteNullifier,
        reveal.voteValue, reveal.bidAmount⟩]
    | none => hist
  | _ => hist

/-- The reveals on the action with the vote. -/
def revealsOf (hist : History) (k : Pubkey) (voteValue : Bool) : History :=
  hist.filter fun r => r.swarmAction = k ∧ r.voteValue = voteValue

/-- The highest bid among the reveals, and 0 if there are none. -/
def highestBid (rs : History) : Nat :=
  (rs.map Reveal.bidAmount).foldl max 0

/-- The first to reveal the bid. -/
def firstWith (rs : History) (bidAmount : Nat) : Option Reveal :=
  rs.find? fun r => r.bidAmount = bidAmount

/-- What the account of an action is to hold after the reveals. -/
structure Allocated (hist : History) (k : Pubkey)
    (act : SwarmActionBid) : Prop where
  counted : act.revealedCount = act.yesVotes + act.noVotes
  committed : act.revealedCount ≤ act.voteCount
  yes : act.yesVotes = (revealsOf hist k true).length
  no : act.noVotes = (revealsOf hist k false).length
  highest : act.highestYesBid = highestBid (revealsOf hist k true)
  leader : 0 < act.highestYesBid →
    (firstWith (revealsOf hist k true) act.highestYesBid).map
      Reveal.nullifier = some act.highestYesBidderNullifier
  noLeader : act.highestYesBid = 0 → act.highestYesBidderNullifier = zeroHash

/-- A commitment is to an action without reveals, and an execution comes
after the reveals, with enough of them yes. -/
structure Orderly (a : Action env) (x : World × History) : Prop where
  commits : ∀ acc n vc bc p, a.op = .voteBidSwarmAction acc n vc bc p →
    ∀ r ∈ x.2, r.swarmAction ≠ acc.swarmAction
  executes : ∀ k act, a.op = .executeSwarmActionBid k →
    x.1.bidActions k = some act →
    act.revealDeadlineSlot < x.1.slot
      ∧ act.threshold * (act.yesVotes + act.noVotes) ≤ 100 * act.yesVotes

/-- The action is an execution of `k`. -/
def executes (k : Pubkey) (a : Action env) : Bool :=
  decide (a.op = .executeSwarmActionBid k)

-- ==== the maximum

@[simp] theorem highestBid_append (rs : History) (r : Reveal) :
    highestBid (rs ++ [r]) = max (highestBid rs) r.bidAmount := by
  simp [highestBid]

theorem le_highestBid {rs : History} {r : Reveal} (h : r ∈ rs) :
    r.bidAmount ≤ highestBid rs := by
  induction rs using List.reverseRecOn with
  | nil => cases h
  | append_singleton rs r' ih =>
    rw [highestBid_append]
    rcases List.mem_append.mp h with hold | hnew
    · have := ih hold
      omega
    · rw [List.mem_singleton] at hnew
      subst hnew
      omega

theorem firstWith_higher {rs : History} {r : Reveal}
    (h : highestBid rs < r.bidAmount) :
    firstWith (rs ++ [r]) r.bidAmount = some r := by
  have hnone : firstWith rs r.bidAmount = none := by
    rw [firstWith, List.find?_eq_none]
    intro r' hr'
    have hle := le_highestBid hr'
    simp only [decide_eq_true_eq]
    omega
  rw [firstWith] at hnone
  rw [firstWith, List.find?_append, hnone]
  simp

theorem firstWith_append {rs : History} {r r' : Reveal} {n : Nat}
    (h : firstWith rs n = some r) :
    firstWith (rs ++ [r']) n = some r := by
  rw [firstWith] at h
  rw [firstWith, List.find?_append, h]
  rfl

theorem revealsOf_append (hist : History) (r : Reveal) (k : Pubkey) (v : Bool) :
    revealsOf (hist ++ [r]) k v = revealsOf hist k v
      ++ if r.swarmAction = k ∧ r.voteValue = v then [r] else [] := by
  unfold revealsOf
  rw [List.filter_append]
  congr 1
  by_cases h : r.swarmAction = k ∧ r.voteValue = v
  · rw [if_pos h, List.filter_cons_of_pos (by simpa using h)]
    rfl
  · rw [if_neg h, List.filter_cons_of_neg (by simpa using h)]
    rfl

-- ==== invariant

/-- The commitments to the action. -/
def commitments (w : World) (k : Pubkey) : Nat :=
  w.bidRecords.countP fun r => decide (r.2.swarmAction = k)

/-- The ones that were revealed. -/
def opened (w : World) (k : Pubkey) : Nat :=
  w.bidRecords.countP fun r =>
    decide (r.2.swarmAction = k) && r.2.revealed

theorem opened_le (w : World) (k : Pubkey) : opened w k ≤ commitments w k := by
  apply List.countP_mono_left
  intro r _ hr
  rw [Bool.and_eq_true] at hr
  exact hr.1

/-- What is known of one action: its account, the records on it, and that
it has reveals after the vote deadline only. -/
structure KeptAt (w : World) (hist : History) (k : Pubkey)
    (act : SwarmActionBid) : Prop where
  allocated : Allocated hist k act
  commitments : act.voteCount = commitments w k
  opened : act.revealedCount = opened w k
  phase : ∀ v, revealsOf hist k v ≠ [] → act.voteDeadlineSlot < w.slot

/-- The invariant of a run. -/
structure BidsKept (w : World) (hist : History) : Prop where
  actions : ∀ k act, w.bidActions k = some act → KeptAt w hist k act
  unknown : ∀ k, w.bidActions k = none →
    commitments w k = 0 ∧ ∀ v, revealsOf hist k v = []

theorem bidsKept_genesis (h : Genesis w) : BidsKept w [] := by
  constructor
  · intro k act hact
    rw [h.bidActions] at hact
    cases hact
  · intro k _
    refine ⟨?_, fun _ => rfl⟩
    rw [commitments, h.bidRecords]
    rfl

/-- The records and the reveals on `k` are the same. -/
structure SameBids (w w' : World) (hist hist' : History) (k : Pubkey) :
    Prop where
  commitments : commitments w' k = commitments w k
  opened : opened w' k = opened w k
  reveals : ∀ v, revealsOf hist' k v = revealsOf hist k v

variable {act : SwarmActionBid}

theorem KeptAt.same {hist hist' : History}
    (h : KeptAt w hist k act) (hsame : SameBids w w' hist hist' k)
    (hslot : w.slot ≤ w'.slot) : KeptAt w' hist' k act := by
  obtain ⟨⟨hsum, hle, hyes, hno, hhigh, hlead, hzero⟩, hc, ho, hph⟩ := h
  constructor
  · constructor
    · exact hsum
    · exact hle
    · rw [hyes, hsame.reveals]
    · rw [hno, hsame.reveals]
    · rw [hhigh, hsame.reveals]
    · rw [hsame.reveals]
      exact hlead
    · exact hzero
  · rw [hc, hsame.commitments]
  · rw [ho, hsame.opened]
  · intro v hv
    rw [hsame.reveals] at hv
    exact Nat.lt_of_lt_of_le (hph v hv) hslot

variable {hist : History}

theorem bidsKept_aside (h : BidsKept w hist)
    (hslot : w.slot ≤ w'.slot) (ha : w'.bidActions = w.bidActions)
    (hr : w'.bidRecords = w.bidRecords) : BidsKept w' hist := by
  have hsame : ∀ k, SameBids w w' hist hist k := by
    intro k
    exact ⟨by rw [commitments, hr]; rfl, by rw [opened, hr]; rfl, fun _ => rfl⟩
  constructor
  · intro k act hact
    rw [ha] at hact
    exact (h.actions k act hact).same (hsame k) hslot
  · intro k hk
    rw [ha] at hk
    rw [(hsame k).commitments]
    exact h.unknown k hk

theorem bidsKept_set {hist hist' : History} (h : BidsKept w hist)
    (ha : w'.bidActions = update w.bidActions k (some act))
    (hself : KeptAt w' hist' k act)
    (hothers : ∀ j, j ≠ k → SameBids w w' hist hist' j)
    (hslot : w.slot ≤ w'.slot) : BidsKept w' hist' := by
  constructor
  · intro j act' hact'
    by_cases hj : j = k
    · subst hj
      rw [ha, update_self] at hact'
      cases hact'
      exact hself
    · rw [ha, update_of_ne hj] at hact'
      exact (h.actions j act' hact').same (hothers j hj) hslot
  · intro j hj
    by_cases hk : j = k
    · rw [ha, hk, update_self] at hj
      cases hj
    · rw [ha, update_of_ne hk] at hj
      obtain ⟨hc, hr⟩ := h.unknown j hj
      refine ⟨(hothers j hk).commitments.trans hc, ?_⟩
      intro v
      rw [(hothers j hk).reveals, hr]

-- ==== steps

theorem bidsKept_created (h : BidsKept w hist) (hc : BidCreated w w' k act) :
    BidsKept w' hist := by
  have hafter := hc.after
  subst hafter
  obtain ⟨hnone, hempty⟩ := h.unknown k hc.fresh
  refine bidsKept_set h rfl ?_ (fun _ _ => ⟨rfl, rfl, fun _ => rfl⟩)
    (Nat.le_refl _)
  have hopened : opened w k = 0 := by
    have := opened_le w k
    omega
  refine ⟨⟨?_, ?_, ?_, ?_, ?_, ?_, fun _ => hc.leader⟩, ?_, ?_, ?_⟩
  · rw [hc.revealedCount, hc.yesVotes, hc.noVotes]
  · rw [hc.revealedCount]
    exact Nat.zero_le _
  · rw [hc.yesVotes, hempty]
    rfl
  · rw [hc.noVotes, hempty]
    rfl
  · rw [hc.highest, hempty]
    rfl
  · intro hpos
    rw [hc.highest] at hpos
    cases hpos
  · exact hc.voteCount.trans hnone.symm
  · exact hc.revealedCount.trans hopened.symm
  · intro v hv
    exact absurd (hempty v) hv

theorem bidsKept_voted {kr : Pubkey} {r : VoteBidRecord} (h : BidsKept w hist)
    (hv : BidVoted w w' kr r act) : BidsKept w' hist := by
  obtain ⟨ns, rfl⟩ := hv.after
  have hc : ∀ k, (w.bidRecords ++ [(kr, r)]).countP
        (fun r => decide (r.2.swarmAction = k))
      = commitments w k + if r.swarmAction = k then 1 else 0 := by
    intro k
    rw [List.countP_append, List.countP_singleton]
    simp [commitments]
  have ho : ∀ k, (w.bidRecords ++ [(kr, r)]).countP
        (fun r => decide (r.2.swarmAction = k) && r.2.revealed)
      = opened w k := by
    intro k
    rw [List.countP_append, List.countP_singleton]
    simp [opened, hv.hidden]
  obtain ⟨⟨hsum, hle, hyes, hno, hhigh, hlead, hzero⟩, hcount, hopen, hph⟩ :=
    h.actions _ act hv.action
  refine bidsKept_set h rfl ⟨⟨hsum, ?_, hyes, hno, hhigh, hlead, hzero⟩,
    ?_, ?_, hph⟩ ?_ (Nat.le_refl _)
  · exact Nat.le_succ_of_le hle
  · refine Eq.trans ?_ (hc r.swarmAction).symm
    rw [if_pos rfl, hcount]
  · exact hopen.trans (ho _).symm
  · intro j hj
    refine ⟨(hc j).trans ?_, ho j, fun _ => rfl⟩
    rw [if_neg fun hr => hj hr.symm, Nat.add_zero]

/-- What a reveal adds to the tallies, and when it takes the lead. -/
theorem countBid_ok {act act' : SwarmActionBid} {n : Bytes} {v : Bool}
    {bid : Nat} (h : countBid act n v bid = .ok act') :
    act'.revealedCount = act.revealedCount + 1
      ∧ act'.yesVotes = act.yesVotes + (if v = true then 1 else 0)
      ∧ act'.noVotes = act.noVotes + (if v = false then 1 else 0)
      ∧ act'.voteCount = act.voteCount
      ∧ act'.voteDeadlineSlot = act.voteDeadlineSlot
      ∧ act'.executed = act.executed
      ∧ ((v = true ∧ act.highestYesBid < bid ∧ act'.highestYesBid = bid
          ∧ act'.highestYesBidderNullifier = n)
        ∨ ((v = true → bid ≤ act.highestYesBid)
          ∧ act'.highestYesBid = act.highestYesBid
          ∧ act'.highestYesBidderNullifier
            = act.highestYesBidderNullifier)) := by
  simp only [countBid, bind_ok, countVote_ok] at h
  obtain ⟨_, ⟨-, rfl⟩, h⟩ := h
  cases v with
  | true =>
    rw [if_pos rfl] at h
    simp only [bind_ok, countVote_ok] at h
    obtain ⟨_, ⟨-, rfl⟩, h⟩ := h
    split at h
    · next hlt =>
        cases h
        exact ⟨rfl, rfl, rfl, rfl, rfl, rfl, .inl ⟨rfl, hlt, rfl, rfl⟩⟩
    · next hle =>
        cases h
        exact ⟨rfl, rfl, rfl, rfl, rfl, rfl,
          .inr ⟨fun _ => Nat.not_lt.mp hle, rfl, rfl⟩⟩
  | false =>
    rw [if_neg (by decide)] at h
    simp only [bind_ok, countVote_ok] at h
    obtain ⟨_, ⟨-, rfl⟩, h⟩ := h
    cases h
    exact ⟨rfl, rfl, rfl, rfl, rfl, rfl, .inr ⟨nofun, rfl, rfl⟩⟩

theorem allocated_reveal {act act' : SwarmActionBid}
    {n : Bytes} {v : Bool} {bid : Nat} (h : Allocated hist k act)
    (hc : countBid act n v bid = .ok act')
    (hle : act'.revealedCount ≤ act'.voteCount) :
    Allocated (hist ++ [⟨k, n, v, bid⟩]) k act' := by
  obtain ⟨hsum, -, hyes, hno, hhigh, hlead, hzero⟩ := h
  obtain ⟨hr, hy, hn, -, -, -, hcase⟩ := countBid_ok hc
  have hreveals : ∀ u, revealsOf (hist ++ [⟨k, n, v, bid⟩]) k u
      = revealsOf hist k u ++ if v = u then [⟨k, n, v, bid⟩] else [] := by
    intro u
    rw [revealsOf_append]
    simp
  have hlength : ∀ u, (revealsOf (hist ++ [⟨k, n, v, bid⟩]) k u).length
      = (revealsOf hist k u).length + if v = u then 1 else 0 := by
    intro u
    rw [hreveals, List.length_append]
    by_cases hu : v = u
    · simp [hu]
    · simp [hu]
  have htallies : act'.revealedCount = act'.yesVotes + act'.noVotes := by
    rw [hr, hy, hn, hsum]
    cases v with
    | true => simp; omega
    | false => simp; omega
  have hyes' : act'.yesVotes
      = (revealsOf (hist ++ [⟨k, n, v, bid⟩]) k true).length := by
    rw [hy, hyes, hlength]
  have hno' : act'.noVotes
      = (revealsOf (hist ++ [⟨k, n, v, bid⟩]) k false).length := by
    rw [hn, hno, hlength]
  rcases hcase with ⟨rfl, hlt, hhigh', hlead'⟩ | ⟨hbid, hhigh', hlead'⟩
  · -- a new leader, first with its bid
    have hfirst : firstWith (revealsOf hist k true ++ [⟨k, n, true, bid⟩])
        bid = some ⟨k, n, true, bid⟩ :=
      firstWith_higher (by rw [← hhigh]; exact hlt)
    refine ⟨htallies, hle, hyes', hno', ?_, ?_, ?_⟩
    · rw [hhigh', hreveals, if_pos rfl, highestBid_append, ← hhigh]
      show bid = max act.highestYesBid bid
      omega
    · intro _
      rw [hhigh', hlead', hreveals, if_pos rfl, hfirst]
      rfl
    · intro h0
      omega
  · refine ⟨htallies, hle, hyes', hno', ?_, ?_, ?_⟩
    · rw [hhigh', hreveals]
      cases v with
      | true =>
        have := hbid rfl
        rw [if_pos rfl, highestBid_append, ← hhigh]
        show act.highestYesBid = max act.highestYesBid bid
        omega
      | false =>
        rw [if_neg (by decide), List.append_nil]
        exact hhigh
    · intro hpos
      rw [hhigh'] at hpos ⊢
      rw [hlead', hreveals]
      obtain ⟨r, hfirst, hnull⟩ := Option.map_eq_some_iff.mp (hlead hpos)
      cases v with
      | true => rw [if_pos rfl, firstWith_append hfirst, ← hnull]; rfl
      | false =>
        rw [if_neg (by decide), List.append_nil, hfirst, ← hnull]
        rfl
    · intro h0
      rw [hlead']
      exact hzero (hhigh' ▸ h0)

theorem bidsKept_revealed {i : Nat} {kr : Pubkey}
    {r : VoteBidRecord} {act act' : SwarmActionBid} {reveal : BidReveal}
    (h : BidsKept w hist)
    (hv : BidRevealed w w' i kr r act act' reveal) :
    BidsKept w' (hist ++ [⟨r.swarmAction, r.voteNullifier,
      reveal.voteValue, reveal.bidAmount⟩]) := by
  obtain ⟨hlt, hget⟩ := List.getElem?_eq_some_iff.mp hv.record
  have hcounted := hv.counted
  obtain ⟨hr, -, -, hvotes, hdeadline, -, -⟩ := countBid_ok hcounted
  have hafter := hv.after
  subst hafter
  have hc : ∀ j, (w.bidRecords.set i (kr, { r with
        revealed := true
        voteValue := voteCode reveal.voteValue
        bidAmount := reveal.bidAmount })).countP
          (fun r => decide (r.2.swarmAction = j)) = commitments w j := by
    intro j
    rw [List.countP_set hlt, hget]
    by_cases hj : r.swarmAction = j
    · have hpos : 0 < commitments w j :=
        List.countP_pos_iff.mpr ⟨(kr, r), List.mem_of_getElem? hv.record,
          by simpa using hj⟩
      simp only [hj, decide_true, if_true]
      unfold commitments at hpos ⊢
      omega
    · simp [hj, commitments]
  have ho : ∀ j, (w.bidRecords.set i (kr, { r with
        revealed := true
        voteValue := voteCode reveal.voteValue
        bidAmount := reveal.bidAmount })).countP
          (fun r => decide (r.2.swarmAction = j) && r.2.revealed)
      = opened w j + if r.swarmAction = j then 1 else 0 := by
    intro j
    rw [List.countP_set hlt, hget]
    simp [opened, hv.hidden]
  obtain ⟨halloc, hcount, hopen, hph⟩ := h.actions _ act hv.action
  have hopen' : act'.revealedCount = opened w r.swarmAction + 1 := by
    rw [hr, hopen]
  have hle : act'.revealedCount ≤ act'.voteCount := by
    have hbound := opened_le (({ w with
      bidRecords := w.bidRecords.set i (kr, { r with
        revealed := true
        voteValue := voteCode reveal.voteValue
        bidAmount := reveal.bidAmount }) } : World)) r.swarmAction
    rw [opened, ho, if_pos rfl, commitments, hc] at hbound
    omega
  refine bidsKept_set h rfl
    ⟨allocated_reveal halloc hcounted hle, ?_, ?_, ?_⟩ ?_ (Nat.le_refl _)
  · exact (hvotes.trans hcount).trans (hc _).symm
  · refine hopen'.trans (Eq.trans ?_ (ho _).symm)
    rw [if_pos rfl]
  · intro _ _
    rw [hdeadline]
    exact hv.closed
  · intro j hj
    have hne : r.swarmAction ≠ j := fun hr => hj hr.symm
    refine ⟨hc j, (ho j).trans ?_, ?_⟩
    · rw [if_neg hne, Nat.add_zero]
    · intro v
      rw [revealsOf_append, if_neg fun hr => hne hr.1, List.append_nil]

theorem bidsKept_executed (h : BidsKept w hist) (he : BidExecuted w w' k act) :
    BidsKept w' hist := by
  have hafter := he.after
  subst hafter
  obtain ⟨⟨hsum, hle, hyes, hno, hhigh, hlead, hzero⟩, hc, ho, hph⟩ :=
    h.actions _ act he.action
  exact bidsKept_set h rfl
    ⟨⟨hsum, hle, hyes, hno, hhigh, hlead, hzero⟩, hc, ho, hph⟩
    (fun _ _ => ⟨rfl, rfl, fun _ => rfl⟩) (Nat.le_refl _)

theorem bidsKept_step (h : BidsKept w hist)
    (hs : step env zk a w = .ok w') : BidsKept w' (track a w hist) := by
  by_cases hreveal : ∃ acc reveal, a.op = .revealVoteBid acc reveal
  · obtain ⟨acc, reveal, hop⟩ := hreveal
    rw [step, hop] at hs
    obtain ⟨i, kr, r, act, act', hl, hr⟩ := revealVoteBid_revealed hs
    rw [track, hop]
    dsimp only
    rw [hl]
    exact bidsKept_revealed h hr
  · have htrack : track a w hist = hist := by
      unfold track
      split
      · next acc reveal hop => exact absurd ⟨acc, reveal, hop⟩ hreveal
      · rfl
    rw [htrack]
    rcases step_moved hs with ⟨k, act, hc⟩ | ⟨kr, r, act, hv⟩
      | ⟨i, kr, r, act, act', v, hr⟩ | ⟨k, act, -, he⟩ | ⟨k, act, hc⟩
      | ⟨kr, r, act, hv⟩ | ⟨i, kr, r, act, act', acc, reveal, hop, -, -⟩
      | ⟨k, act, -, he⟩ | ha
    · obtain ⟨b, r, hw⟩ := hc.after
      rw [hw]
      exact bidsKept_aside h (Nat.le_refl _) rfl rfl
    · obtain ⟨ns, votes, hw⟩ := hv.after
      rw [hw]
      exact bidsKept_aside h (Nat.le_refl _) rfl rfl
    · rw [hr.after]
      exact bidsKept_aside h (Nat.le_refl _) rfl rfl
    · rw [he.after]
      exact bidsKept_aside h (Nat.le_refl _) rfl rfl
    · exact bidsKept_created h hc
    · exact bidsKept_voted h hv
    · exact absurd ⟨acc, reveal, hop⟩ hreveal
    · exact bidsKept_executed h he
    · exact bidsKept_aside h ha.slot ha.bidActions ha.bidRecords

theorem bidsKept_tracked {x y : World × History}
    (h : BidsKept x.1 x.2) (hs : tracked (step env zk) track a x = .ok y) :
    BidsKept y.1 y.2 := by
  obtain ⟨hstep, hhist⟩ := tracked_ok.mp hs
  rw [hhist]
  exact bidsKept_step h hstep

-- ==== executions

/-- 1 if the action is executed. -/
def executedCount (w : World) (k : Pubkey) : Nat :=
  match w.bidActions k with
  | some act => if act.executed = true then 1 else 0
  | none => 0

theorem executedCount_same (ha : w'.bidActions = w.bidActions) :
    executedCount w' k = executedCount w k := by
  rw [executedCount, ha]
  rfl

theorem executedCount_put
    (ha : w'.bidActions = update w.bidActions j (some act))
    (hmark : (if act.executed = true then 1 else 0) = executedCount w j) :
    executedCount w' k = executedCount w k := by
  by_cases hk : k = j
  · subst hk
    rw [executedCount, ha, update_self]
    exact hmark
  · rw [executedCount, ha, update_of_ne hk]
    rfl

theorem executedCount_step (hs : step env zk a w = .ok w') (k : Pubkey) :
    executedCount w' k
      = executedCount w k + if executes k a = true then 1 else 0 := by
  by_cases hexec : ∃ j, a.op = .executeSwarmActionBid j
  · obtain ⟨j, hop⟩ := hexec
    rw [step, hop] at hs
    obtain ⟨act, he⟩ := executeSwarmActionBid_executed hs
    have hafter := he.after
    subst hafter
    by_cases hj : k = j
    · subst hj
      have hmark : executes k a = true := by simp [executes, hop]
      rw [executedCount, setBidAction_self, executedCount, he.action,
        if_pos hmark]
      simp [he.notExecuted]
    · have hother : ¬ executes k a = true := by
        simp only [executes, hop, decide_eq_true_eq,
          Op.executeSwarmActionBid.injEq]
        exact fun h => hj h.symm
      rw [executedCount, setBidAction_ne _ _ hj, if_neg hother]
      rfl
  · have hother : ¬ executes k a = true := by
      intro h
      exact hexec ⟨k, of_decide_eq_true h⟩
    rw [if_neg hother, Nat.add_zero]
    rcases step_moved hs with ⟨k, act, hc⟩ | ⟨kr, r, act, hv⟩
      | ⟨i, kr, r, act, act', v, hr⟩ | ⟨k, act, -, he⟩ | ⟨k, act, hc⟩
      | ⟨kr, r, act, hv⟩ | ⟨i, kr, r, act, act', acc, reveal, -, -, hr⟩
      | ⟨k, act, hop, -⟩ | ha
    · obtain ⟨b, r, rfl⟩ := hc.after
      rfl
    · obtain ⟨ns, votes, rfl⟩ := hv.after
      rfl
    · rw [hr.after]
      rfl
    · rw [he.after]
      rfl
    · rw [hc.after]
      refine executedCount_put rfl ?_
      rw [executedCount, hc.fresh, hc.notExecuted]
      rfl
    · obtain ⟨ns, rfl⟩ := hv.after
      refine executedCount_put rfl ?_
      rw [executedCount, hv.action]
    · rw [hr.after]
      refine executedCount_put rfl ?_
      obtain ⟨-, -, -, -, -, hmark, -⟩ := countBid_ok hr.counted
      rw [executedCount, hr.action, hmark]
    · exact absurd ⟨k, hop⟩ hexec
    · exact executedCount_same ha.bidActions

theorem executedCount_le (w : World) (k : Pubkey) :
    executedCount w k ≤ 1 := by
  unfold executedCount
  split
  · split
    · exact Nat.le_refl _
    · exact Nat.zero_le _
  · exact Nat.zero_le _

theorem countP_executes {tr : List (Action env)} (k : Pubkey) :
    ∀ {w w' : World}, run (step env zk) w tr = .ok w' →
      executedCount w k + tr.countP (executes k) = executedCount w' k := by
  induction tr with
  | nil =>
    intro w w' hrun
    cases hrun
    rfl
  | cons a rest ih =>
    intro w w' hrun
    obtain ⟨m, ha, hr⟩ := run_cons.mp hrun
    have hstep := executedCount_step ha k
    have hrest := ih hr
    rw [List.countP_cons]
    omega

-- ==== result

theorem orderly_step {x : World × History} (h : BidsKept x.1 x.2)
    (hs : step env zk a x.1 = .ok w') : Orderly a x := by
  constructor
  · intro acc n vc bc p hop r hr hof
    rw [step, hop] at hs
    obtain ⟨kr, record, act, hrecord, hv⟩ := voteBidSwarmAction_voted hs
    have hkept := h.actions _ act hv.action
    have hmem : r ∈ revealsOf x.2 record.swarmAction r.voteValue := by
      rw [revealsOf, List.mem_filter]
      exact ⟨hr, by simp [hof, hrecord]⟩
    have hlate := hkept.phase r.voteValue (List.ne_nil_of_mem hmem)
    have hopen := hv.open'
    omega
  · intro k act hop hact
    rw [step, hop] at hs
    obtain ⟨act', he⟩ := executeSwarmActionBid_executed hs
    have hact' := he.action
    rw [hact] at hact'
    cases hact'
    have happroved := he.approved
    rw [Nat.le_div_iff_mul_le he.votes] at happroved
    exact ⟨he.closed, by omega⟩

/-- In every run the accounts of the sealed-bid actions are true to the
history of reveals, commitments come before reveals, and an action is
executed at most once, after the reveals and with enough of them yes. -/
theorem bids_allocated {tr : List (Action env)} {hist : History} (h : Genesis w)
    (hrun : run (tracked (step env zk) track) (w, []) tr = .ok (w', hist)) :
    (∀ k act, w'.bidActions k = some act → Allocated hist k act)
      ∧ Meets (tracked (step env zk) track) Orderly (w, []) tr
      ∧ ∀ k, tr.countP (executes k) ≤ 1 := by
  have hkept : ∀ p x, run (tracked (step env zk) track) (w, []) p = .ok x →
      BidsKept x.1 x.2 := by
    intro p x hp
    exact run_induct (I := fun x => BidsKept x.1 x.2)
      (fun _ _ _ => bidsKept_tracked) (bidsKept_genesis h) hp
  refine ⟨?_, ?_, ?_⟩
  · intro k act hact
    exact ((hkept tr _ hrun).actions k act hact).allocated
  · rw [meets_iff_cut]
    intro p a q x htr hp
    rw [htr] at hrun
    obtain ⟨x', hx', hrest⟩ := run_append.mp hrun
    rw [hp] at hx'
    cases hx'
    obtain ⟨y, hs, -⟩ := run_cons.mp hrest
    exact orderly_step (hkept p x hp) (tracked_ok.mp hs).1
  · intro k
    have hcount := countP_executes k (run_of_tracked hrun)
    have hle := executedCount_le w' k
    dsimp only at hcount
    omega

end KamiyoProtocol.Hive.Swarm

-- ==== examples

namespace KamiyoProtocol.Hive.Swarm.Concrete

open Solana Solana.Concrete Exec Hive.Concrete

/-- The task the agents bid for. -/
def taskHash : Bytes := List.replicate 32 78

def taskKey : Pubkey :=
  Hive.Concrete.env.pda (.swarmActionBid registryKey taskHash)

/-- Agent 1 opens the task for 100 slots of bids and 100 of reveals. -/
def openTask (minBid : Nat) : Action Hive.Concrete.env :=
  act (.createSwarmActionBid (wallet 1) ⟨taskHash, 60, minBid, 100, 200⟩
    ⟨secret 1, [], []⟩ (nullifierOf (secret 1) (be32 0)))

def bidder (i : UInt8) : Bytes := nullifierOf (secret i) taskHash

def bid (i : UInt8) (v : Bool) (n : Nat) : Action Hive.Concrete.env :=
  act (.voteBidSwarmAction ⟨taskKey, wallet 1⟩ (bidder i)
    (opening i v ++ taskHash) (be32 n ++ secret i ++ taskHash)
    ⟨secret i, opening i v, be32 n ++ secret i⟩)

def revealBid (i : UInt8) (v : Bool) (n : Nat) :
    Action Hive.Concrete.env :=
  act (.revealVoteBid
    ⟨Hive.Concrete.env.pda (.voteBidRecord taskKey (bidder i)), taskKey⟩
    ⟨v, secret i, n, secret i⟩)

/-- Agents 2 and 3 bid the same and 3 reveals first; agent 4 votes no. -/
def auction : List (Action Hive.Concrete.env) :=
  [openTask 5, bid 2 true 10, bid 3 true 10, bid 4 false 20,
    act (.advanceSlot 101), revealBid 4 false 20, revealBid 3 true 10,
    revealBid 2 true 10, act (.advanceSlot 201),
    act (.executeSwarmActionBid taskKey)]

/-- Executed, and led by the agent. -/
def wonBy (i : UInt8) (x : World × History) : Bool :=
  match x.1.bidActions taskKey with
  | some act => act.executed
      && decide (act.highestYesBidderNullifier = bidder i)
  | none => false

theorem bids_allocated_auction : ∃ x : World × History,
    run (tracked (step Hive.Concrete.env zk) track) (start, []) auction = .ok x
      ∧ wonBy 3 x = true
      ∧ (∀ k act, x.1.bidActions k = some act → Allocated x.2 k act)
      ∧ Meets (tracked (step Hive.Concrete.env zk) track) Orderly
        (start, []) auction
      ∧ ∀ k, auction.countP (executes k) ≤ 1 := by
  obtain ⟨x, hrun, hwon⟩ := check_ok
    (show check (wonBy 3) (run (tracked (step Hive.Concrete.env zk) track)
      (start, []) auction) = true by decide)
  exact ⟨x, hrun, hwon, bids_allocated start_genesis hrun⟩

/-- No bid has to be made, and agent 2 bids nothing. -/
def freeTask : List (Action Hive.Concrete.env) :=
  [openTask 0, bid 2 true 0, act (.advanceSlot 101), revealBid 2 true 0]

/-- The first to reveal the highest yes bid. -/
def firstHighest (hist : History) (k : Pubkey) : Option Reveal :=
  firstWith (revealsOf hist k true) (highestBid (revealsOf hist k true))

/-- The highest yes bid is revealed, and nobody leads. -/
def leaderless (x : World × History) : Bool :=
  match x.1.bidActions taskKey, firstHighest x.2 taskKey with
  | some act, some r => decide (act.highestYesBidderNullifier ≠ r.nullifier)
  | _, _ => false

/-- A bid of zero is the highest, and its bidder is not recorded. -/
theorem zero_bid_leaderless : ∃ w hist act r,
    run (tracked (step Hive.Concrete.env zk) track) (start, []) freeTask
        = .ok (w, hist)
      ∧ w.bidActions taskKey = some act
      ∧ firstHighest hist taskKey = some r
      ∧ act.highestYesBidderNullifier ≠ r.nullifier := by
  obtain ⟨⟨w, hist⟩, hrun, htest⟩ := check_ok
    (show check leaderless (run (tracked (step Hive.Concrete.env zk) track)
      (start, []) freeTask) = true by decide)
  unfold leaderless at htest
  split at htest
  · next act r hact hr =>
      exact ⟨w, hist, act, r, hrun, hact, hr, of_decide_eq_true htest⟩
  · cases htest

end KamiyoProtocol.Hive.Swarm.Concrete
