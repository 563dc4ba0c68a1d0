/-
What one instruction of the governance program does to the proposals and
the vote records.

`step_moved` is the inversion lemma: an instruction passes both by, opens
a proposal, records a vote, settles a proposal, executes it, cancels it,
or returns its deposit, and says under which guards.
-/
import KamiyoProtocol.Governance.VoteWeight

namespace KamiyoProtocol.Governance

open Solana Exec Function

variable {env : Env Seeds} {a : Action env} {w w' : World}

-- ==== outcomes

/-- Quorum and approval are met. -/
def Passes (config : GovernanceConfig) (p : Proposal) : Prop :=
  config.quorumThreshold ≤ p.votesFor + p.votesAgainst
    ∧ config.approvalThresholdBps
      ≤ p.votesFor * 10000 / (p.votesFor + p.votesAgainst)
  deriving Decidable

/-- What the tallies and a configuration make of a proposal. -/
def outcome (config : GovernanceConfig) (p : Proposal) : ProposalState :=
  if Passes config p then .queued else .defeated

theorem decideState_ok {config : GovernanceConfig} {p : Proposal}
    {state : ProposalState}
    (h : decideState config p.votesFor p.votesAgainst = .ok state) :
    state = outcome config p := by
  obtain ⟨total, htotal, h⟩ := bind_ok.mp h
  obtain ⟨-, rfl⟩ := addU64_ok.mp htotal
  unfold outcome
  split at h
  · next hlow =>
      cases h
      have hp : ¬ Passes config p :=
        fun hp => absurd hp.1 (Nat.not_le_of_lt hlow)
      rw [if_neg hp]
  · next hquorum =>
      obtain ⟨pct, hpct, h⟩ := bind_ok.mp h
      obtain ⟨-, rfl⟩ := Fixed.checkedDiv_some.mp (okOr_ok.mp hpct)
      split at h
      · next happroval =>
          cases h
          have hp : Passes config p :=
            ⟨Nat.le_of_not_lt hquorum, happroval⟩
          rw [if_pos hp]
      · next happroval =>
          cases h
          have hp : ¬ Passes config p := fun hp => happroval hp.2
          rw [if_neg hp]

-- ==== instructions

/-- A proposal was rewritten, and no vote record. -/
structure Rewritten (w w' : World) (k : Pubkey) (p p' : Proposal) :
    Prop where
  before : w.proposals k = some p
  proposals : w'.proposals = update w.proposals k (some p')
  records : w'.voteRecords = w.voteRecords

/-- An accepted `create_proposal`. -/
structure Created (w w' : World) (k : Pubkey) (p : Proposal) : Prop where
  fresh : w.proposals k = none
  state : p.state = .voting
  votesFor : p.votesFor = 0
  votesAgainst : p.votesAgainst = 0
  voterCount : p.voterCount = 0
  executed : p.executed = false
  proposals : w'.proposals = update w.proposals k (some p)
  records : w'.voteRecords = w.voteRecords

/-- An accepted `cast_vote`. -/
structure Voted (env : Env Seeds) (w w' : World) (r : VoteRecord)
    (p p' : Proposal) : Prop where
  before : w.proposals r.proposal = some p
  voting : p.state = .voting
  intime : r.votedAt < p.votingEndsAt
  counted : p.count r.support r.weight = .ok p'
  fresh : ∀ e ∈ w.voteRecords, e.1 ≠ env.pda (.inl (.vote r.proposal r.voter))
  proposals : w'.proposals = update w.proposals r.proposal (some p')
  records : w'.voteRecords = w.voteRecords
    ++ [(env.pda (.inl (.vote r.proposal r.voter)), r)]

/-- One instruction, as far as proposals and votes are concerned. -/
inductive Moved (env : Env Seeds) (a : Action env) (w w' : World) : Prop
  | aside (hproposals : w'.proposals = w.proposals)
      (hrecords : w'.voteRecords = w.voteRecords)
      (hfinalize : ∀ k, a.op ≠ .finalizeProposal k)
      (hexecute : ∀ acc, a.op ≠ .executeProposal acc)
      (hcancel : ∀ acc, a.op ≠ .cancelProposal acc)
  | created (acc : CreateProposalAccounts) (title description : Bytes)
      (hop : a.op = .createProposal acc title description)
      (k : Pubkey) (p : Proposal) (h : Created w w' k p)
  | voted (acc : CastVoteAccounts) (support : Bool)
      (hop : a.op = .castVote acc support)
      (r : VoteRecord) (p p' : Proposal) (h : Voted env w w' r p p')
  | finalized (k : Pubkey) (hop : a.op = .finalizeProposal k)
      (config : GovernanceConfig) (hconfig : w.config = some config)
      (p p' : Proposal) (h : Rewritten w w' k p p')
      (hvoting : p.state = .voting) (hended : p.votingEndsAt ≤ a.tx.clock)
      (hafter : p' = if outcome config p = .queued then
          { p with
            state := .queued
            executionEta := a.tx.clock + config.timelockDuration }
        else { p with state := .defeated })
  | executed (acc : ExecuteProposalAccounts)
      (hop : a.op = .executeProposal acc) (p : Proposal)
      (h : Rewritten w w' acc.proposal p
        { p with state := .executed, executed := true })
      (hqueued : p.state = .queued) (hdue : p.executionEta ≤ a.tx.clock)
      (hgrace : a.tx.clock < p.executionEta + executionGracePeriod)
  | cancelled (acc : CancelProposalAccounts)
      (hop : a.op = .cancelProposal acc) (p : Proposal)
      (h : Rewritten w w' acc.proposal p { p with state := .cancelled })
      (hvoting : p.state = .voting)
  | returned (acc : ClaimDepositAccounts) (hop : a.op = .claimDeposit acc)
      (p : Proposal)
      (h : Rewritten w w' acc.proposal p { p with depositReturned := true })

theorem loadProposal_ok {k : Pubkey} {p : Proposal}
    (h : loadProposal env w k = .ok p) : w.proposals k = some p := by
  simp only [loadProposal, bind_ok, load_ok] at h
  obtain ⟨q, hq, -, -, hp⟩ := h
  cases hp
  exact hq

theorem createProposal_moved {acc : CreateProposalAccounts}
    {title description : Bytes}
    (h : createProposal env a.tx acc title description w = .ok w') :
    ∃ k p, Created w w' k p := by
  simp only [createProposal, bind_ok, requireFresh_ok] at h
  obtain ⟨config, -, -, hfresh, -, -, -, -, -, -, -, -, -, -, -, -, -, -, -,
    -, -, -, b, -, count, -, ends, -, hw'⟩ := h
  cases hw'
  exact ⟨_, _, hfresh, rfl, rfl, rfl, rfl, rfl, rfl, rfl⟩

theorem castVote_moved {acc : CastVoteAccounts} {support : Bool}
    (h : castVote env a.tx acc support w = .ok w') :
    ∃ r p p', Voted env w w' r p p' := by
  simp only [castVote, bind_ok, requireFresh_ok, ensure_ok] at h
  obtain ⟨-, -, config, -, p, hp, -, hfresh, -, -, wallet, -, -, -, -, -,
    -, hvoting, -, htime, staked, -, p', hcount, hw'⟩ := h
  cases hw'
  exact ⟨⟨acc.proposal, acc.voter, addWeights wallet.amount staked, support,
    a.tx.clock⟩, p, p', loadProposal_ok hp, hvoting, htime, hcount,
    Keyed.locate_none.mp hfresh, rfl, rfl⟩

theorem finalizeProposal_moved {k : Pubkey} (hop : a.op = .finalizeProposal k)
    (h : finalizeProposal env a.tx k w = .ok w') : Moved env a w w' := by
  simp only [finalizeProposal, bind_ok, load_ok, ensure_ok] at h
  obtain ⟨config, hconfig, p, hp, -, hvoting, -, hended, state, hstate, h⟩ := h
  have hout := decideState_ok hstate
  have hbefore := loadProposal_ok hp
  split at h
  · next hqueued =>
      simp only [bind_ok, addI64_ok] at h
      obtain ⟨eta, ⟨-, rfl⟩, hw'⟩ := h
      cases hw'
      refine Moved.finalized k hop config hconfig p _ ⟨hbefore, rfl, rfl⟩
        hvoting hended ?_
      rw [if_pos (hout ▸ hqueued)]
  · next hqueued =>
      cases h
      refine Moved.finalized k hop config hconfig p _ ⟨hbefore, rfl, rfl⟩
        hvoting hended ?_
      have hdefeated : outcome config p = .defeated := by
        rw [hout] at hqueued
        unfold outcome at hqueued ⊢
        split at hqueued
        · exact absurd rfl hqueued
        · next hp => exact if_neg hp
      rw [hout, hdefeated]
      rfl

theorem executeProposal_moved {acc : ExecuteProposalAccounts}
    (hop : a.op = .executeProposal acc)
    (h : executeProposal env a.tx acc w = .ok w') : Moved env a w w' := by
  simp only [executeProposal, bind_ok, ensure_ok, addI64_ok] at h
  obtain ⟨-, -, p, hp, -, -, -, hqueued, -, hdue, expiry, ⟨-, rfl⟩, -,
    hgrace, hw'⟩ := h
  cases hw'
  exact Moved.executed acc hop p ⟨loadProposal_ok hp, rfl, rfl⟩ hqueued hdue
    hgrace

theorem cancelProposal_moved {acc : CancelProposalAccounts}
    (hop : a.op = .cancelProposal acc)
    (h : cancelProposal env a.tx acc w = .ok w') : Moved env a w w' := by
  simp only [cancelProposal, bind_ok, ensure_ok] at h
  obtain ⟨p, hp, -, -, -, -, -, hvoting, hw'⟩ := h
  cases hw'
  exact Moved.cancelled acc hop p ⟨loadProposal_ok hp, rfl, rfl⟩ hvoting

theorem claimDeposit_moved {acc : ClaimDepositAccounts}
    (hop : a.op = .claimDeposit acc)
    (h : claimDeposit env a.tx acc w = .ok w') : Moved env a w w' := by
  simp only [claimDeposit, bind_ok] at h
  obtain ⟨-, -, p, hp, -, -, -, -, -, -, -, -, -, -, -, -, -, -, -, -, b, -,
    hw'⟩ := h
  cases hw'
  exact Moved.returned acc hop p ⟨loadProposal_ok hp, rfl, rfl⟩

theorem moved_aside (hproposals : w'.proposals = w.proposals)
    (hrecords : w'.voteRecords = w.voteRecords)
    (hop : match a.op with
      | .finalizeProposal _ | .executeProposal _ | .cancelProposal _ => False
      | _ => True) : Moved env a w w' := by
  refine Moved.aside hproposals hrecords ?_ ?_ ?_
  all_goals
    intro x hx
    rw [hx] at hop
    exact hop

theorem setPaused_aside {tx : Tx env} {admin : Pubkey} {isPaused : Bool}
    (h : setPaused tx admin isPaused w = .ok w') :
    w'.proposals = w.proposals ∧ w'.voteRecords = w.voteRecords
      ∧ w'.staking = w.staking := by
  simp only [setPaused, bind_ok] at h
  obtain ⟨config, -, hw'⟩ := h
  cases hw'
  exact ⟨rfl, rfl, rfl⟩

theorem step_moved (h : step env a w = .ok w') :
    a.tx.clock = w.now ∧ Moved env a w w' := by
  obtain ⟨_, hclock, h⟩ := bind_ok.mp h
  refine ⟨require_ok.mp hclock, ?_⟩
  unfold perform at h
  split at h
  · next acc hop =>
      simp only [initializeGovernance, bind_ok] at h
      obtain ⟨-, -, -, -, hw'⟩ := h
      cases hw'
      exact moved_aside rfl rfl (by rw [hop]; trivial)
  · next acc title description hop =>
      obtain ⟨k, p, hc⟩ := createProposal_moved h
      exact Moved.created acc title description hop k p hc
  · next acc support hop =>
      obtain ⟨r, p, p', hv⟩ := castVote_moved h
      exact Moved.voted acc support hop r p p' hv
  · next k hop => exact finalizeProposal_moved hop h
  · next acc hop => exact executeProposal_moved hop h
  · next acc hop => exact cancelProposal_moved hop h
  · next acc hop =>
      simp only [initializeDepositVault, bind_ok] at h
      obtain ⟨-, -, b, -, -, -, -, -, hw'⟩ := h
      cases hw'
      exact moved_aside rfl rfl (by rw [hop]; trivial)
  · next admin hop =>
      obtain ⟨hproposals, hrecords, -⟩ := setPaused_aside h
      exact moved_aside hproposals hrecords (by rw [hop]; trivial)
  · next admin hop =>
      obtain ⟨hproposals, hrecords, -⟩ := setPaused_aside h
      exact moved_aside hproposals hrecords (by rw [hop]; trivial)
  · next admin u hop =>
      simp only [updateConfig, bind_ok] at h
      obtain ⟨config, -, hw'⟩ := h
      cases hw'
      exact moved_aside rfl rfl (by rw [hop]; trivial)
  · next acc hop => exact claimDeposit_moved hop h
  · next op hop =>
      simp only [viaStaking, bind_ok] at h
      obtain ⟨staking, -, hw'⟩ := h
      cases hw'
      exact moved_aside rfl rfl (by rw [hop]; trivial)

end KamiyoProtocol.Governance
