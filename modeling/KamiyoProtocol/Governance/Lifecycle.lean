/-
The life of a proposal.

Beside the state a run carries what happened to the proposals: each
finalisation with the configuration it read, each execution and each
cancellation, with their times. What happened to one proposal then
determines its state, and its tallies are those of its vote records.

All of that holds in every run. That nothing but a finalisation settles a
proposal once its vote has ended does not: cancellation reads no time, so
it holds exactly in the runs that cancel before the end.
-/
import KamiyoProtocol.Governance.Concrete
import KamiyoProtocol.Governance.Moves

namespace KamiyoProtocol.Governance

open Solana Exec Function

variable {env : Env Seeds} {a : Action env} {w w' : World}

-- ==== history

/-- What happened to a proposal, and when. -/
inductive Event where
  | finalized (k : Pubkey) (config : GovernanceConfig) (clock : Int)
  | executed (k : Pubkey) (clock : Int)
  | cancelled (k : Pubkey) (clock : Int)

def Event.proposal : Event → Pubkey
  | .finalized k _ _ => k
  | .executed k _ => k
  | .cancelled k _ => k

/-- The event an accepted instruction is. -/
def happened (a : Action env) (w : World) : List Event :=
  match a.op with
  | .finalizeProposal k =>
    w.config.toList.map fun config => .finalized k config a.tx.clock
  | .executeProposal acc => [.executed acc.proposal a.tx.clock]
  | .cancelProposal acc => [.cancelled acc.proposal a.tx.clock]
  | _ => []

def record (a : Action env) (w : World) (g : List Event) : List Event :=
  g ++ happened a w

/-- The events of one proposal. -/
def eventsOf (g : List Event) (k : Pubkey) : List Event :=
  g.filter fun e => e.proposal = k

/-- The lives a proposal can have had. -/
inductive Life (k : Pubkey) (p : Proposal) : List Event → Prop
  | voting (hstate : p.state = .voting) : Life k p []
  | finalized (config : GovernanceConfig) (t : Int)
      (hended : p.votingEndsAt ≤ t) (hstate : p.state = outcome config p)
      (heta : p.state = .queued →
        p.executionEta = t + config.timelockDuration) :
      Life k p [.finalized k config t]
  | executed (config : GovernanceConfig) (t t' : Int)
      (hended : p.votingEndsAt ≤ t) (hpasses : Passes config p)
      (hstate : p.state = .executed)
      (heta : p.executionEta = t + config.timelockDuration)
      (hdue : p.executionEta ≤ t')
      (hgrace : t' < p.executionEta + executionGracePeriod) :
      Life k p [.finalized k config t, .executed k t']
  | cancelled (t : Int) (hstate : p.state = .cancelled) :
      Life k p [.cancelled k t]

-- ==== tallies

/-- The vote records of a proposal. -/
def recordsOf (w : World) (k : Pubkey) : List VoteRecord :=
  (w.voteRecords.map Prod.snd).filter fun r => r.proposal = k

/-- The weights of the votes on one side. -/
def weightOf (support : Bool) (l : List VoteRecord) : Nat :=
  (l.map fun r => if r.support = support then r.weight else 0).sum

/-- The tallies are the sums of the weights of the votes, one a voter, all
cast before the end. -/
structure Tallied (w : World) (k : Pubkey) (p : Proposal) : Prop where
  votesFor : p.votesFor = weightOf true (recordsOf w k)
  votesAgainst : p.votesAgainst = weightOf false (recordsOf w k)
  voterCount : p.voterCount = (recordsOf w k).length
  voters : ((recordsOf w k).map VoteRecord.voter).Nodup
  intime : ∀ r ∈ recordsOf w k, r.votedAt < p.votingEndsAt

/-- No proposal was cancelled once its vote had ended. -/
def CancelledInTime (w : World) (g : List Event) : Prop :=
  ∀ k t, .cancelled k t ∈ g → ∀ p, w.proposals k = some p → t < p.votingEndsAt

/-- Every proposal had one of its lives, its tallies are its votes', and
its end of voting settled it. -/
structure Orderly (x : World × List Event) : Prop where
  life : ∀ k p, x.1.proposals k = some p → Life k p (eventsOf x.2 k)
  tallied : ∀ k p, x.1.proposals k = some p → Tallied x.1 k p
  intime : CancelledInTime x.1 x.2

/-- The step cancels no proposal whose vote has ended. -/
def CancelsInTime (a : Action env) (w : World) : Prop :=
  ∀ acc, a.op = .cancelProposal acc → ∀ p,
    w.proposals acc.proposal = some p → a.tx.clock < p.votingEndsAt

-- ==== invariant

/-- What every run keeps: the lives and the tallies, and that a proposal
there is not has no history and no votes. -/
structure Kept (env : Env Seeds) (x : World × List Event) : Prop where
  life : ∀ k p, x.1.proposals k = some p → Life k p (eventsOf x.2 k)
  tallied : ∀ k p, x.1.proposals k = some p → Tallied x.1 k p
  events : ∀ k, x.1.proposals k = none → eventsOf x.2 k = []
  records : ∀ k, x.1.proposals k = none → recordsOf x.1 k = []
  keyed : ∀ e ∈ x.1.voteRecords,
    e.1 = env.pda (.inl (.vote e.2.proposal e.2.voter))

variable {k j : Pubkey} {p p' : Proposal} {g : List Event} {e : Event}

theorem eventsOf_append_self (he : e.proposal = k) :
    eventsOf (g ++ [e]) k = eventsOf g k ++ [e] := by
  simp [eventsOf, he]

theorem eventsOf_append_ne (he : e.proposal ≠ k) :
    eventsOf (g ++ [e]) k = eventsOf g k := by
  simp [eventsOf, he]

theorem recordsOf_of_records (h : w'.voteRecords = w.voteRecords)
    (k : Pubkey) : recordsOf w' k = recordsOf w k := by
  rw [recordsOf, h]
  rfl

theorem Tallied.of_records (ht : Tallied w k p)
    (h : w'.voteRecords = w.voteRecords)
    (hfor : p'.votesFor = p.votesFor)
    (hagainst : p'.votesAgainst = p.votesAgainst)
    (hcount : p'.voterCount = p.voterCount)
    (hends : p'.votingEndsAt = p.votingEndsAt) : Tallied w' k p' := by
  have hrecords := recordsOf_of_records h k
  refine ⟨?_, ?_, ?_, ?_, ?_⟩
  · rw [hrecords, hfor]
    exact ht.votesFor
  · rw [hrecords, hagainst]
    exact ht.votesAgainst
  · rw [hrecords, hcount]
    exact ht.voterCount
  · rw [hrecords]
    exact ht.voters
  · rw [hrecords, hends]
    exact ht.intime

/-- A proposal was rewritten with its tallies and its end of voting as
they were, and at most its own history grew. -/
theorem Kept.rewritten {g' : List Event} (hk : Kept env (w, g))
    (h : Rewritten w w' k p p') (hfor : p'.votesFor = p.votesFor)
    (hagainst : p'.votesAgainst = p.votesAgainst)
    (hcount : p'.voterCount = p.voterCount)
    (hends : p'.votingEndsAt = p.votingEndsAt)
    (hlife : Life k p' (eventsOf g' k))
    (hothers : ∀ j, j ≠ k → eventsOf g' j = eventsOf g j) :
    Kept env (w', g') := by
  have hself : w'.proposals k = some p' := by
    rw [h.proposals]
    exact update_self ..
  have hne : ∀ j, j ≠ k → w'.proposals j = w.proposals j := by
    intro j hj
    rw [h.proposals]
    exact update_of_ne hj ..
  refine ⟨?_, ?_, ?_, ?_, ?_⟩
  · intro j q hq
    by_cases hj : j = k
    · subst hj
      cases hself.symm.trans hq
      exact hlife
    · rw [hothers j hj]
      exact hk.life j q ((hne j hj).symm.trans hq)
  · intro j q hq
    by_cases hj : j = k
    · subst hj
      cases hself.symm.trans hq
      exact (hk.tallied j p h.before).of_records h.records hfor hagainst
        hcount hends
    · exact (hk.tallied j q ((hne j hj).symm.trans hq)).of_records h.records
        rfl rfl rfl rfl
  · intro j hj
    by_cases hjk : j = k
    · subst hjk
      cases hself.symm.trans hj
    · rw [hothers j hjk]
      exact hk.events j ((hne j hjk).symm.trans hj)
  · intro j hj
    rw [recordsOf_of_records h.records]
    by_cases hjk : j = k
    · subst hjk
      cases hself.symm.trans hj
    · exact hk.records j ((hne j hjk).symm.trans hj)
  · intro e he
    rw [h.records] at he
    exact hk.keyed e he

theorem Kept.created (hk : Kept env (w, g)) (h : Created w w' k p) :
    Kept env (w', g) := by
  have hself : w'.proposals k = some p := by
    rw [h.proposals]
    exact update_self ..
  have hne : ∀ j, j ≠ k → w'.proposals j = w.proposals j := by
    intro j hj
    rw [h.proposals]
    exact update_of_ne hj ..
  have hnone : recordsOf w' k = [] := by
    rw [recordsOf_of_records h.records]
    exact hk.records k h.fresh
  refine ⟨?_, ?_, ?_, ?_, ?_⟩
  · intro j q hq
    by_cases hj : j = k
    · subst hj
      cases hself.symm.trans hq
      have hevents : eventsOf g j = [] := hk.events j h.fresh
      rw [hevents]
      exact Life.voting h.state
    · exact hk.life j q ((hne j hj).symm.trans hq)
  · intro j q hq
    by_cases hj : j = k
    · subst hj
      cases hself.symm.trans hq
      refine ⟨?_, ?_, ?_, ?_, ?_⟩
      · rw [hnone, h.votesFor]
        rfl
      · rw [hnone, h.votesAgainst]
        rfl
      · rw [hnone, h.voterCount]
        rfl
      · rw [hnone]
        exact List.nodup_nil
      · rw [hnone]
        intro r hr
        cases hr
    · exact (hk.tallied j q ((hne j hj).symm.trans hq)).of_records h.records
        rfl rfl rfl rfl
  · intro j hj
    by_cases hjk : j = k
    · subst hjk
      cases hself.symm.trans hj
    · exact hk.events j ((hne j hjk).symm.trans hj)
  · intro j hj
    rw [recordsOf_of_records h.records]
    by_cases hjk : j = k
    · subst hjk
      cases hself.symm.trans hj
    · exact hk.records j ((hne j hjk).symm.trans hj)
  · intro e he
    rw [h.records] at he
    exact hk.keyed e he

-- ==== votes

theorem count_ok {support : Bool} {weight : Nat}
    (h : p.count support weight = .ok p') :
    p'.votesFor = p.votesFor + (if support = true then weight else 0)
      ∧ p'.votesAgainst
        = p.votesAgainst + (if support = false then weight else 0)
      ∧ p'.voterCount = p.voterCount + 1
      ∧ p'.votingEndsAt = p.votingEndsAt ∧ p'.state = p.state := by
  simp only [Proposal.count, bind_ok, addU64_ok, okOr_ok,
    Fixed.checkedAdd_some] at h
  obtain ⟨votes, ⟨-, rfl⟩, count, ⟨-, rfl⟩, hp'⟩ := h
  cases hp'
  cases support with
  | true => exact ⟨rfl, rfl, rfl, rfl, rfl⟩
  | false => exact ⟨rfl, rfl, rfl, rfl, rfl⟩

theorem weightOf_append (support : Bool) (l : List VoteRecord)
    (r : VoteRecord) : weightOf support (l ++ [r])
      = weightOf support l + if r.support = support then r.weight else 0 := by
  simp [weightOf]

theorem outcome_ne_voting (config : GovernanceConfig) (p : Proposal) :
    outcome config p ≠ .voting := by
  unfold outcome
  split
  · simp
  · simp

theorem Life.nil_of_voting {l : List Event} (h : Life k p l)
    (hvoting : p.state = .voting) : l = [] := by
  cases h with
  | voting _ => rfl
  | finalized config t _ hs _ =>
    exact absurd (hs.symm.trans hvoting) (outcome_ne_voting config p)
  | executed _ _ _ _ _ hs _ _ _ =>
    rw [hs] at hvoting
    cases hvoting
  | cancelled _ hs =>
    rw [hs] at hvoting
    cases hvoting

theorem Life.of_queued {l : List Event} (h : Life k p l)
    (hqueued : p.state = .queued) :
    ∃ config t, l = [.finalized k config t] ∧ p.votingEndsAt ≤ t
      ∧ Passes config p ∧ p.executionEta = t + config.timelockDuration := by
  cases h with
  | voting hs =>
    rw [hs] at hqueued
    cases hqueued
  | finalized config t hended hs heta =>
    refine ⟨config, t, rfl, hended, ?_, heta hqueued⟩
    by_contra hfails
    rw [hs, outcome, if_neg hfails] at hqueued
    cases hqueued
  | executed _ _ _ _ _ hs _ _ _ =>
    rw [hs] at hqueued
    cases hqueued
  | cancelled _ hs =>
    rw [hs] at hqueued
    cases hqueued

theorem Life.deposit_returned {l : List Event} (h : Life k p l) :
    Life k { p with depositReturned := true } l := by
  cases h with
  | voting hs => exact Life.voting hs
  | finalized config t hended hs heta =>
    exact Life.finalized config t hended hs heta
  | executed config t t' hended hpasses hs heta hdue hgrace =>
    exact Life.executed config t t' hended hpasses hs heta hdue hgrace
  | cancelled t hs => exact Life.cancelled t hs

/-- A voter without a record under the address of its vote has none on the
proposal. -/
theorem Kept.new_voter {r : VoteRecord} (hk : Kept env (w, g))
    (hfresh : ∀ e ∈ w.voteRecords,
      e.1 ≠ env.pda (.inl (.vote r.proposal r.voter))) :
    ∀ v ∈ recordsOf w r.proposal, v.voter ≠ r.voter := by
  intro v hv hsame
  obtain ⟨hmem, hproposal⟩ := List.mem_filter.mp hv
  obtain ⟨e, he, rfl⟩ := List.mem_map.mp hmem
  have hkey := hk.keyed e he
  rw [of_decide_eq_true hproposal, hsame] at hkey
  exact hfresh e he hkey

theorem Kept.voted {r : VoteRecord} (hk : Kept env (w, g))
    (h : Voted env w w' r p p') : Kept env (w', g) := by
  obtain ⟨hfor, hagainst, hcount, hends, hstate⟩ := count_ok h.counted
  have hself : w'.proposals r.proposal = some p' := by
    rw [h.proposals]
    exact update_self ..
  have hne : ∀ j, j ≠ r.proposal → w'.proposals j = w.proposals j := by
    intro j hj
    rw [h.proposals]
    exact update_of_ne hj ..
  have hrecords : recordsOf w' r.proposal = recordsOf w r.proposal ++ [r] := by
    simp [recordsOf, h.records]
  have hothers : ∀ j, j ≠ r.proposal → recordsOf w' j = recordsOf w j := by
    intro j hj
    have hr : r.proposal ≠ j := fun he => hj he.symm
    simp [recordsOf, h.records, hr]
  have htally := hk.tallied r.proposal p h.before
  refine ⟨?_, ?_, ?_, ?_, ?_⟩
  · intro j q hq
    by_cases hj : j = r.proposal
    · subst hj
      cases hself.symm.trans hq
      have hlife : Life r.proposal p (eventsOf g r.proposal) :=
        hk.life r.proposal p h.before
      have hnil : eventsOf g r.proposal = [] := hlife.nil_of_voting h.voting
      show Life r.proposal p' (eventsOf g r.proposal)
      rw [hnil]
      exact Life.voting (hstate.trans h.voting)
    · exact hk.life j q ((hne j hj).symm.trans hq)
  · intro j q hq
    by_cases hj : j = r.proposal
    · subst hj
      cases hself.symm.trans hq
      refine ⟨?_, ?_, ?_, ?_, ?_⟩
      · rw [hrecords, weightOf_append, hfor, htally.votesFor]
      · rw [hrecords, weightOf_append, hagainst, htally.votesAgainst]
      · rw [hrecords, hcount, htally.voterCount, List.length_append]
        rfl
      · rw [hrecords, List.map_append]
        refine List.nodup_append.mpr
          ⟨htally.voters, List.nodup_singleton _, ?_⟩
        intro v hv u hu
        obtain ⟨x, hx, rfl⟩ := List.mem_map.mp hv
        rw [List.map_singleton, List.mem_singleton] at hu
        rw [hu]
        exact hk.new_voter h.fresh x hx
      · rw [hrecords, hends]
        intro x hx
        rcases List.mem_append.mp hx with hold | hnew
        · exact htally.intime x hold
        · rw [List.mem_singleton.mp hnew]
          exact h.intime
    · have ht := hk.tallied j q ((hne j hj).symm.trans hq)
      exact ⟨(hothers j hj).symm ▸ ht.votesFor,
        (hothers j hj).symm ▸ ht.votesAgainst,
        (hothers j hj).symm ▸ ht.voterCount,
        (hothers j hj).symm ▸ ht.voters, (hothers j hj).symm ▸ ht.intime⟩
  · intro j hj
    by_cases hjr : j = r.proposal
    · subst hjr
      cases hself.symm.trans hj
    · exact hk.events j ((hne j hjr).symm.trans hj)
  · intro j hj
    by_cases hjr : j = r.proposal
    · subst hjr
      cases hself.symm.trans hj
    · rw [hothers j hjr]
      exact hk.records j ((hne j hjr).symm.trans hj)
  · intro e he
    rw [h.records] at he
    rcases List.mem_append.mp he with hold | hnew
    · exact hk.keyed e hold
    · rw [List.mem_singleton.mp hnew]

-- ==== steps

theorem happened_aside (hfinalize : ∀ k, a.op ≠ .finalizeProposal k)
    (hexecute : ∀ acc, a.op ≠ .executeProposal acc)
    (hcancel : ∀ acc, a.op ≠ .cancelProposal acc) : happened a w = [] := by
  unfold happened
  split
  · next k hop => exact absurd hop (hfinalize k)
  · next acc hop => exact absurd hop (hexecute acc)
  · next acc hop => exact absurd hop (hcancel acc)
  · rfl

/-- What the decision leaves of a proposal is its outcome. -/
theorem finalized_life {config : GovernanceConfig} {t : Int}
    (hended : p.votingEndsAt ≤ t)
    (hafter : p' = if outcome config p = .queued then
        { p with
          state := .queued
          executionEta := t + config.timelockDuration }
      else { p with state := .defeated }) :
    Life k p' [.finalized k config t]
      ∧ p'.votesFor = p.votesFor ∧ p'.votesAgainst = p.votesAgainst
      ∧ p'.voterCount = p.voterCount ∧ p'.votingEndsAt = p.votingEndsAt := by
  split at hafter
  · next hqueued =>
      subst hafter
      exact ⟨Life.finalized config t hended hqueued.symm fun _ => rfl,
        rfl, rfl, rfl, rfl⟩
  · next hqueued =>
      subst hafter
      have hfails : ¬ Passes config p := by
        intro hp
        exact hqueued (if_pos hp)
      refine ⟨Life.finalized config t hended (if_neg hfails).symm ?_,
        rfl, rfl, rfl, rfl⟩
      intro h
      cases h

theorem kept_step {x y : World × List Event} (hk : Kept env x)
    (h : tracked (step env) record a x = .ok y) : Kept env y := by
  obtain ⟨hstep, hg⟩ := tracked_ok.mp h
  obtain ⟨w, g⟩ := x
  obtain ⟨w', g'⟩ := y
  obtain ⟨-, hmoved⟩ := step_moved hstep
  have hsame : happened a w = [] → g' = g := by
    intro hnone
    rw [show g' = g ++ happened a w from hg, hnone, List.append_nil]
  rcases hmoved with ⟨hproposals, hrecords, hf, he, hc⟩
    | ⟨acc, title, description, hop, k, p, hcreated⟩
    | ⟨acc, support, hop, r, p, p', hvoted⟩
    | ⟨k, hop, config, hconfig, p, p', hr, hvoting, hended, hafter⟩
    | ⟨acc, hop, p, hr, hqueued, hdue, hgrace⟩
    | ⟨acc, hop, p, hr, hvoting⟩ | ⟨acc, hop, p, hr⟩
  · have hrows := recordsOf_of_records hrecords
    rw [hsame (happened_aside hf he hc)]
    refine ⟨?_, ?_, ?_, ?_, ?_⟩
    · intro j q hq
      exact hk.life j q (hproposals ▸ hq)
    · intro j q hq
      exact (hk.tallied j q (hproposals ▸ hq)).of_records hrecords rfl rfl
        rfl rfl
    · intro j hj
      exact hk.events j (hproposals ▸ hj)
    · intro j hj
      exact (hrows j).trans (hk.records j (hproposals ▸ hj))
    · intro e he
      exact hk.keyed e (hrecords ▸ he)
  · rw [hsame (by rw [happened, hop])]
    exact hk.created hcreated
  · rw [hsame (by rw [happened, hop])]
    exact hk.voted hvoted
  · have hevent : g' = g ++ [.finalized k config a.tx.clock] := by
      rw [show g' = g ++ happened a w from hg, happened, hop, hconfig]
      rfl
    obtain ⟨hlife, hfor, hagainst, hcount, hends⟩ :=
      finalized_life (k := k) hended hafter
    have hnil := (hk.life k p hr.before).nil_of_voting hvoting
    refine hk.rewritten hr hfor hagainst hcount hends ?_ ?_
    · have hlast : eventsOf g' k = [.finalized k config a.tx.clock] := by
        rw [hevent]
        exact (eventsOf_append_self rfl).trans (congrArg (· ++ _) hnil)
      rw [hlast]
      exact hlife
    · intro j hj
      rw [hevent]
      exact eventsOf_append_ne (fun he => hj he.symm)
  · have hevent : g' = g ++ [.executed acc.proposal a.tx.clock] := by
      rw [show g' = g ++ happened a w from hg, happened, hop]
    obtain ⟨config, t, hlast, hended, hpasses, heta⟩ :=
      (hk.life _ p hr.before).of_queued hqueued
    refine hk.rewritten hr rfl rfl rfl rfl ?_ ?_
    · have hboth : eventsOf g' acc.proposal
          = [.finalized acc.proposal config t,
            .executed acc.proposal a.tx.clock] := by
        rw [hevent]
        exact (eventsOf_append_self rfl).trans (congrArg (· ++ _) hlast)
      rw [hboth]
      exact Life.executed config t _ hended hpasses rfl heta hdue hgrace
    · intro j hj
      rw [hevent]
      exact eventsOf_append_ne (fun he => hj he.symm)
  · have hevent : g' = g ++ [.cancelled acc.proposal a.tx.clock] := by
      rw [show g' = g ++ happened a w from hg, happened, hop]
    have hnil := (hk.life _ p hr.before).nil_of_voting hvoting
    refine hk.rewritten hr rfl rfl rfl rfl ?_ ?_
    · have hlast : eventsOf g' acc.proposal
          = [.cancelled acc.proposal a.tx.clock] := by
        rw [hevent]
        exact (eventsOf_append_self rfl).trans (congrArg (· ++ _) hnil)
      rw [hlast]
      exact Life.cancelled _ rfl
    · intro j hj
      rw [hevent]
      exact eventsOf_append_ne (fun he => hj he.symm)
  · rw [hsame (by rw [happened, hop])]
    exact hk.rewritten hr rfl rfl rfl rfl
      (hk.life _ p hr.before).deposit_returned (fun _ _ => rfl)

theorem votingEndsAt_kept (h : step env a w = .ok w')
    (hq : w'.proposals k = some p') :
    w.proposals k = none ∨ ∃ p, w.proposals k = some p
      ∧ p'.votingEndsAt = p.votingEndsAt := by
  have hrewritten : ∀ {j : Pubkey} {q q' : Proposal},
      Rewritten w w' j q q' → q'.votingEndsAt = q.votingEndsAt →
      w.proposals k = none ∨ ∃ p, w.proposals k = some p
        ∧ p'.votingEndsAt = p.votingEndsAt := by
    intro j q q' hr hends
    rw [hr.proposals] at hq
    by_cases hk : k = j
    · subst hk
      rw [update_self] at hq
      cases hq
      exact Or.inr ⟨q, hr.before, hends⟩
    · rw [update_of_ne hk] at hq
      exact Or.inr ⟨p', hq, rfl⟩
  rcases (step_moved h).2 with ⟨hproposals, hrecords, hf, he, hc⟩
    | ⟨acc, title, description, hop, j, p, hcreated⟩
    | ⟨acc, support, hop, r, p, q, hvoted⟩
    | ⟨j, hop, config, hconfig, p, q, hr, hvoting, hended, hafter⟩
    | ⟨acc, hop, p, hr, hqueued, hdue, hgrace⟩
    | ⟨acc, hop, p, hr, hvoting⟩ | ⟨acc, hop, p, hr⟩
  · rw [hproposals] at hq
    exact Or.inr ⟨p', hq, rfl⟩
  · rw [hcreated.proposals] at hq
    by_cases hk : k = j
    · subst hk
      exact Or.inl hcreated.fresh
    · rw [update_of_ne hk] at hq
      exact Or.inr ⟨p', hq, rfl⟩
  · rw [hvoted.proposals] at hq
    by_cases hk : k = r.proposal
    · subst hk
      rw [update_self] at hq
      cases hq
      exact Or.inr ⟨p, hvoted.before, (count_ok hvoted.counted).2.2.2.1⟩
    · rw [update_of_ne hk] at hq
      exact Or.inr ⟨p', hq, rfl⟩
  · exact hrewritten hr (finalized_life (k := j) hended hafter).2.2.2.2
  · exact hrewritten hr rfl
  · exact hrewritten hr rfl
  · exact hrewritten hr rfl

theorem cancel_finds {acc : CancelProposalAccounts}
    (hop : a.op = .cancelProposal acc) (h : step env a w = .ok w') :
    ∃ p, w.proposals acc.proposal = some p
      ∧ ∃ p', w'.proposals acc.proposal = some p' := by
  obtain ⟨_, -, h⟩ := bind_ok.mp h
  unfold perform at h
  rw [hop] at h
  simp only [cancelProposal, bind_ok] at h
  obtain ⟨p, hp, -, -, -, -, -, -, hw'⟩ := h
  cases hw'
  exact ⟨p, loadProposal_ok hp, _, update_self ..⟩

theorem cancelled_happened {t : Int} (h : .cancelled k t ∈ happened a w) :
    ∃ acc, a.op = .cancelProposal acc ∧ acc.proposal = k ∧ t = a.tx.clock := by
  unfold happened at h
  split at h
  · next j hop =>
      obtain ⟨config, -, he⟩ := List.mem_map.mp h
      cases he
  · cases List.mem_singleton.mp h
  · next acc hop =>
      cases List.mem_singleton.mp h
      exact ⟨acc, hop, rfl, rfl⟩
  · cases h

/-- From an orderly state the next is orderly exactly if the step cancels
in time. -/
theorem orderly_step {x y : World × List Event} (hk : Kept env x)
    (ho : Orderly x) (h : tracked (step env) record a x = .ok y) :
    Orderly y ↔ CancelsInTime a x.1 := by
  obtain ⟨hstep, hg⟩ := tracked_ok.mp h
  constructor
  · intro hy acc hop p hp
    obtain ⟨-, -, p', hp'⟩ := cancel_finds hop hstep
    have hmem : .cancelled acc.proposal a.tx.clock ∈ y.2 := by
      rw [hg, record, happened, hop]
      exact List.mem_append_right _ (List.mem_singleton_self _)
    have hlt := hy.intime _ _ hmem p' hp'
    rcases votingEndsAt_kept hstep hp' with hnone | ⟨q, hq, hends⟩
    · cases hp.symm.trans hnone
    · cases hp.symm.trans hq
      rwa [hends] at hlt
  · intro hc
    have hkept := kept_step hk h
    refine ⟨hkept.life, hkept.tallied, ?_⟩
    intro k t hmem p' hp'
    rw [hg, record] at hmem
    rcases List.mem_append.mp hmem with hold | hnew
    · rcases votingEndsAt_kept hstep hp' with hnone | ⟨p, hp, hends⟩
      · have hevents : Event.cancelled k t ∈ eventsOf x.2 k :=
          List.mem_filter.mpr ⟨hold, decide_eq_true rfl⟩
        rw [hk.events k hnone] at hevents
        cases hevents
      · rw [hends]
        exact ho.intime k t hold p hp
    · obtain ⟨acc, hop, rfl, rfl⟩ := cancelled_happened hnew
      obtain ⟨p, hp, -⟩ := cancel_finds hop hstep
      rcases votingEndsAt_kept hstep hp' with hnone | ⟨q, hq, hends⟩
      · cases hp.symm.trans hnone
      · rw [hends]
        exact hc acc hop q hq

-- ==== the theorem

/-- Nothing has been proposed yet. -/
structure Genesis (w : World) : Prop where
  config : w.config = none
  proposals : ∀ k, w.proposals k = none
  voteRecords : w.voteRecords = []

theorem genesis_kept (h : Genesis w) : Kept env (w, []) := by
  refine ⟨?_, ?_, fun _ _ => rfl, ?_, ?_⟩
  · intro k p hp
    cases (h.proposals k).symm.trans hp
  · intro k p hp
    cases (h.proposals k).symm.trans hp
  · intro k _
    rw [recordsOf, h.voteRecords]
    rfl
  · intro e he
    rw [h.voteRecords] at he
    cases he

/-- A run keeps its proposals orderly exactly if it cancels none whose
vote has ended. -/
theorem lifecycle_iff {w₀ : World} {y : World × List Event}
    {tr : List (Action env)} (h₀ : Genesis w₀)
    (hrun : run (tracked (step env) record) (w₀, []) tr = .ok y) :
    Throughout (tracked (step env) record) Orderly (w₀, []) tr
      ↔ Meets (tracked (step env) record)
        (fun a x => CancelsInTime a x.1) (w₀, []) tr := by
  have hkept : Kept env (w₀, []) := genesis_kept h₀
  refine throughout_iff_meets (Kept env) (fun _ _ _ hk hs => kept_step hk hs)
    (fun _ _ _ hk ho hs => orderly_step hk ho hs) hkept
    ⟨hkept.life, hkept.tallied, ?_⟩ hrun
  intro k t hmem
  cases hmem

end KamiyoProtocol.Governance

namespace KamiyoProtocol.Governance.Concrete

open Solana Solana.Concrete Exec

theorem start_genesis : Genesis start := ⟨rfl, fun _ => rfl, rfl⟩

/-- Wallet 1 votes and the proposal is executed. -/
def passed : List (Action env) :=
  proposed ++ [vote 1 1000, wait 1000 260200,
    act 9 260200 (.finalizeProposal first), wait 260200 346600,
    act 9 346600 (.executeProposal ⟨first, wallet 9⟩)]

theorem lifecycle_iff_passed : ∃ y,
    run (tracked (step env) record) (start, []) passed = .ok y
      ∧ (y.1.proposals first).map Proposal.executed = some true
      ∧ (Throughout (tracked (step env) record) Orderly (start, []) passed
        ↔ Meets (tracked (step env) record)
          (fun a x => CancelsInTime a x.1) (start, []) passed) := by
  obtain ⟨y, hrun, htest⟩ := check_ok
    (show check (fun y : World × List Event => decide
        ((y.1.proposals first).map Proposal.executed = some true))
      (run (tracked (step env) record) (start, []) passed) = true
      by decide)
  exact ⟨y, hrun, of_decide_eq_true htest, lifecycle_iff start_genesis hrun⟩

/-- A cancellation is on record that came after the end of the vote. -/
def cancelledLate (y : World × List Event) : Bool :=
  match y.1.proposals first, y.2 with
  | some p, [.cancelled k t] => decide (k = first ∧ p.votingEndsAt ≤ t)
  | _, _ => false

/-- The vote has ended, and passed the proposal; its proposer cancels
it. -/
def cancelledAfterVote : List (Action env) :=
  proposed ++ [vote 1 1000, wait 1000 260200,
    act 1 260200 (.cancelProposal ⟨first, wallet 1⟩)]

theorem cancelled_after_vote : ∃ y, Genesis start
    ∧ run (tracked (step env) record) (start, []) cancelledAfterVote
      = .ok y ∧ ¬ Orderly y := by
  obtain ⟨y, hrun, htest⟩ := check_ok
    (show check cancelledLate (run (tracked (step env) record) (start, [])
      cancelledAfterVote) = true by decide)
  refine ⟨y, start_genesis, hrun, ?_⟩
  intro ho
  unfold cancelledLate at htest
  split at htest
  · next p k t hp hg =>
      obtain ⟨rfl, hlate⟩ := of_decide_eq_true htest
      have hlt := ho.intime first t (by
        rw [hg]
        exact List.mem_singleton_self _) p hp
      omega
  · cases htest

end KamiyoProtocol.Governance.Concrete
