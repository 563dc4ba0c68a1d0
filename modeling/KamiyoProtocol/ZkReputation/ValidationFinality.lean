/-
The finality of validation records.

A response is accepted once, but a request is accepted under any hash, a
stored one too, and then overwrites the record and lists the hash again.
Records are final exactly in the runs that never do so.
-/
import KamiyoProtocol.ZkReputation.ValidationRegistry

namespace KamiyoProtocol.ZkReputation

open Exec Evm Keyed Function

variable {kamiyoTierTag : Hash} {s s' : Validations} {a : ValidationAction}

-- ==== filing

/-- Each hash is listed once, and only under its own agent and
validator. -/
structure Listed (s : Validations) : Prop where
  agents : ∀ agentId, (s.agentValidations agentId).Nodup
    ∧ ∀ h ∈ s.agentValidations agentId, (s.validations h).agentId = agentId
  validators : ∀ v, (s.validatorRequests v).Nodup
    ∧ ∀ h ∈ s.validatorRequests v, (s.validations h).validatorAddress = v

/-- The records a summary is about: the answered ones of the agent, of the
validators and the tag asked for. -/
def Validations.InSummary (s : Validations) (agentId : Nat)
    (validatorAddresses : List Address) (tag : Hash) (h : Hash) : Prop :=
  (s.validations h).agentId = agentId ∧ (s.validations h).responded = true
    ∧ (tag = 0 ∨ (s.validations h).tag = tag)
    ∧ (validatorAddresses = []
      ∨ (s.validations h).validatorAddress ∈ validatorAddresses)

/-- Hashes are listed once, and a summary counts each of its records
once. -/
structure Filed (s : Validations) : Prop extends Listed s where
  summary : ∀ agentId validatorAddresses tag, ∃ hashes : List Hash,
    hashes.Nodup
      ∧ (∀ h, h ∈ hashes ↔ s.InSummary agentId validatorAddresses tag h)
      ∧ (s.getSummary agentId validatorAddresses tag).count
        = Fixed.wrap 64 hashes.length

/-- What every run keeps: a listed hash is stored, and so is one with a
time or an answer. -/
structure Stored (s : Validations) : Prop where
  listed : ∀ agentId, ∀ h ∈ s.agentValidations agentId, s.Requested h
  validators : ∀ v, ∀ h ∈ s.validatorRequests v, s.Requested h
  stamped : ∀ h, (s.validations h).timestamp ≠ 0 → s.Requested h
  responded : ∀ h, (s.validations h).responded = true → s.Requested h

theorem counts_iff {validatorAddresses : List Address} {tag h : Hash} :
    s.counts validatorAddresses tag h = true
      ↔ (s.validations h).responded = true
        ∧ (tag = 0 ∨ (s.validations h).tag = tag)
        ∧ (validatorAddresses = []
          ∨ (s.validations h).validatorAddress ∈ validatorAddresses) := by
  unfold Validations.counts
  simp [and_assoc]

theorem summarize_total {validatorAddresses : List Address} {tag : Hash}
    (l : List Hash) : (s.summarize validatorAddresses tag l).1
      = (l.filter (s.counts validatorAddresses tag)).length := by
  induction l with
  | nil => rfl
  | cons h rest ih =>
    unfold Validations.summarize
    dsimp only
    by_cases hcounts : s.counts validatorAddresses tag h = true
    · rw [if_pos hcounts, List.filter_cons_of_pos hcounts,
        List.length_cons, ← ih]
    · rw [if_neg hcounts, List.filter_cons_of_neg hcounts, ← ih]

theorem Listed.filed (h : Listed s) (hstored : Stored s) : Filed s := by
  refine ⟨h, fun agentId validatorAddresses tag => ?_⟩
  refine ⟨(s.agentValidations agentId).filter
    (s.counts validatorAddresses tag), (h.agents agentId).1.filter _, ?_, ?_⟩
  · intro x
    rw [List.mem_filter, counts_iff]
    constructor
    · rintro ⟨hx, hcounts⟩
      exact ⟨(h.agents agentId).2 x hx, hcounts⟩
    · rintro ⟨hagent, hcounts⟩
      have hrequested := hstored.responded x hcounts.1
      unfold Validations.Requested at hrequested
      rw [hagent] at hrequested
      exact ⟨hrequested, hcounts⟩
  · unfold Validations.getSummary
    dsimp only
    rw [summarize_total]

-- ==== steps

/-- A request is filed under a hash that is not stored. -/
def Fresh (a : ValidationAction) (s : Validations) : Prop :=
  ∀ h ∈ a.call.requests, ¬ s.Requested h
  deriving Decidable

theorem mem_put_append {α : Type} [DecidableEq α] {f : α → List Hash} {k j : α}
    {h x : Hash} : x ∈ update f k (f k ++ [h]) j
      ↔ x ∈ f j ∨ (j = k ∧ x = h) := by
  by_cases hjk : j = k
  · subst hjk
    rw [update_self, List.mem_append, List.mem_singleton]
    simp
  · rw [update_of_ne hjk]
    simp [hjk]

theorem answered_same (x : Hash) (answer : Answer) (timestamp : Nat)
    (y : Hash) :
    (update s.validations x ((s.validations x).answered answer timestamp)
        y).agentId = (s.validations y).agentId
      ∧ (update s.validations x ((s.validations x).answered answer timestamp)
        y).validatorAddress = (s.validations y).validatorAddress := by
  by_cases hyx : y = x
  · subst hyx
    rw [update_self]
    exact ⟨rfl, rfl⟩
  · rw [update_of_ne hyx]
    exact ⟨rfl, rfl⟩

theorem stored_step (h : Stored s)
    (hstep : validationStep kamiyoTierTag a s = .ok s') : Stored s' := by
  rcases validationStep_cases hstep with ⟨x, record, -, hopen, rfl⟩
    | ⟨x, answer, timestamp, -, hstamp, -, rfl⟩ | ⟨-, paused, rfl⟩
  · have hself : update s.validations x record x = record := update_self ..
    have hrequested : ∀ y, (y = x ∨ s.Requested y) →
        y ∈ update s.agentValidations record.agentId
          (s.agentValidations record.agentId ++ [x])
          (update s.validations x record y).agentId := by
      intro y hy
      rw [mem_put_append]
      by_cases hyx : y = x
      · subst hyx
        rw [hself]
        exact Or.inr ⟨rfl, rfl⟩
      · rw [update_of_ne hyx]
        exact Or.inl (hy.resolve_left hyx)
    refine ⟨?_, ?_, ?_, ?_⟩
    · intro agentId y hy
      apply hrequested
      rcases mem_put_append.mp hy with hold | ⟨-, rfl⟩
      · exact Or.inr (h.listed agentId y hold)
      · exact Or.inl rfl
    · intro v y hy
      apply hrequested
      rcases mem_put_append.mp hy with hold | ⟨-, rfl⟩
      · exact Or.inr (h.validators v y hold)
      · exact Or.inl rfl
    · intro y hy
      apply hrequested
      by_cases hyx : y = x
      · exact Or.inl hyx
      · change (update s.validations x record y).timestamp ≠ 0 at hy
        rw [update_of_ne hyx] at hy
        exact Or.inr (h.stamped y hy)
    · intro y hy
      apply hrequested
      by_cases hyx : y = x
      · exact Or.inl hyx
      · change (update s.validations x record y).responded = true at hy
        rw [update_of_ne hyx] at hy
        exact Or.inr (h.responded y hy)
  · have hsame := answered_same (s := s) x answer timestamp
    -- whatever was answered or stored before is still, and so is `x`
    have hkeeps : ∀ y, (y = x ∨ s.Requested y) → y ∈ s.agentValidations
        (update s.validations x ((s.validations x).answered answer timestamp)
          y).agentId := by
      intro y hy
      rw [(hsame y).1]
      rcases hy with rfl | hy
      · exact h.stamped y hstamp
      · exact hy
    refine ⟨?_, ?_, ?_, ?_⟩
    · intro agentId y hy
      exact hkeeps y (Or.inr (h.listed agentId y hy))
    · intro v y hy
      exact hkeeps y (Or.inr (h.validators v y hy))
    · intro y hy
      apply hkeeps
      by_cases hyx : y = x
      · exact Or.inl hyx
      · change (update s.validations x _ y).timestamp ≠ 0 at hy
        rw [update_of_ne hyx] at hy
        exact Or.inr (h.stamped y hy)
    · intro y hy
      apply hkeeps
      by_cases hyx : y = x
      · exact Or.inl hyx
      · change (update s.validations x _ y).responded = true at hy
        rw [update_of_ne hyx] at hy
        exact Or.inr (h.responded y hy)
  · exact ⟨h.listed, h.validators, h.stamped, h.responded⟩

/-- A request under a new hash keeps the lists in order; one under a
stored hash never does. -/
theorem listed_request (h : Listed s) (hstored : Stored s) {x : Hash}
    {record : ValidationRecord} : Listed { s with
        validations := update s.validations x record
        agentValidations := update s.agentValidations record.agentId
          (s.agentValidations record.agentId ++ [x])
        validatorRequests := update s.validatorRequests record.validatorAddress
          (s.validatorRequests record.validatorAddress ++ [x]) }
      ↔ ¬ s.Requested x := by
  have hself : update s.validations x record x = record := update_self ..
  constructor
  · intro h' hrequested
    -- the hash is in the agent's list already, or in another agent's
    by_cases hagent : (s.validations x).agentId = record.agentId
    · have hnodup := (h'.agents record.agentId).1
      change (update s.agentValidations _ _ _).Nodup at hnodup
      rw [update_self, List.nodup_append] at hnodup
      unfold Validations.Requested at hrequested
      rw [hagent] at hrequested
      exact hnodup.2.2 x hrequested x (List.mem_singleton_self x) rfl
    · have hother := (h'.agents (s.validations x).agentId).2 x
        (mem_put_append.mpr (Or.inl hrequested))
      change (update s.validations x record x).agentId = _ at hother
      rw [hself] at hother
      exact hagent hother.symm
  · intro hfresh
    have hne : ∀ y, s.Requested y → y ≠ x := by
      rintro y hy rfl
      exact hfresh hy
    constructor
    · intro agentId
      refine ⟨?_, ?_⟩
      · show (update s.agentValidations record.agentId _ agentId).Nodup
        by_cases hagent : agentId = record.agentId
        · subst hagent
          rw [update_self, List.nodup_append]
          refine ⟨(h.agents _).1, by simp, ?_⟩
          intro y hy z hz
          rw [List.mem_singleton] at hz
          subst hz
          exact hne y (hstored.listed _ y hy)
        · rw [update_of_ne hagent]
          exact (h.agents agentId).1
      · intro y hy
        show (update s.validations x record y).agentId = agentId
        rcases mem_put_append.mp hy with hold | ⟨hagent, rfl⟩
        · rw [update_of_ne (hne y (hstored.listed _ y hold)) ..]
          exact (h.agents agentId).2 y hold
        · rw [hself]
          exact hagent.symm
    · intro v
      have hlisted : ∀ y ∈ s.validatorRequests v, y ≠ x := by
        exact fun y hy => hne y (hstored.validators v y hy)
      refine ⟨?_, ?_⟩
      · show (update s.validatorRequests record.validatorAddress _ v).Nodup
        by_cases hv : v = record.validatorAddress
        · subst hv
          rw [update_self, List.nodup_append]
          refine ⟨(h.validators _).1, by simp, ?_⟩
          intro y hy z hz
          rw [List.mem_singleton] at hz
          subst hz
          exact hlisted y hy
        · rw [update_of_ne hv]
          exact (h.validators v).1
      · intro y hy
        show (update s.validations x record y).validatorAddress = v
        rcases mem_put_append.mp hy with hold | ⟨hv, rfl⟩
        · rw [update_of_ne (hlisted y hold)]
          exact (h.validators v).2 y hold
        · rw [hself]
          exact hv.symm

/-- A step keeps the lists in order exactly if it files nothing under a
stored hash. -/
theorem listed_step (h : Listed s) (hstored : Stored s)
    (hstep : validationStep kamiyoTierTag a s = .ok s') :
    Listed s' ↔ Fresh a s := by
  rcases validationStep_cases hstep with ⟨x, record, hcall, -, rfl⟩
    | ⟨x, answer, timestamp, hcall, -, -, rfl⟩ | ⟨hcall, paused, rfl⟩
  · rw [listed_request h hstored]
    unfold Fresh
    rw [hcall]
    constructor
    · rintro hfresh y ⟨⟩
      exact hfresh
    · exact fun hfresh => hfresh x rfl
  · have hsame := answered_same (s := s) x answer timestamp
    have hlisted : Listed { s with
        validations := update s.validations x
          ((s.validations x).answered answer timestamp) } := by
      constructor
      · intro agentId
        refine ⟨(h.agents agentId).1, fun y hy => ?_⟩
        exact (hsame y).1.trans ((h.agents agentId).2 y hy)
      · intro v
        refine ⟨(h.validators v).1, fun y hy => ?_⟩
        exact (hsame y).2.trans ((h.validators v).2 y hy)
    have hfresh : Fresh a s := by
      unfold Fresh
      rw [hcall]
      rintro y ⟨⟩
    exact ⟨fun _ => hfresh, fun _ => hlisted⟩
  · have hfresh : Fresh a s := by
      unfold Fresh
      rw [hcall]
      rintro y ⟨⟩
    exact ⟨fun _ => hfresh, fun _ => ⟨h.agents, h.validators⟩⟩

-- ==== finality

/-- A stored hash keeps its validator and its agent, and an answered one
its answer. -/
structure Final (s s' : Validations) : Prop where
  requested : ∀ h, s.Requested h → s'.Requested h
    ∧ (s'.validations h).validatorAddress = (s.validations h).validatorAddress
    ∧ (s'.validations h).agentId = (s.validations h).agentId
  responded : ∀ h, (s.validations h).responded = true →
    (s'.validations h).responded = true
      ∧ (s'.validations h).response = (s.validations h).response
      ∧ (s'.validations h).responseHash = (s.validations h).responseHash
      ∧ (s'.validations h).tag = (s.validations h).tag

theorem Final.refl (s : Validations) : Final s s :=
  ⟨fun _ h => ⟨h, rfl, rfl⟩, fun _ h => ⟨h, rfl, rfl, rfl⟩⟩

theorem Final.trans {a b c : Validations} (h₁ : Final a b) (h₂ : Final b c) :
    Final a c := by
  constructor
  · intro h hrequested
    obtain ⟨hb, hvalidator, hagent⟩ := h₁.requested h hrequested
    obtain ⟨hc, hvalidator', hagent'⟩ := h₂.requested h hb
    exact ⟨hc, hvalidator'.trans hvalidator, hagent'.trans hagent⟩
  · intro h hresponded
    obtain ⟨hb, hresponse, hhash, htag⟩ := h₁.responded h hresponded
    obtain ⟨hc, hresponse', hhash', htag'⟩ := h₂.responded h hb
    exact ⟨hc, hresponse'.trans hresponse, hhash'.trans hhash, htag'.trans htag⟩

/-- A step that files nothing under a stored hash changes no stored
record but by its answer. -/
theorem final_step (hstored : Stored s) (hfresh : Fresh a s)
    (hstep : validationStep kamiyoTierTag a s = .ok s') : Final s s' := by
  rcases validationStep_cases hstep with ⟨x, record, hcall, -, rfl⟩
    | ⟨x, answer, timestamp, -, -, hopen, rfl⟩ | ⟨-, paused, rfl⟩
  · have hnew : ∀ y, s.Requested y →
        update s.validations x record y = s.validations y := by
      intro y hy
      apply update_of_ne
      rintro rfl
      exact hfresh y hcall hy
    constructor
    · intro y hy
      show y ∈ update s.agentValidations _ _ (update s.validations x record
          y).agentId ∧ (update s.validations x record y).validatorAddress = _
        ∧ (update s.validations x record y).agentId = _
      rw [hnew y hy]
      exact ⟨mem_put_append.mpr (Or.inl hy), rfl, rfl⟩
    · intro y hy
      show (update s.validations x record y).responded = true
        ∧ (update s.validations x record y).response = _
        ∧ (update s.validations x record y).responseHash = _
        ∧ (update s.validations x record y).tag = _
      rw [hnew y (hstored.responded y hy)]
      exact ⟨hy, rfl, rfl, rfl⟩
  · have hsame := answered_same (s := s) x answer timestamp
    constructor
    · intro y hy
      refine ⟨?_, (hsame y).2, (hsame y).1⟩
      show y ∈ s.agentValidations (update s.validations x _ y).agentId
      rw [(hsame y).1]
      exact hy
    · intro y hy
      have hyx : y ≠ x := by
        rintro rfl
        rw [hopen] at hy
        cases hy
      show (update s.validations x _ y).responded = true
        ∧ (update s.validations x _ y).response = _
        ∧ (update s.validations x _ y).responseHash = _
        ∧ (update s.validations x _ y).tag = _
      rw [update_of_ne hyx]
      exact ⟨hy, rfl, rfl, rfl⟩
  · exact ⟨fun _ h => ⟨h, rfl, rfl⟩, fun _ h => ⟨h, rfl, rfl, rfl⟩⟩

-- ==== runs

/-- In every state of the run hashes are filed and counted once, and from
any of them to any later one stored records are final. -/
structure RecordsFinal (kamiyoTierTag : Hash) (s : Validations)
    (tr : List ValidationAction) : Prop where
  filed : Throughout (validationStep kamiyoTierTag) Filed s tr
  final : ∀ p q r m w, tr = p ++ (q ++ r) →
    run (validationStep kamiyoTierTag) s p = .ok m →
    run (validationStep kamiyoTierTag) m q = .ok w → Final m w

theorem unused_stored (h : Unused s) : Stored s := by
  constructor
  · intro agentId x hx
    rw [h.agents] at hx
    cases hx
  · intro v x hx
    rw [h.validators] at hx
    cases hx
  · intro x hx
    rw [h.validations] at hx
    exact (hx rfl).elim
  · intro x hx
    rw [h.validations] at hx
    cases hx

theorem unused_listed (h : Unused s) : Listed s := by
  constructor
  · intro agentId
    rw [h.agents]
    exact ⟨List.nodup_nil, nofun⟩
  · intro v
    rw [h.validators]
    exact ⟨List.nodup_nil, nofun⟩

/-- The records of a run are final exactly if it never files a request
under a stored hash. -/
theorem records_final_iff {s₀ s : Validations} {tr : List ValidationAction}
    (h₀ : Unused s₀) (hrun : run (validationStep kamiyoTierTag) s₀ tr = .ok s) :
    RecordsFinal kamiyoTierTag s₀ tr
      ↔ Meets (validationStep kamiyoTierTag) Fresh s₀ tr := by
  have hstored₀ := unused_stored h₀
  have hiff : Throughout (validationStep kamiyoTierTag) Filed s₀ tr
      ↔ Meets (validationStep kamiyoTierTag) Fresh s₀ tr := by
    refine throughout_iff_meets Stored ?_ ?_ hstored₀
      ((unused_listed h₀).filed hstored₀) hrun
    · exact fun a s s' hs hstep => stored_step hs hstep
    · intro a s s' hs hfiled hstep
      rw [← listed_step hfiled.toListed hs hstep]
      exact ⟨Filed.toListed, fun h => h.filed (stored_step hs hstep)⟩
  constructor
  · exact fun h => hiff.mp h.filed
  · intro hm
    refine ⟨hiff.mpr hm, ?_⟩
    rintro p q r m w rfl hp hq
    have hstored := run_induct (fun a s s' hs hstep => stored_step hs hstep)
      hstored₀ hp
    have hmq := (meets_append (meets_append hm hp).2 hq).1
    refine (run_induct_meets (I := fun x => Stored x ∧ Final m x) ?_
      ⟨hstored, Final.refl m⟩ hmq hq).2
    rintro a x x' ⟨hx, hfinal⟩ hfresh hstep
    exact ⟨stored_step hx hstep, hfinal.trans (final_step hx hfresh hstep)⟩

-- ==== examples

namespace Concrete

def noRequests : Validations where
  owner := 1
  paused := false
  validations := fun _ => ValidationRecord.empty
  agentValidations := fun _ => []
  validatorRequests := fun _ => []

theorem noRequests_unused : Unused noRequests :=
  ⟨fun _ => rfl, fun _ => rfl, fun _ => rfl⟩

/-- A request and its answer. -/
def answeredRun : List ValidationAction :=
  [⟨5, 1700000000, .validationRequest 6 42 77 true⟩,
    ⟨6, 1700000100, .validationResponse 77 95 0 9⟩]

/-- Someone else's request under the same hash. -/
def reusedRun : List ValidationAction :=
  answeredRun ++ [⟨8, 1700000200, .validationRequest 8 42 77 true⟩]

end Concrete

theorem records_final_iff_answered :
    RecordsFinal 1 Concrete.noRequests Concrete.answeredRun := by
  obtain ⟨s, hrun, -⟩ := check_ok (show Exec.check (fun _ => true)
    (run (validationStep 1) Concrete.noRequests Concrete.answeredRun) = true
    by decide)
  have hm : Meets (validationStep 1) Fresh Concrete.noRequests
      Concrete.answeredRun := by
    apply meets_of_check fun a s h => of_decide_eq_true (p := Fresh a s) h
    decide
  exact (records_final_iff Concrete.noRequests_unused hrun).mpr hm

/-- An answered record is overwritten: it has another validator and no
answer any more, and its hash is listed twice. -/
theorem record_overwritten :
    ∃ m s, Unused Concrete.noRequests
      ∧ run (validationStep 1) Concrete.noRequests Concrete.answeredRun = .ok m
      ∧ run (validationStep 1) Concrete.noRequests Concrete.reusedRun = .ok s
      ∧ m.validations 77 = ⟨6, 42, 95, 0, 9, 1700000100, true⟩
      ∧ s.validations 77 = ⟨8, 42, 0, 0, 0, 1700000200, false⟩
      ∧ s.agentValidations 42 = [77, 77]
      ∧ ¬ RecordsFinal 1 Concrete.noRequests Concrete.reusedRun := by
  obtain ⟨m, hm, hrecord⟩ := check_ok (show Exec.check
      (fun s : Validations => decide (s.validations 77
        = ⟨6, 42, 95, 0, 9, 1700000100, true⟩))
      (run (validationStep 1) Concrete.noRequests Concrete.answeredRun) = true
    by decide)
  obtain ⟨s, hs, hfigures⟩ := check_ok (show Exec.check
      (fun s : Validations => decide (s.validations 77
          = ⟨8, 42, 0, 0, 0, 1700000200, false⟩
        ∧ s.agentValidations 42 = [77, 77]))
      (run (validationStep 1) Concrete.noRequests Concrete.reusedRun) = true
    by decide)
  obtain ⟨hrecord', hlist⟩ := of_decide_eq_true hfigures
  refine ⟨m, s, Concrete.noRequests_unused, hm, hs,
    of_decide_eq_true hrecord, hrecord', hlist, ?_⟩
  intro h
  have hfiled := throughout_iff_prefix.mp h.filed Concrete.reusedRun [] s
    (List.append_nil _).symm hs
  have hnodup := (hfiled.agents 42).1
  rw [hlist] at hnodup
  exact absurd hnodup (by decide)

end KamiyoProtocol.ZkReputation
