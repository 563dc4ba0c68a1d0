/-
What a decision says of the subject it is about.

A reason stands for one threshold of the policy. A gate is passed when none
of its four thresholds is violated, and the reasons of a refusal are all the
violated thresholds, in the order of the checks. A better subject violates
fewer of them, so its decision is no worse.

All that is of the evaluations there are. There is none where the time since
the last event is no `i64`: the difference is not a saturating one, and an
event may be observed at any time.
-/
import KamiyoProtocol.TrustLayer.Engine

namespace KamiyoProtocol.Trust

open Exec

-- ==== the reasons

/-- The reasons of the review gate. -/
def DecisionReason.ofReview : DecisionReason → Bool
  | .scoreBelowReview | .stakeBelowReview | .failureRateTooHighForReview
  | .inactiveTooLongForReview => true
  | _ => false

/-- In the order in which they are pushed. -/
def DecisionReason.all : List DecisionReason :=
  [.scoreBelowAllow, .stakeBelowAllow, .failureRateTooHighForAllow,
    .inactiveTooLongForAllow, .scoreBelowReview, .stakeBelowReview,
    .failureRateTooHighForReview, .inactiveTooLongForReview]

theorem DecisionReason.mem_all (reason : DecisionReason) : reason ∈ all := by
  cases reason <;> decide

theorem DecisionReason.nodup_all : all.Nodup := by decide

/-- Whether the threshold that the reason names is violated. -/
def DecisionReason.violated (policy : TrustPolicy) (state : SubjectState)
    (inactive : Nat) : DecisionReason → Bool
  | .scoreBelowAllow => state.score < policy.allowScoreFloor
  | .scoreBelowReview => state.score < policy.reviewScoreFloor
  | .stakeBelowAllow => state.stake < policy.allowMinStake
  | .stakeBelowReview => state.stake < policy.reviewMinStake
  | .failureRateTooHighForAllow => policy.allowMaxFailureBps
      < Trust.failureBps state.successCount state.failureCount
  | .failureRateTooHighForReview => policy.reviewMaxFailureBps
      < Trust.failureBps state.successCount state.failureCount
  | .inactiveTooLongForAllow => policy.allowMaxInactiveSecs < inactive
  | .inactiveTooLongForReview => policy.reviewMaxInactiveSecs < inactive

/-- The more favourable a decision, the higher. -/
def TrustDecision.favour : TrustDecision → Nat
  | .deny => 0
  | .review => 1
  | .allow => 2

/-- A subject that does at least as well on every count. -/
structure NoWorse (state : SubjectState) (inactive : Nat)
    (state' : SubjectState) (inactive' : Nat) : Prop where
  score : state.score ≤ state'.score
  stake : state.stake ≤ state'.stake
  failure : failureBps state'.successCount state'.failureCount
    ≤ failureBps state.successCount state.failureCount
  inactive : inactive' ≤ inactive

section Reasons

variable {policy : TrustPolicy} {state state' : SubjectState}
  {inactive inactive' : Nat}

theorem foldl_pushReason (holds : DecisionReason → Bool) :
    ∀ rest seen : List DecisionReason, (seen ++ rest).Nodup →
      rest.foldl (fun reasons r => pushReason (holds r) r reasons)
        (seen.filter holds) = (seen ++ rest).filter holds := by
  intro rest
  induction rest with
  | nil =>
    intro seen _
    rw [List.append_nil]
    rfl
  | cons r rest ih =>
    intro seen hnodup
    have hnew : r ∉ seen.filter holds := by
      intro hr
      have hdisjoint := (List.nodup_append.mp hnodup).2.2
      exact hdisjoint r (List.mem_filter.mp hr).1 r List.mem_cons_self rfl
    have hpush : pushReason (holds r) r (seen.filter holds)
        = (seen ++ [r]).filter holds := by
      unfold pushReason
      rw [List.filter_append]
      cases hr : holds r with
      | true => simp [hr, hnew]
      | false => simp [hr]
    have happend : seen ++ r :: rest = (seen ++ [r]) ++ rest := by simp
    rw [List.foldl_cons, hpush, happend]
    exact ih (seen ++ [r]) (happend ▸ hnodup)

theorem allow_reasons (h : passesAllowGate policy state inactive = true) :
    evaluateInactive policy state inactive = {
      decision := .allow
      reasons := []
      score := state.score
      stake := state.stake
      failureBps := failureBps state.successCount state.failureCount
      inactiveSecs := inactive } := by
  unfold evaluateInactive
  rw [if_pos h]

theorem refused_reasons (h : passesAllowGate policy state inactive = false) :
    (evaluateInactive policy state inactive).reasons
      = DecisionReason.all.filter
        (DecisionReason.violated policy state inactive) := by
  have hfold := foldl_pushReason (DecisionReason.violated policy state inactive)
    DecisionReason.all [] DecisionReason.nodup_all
  rw [List.nil_append] at hfold
  rw [← hfold]
  unfold evaluateInactive
  rw [if_neg (by simp [h])]
  rfl

theorem refused_decision (h : passesAllowGate policy state inactive = false) :
    (evaluateInactive policy state inactive).decision
      = if passesReviewGate policy state inactive then .review else .deny := by
  unfold evaluateInactive
  rw [if_neg (by simp [h])]

theorem allow_iff : (evaluateInactive policy state inactive).decision = .allow
    ↔ passesAllowGate policy state inactive = true := by
  cases h : passesAllowGate policy state inactive with
  | true => simp [allow_reasons h]
  | false =>
    rw [refused_decision h]
    by_cases hreview : passesReviewGate policy state inactive = true
    · simp [hreview]
    · simp [hreview]

theorem deny_iff : (evaluateInactive policy state inactive).decision = .deny
    ↔ passesAllowGate policy state inactive = false
      ∧ passesReviewGate policy state inactive = false := by
  cases h : passesAllowGate policy state inactive with
  | true => simp [allow_reasons h]
  | false =>
    rw [refused_decision h]
    by_cases hreview : passesReviewGate policy state inactive = true
    · simp [hreview]
    · simp [hreview]

-- ==== the gates

theorem passesAllowGate_iff : passesAllowGate policy state inactive = true
    ↔ ∀ r : DecisionReason, r.ofReview = false →
      r.violated policy state inactive = false := by
  constructor
  · intro h r hr
    simp only [passesAllowGate, Bool.and_eq_true, decide_eq_true_eq] at h
    obtain ⟨⟨⟨hscore, hstake⟩, hfailure⟩, hinactive⟩ := h
    cases r <;> simp_all [DecisionReason.ofReview, DecisionReason.violated]
  · intro h
    have hscore := h .scoreBelowAllow rfl
    have hstake := h .stakeBelowAllow rfl
    have hfailure := h .failureRateTooHighForAllow rfl
    have hinactive := h .inactiveTooLongForAllow rfl
    simp only [DecisionReason.violated, decide_eq_false_iff_not, not_lt]
      at hscore hstake hfailure hinactive
    simp [passesAllowGate, hscore, hstake, hfailure, hinactive]

theorem passesReviewGate_iff : passesReviewGate policy state inactive = true
    ↔ ∀ r : DecisionReason, r.ofReview = true →
      r.violated policy state inactive = false := by
  constructor
  · intro h r hr
    simp only [passesReviewGate, Bool.and_eq_true, decide_eq_true_eq] at h
    obtain ⟨⟨⟨hscore, hstake⟩, hfailure⟩, hinactive⟩ := h
    cases r <;> simp_all [DecisionReason.ofReview, DecisionReason.violated]
  · intro h
    have hscore := h .scoreBelowReview rfl
    have hstake := h .stakeBelowReview rfl
    have hfailure := h .failureRateTooHighForReview rfl
    have hinactive := h .inactiveTooLongForReview rfl
    simp only [DecisionReason.violated, decide_eq_false_iff_not, not_lt]
      at hscore hstake hfailure hinactive
    simp [passesReviewGate, hscore, hstake, hfailure, hinactive]

theorem NoWorse.violated (h : NoWorse state inactive state' inactive')
    {r : DecisionReason} (hr : r.violated policy state' inactive' = true) :
    r.violated policy state inactive = true := by
  obtain ⟨hscore, hstake, hfailure, hinactive⟩ := h
  cases r <;> simp only [DecisionReason.violated, decide_eq_true_eq] at hr ⊢ <;>
    omega

theorem NoWorse.kept (h : NoWorse state inactive state' inactive')
    {r : DecisionReason} (hr : r.violated policy state inactive = false) :
    r.violated policy state' inactive' = false := by
  cases hr' : r.violated policy state' inactive' with
  | false => rfl
  | true =>
    rw [h.violated hr'] at hr
    cases hr

theorem NoWorse.allow (h : NoWorse state inactive state' inactive')
    (hallow : passesAllowGate policy state inactive = true) :
    passesAllowGate policy state' inactive' = true :=
  passesAllowGate_iff.mpr fun r hr =>
    h.kept (passesAllowGate_iff.mp hallow r hr)

theorem NoWorse.review (h : NoWorse state inactive state' inactive')
    (hreview : passesReviewGate policy state inactive = true) :
    passesReviewGate policy state' inactive' = true :=
  passesReviewGate_iff.mpr fun r hr =>
    h.kept (passesReviewGate_iff.mp hreview r hr)

/-- The two gates of a valid policy: what passes the one for payments
without a review passes the other. -/
theorem allow_passes_review (hvalid : policy.validate = .ok ())
    (hallow : passesAllowGate policy state inactive = true) :
    passesReviewGate policy state inactive = true := by
  obtain ⟨_, -, _, -, _, hscore, _, hstake, h⟩ := bind_ok₄.mp hvalid
  obtain ⟨_, -, _, -, _, hfailure, hinactive⟩ := bind_ok₃.mp h
  have hscore := require_ok.mp hscore
  have hstake := require_ok.mp hstake
  have hfailure := require_ok.mp hfailure
  have hinactive := require_ok.mp hinactive
  simp only [passesAllowGate, passesReviewGate, Bool.and_eq_true,
    decide_eq_true_eq] at hallow ⊢
  omega

-- ==== the decision

theorem decision_mono (h : NoWorse state inactive state' inactive') :
    (evaluateInactive policy state inactive).decision.favour
      ≤ (evaluateInactive policy state' inactive').decision.favour := by
  cases hdecision : (evaluateInactive policy state inactive).decision with
  | deny => exact Nat.zero_le _
  | allow =>
    have hallow := h.allow (allow_iff.mp hdecision)
    rw [allow_iff.mpr hallow]
  | review =>
    have hreview : passesReviewGate policy state inactive = true := by
      cases hallow : passesAllowGate policy state inactive with
      | true =>
        rw [allow_iff.mpr hallow] at hdecision
        cases hdecision
      | false =>
        rw [refused_decision hallow] at hdecision
        cases hreview : passesReviewGate policy state inactive with
        | true => rfl
        | false =>
          rw [hreview] at hdecision
          cases hdecision
    have hnotDeny :
        (evaluateInactive policy state' inactive').decision ≠ .deny := by
      intro hdeny
      have hfail := (deny_iff.mp hdeny).2
      rw [h.review hreview] at hfail
      cases hfail
    cases hdecision' : (evaluateInactive policy state' inactive').decision with
    | deny => exact absurd hdecision' hnotDeny
    | review => exact Nat.le_refl _
    | allow => decide

theorem refused_count (h : passesAllowGate policy state inactive = false)
    (r : DecisionReason) :
    (evaluateInactive policy state inactive).reasons.count r
      = if r.violated policy state inactive then 1 else 0 := by
  rw [refused_reasons h]
  cases hr : r.violated policy state inactive with
  | true =>
    rw [List.count_filter hr]
    exact List.count_eq_one_of_mem DecisionReason.nodup_all r.mem_all
  | false =>
    refine List.count_eq_zero_of_not_mem fun hmem => ?_
    rw [(List.mem_filter.mp hmem).2] at hr
    cases hr

theorem mem_reasons {r : DecisionReason} :
    r ∈ (evaluateInactive policy state inactive).reasons
      ↔ passesAllowGate policy state inactive = false
        ∧ r.violated policy state inactive = true := by
  cases h : passesAllowGate policy state inactive with
  | true => simp [allow_reasons h]
  | false =>
    rw [refused_reasons h, List.mem_filter]
    simp [r.mem_all]

theorem allow_iff_no_reason :
    (evaluateInactive policy state inactive).decision = .allow
      ↔ (evaluateInactive policy state inactive).reasons = [] := by
  rw [allow_iff]
  constructor
  · intro h
    rw [allow_reasons h]
  · intro hnone
    refine passesAllowGate_iff.mpr fun r _ => ?_
    cases hr : r.violated policy state inactive with
    | false => rfl
    | true =>
      cases h : passesAllowGate policy state inactive with
      | true =>
        rename_i hreview
        rw [passesAllowGate_iff.mp h r hreview] at hr
        cases hr
      | false =>
        have hmem := mem_reasons.mpr ⟨h, hr⟩
        rw [hnone] at hmem
        cases hmem

theorem deny_iff_review_reason :
    (evaluateInactive policy state inactive).decision = .deny
      ↔ ∃ r ∈ (evaluateInactive policy state inactive).reasons,
        r.ofReview = true := by
  rw [deny_iff]
  constructor
  · rintro ⟨hallow, hreview⟩
    have hsome : ¬ ∀ r : DecisionReason, r.ofReview = true →
        r.violated policy state inactive = false := by
      intro hnone
      rw [passesReviewGate_iff.mpr hnone] at hreview
      cases hreview
    simp only [not_forall] at hsome
    obtain ⟨r, hr, hviolated⟩ := hsome
    exact ⟨r, mem_reasons.mpr ⟨hallow, by simpa using hviolated⟩, hr⟩
  · rintro ⟨r, hmem, hr⟩
    obtain ⟨hallow, hviolated⟩ := mem_reasons.mp hmem
    refine ⟨hallow, ?_⟩
    cases hreview : passesReviewGate policy state inactive with
    | false => rfl
    | true =>
      rw [passesReviewGate_iff.mp hreview r hr] at hviolated
      cases hviolated

end Reasons

-- ==== the evaluations there are

/-- How long ago the last event was, in whole numbers. -/
def elapsed (now lastEventAt : Int) : Nat := (now - lastEventAt).toNat

theorem evaluateState_some {policy : TrustPolicy} {state : SubjectState}
    {now : Int} {evaluation : TrustEvaluation} :
    evaluateState policy state now = some evaluation
      ↔ now - state.lastEventAt < 2 ^ 63
        ∧ evaluation = evaluateInactive policy state
          (elapsed now state.lastEventAt) := by
  unfold evaluateState inactiveSecs elapsed
  by_cases hpast : now ≤ state.lastEventAt
  · have hzero : (now - state.lastEventAt).toNat = 0 := by omega
    have hsmall : now - state.lastEventAt < 2 ^ 63 := by omega
    rw [if_pos hpast, hzero, Option.map_some, Option.some.injEq]
    exact ⟨fun h => ⟨hsmall, h.symm⟩, fun h => h.2.symm⟩
  · rw [if_neg hpast, Fixed.checkedSubI]
    by_cases hfits : now - state.lastEventAt < 2 ^ 63
    · rw [if_pos ⟨by omega, hfits⟩, Option.map_some, Option.map_some,
        Option.some.injEq]
      exact ⟨fun h => ⟨hfits, h.symm⟩, fun h => h.2.symm⟩
    · rw [if_neg fun h => hfits h.2]
      constructor
      · intro h
        cases h
      · intro h
        exact absurd h.1 hfits

/-- What the reasons of an evaluation say: they are empty exactly if it
allows, have one of the review gate exactly if it denies, name only violated
thresholds, and each violated one of the allow gate once if it does not
allow. -/
structure Explains (policy : TrustPolicy) (state : SubjectState)
    (inactive : Nat) (evaluation : TrustEvaluation) : Prop where
  allow : evaluation.decision = .allow ↔ evaluation.reasons = []
  deny : evaluation.decision = .deny
    ↔ ∃ r ∈ evaluation.reasons, r.ofReview = true
  listed : ∀ r ∈ evaluation.reasons, r.violated policy state inactive = true
  once : evaluation.decision ≠ .allow → ∀ r : DecisionReason,
    r.ofReview = false → r.violated policy state inactive = true →
      evaluation.reasons.count r = 1

/-- There is an evaluation, and it is explained. -/
def Explained (policy : TrustPolicy) (state : SubjectState) (now : Int) :
    Prop :=
  ∃ evaluation, evaluateState policy state now = some evaluation
    ∧ Explains policy state (elapsed now state.lastEventAt) evaluation

/-- There are evaluations of both, the second no less favourable. -/
def Ordered (policy : TrustPolicy) (state : SubjectState) (now : Int)
    (state' : SubjectState) (now' : Int) : Prop :=
  ∃ evaluation evaluation', evaluateState policy state now = some evaluation
    ∧ evaluateState policy state' now' = some evaluation'
    ∧ evaluation.decision.favour ≤ evaluation'.decision.favour

theorem evaluateInactive_explains (policy : TrustPolicy)
    (state : SubjectState) (inactive : Nat) :
    Explains policy state inactive
      (evaluateInactive policy state inactive) where
  allow := allow_iff_no_reason
  deny := deny_iff_review_reason
  listed := fun r hr => (mem_reasons.mp hr).2
  once := by
    intro hrefused r _ hr
    have hallow : passesAllowGate policy state inactive = false := by
      cases h : passesAllowGate policy state inactive with
      | false => rfl
      | true => exact absurd (allow_iff.mpr h) hrefused
    rw [refused_count hallow, if_pos hr]

/-- Decisions are monotone and explained exactly where the time since the
last event is an `i64`. What passes the allow gate of a valid policy passes
its review gate. -/
theorem decisions_explained_iff (policy : TrustPolicy)
    (hvalid : policy.validate = .ok ()) :
    (∀ (state : SubjectState) (now : Int), Explained policy state now
      ↔ now - state.lastEventAt < 2 ^ 63)
    ∧ (∀ (state state' : SubjectState) (now now' : Int),
      NoWorse state (elapsed now state.lastEventAt) state'
        (elapsed now' state'.lastEventAt) →
      (Ordered policy state now state' now' ↔ now - state.lastEventAt < 2 ^ 63))
    ∧ ∀ (state : SubjectState) (inactive : Nat),
      passesAllowGate policy state inactive = true →
        passesReviewGate policy state inactive = true := by
  refine ⟨?_, ?_, fun _ _ => allow_passes_review hvalid⟩
  · intro state now
    constructor
    · rintro ⟨evaluation, he, -⟩
      exact (evaluateState_some.mp he).1
    · intro hfits
      exact ⟨_, evaluateState_some.mpr ⟨hfits, rfl⟩,
        evaluateInactive_explains ..⟩
  · intro state state' now now' h
    constructor
    · rintro ⟨evaluation, -, he, -⟩
      exact (evaluateState_some.mp he).1
    · intro hfits
      -- the second is inactive for no longer
      have hfits' : now' - state'.lastEventAt < 2 ^ 63 := by
        have hle := h.inactive
        unfold elapsed at hle
        omega
      exact ⟨_, _, evaluateState_some.mpr ⟨hfits, rfl⟩,
        evaluateState_some.mpr ⟨hfits', rfl⟩, decision_mono h⟩

/-- Half of its disputes are lost. -/
def SubjectState.lossy : SubjectState where
  score := 560
  stake := 20000
  successCount := 1
  failureCount := 1
  lastSequence := 2
  lastEventAt := 0
  chainHash := 1

def SubjectState.steady : SubjectState :=
  { SubjectState.lossy with score := 800, failureCount := 0 }

theorem decisions_explained_standard :
    TrustPolicy.standard.validate = .ok ()
      ∧ Ordered .standard .lossy 0 .steady 0
      ∧ Explained .standard .lossy 1700000000
      ∧ passesReviewGate .standard .steady 0 = true := by
  obtain ⟨hexplained, hordered, hgates⟩ :=
    decisions_explained_iff .standard standard_valid
  refine ⟨standard_valid, ?_, ?_, hgates .steady 0 (by decide)⟩
  · exact (hordered .lossy .steady 0 0
      ⟨by decide, by decide, by decide, by decide⟩).mpr (by decide)
  · exact (hexplained .lossy 1700000000).mpr (by decide)

/-- An event observed at the least `i64`. -/
def TrustEvent.ancient : TrustEvent where
  eventId := "evt-1"
  sequence := 1
  observedAt := -2 ^ 63
  kind := .verifiedSuccess
  weight := 1
  stakeDelta := 0
  context := ⟨none, none, none, none⟩

/-- It is accepted as the first of its subject, which then has no
evaluation. -/
theorem ancient_unexplained : TrustPolicy.standard.validate = .ok ()
    ∧ TrustEvent.ancient.validate = .ok ()
    ∧ ∃ state, (SubjectState.fresh "agent").take "agent" .ancient = .ok state
      ∧ evaluateState .standard state 1700000000 = none
      ∧ ¬ Explained .standard state 1700000000 := by
  have hnone : ∀ state, (SubjectState.fresh "agent").take "agent" .ancient
      = .ok state → evaluateState .standard state 1700000000 = none := by
    intro state hstate
    cases hstate
    rfl
  refine ⟨standard_valid, by decide +kernel, _, rfl, hnone _ rfl, ?_⟩
  rintro ⟨evaluation, he, -⟩
  rw [hnone _ rfl] at he
  cases he

end KamiyoProtocol.Trust
