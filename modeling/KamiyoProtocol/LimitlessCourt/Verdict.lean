/-
What a verdict says of the attestations it was built from.

The included and the outlier oracles are together the attesting ones
(`verdict_oracles`), and the included attestations are a quorum wherever all of
them are (`includedOf_quorum`). Nothing of a settlement but its commitments
enters a verdict (`buildVerdict_congr`).
-/
import KamiyoProtocol.LimitlessCourt.Court
import Mathlib.Algebra.BigOperators.Group.List.Basic

namespace KamiyoProtocol.LimitlessCourt

open Ecma (Dict)

variable {M R : Type} {host : Host} {settings : CourtSettings}
  {state : SettlementState M R} {now : ℚ} {id : String}
  {verdict : LimitlessCourtVerdict M}

-- ==== sorting

theorem sortBy_perm {α : Type} (compare : α → α → ℚ) (l : List α) :
    (sortBy compare l).Perm l :=
  List.perm_insertionSort _ l

@[simp] theorem mem_sortBy {α : Type} {compare : α → α → ℚ} {l : List α}
    {x : α} : x ∈ sortBy compare l ↔ x ∈ l :=
  (sortBy_perm compare l).mem_iff

@[simp] theorem length_sortBy {α : Type} (compare : α → α → ℚ)
    (l : List α) : (sortBy compare l).length = l.length :=
  (sortBy_perm compare l).length_eq

theorem distinctCount_perm {l l' : List String} (h : l.Perm l') :
    distinctCount l = distinctCount l' :=
  h.dedup.length_eq

-- ==== quorum

/-- The attestations are a quorum in count, weight and providers, the weights
added in their order. -/
structure IsQuorum (host : Host) (settings : CourtSettings)
    (attestations : List (LimitlessCourtAttestation M)) : Prop where
  count : settings.threshold ≤ attestations.length
  weight : settings.minWeight ≤ host.total (attestations.map (·.weight))
  providers : settings.minProviderCount
    ≤ distinctCount (attestations.map (·.provider))

variable {attestations : List (LimitlessCourtAttestation M)}

theorem isQuorum_iff :
    IsQuorum host settings attestations
      ↔ (meetsQuorum host settings attestations).countMet = true
        ∧ (meetsQuorum host settings attestations).weightMet = true
        ∧ (meetsQuorum host settings attestations).providerMet = true := by
  simp only [meetsQuorum, decide_eq_true_eq]
  constructor
  · rintro ⟨hcount, hweight, hproviders⟩
    exact ⟨hcount, hweight, hproviders⟩
  · rintro ⟨hcount, hweight, hproviders⟩
    exact ⟨hcount, hweight, hproviders⟩

theorem buildProgress_quorum :
    (buildProgress host settings id state).quorumMet = true
      ↔ IsQuorum host settings (getAttestations host state) := by
  rw [isQuorum_iff]
  simp [buildProgress, and_assoc]

-- ==== attestations

theorem mem_getAttestations {a : LimitlessCourtAttestation M} :
    a ∈ getAttestations host state
      ↔ ∃ o c, state.commitments.get o = some c ∧ c.attestation = some a := by
  unfold getAttestations
  rw [mem_sortBy, List.mem_filterMap]
  constructor
  · rintro ⟨c, hc, ha⟩
    obtain ⟨o, ho⟩ := Dict.mem_values.mp hc
    exact ⟨o, c, ho, ha⟩
  · rintro ⟨o, c, ho, ha⟩
    exact ⟨c, Dict.mem_values.mpr ⟨o, ho⟩, ha⟩

/-- Every attestation names the oracle it is stored under. -/
def Labelled (commitments : Dict String (OracleCommitmentState M)) : Prop :=
  ∀ o c a, commitments.get o = some c → c.attestation = some a → a.oracleId = o

theorem getAttestations_nodup (h : Labelled state.commitments) :
    ((getAttestations host state).map (·.oracleId)).Nodup := by
  have hsub : ∀ l : List (String × OracleCommitmentState M),
      (∀ e ∈ l, ∀ a, e.2.attestation = some a → a.oracleId = e.1) →
      (((l.map Prod.snd).filterMap (·.attestation)).map
        (·.oracleId)).Sublist (l.map Prod.fst) := by
    intro l
    induction l with
    | nil => simp
    | cons e rest ih =>
      intro hl
      have hrest := ih fun e' he' => hl e' (List.mem_cons_of_mem e he')
      cases ha : e.2.attestation with
      | none =>
        simp only [List.map_cons, List.filterMap_cons, ha]
        exact List.Sublist.cons e.1 hrest
      | some a =>
        have hae := hl e List.mem_cons_self a ha
        simp only [List.map_cons, List.filterMap_cons, ha, hae]
        exact List.Sublist.cons_cons e.1 hrest
  have hperm := (sortBy_perm (revealOrder host)
    (state.commitments.values.filterMap (·.attestation))).map (·.oracleId)
  refine hperm.nodup_iff.mpr ?_
  refine (hsub state.commitments.entries ?_).nodup state.commitments.distinct
  intro e he a ha
  exact h e.1 e.2 a (Dict.get_some.mpr he) ha

-- ==== included

theorem nearBaseline_subset :
    (nearBaseline host settings attestations).Sublist attestations := by
  unfold nearBaseline
  dsimp only
  split
  · exact List.Sublist.refl _
  · exact List.filter_sublist

theorem includedOf_subset :
    (includedOf host settings attestations).Sublist attestations := by
  unfold includedOf
  dsimp only
  split
  · exact List.Sublist.refl _
  · exact nearBaseline_subset

theorem includedOf_quorum (h : IsQuorum host settings attestations) :
    IsQuorum host settings (includedOf host settings attestations) := by
  unfold includedOf
  dsimp only
  split
  · exact h
  next hquorum =>
    rw [isQuorum_iff]
    simpa [and_assoc] using hquorum

-- ==== verdict

/-- The attestations of a verdict are the included ones, by oracle. -/
theorem verdict_attestations
    (h : buildVerdict host settings now id state = .ok verdict) :
    verdict.attestations.Perm
        (includedOf host settings (getAttestations host state))
      ∧ verdict.includedOracles = verdict.attestations.map (·.oracleId)
      ∧ verdict.outlierOracles.Perm
          (((getAttestations host state).filter fun e =>
            e.oracleId ∉ (includedOf host settings
              (getAttestations host state)).map (·.oracleId)).map
            (·.oracleId)) := by
  unfold buildVerdict at h
  dsimp only at h
  split at h
  · cases h
  · rw [← Except.ok.inj h]
    exact ⟨sortBy_perm _ _, rfl, sortBy_perm _ _⟩

theorem verdict_oracles
    (h : buildVerdict host settings now id state = .ok verdict) (o : String) :
    (o ∈ verdict.includedOracles ∨ o ∈ verdict.outlierOracles)
      ↔ o ∈ (getAttestations host state).map (·.oracleId) := by
  obtain ⟨hperm, hincluded, hout⟩ := verdict_attestations h
  rw [hincluded, (hperm.map _).mem_iff, hout.mem_iff]
  constructor
  · rintro (hin | hout)
    · exact (includedOf_subset.map _).subset hin
    · obtain ⟨e, he, rfl⟩ := List.mem_map.mp hout
      exact List.mem_map_of_mem (List.mem_of_mem_filter he)
  · intro ho
    by_cases hin : o ∈ (includedOf host settings
      (getAttestations host state)).map (·.oracleId)
    · exact Or.inl hin
    · obtain ⟨e, he, rfl⟩ := List.mem_map.mp ho
      refine Or.inr (List.mem_map_of_mem ?_)
      rw [List.mem_filter]
      exact ⟨he, decide_eq_true hin⟩

theorem buildVerdict_total
    (hquorum : IsQuorum host settings (getAttestations host state)) :
    ∃ verdict, buildVerdict host settings now id state = .ok verdict := by
  have hcount := (isQuorum_iff.mp hquorum).1
  unfold buildVerdict
  dsimp only
  rw [if_neg (by rw [hcount]; simp)]
  exact ⟨_, rfl⟩

theorem buildVerdict_congr {state' : SettlementState M R}
    (h : state'.commitments = state.commitments) :
    buildVerdict host settings now id state'
      = buildVerdict host settings now id state := by
  unfold buildVerdict getAttestations
  rw [h]

theorem buildVerdict_now (later : ℚ)
    (h : buildVerdict host settings now id state = .ok verdict) :
    buildVerdict host settings later id state
      = .ok { verdict with createdAt := later } := by
  unfold buildVerdict at h ⊢
  dsimp only at h ⊢
  split at h
  · cases h
  next hcount =>
    rw [if_neg hcount, ← Except.ok.inj h]
    rfl

end KamiyoProtocol.LimitlessCourt
