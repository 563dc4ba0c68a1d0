/-
The score of a verdict, against attestations that are far from the others.

A weighted median is the least score that half of the weight is at or below
(`IsMedian`), whatever the order of the entries. So it lies in every interval
that holds more than half of the weight. The baseline does, and keeps every
attestation of the interval among the included ones, where they are still more
than half; so the score of the verdict does too (`includedOf_median`).

All this is of an engine whose sums and quotients are exact (`Host.Exact`).
-/
import KamiyoProtocol.LimitlessCourt.Verdict
import Mathlib.Algebra.Order.BigOperators.Group.List
import Mathlib.Tactic.Linarith

namespace KamiyoProtocol.LimitlessCourt

-- ==== weights

section weights

variable {α β : Type} {score weight : α → ℚ} {l l' : List α}

/-- The weight of the entries with a property. -/
def weightOf (weight : α → ℚ) (p : α → Prop) [DecidablePred p]
    (l : List α) : ℚ :=
  ((l.filter fun a => p a).map weight).sum

@[simp] theorem weightOf_nil (p : α → Prop) [DecidablePred p] :
    weightOf weight p [] = 0 := rfl

theorem weightOf_cons (p : α → Prop) [DecidablePred p] (a : α) (l : List α) :
    weightOf weight p (a :: l)
      = (if p a then weight a else 0) + weightOf weight p l := by
  unfold weightOf
  by_cases h : p a
  · simp [h]
  · simp [h]

theorem weightOf_perm (p : α → Prop) [DecidablePred p] (h : l.Perm l') :
    weightOf weight p l = weightOf weight p l' :=
  ((h.filter _).map weight).sum_eq

theorem weightOf_map (f : β → α) (p : α → Prop) [DecidablePred p]
    (l : List β) : weightOf weight p (l.map f)
      = weightOf (fun b => weight (f b)) (fun b => p (f b)) l := by
  unfold weightOf
  rw [List.filter_map, List.map_map]
  rfl

theorem weightOf_add_le {p q : α → Prop} [DecidablePred p] [DecidablePred q]
    (hpos : ∀ a ∈ l, 0 ≤ weight a) (h : ∀ a ∈ l, p a → ¬ q a) :
    weightOf weight p l + weightOf weight q l ≤ (l.map weight).sum := by
  induction l with
  | nil => simp
  | cons a l ih =>
    have hrest := ih (fun b hb => hpos b (List.mem_cons_of_mem a hb))
      fun b hb => h b (List.mem_cons_of_mem a hb)
    have ha := hpos a List.mem_cons_self
    rw [weightOf_cons, weightOf_cons, List.map_cons, List.sum_cons]
    by_cases hp : p a
    · have hq := h a List.mem_cons_self hp
      rw [if_pos hp, if_neg hq]
      linarith
    · rw [if_neg hp]
      split
      · linarith
      · linarith

theorem weightOf_eq_zero {p : α → Prop} [DecidablePred p]
    (h : ∀ a ∈ l, ¬ p a) : weightOf weight p l = 0 := by
  have hnone : (l.filter fun a => p a) = [] := by
    rw [List.filter_eq_nil_iff]
    simpa using h
  rw [weightOf, hnone]
  rfl

theorem weightOf_nonneg {p : α → Prop} [DecidablePred p]
    (hpos : ∀ a ∈ l, 0 ≤ weight a) : 0 ≤ weightOf weight p l := by
  refine List.sum_nonneg ?_
  intro x hx
  obtain ⟨a, ha, rfl⟩ := List.mem_map.mp hx
  exact hpos a (List.mem_of_mem_filter ha)

theorem weightOf_mono {p q : α → Prop} [DecidablePred p] [DecidablePred q]
    (hpos : ∀ a ∈ l, 0 ≤ weight a) (h : ∀ a ∈ l, p a → q a) :
    weightOf weight p l ≤ weightOf weight q l := by
  induction l with
  | nil => simp
  | cons a l ih =>
    have hrest := ih (fun b hb => hpos b (List.mem_cons_of_mem a hb))
      fun b hb => h b (List.mem_cons_of_mem a hb)
    have ha := hpos a List.mem_cons_self
    rw [weightOf_cons, weightOf_cons]
    by_cases hp : p a
    · rw [if_pos hp, if_pos (h a List.mem_cons_self hp)]
      linarith
    · rw [if_neg hp]
      split
      · linarith
      · linarith

-- ==== medians

/-- The least score that half of the weight is at or below. -/
structure IsMedian (score weight : α → ℚ) (l : List α) (m : ℚ) : Prop where
  reached : (l.map weight).sum / 2 ≤ weightOf weight (fun a => score a ≤ m) l
  least : ∀ s, (l.map weight).sum / 2
    ≤ weightOf weight (fun a => score a ≤ s) l → m ≤ s

theorem IsMedian.unique {m m' : ℚ} (h : IsMedian score weight l m)
    (h' : IsMedian score weight l m') : m = m' :=
  le_antisymm (h.least m' h'.reached) (h'.least m h.reached)

theorem IsMedian.perm {m : ℚ} (h : IsMedian score weight l m)
    (hperm : l.Perm l') : IsMedian score weight l' m := by
  obtain ⟨hreached, hleast⟩ := h
  rw [(hperm.map weight).sum_eq] at hreached hleast
  refine ⟨?_, fun s hs => hleast s ?_⟩
  · rwa [← weightOf_perm _ hperm]
  · rwa [weightOf_perm _ hperm]

theorem isMedian_map {f : β → α} {l : List β} {m : ℚ} :
    IsMedian score weight (l.map f) m
      ↔ IsMedian (fun b => score (f b)) (fun b => weight (f b)) l m := by
  have hsum : ((l.map f).map weight).sum
      = (l.map fun b => weight (f b)).sum := by
    rw [List.map_map]
    rfl
  have hweight : ∀ s, weightOf weight (fun a => score a ≤ s) (l.map f)
      = weightOf (fun b => weight (f b)) (fun b => score (f b) ≤ s) l :=
    fun s => weightOf_map f _ l
  constructor
  · rintro ⟨hreached, hleast⟩
    rw [hsum, hweight] at hreached
    refine ⟨hreached, fun s hs => hleast s ?_⟩
    rwa [hsum, hweight]
  · rintro ⟨hreached, hleast⟩
    refine ⟨by rwa [hsum, hweight], fun s hs => hleast s ?_⟩
    rwa [hsum, hweight] at hs

theorem IsMedian.mem_interval {m lo hi : ℚ} (h : IsMedian score weight l m)
    (hpos : ∀ a ∈ l, 0 ≤ weight a)
    (hhalf : (l.map weight).sum / 2
      < weightOf weight (fun a => lo ≤ score a ∧ score a ≤ hi) l) :
    lo ≤ m ∧ m ≤ hi := by
  constructor
  · by_contra hlt
    have hboth := weightOf_add_le (p := fun a => score a ≤ m)
      (q := fun a => lo ≤ score a ∧ score a ≤ hi) hpos
      fun a _ hle hin => hlt (hin.1.trans hle)
    have := h.reached
    linarith
  · refine h.least hi (hhalf.le.trans ?_)
    exact weightOf_mono hpos fun a _ hin => hin.2

end weights

-- ==== weighted median

/-- Sums and quotients are exact. -/
structure Host.Exact (host : Host) : Prop where
  add : ∀ x y, host.add x y = x + y
  div : ∀ x y, host.div x y = x / y

section medians

variable {host : Host}

theorem Host.Exact.total (hexact : host.Exact) (l : List ℚ) :
    host.total l = l.sum := by
  have hadd : host.add = (· + ·) := funext fun x => funext (hexact.add x)
  rw [Host.total, hadd, List.sum_eq_foldl]

/-- The scan of entries by score finds the least score at which the running
weight is at the midpoint. -/
theorem medianScan_spec (hexact : host.Exact) {midpoint : ℚ}
    {l : List (ℚ × ℚ)} :
    ∀ {cumulative : ℚ}, l.Pairwise (fun a b => a.1 ≤ b.1) →
      (∀ e ∈ l, 0 ≤ e.2) → cumulative < midpoint →
      midpoint ≤ cumulative + (l.map Prod.snd).sum →
      ∃ m, medianScan host midpoint cumulative l = some m ∧ m ∈ l.map Prod.fst
        ∧ midpoint ≤ cumulative + weightOf Prod.snd (fun e => e.1 ≤ m) l
        ∧ ∀ s, midpoint ≤ cumulative + weightOf Prod.snd (fun e => e.1 ≤ s) l →
          m ≤ s := by
  induction l with
  | nil =>
    intro cumulative _ _ hlt hsum
    simp only [List.map_nil, List.sum_nil, add_zero] at hsum
    exact absurd hsum (not_le.mpr hlt)
  | cons e rest ih =>
    intro cumulative hsorted hpos hlt hsum
    obtain ⟨hfirst, hrest⟩ := List.pairwise_cons.mp hsorted
    have hposrest := fun b hb => hpos b (List.mem_cons_of_mem e hb)
    rw [medianScan, hexact.add]
    by_cases hmid : midpoint ≤ cumulative + e.2
    · rw [if_pos hmid]
      refine ⟨e.1, rfl, List.mem_cons_self, ?_, ?_⟩
      · have hnonneg := weightOf_nonneg (p := fun e' => e'.1 ≤ e.1) hposrest
        rw [weightOf_cons, if_pos le_rfl]
        linarith
      · intro s hs
        by_contra hless
        rw [weightOf_eq_zero] at hs
        · linarith
        · intro b hb hle
          rcases List.mem_cons.mp hb with rfl | hb
          · exact hless hle
          · exact hless ((hfirst b hb).trans hle)
    · rw [if_neg hmid]
      rw [List.map_cons, List.sum_cons, ← add_assoc] at hsum
      obtain ⟨m, hscan, hmem, hreached, hleast⟩ :=
        ih hrest hposrest (not_le.mp hmid) hsum
      obtain ⟨b, hb, rfl⟩ := List.mem_map.mp hmem
      refine ⟨b.1, hscan, List.mem_cons_of_mem _ hmem, ?_, ?_⟩
      · rw [weightOf_cons, if_pos (hfirst b hb)]
        linarith
      · intro s hs
        refine hleast s (hs.trans ?_)
        have he := hpos e List.mem_cons_self
        rw [weightOf_cons]
        split
        · linarith
        · linarith

theorem sortBy_score (entries : List (ℚ × ℚ)) :
    (sortBy (fun a b => a.1 - b.1) entries).Pairwise fun a b => a.1 ≤ b.1 := by
  have htotal : Std.Total fun a b : ℚ × ℚ => a.1 - b.1 ≤ 0 :=
    ⟨fun a b => by simpa only [sub_nonpos] using le_total a.1 b.1⟩
  have htrans : IsTrans (ℚ × ℚ) fun a b => a.1 - b.1 ≤ 0 :=
    ⟨fun a b c => by simpa only [sub_nonpos] using le_trans⟩
  exact (List.pairwise_insertionSort _ entries).imp sub_nonpos.mp

theorem weightedMedian_isMedian (hexact : host.Exact)
    {entries : List (ℚ × ℚ)} (hne : entries ≠ [])
    (hpos : ∀ e ∈ entries, 0 < e.2) :
    IsMedian Prod.fst Prod.snd entries (weightedMedian host entries) := by
  have hperm := sortBy_perm (fun a b : ℚ × ℚ => a.1 - b.1) entries
  refine IsMedian.perm ?_ hperm
  have hsorted := sortBy_score entries
  have htotal : 0 < (entries.map Prod.snd).sum := by
    refine List.sum_pos _ ?_ (by simpa using hne)
    intro x hx
    obtain ⟨e, he, rfl⟩ := List.mem_map.mp hx
    exact hpos e he
  have hpos' : ∀ e ∈ sortBy (fun a b : ℚ × ℚ => a.1 - b.1) entries,
      0 ≤ e.2 := fun e he => (hpos e (mem_sortBy.mp he)).le
  unfold weightedMedian
  simp only [hexact.total, hexact.div]
  rw [← (hperm.map Prod.snd).sum_eq] at htotal
  generalize sortBy (fun a b : ℚ × ℚ => a.1 - b.1) entries = sorted
    at hsorted htotal hpos' ⊢
  obtain ⟨m, hscan, -, hreached, hleast⟩ := medianScan_spec hexact hsorted hpos'
    (half_pos htotal) (by linarith)
  rw [hscan, Option.getD_some]
  rw [zero_add] at hreached
  exact ⟨hreached, fun s hs => hleast s (by rwa [zero_add])⟩

theorem weightedMedian_perm (hexact : host.Exact)
    {entries entries' : List (ℚ × ℚ)} (h : entries.Perm entries')
    (hpos : ∀ e ∈ entries, 0 < e.2) :
    weightedMedian host entries = weightedMedian host entries' := by
  by_cases hne : entries = []
  · subst hne
    rw [h.nil_eq]
  · have hne' : entries' ≠ [] := by
      rintro rfl
      exact hne h.eq_nil
    have hpos' : ∀ e ∈ entries', 0 < e.2 :=
      fun e he => hpos e (h.mem_iff.mpr he)
    exact (weightedMedian_isMedian hexact hne hpos).unique
      ((weightedMedian_isMedian hexact hne' hpos').perm h.symm)

theorem weightedAverage_perm (hexact : host.Exact)
    {values values' : List (ℚ × ℚ)} (h : values.Perm values') :
    weightedAverage host values = weightedAverage host values' := by
  unfold weightedAverage
  simp only [hexact.total]
  rw [(h.map fun e => host.mul e.1 e.2).sum_eq, (h.map Prod.snd).sum_eq]

end medians

-- ==== included

variable {M R : Type} {host : Host} {settings : CourtSettings}
  {state : SettlementState M R} {now : ℚ} {id : String}
  {l l' : List (LimitlessCourtAttestation M)}

/-- The score that the attestations alone would yield. -/
def medianOf (host : Host)
    (attestations : List (LimitlessCourtAttestation M)) : ℚ :=
  weightedMedian host (attestations.map fun e => (e.score, e.weight))

theorem medianOf_isMedian (hexact : host.Exact) (hne : l ≠ [])
    (hpos : ∀ a ∈ l, 0 < a.weight) :
    IsMedian (·.score) (·.weight) l (medianOf host l) := by
  have hentries : IsMedian Prod.fst Prod.snd
      (l.map fun e => (e.score, e.weight)) (medianOf host l) := by
    refine weightedMedian_isMedian hexact (by simpa using hne) ?_
    intro e he
    obtain ⟨a, ha, rfl⟩ := List.mem_map.mp he
    exact hpos a ha
  exact (isMedian_map (f := fun e : LimitlessCourtAttestation M =>
    (e.score, e.weight))).mp hentries

theorem medianOf_perm (hexact : host.Exact) (h : l.Perm l')
    (hpos : ∀ a ∈ l, 0 < a.weight) :
    medianOf host l = medianOf host l' := by
  refine weightedMedian_perm hexact (h.map _) ?_
  intro e he
  obtain ⟨a, ha, rfl⟩ := List.mem_map.mp he
  exact hpos a ha

theorem includedOf_cases (host : Host) (settings : CourtSettings)
    (l : List (LimitlessCourtAttestation M)) :
    includedOf host settings l = l
      ∨ includedOf host settings l = l.filter fun e =>
        |e.score - medianOf host l| ≤ settings.maxOutlierDeviation := by
  have hnear : nearBaseline host settings l = l ∨ nearBaseline host settings l
      = l.filter fun e =>
        |e.score - medianOf host l| ≤ settings.maxOutlierDeviation := by
    unfold nearBaseline
    dsimp only
    split
    · exact Or.inl rfl
    · exact Or.inr rfl
  unfold includedOf
  dsimp only
  split
  · exact Or.inl rfl
  · exact hnear

/-- An interval that holds the median, no longer than the deviation, loses no
attestation. -/
theorem weightOf_includedOf {lo hi : ℚ}
    (hlen : hi - lo ≤ settings.maxOutlierDeviation)
    (hmedian : lo ≤ medianOf host l ∧ medianOf host l ≤ hi) :
    weightOf (·.weight) (fun a => lo ≤ a.score ∧ a.score ≤ hi)
        (includedOf host settings l)
      = weightOf (·.weight) (fun a => lo ≤ a.score ∧ a.score ≤ hi) l := by
  rcases includedOf_cases host settings l with h | h
  · rw [h]
  · rw [h, weightOf, weightOf, List.filter_filter]
    congr 2
    refine List.filter_congr fun a _ => ?_
    rw [← Bool.decide_and, decide_eq_decide]
    refine and_iff_left_of_imp ?_
    rintro ⟨hlo, hhi⟩
    rw [abs_le]
    constructor
    · linarith [hmedian.2]
    · linarith [hmedian.1]

theorem includedOf_ne_nil (hne : l ≠ []) : includedOf host settings l ≠ [] := by
  have hnear : nearBaseline host settings l ≠ [] := by
    unfold nearBaseline
    dsimp only
    split
    · exact hne
    next hlength => exact fun h => hlength (by rw [h]; rfl)
  unfold includedOf
  dsimp only
  split
  · exact hne
  · exact hnear

/-- The median of the included attestations is in every interval that is no
longer than the deviation and holds more than half of the weight. -/
theorem includedOf_median (hexact : host.Exact) {lo hi : ℚ} (hne : l ≠ [])
    (hpos : ∀ a ∈ l, 0 < a.weight)
    (hlen : hi - lo ≤ settings.maxOutlierDeviation)
    (hhalf : (l.map (·.weight)).sum / 2
      < weightOf (·.weight) (fun a => lo ≤ a.score ∧ a.score ≤ hi) l) :
    lo ≤ medianOf host (includedOf host settings l)
      ∧ medianOf host (includedOf host settings l) ≤ hi := by
  have hsub : (includedOf host settings l).Sublist l := includedOf_subset
  have hpos' : ∀ a ∈ includedOf host settings l, 0 < a.weight :=
    fun a ha => hpos a (hsub.subset ha)
  have hbaseline := (medianOf_isMedian hexact hne hpos).mem_interval
    (fun a ha => (hpos a ha).le) hhalf
  have hkept := weightOf_includedOf hlen hbaseline
  refine (medianOf_isMedian hexact (includedOf_ne_nil hne) hpos').mem_interval
    (fun a ha => (hpos' a ha).le) ?_
  rw [hkept]
  refine lt_of_le_of_lt ?_ hhalf
  have hsum : ((includedOf host settings l).map (·.weight)).sum
      ≤ (l.map (·.weight)).sum := by
    refine List.Sublist.sum_le_sum (hsub.map _) ?_
    intro x hx
    obtain ⟨a, ha, rfl⟩ := List.mem_map.mp hx
    exact (hpos a ha).le
  linarith

-- ==== order

/-- An attestation without the time of its reveal. -/
def untimed (a : LimitlessCourtAttestation M) : LimitlessCourtAttestation M :=
  { a with revealedAt := 0 }

theorem meetsQuorum_untimed (l : List (LimitlessCourtAttestation M)) :
    meetsQuorum host settings (l.map untimed)
      = meetsQuorum host settings l := by
  unfold meetsQuorum
  rw [List.map_map, List.map_map, List.length_map]
  rfl

theorem medianOf_untimed (l : List (LimitlessCourtAttestation M)) :
    medianOf host (l.map untimed) = medianOf host l := by
  unfold medianOf
  rw [List.map_map]
  rfl

theorem includedOf_untimed (l : List (LimitlessCourtAttestation M)) :
    includedOf host settings (l.map untimed)
      = (includedOf host settings l).map untimed := by
  have hnear : nearBaseline host settings (l.map untimed)
      = (nearBaseline host settings l).map untimed := by
    have hmedian := @medianOf_untimed _ host l
    unfold medianOf at hmedian
    unfold nearBaseline
    dsimp only
    rw [hmedian, List.filter_map, List.length_map]
    exact (apply_ite (List.map untimed) _ _ _).symm
  unfold includedOf
  dsimp only
  rw [hnear, meetsQuorum_untimed]
  exact (apply_ite (List.map untimed) _ _ _).symm

theorem meetsQuorum_perm (hexact : host.Exact) (h : l.Perm l') :
    meetsQuorum host settings l = meetsQuorum host settings l' := by
  unfold meetsQuorum
  rw [hexact.total, hexact.total, (h.map (·.weight)).sum_eq,
    distinctCount_perm (h.map (·.provider)), h.length_eq]

theorem includedOf_perm (hexact : host.Exact) (h : l.Perm l')
    (hpos : ∀ a ∈ l, 0 < a.weight) :
    (includedOf host settings l).Perm (includedOf host settings l') := by
  have hnear : (nearBaseline host settings l).Perm
      (nearBaseline host settings l') := by
    have hmedian := medianOf_perm hexact h hpos
    unfold medianOf at hmedian
    unfold nearBaseline
    dsimp only
    rw [hmedian, (h.filter _).length_eq]
    split
    · exact h
    · exact h.filter _
  unfold includedOf
  dsimp only
  rw [meetsQuorum_perm hexact hnear]
  split
  · exact h
  · exact hnear

-- ==== verdict

/-- The score and the confidence of a verdict are those of the included
attestations. -/
theorem verdict_scores {verdict : LimitlessCourtVerdict M}
    (h : buildVerdict host settings now id state = .ok verdict) :
    verdict.oracleScore
        = medianOf host (includedOf host settings (getAttestations host state))
      ∧ verdict.confidence = weightedAverage host
        ((includedOf host settings (getAttestations host state)).map fun e =>
          (e.confidence, e.weight)) := by
  unfold buildVerdict at h
  dsimp only at h
  split at h
  · cases h
  · rw [← Except.ok.inj h]
    exact ⟨rfl, rfl⟩

/-- The same attestations but for the order and the times of the reveals. -/
def SameReveals (l l' : List (LimitlessCourtAttestation M)) : Prop :=
  (l.map untimed).Perm (l'.map untimed)

theorem SameReveals.included (hexact : host.Exact) (h : SameReveals l l')
    (hpos : ∀ a ∈ l, 0 < a.weight) :
    SameReveals (includedOf host settings l) (includedOf host settings l') := by
  unfold SameReveals
  rw [← includedOf_untimed, ← includedOf_untimed]
  refine includedOf_perm hexact h ?_
  intro a ha
  obtain ⟨b, hb, rfl⟩ := List.mem_map.mp ha
  exact hpos b hb

theorem SameReveals.map {α : Type} (h : SameReveals l l')
    (f : LimitlessCourtAttestation M → α) (hf : ∀ a, f (untimed a) = f a) :
    (l.map f).Perm (l'.map f) := by
  have hmap := List.Perm.map f h
  rw [List.map_map, List.map_map] at hmap
  simpa only [Function.comp_def, hf] using hmap

/-- Where numbers are exact, a quorum of attestations has a verdict. Its score
is in every interval no longer than the deviation that holds more than half of
the weight; what it includes is a quorum; the attesting oracles are either
included or outliers; and other orders and times of the reveals yield the same
score, included oracles and confidence. -/
theorem verdict_robust (hexact : host.Exact) (now : ℚ) (id : String)
    (hquorum : IsQuorum host settings (getAttestations host state))
    (hpos : ∀ a ∈ getAttestations host state, 0 < a.weight) :
    ∃ verdict, buildVerdict host settings now id state = .ok verdict
      ∧ (∀ lo hi, hi - lo ≤ settings.maxOutlierDeviation →
        ((getAttestations host state).map (·.weight)).sum / 2
          < weightOf (·.weight) (fun a => lo ≤ a.score ∧ a.score ≤ hi)
            (getAttestations host state) →
        lo ≤ verdict.oracleScore ∧ verdict.oracleScore ≤ hi)
      ∧ (IsQuorum host settings verdict.attestations
        ∧ verdict.includedOracles = verdict.attestations.map (·.oracleId))
      ∧ (∀ o, ((o ∈ verdict.includedOracles ∨ o ∈ verdict.outlierOracles)
          ↔ o ∈ (getAttestations host state).map (·.oracleId))
        ∧ ¬ (o ∈ verdict.includedOracles ∧ o ∈ verdict.outlierOracles))
      ∧ ∀ (state' : SettlementState M R) (now' : ℚ) (id' : String) verdict',
        SameReveals (getAttestations host state)
          (getAttestations host state') →
        buildVerdict host settings now' id' state' = .ok verdict' →
        verdict'.oracleScore = verdict.oracleScore
          ∧ verdict'.includedOracles.Perm verdict.includedOracles
          ∧ verdict'.confidence = verdict.confidence := by
  obtain ⟨verdict, h⟩ : ∃ verdict, buildVerdict host settings now id state
      = .ok verdict := buildVerdict_total hquorum
  obtain ⟨hperm, hincluded, hout⟩ := verdict_attestations h
  obtain ⟨hscore, hconfidence⟩ := verdict_scores h
  have hne : getAttestations host state ≠ [] := by
    intro hnil
    have hcount := hquorum.count
    rw [hnil, List.length_nil] at hcount
    exact absurd settings.threshold_range.1 (by omega)
  refine ⟨verdict, h, ?_, ⟨?_, hincluded⟩, ?_, ?_⟩
  · intro lo hi hlen hhalf
    rw [hscore]
    exact includedOf_median hexact hne hpos hlen hhalf
  · rw [isQuorum_iff, meetsQuorum_perm hexact hperm, ← isQuorum_iff]
    exact includedOf_quorum hquorum
  · intro o
    refine ⟨verdict_oracles h o, ?_⟩
    rw [hincluded, (hperm.map _).mem_iff, hout.mem_iff]
    rintro ⟨hin, hoff⟩
    obtain ⟨e, he, rfl⟩ := List.mem_map.mp hoff
    exact of_decide_eq_true (List.mem_filter.mp he).2 hin
  · intro state' now' id' verdict' hsame h'
    obtain ⟨hperm', hincluded', -⟩ := verdict_attestations h'
    obtain ⟨hscore', hconfidence'⟩ := verdict_scores h'
    have hboth : SameReveals
        (includedOf host settings (getAttestations host state))
        (includedOf host settings (getAttestations host state')) :=
      hsame.included hexact hpos
    have hpos' : ∀ e ∈ (includedOf host settings
        (getAttestations host state)).map
        fun e => (e.score, e.weight), 0 < e.2 := by
      intro e he
      obtain ⟨a, ha, rfl⟩ := List.mem_map.mp he
      exact hpos a (includedOf_subset.subset ha)
    refine ⟨?_, ?_, ?_⟩
    · rw [hscore', hscore]
      exact (weightedMedian_perm hexact (hboth.map _ fun _ => rfl) hpos').symm
    · rw [hincluded', hincluded]
      exact (hperm'.map _).trans
        ((hboth.map (·.oracleId) fun _ => rfl).symm.trans
          (hperm.map _).symm)
    · rw [hconfidence', hconfidence]
      exact (weightedAverage_perm hexact (hboth.map _ fun _ => rfl)).symm

namespace Concrete

/-- An engine whose digests and texts do not matter. -/
def plain : Host where
  sha256 _ := []
  toLowerCase s := s
  localeCompare a b := if a < b then -1 else if b < a then 1 else 0
  numberText _ := ""
  toFixed _ _ := ""
  add := (· + ·)
  sub := (· - ·)
  mul := (· * ·)
  div := (· / ·)

theorem plain_exact : plain.Exact :=
  ⟨fun _ _ => rfl, fun _ _ => rfl⟩

def attested (oracleId : String) (score weight revealedAt : ℚ) :
    String × OracleCommitmentState Unit :=
  (oracleId, ⟨[], 0, some ⟨oracleId, oracleId, weight, score, 9 / 10, "",
    revealedAt, none⟩⟩)

/-- Two oracles near each other, and a third far off with less weight. -/
def twoAgainstOne : SettlementState Unit Unit where
  commitments := ⟨[attested "a" 80 1 3, attested "b" 84 1 2,
    attested "c" 0 (3 / 2) 1], by decide⟩
  settled := false
  finalizing := false
  verdict := none
  settlementResult := none

def twoOfThree : CourtSettings where
  threshold := 2
  minWeight := 2
  minProviderCount := 2
  maxOutlierDeviation := 4
  normalizeOracleId := .ok
  threshold_range := by decide
  minWeight_range := by
    unfold MAX_SAFE_INTEGER
    norm_num
  minProviderCount_range := by decide
  maxOutlierDeviation_range := by decide

theorem two_robust :
    ∃ verdict, buildVerdict plain twoOfThree 5 "s" twoAgainstOne = .ok verdict
      ∧ 80 ≤ verdict.oracleScore ∧ verdict.oracleScore ≤ 84 := by
  have htwo : (twoOfThree.threshold
        ≤ (getAttestations plain twoAgainstOne).length
      ∧ twoOfThree.minWeight
        ≤ plain.total ((getAttestations plain twoAgainstOne).map (·.weight))
      ∧ twoOfThree.minProviderCount ≤ distinctCount
        ((getAttestations plain twoAgainstOne).map (·.provider)))
      ∧ (∀ a ∈ getAttestations plain twoAgainstOne, 0 < a.weight)
      ∧ (84 : ℚ) - 80 ≤ twoOfThree.maxOutlierDeviation
      ∧ ((getAttestations plain twoAgainstOne).map (·.weight)).sum / 2
        < weightOf (·.weight) (fun a => 80 ≤ a.score ∧ a.score ≤ 84)
          (getAttestations plain twoAgainstOne) := by
    decide +kernel
  obtain ⟨⟨hcount, hweight, hproviders⟩, hpos, hlen, hhalf⟩ := htwo
  obtain ⟨verdict, h, hrobust, -⟩ := verdict_robust plain_exact 5 "s"
    ⟨hcount, hweight, hproviders⟩ hpos
  exact ⟨verdict, h, hrobust 80 84 hlen hhalf⟩

end Concrete

end KamiyoProtocol.LimitlessCourt
