/-
What the weighted consensus of revealed scores is.

The accumulation saturates and the last sum is checked, so a list of any
length has an outcome in closed form (`calculateWeightedConsensus_eq`):
the ceiling of the weighted mean of the scores near the median, unless
one of four things is wrong. The fourth, sums that leave 64 bits, takes
some 2^41 scores.

The bounds of a weighted mean and its ceiling are general facts about
lists of values and weights, and stand first.
-/
import Mathlib.Algebra.Order.Floor.Div
import KamiyoProtocol.Kamiyo.Consensus

namespace KamiyoProtocol.Kamiyo

open Solana

-- ==== weighted means

/-- The values of a list, each times its weight. -/
def weightedSum (l : List (Nat × Nat)) : Nat :=
  (l.map fun s => s.1 * s.2).sum

/-- The weights of a list, summed. -/
def totalWeight (l : List (Nat × Nat)) : Nat := (l.map Prod.snd).sum

theorem weightedSum_cons (s : Nat × Nat) (l : List (Nat × Nat)) :
    weightedSum (s :: l) = s.1 * s.2 + weightedSum l :=
  List.sum_cons

theorem totalWeight_cons (s : Nat × Nat) (l : List (Nat × Nat)) :
    totalWeight (s :: l) = s.2 + totalWeight l :=
  List.sum_cons

variable {l : List (Nat × Nat)}

/-- Values from `lo` on have a weighted sum from `lo` times the weight
on. -/
theorem le_weightedSum {lo : Nat} (h : ∀ s ∈ l, 0 < s.2 → lo ≤ s.1) :
    lo * totalWeight l ≤ weightedSum l := by
  induction l with
  | nil => exact Nat.le_refl 0
  | cons s rest ih =>
    have hrest := ih fun x hx => h x (List.mem_cons_of_mem s hx)
    have hs : lo * s.2 ≤ s.1 * s.2 := by
      rcases Nat.eq_zero_or_pos s.2 with hzero | hpos
      · rw [hzero]
        exact Nat.le_refl 0
      · exact Nat.mul_le_mul_right _ (h s List.mem_cons_self hpos)
    rw [weightedSum_cons, totalWeight_cons, Nat.mul_add]
    omega

theorem weightedSum_le {hi : Nat} (h : ∀ s ∈ l, 0 < s.2 → s.1 ≤ hi) :
    weightedSum l ≤ hi * totalWeight l := by
  induction l with
  | nil => exact Nat.le_refl 0
  | cons s rest ih =>
    have hrest := ih fun x hx => h x (List.mem_cons_of_mem s hx)
    have hs : s.1 * s.2 ≤ hi * s.2 := by
      rcases Nat.eq_zero_or_pos s.2 with hzero | hpos
      · rw [hzero]
        exact Nat.le_refl 0
      · exact Nat.mul_le_mul_right _ (h s List.mem_cons_self hpos)
    rw [weightedSum_cons, totalWeight_cons, Nat.mul_add]
    omega

/-- The least integer no lower than the weighted mean. -/
def ceilingOfMean (l : List (Nat × Nat)) : Nat :=
  weightedSum l ⌈/⌉ totalWeight l

theorem ceilingOfMean_le_iff {n : Nat} (hpos : 0 < totalWeight l) :
    ceilingOfMean l ≤ n ↔ weightedSum l ≤ n * totalWeight l := by
  unfold ceilingOfMean
  rw [ceilDiv_le_iff_le_smul hpos, smul_eq_mul, Nat.mul_comm]

/-- The ceiling of a weighted mean is no lower than all values that
weigh. -/
theorem exists_le_ceilingOfMean (hpos : 0 < totalWeight l) :
    ∃ s ∈ l, 0 < s.2 ∧ s.1 ≤ ceilingOfMean l := by
  by_contra hnone
  have hall : ∀ s ∈ l, 0 < s.2 → ceilingOfMean l + 1 ≤ s.1 := by
    intro s hs hweight
    by_contra hle
    exact hnone ⟨s, hs, hweight, by omega⟩
  have hlow := le_weightedSum hall
  have hhigh := (ceilingOfMean_le_iff hpos).mp (Nat.le_refl _)
  rw [Nat.add_mul] at hlow
  omega

theorem exists_ceilingOfMean_le (hpos : 0 < totalWeight l) :
    ∃ s ∈ l, 0 < s.2 ∧ ceilingOfMean l ≤ s.1 := by
  by_contra hnone
  have hall : ∀ s ∈ l, 0 < s.2 → s.1 + 1 ≤ ceilingOfMean l := by
    intro s hs hweight
    by_contra hle
    exact hnone ⟨s, hs, hweight, by omega⟩
  obtain ⟨s, hs, hweight, -⟩ := exists_le_ceilingOfMean hpos
  have hsome := hall s hs hweight
  have hsum : weightedSum l ≤ (ceilingOfMean l - 1) * totalWeight l :=
    weightedSum_le fun x hx hw => by
      have hlt := hall x hx hw
      omega
  have hless := (ceilingOfMean_le_iff hpos).mpr hsum
  omega

theorem weightedSum_perm {l l' : List (Nat × Nat)} (h : l.Perm l') :
    weightedSum l = weightedSum l' :=
  (h.map _).sum_eq

theorem totalWeight_perm {l l' : List (Nat × Nat)} (h : l.Perm l') :
    totalWeight l = totalWeight l' :=
  (h.map _).sum_eq

-- ==== the median

theorem medianScore_perm {l l' : List Nat} (h : l.Perm l') :
    medianScore l = medianScore l' := by
  have hsorted : l.insertionSort (· ≤ ·) = l'.insertionSort (· ≤ ·) :=
    ((List.perm_insertionSort _ l).trans
      (h.trans (List.perm_insertionSort _ l').symm)).eq_of_pairwise'
      List.sortedLE_insertionSort.pairwise
      List.sortedLE_insertionSort.pairwise
  unfold medianScore
  rw [hsorted]

theorem medianScore_le {l : List Nat} {bound : Nat}
    (h : ∀ x ∈ l, x ≤ bound) : medianScore l ≤ bound := by
  have hget : ∀ i : Nat, (l.insertionSort (· ≤ ·))[i]?.getD 0 ≤ bound := by
    intro i
    cases hi : (l.insertionSort (· ≤ ·))[i]? with
    | none => exact Nat.zero_le bound
    | some x =>
      exact h x ((List.mem_insertionSort _).mp (List.mem_of_getElem? hi))
  unfold medianScore
  dsimp only
  split
  · have hlow := hget ((l.insertionSort (· ≤ ·)).length / 2 - 1)
    have hhigh := hget ((l.insertionSort (· ≤ ·)).length / 2)
    omega
  · exact hget _

theorem withinDeviation_perm {l l' : List (Nat × Nat)} (h : l.Perm l')
    (maxDeviation : Nat) :
    (withinDeviation l maxDeviation).Perm (withinDeviation l' maxDeviation) := by
  unfold withinDeviation
  rw [medianScore_perm (h.map Prod.fst)]
  exact h.filter _

theorem withinDeviation_all {maxDeviation : Nat}
    (hl : ∀ s ∈ l, s.1 ≤ 100) (hmax : 100 ≤ maxDeviation) :
    withinDeviation l maxDeviation = l := by
  have hmedian : medianScore (l.map Prod.fst) ≤ 100 := by
    refine medianScore_le fun x hx => ?_
    obtain ⟨s, hs, rfl⟩ := List.mem_map.mp hx
    exact hl s hs
  refine List.filter_eq_self.mpr fun s hs => ?_
  have hscore := hl s hs
  unfold absDiff
  rw [decide_eq_true_eq]
  omega

-- ==== the accumulation

theorem sumScores_eq (l : List (Nat × Nat)) :
    sumScores l = (min (weightedSum l) (Fixed.maxU 64),
      min (totalWeight l) (Fixed.maxU 64)) := by
  have hfold : ∀ (l : List (Nat × Nat)) (a b : Nat),
      l.foldl addScore (min a (Fixed.maxU 64), min b (Fixed.maxU 64))
        = (min (a + weightedSum l) (Fixed.maxU 64),
          min (b + totalWeight l) (Fixed.maxU 64)) := by
    intro l
    induction l with
    | nil => exact fun a b => rfl
    | cons s rest ih =>
      intro a b
      have hstep : addScore (min a (Fixed.maxU 64), min b (Fixed.maxU 64)) s
          = (min (a + s.1 * s.2) (Fixed.maxU 64),
            min (b + s.2) (Fixed.maxU 64)) := by
        unfold addScore Fixed.saturatingAdd Fixed.saturatingMul
        exact Prod.ext (by dsimp only; omega) (by dsimp only; omega)
      rw [List.foldl_cons, hstep, ih, weightedSum_cons, totalWeight_cons,
        Nat.add_assoc, Nat.add_assoc]
  have hstart := hfold l 0 0
  rw [Nat.zero_add, Nat.zero_add, Nat.zero_min] at hstart
  exact hstart

/-- The sums of the list leave 64 bits. -/
def Overflows (l : List (Nat × Nat)) : Prop :=
  0 < weightedSum l ∧ 2 ^ 64 ≤ weightedSum l + totalWeight l
  deriving Decidable

theorem ceilingMean_fits {a b : Nat} (hb : 0 < b) (h : a + b < 2 ^ 64) :
    ceilingMean a b = .ok (min ((a + b - 1) / b) 100) := by
  unfold ceilingMean Fixed.checkedAdd
  rw [if_pos h]
  change (do
    let consensus ← Exec.okOr (Fixed.checkedDiv (a + b - 1) b)
      (Fault.custom KamiyoError.arithmeticOverflow)
    Except.ok (min consensus 100)) = _
  unfold Fixed.checkedDiv
  rw [if_neg (by omega)]
  rfl

theorem ceilingMean_overflows {a b : Nat} (h : 2 ^ 64 ≤ a + b) :
    ceilingMean a b = .error (.custom .arithmeticOverflow) := by
  unfold ceilingMean Fixed.checkedAdd
  rw [if_neg (by omega)]
  rfl

theorem ceilingMean_sums (hl : ∀ s ∈ l, s.1 ≤ 100) (hpos : 0 < totalWeight l) :
    ceilingMean (sumScores l).1 (sumScores l).2
      = if Overflows l then .error (.custom .arithmeticOverflow)
        else .ok (ceilingOfMean l) := by
  have hmean : ceilingOfMean l ≤ 100 :=
    (ceilingOfMean_le_iff hpos).mpr (weightedSum_le fun s hs _ => hl s hs)
  unfold ceilingOfMean at hmean
  rw [Nat.ceilDiv_eq_add_pred_div] at hmean
  have hmax : Fixed.maxU 64 = 2 ^ 64 - 1 := rfl
  rw [sumScores_eq]
  unfold ceilingOfMean
  rw [Nat.ceilDiv_eq_add_pred_div]
  dsimp only
  by_cases hover : Overflows l
  · rw [if_pos hover]
    obtain ⟨hsum, htotal⟩ := hover
    exact ceilingMean_overflows (by omega)
  · rw [if_neg hover]
    unfold Overflows at hover
    have hquotient : (min (weightedSum l) (Fixed.maxU 64)
          + min (totalWeight l) (Fixed.maxU 64) - 1)
          / min (totalWeight l) (Fixed.maxU 64)
        = (weightedSum l + totalWeight l - 1) / totalWeight l := by
      rcases Nat.eq_zero_or_pos (weightedSum l) with hzero | hsum
      · -- the weights may be cut off, but nothing is divided
        rw [hzero, Nat.div_eq_of_lt (by omega), Nat.div_eq_of_lt (by omega)]
      · rw [Nat.min_eq_left (by omega), Nat.min_eq_left (by omega)]
    rw [ceilingMean_fits (by omega) (by omega), hquotient]
    exact congrArg Except.ok (Nat.min_eq_left hmean)

-- ==== the law

/-- `calculate_weighted_consensus` without its fast path. -/
def filteredConsensus (scores : List (Nat × Nat)) (maxDeviation : Nat) :
    Outcome Nat := do
  ensure (2 ≤ scores.length) .insufficientOracleConsensus
  ensure (∀ s ∈ scores, s.1 ≤ 100) .invalidQualityScore
  ensure (0 < (sumScores scores).2) .noConsensusReached
  let kept := sumScores (withinDeviation scores maxDeviation)
  ensure (0 < kept.2) .noConsensusReached
  ceilingMean kept.1 kept.2

/-- The outcome in closed form. -/
def consensusOutcome (scores : List (Nat × Nat)) (maxDeviation : Nat) :
    Outcome Nat :=
  let kept := withinDeviation scores maxDeviation
  if scores.length < 2 then .error (.custom .insufficientOracleConsensus)
  else if ∃ s ∈ scores, 100 < s.1 then .error (.custom .invalidQualityScore)
  else if totalWeight kept = 0 then .error (.custom .noConsensusReached)
  else if Overflows kept then .error (.custom .arithmeticOverflow)
  else .ok (ceilingOfMean kept)

theorem totalWeight_filter_le (p : Nat × Nat → Bool) (l : List (Nat × Nat)) :
    totalWeight (l.filter p) ≤ totalWeight l :=
  (List.filter_sublist.map Prod.snd).sum_le_sum fun _ _ => Nat.zero_le _

theorem ensure_pos {ε : Type} {c : Prop} [Decidable c] {e : ε} (h : c) :
    ensure c e = (.ok () : Result ε Unit) :=
  if_pos h

theorem ensure_neg {ε : Type} {c : Prop} [Decidable c] {e : ε} (h : ¬ c) :
    ensure c e = (.error (.custom e) : Result ε Unit) :=
  if_neg h

theorem filteredConsensus_eq (scores : List (Nat × Nat)) (maxDeviation : Nat) :
    filteredConsensus scores maxDeviation
      = consensusOutcome scores maxDeviation := by
  have hpositive : ∀ l, 0 < (sumScores l).2 ↔ 0 < totalWeight l := by
    intro l
    have hmax : Fixed.maxU 64 = 2 ^ 64 - 1 := rfl
    rw [sumScores_eq]
    dsimp only
    omega
  unfold filteredConsensus consensusOutcome
  dsimp only
  by_cases hlen : scores.length < 2
  · rw [if_pos hlen, ensure_neg (by omega)]
    rfl
  rw [if_neg hlen, ensure_pos (by omega)]
  by_cases hscores : ∃ s ∈ scores, 100 < s.1
  · rw [if_pos hscores, ensure_neg ?_]
    · rfl
    · intro hall
      obtain ⟨s, hs, hover⟩ := hscores
      have hle := hall s hs
      omega
  have hall : ∀ s ∈ scores, s.1 ≤ 100 := by
    intro s hs
    by_contra hover
    exact hscores ⟨s, hs, by omega⟩
  rw [if_neg hscores, ensure_pos hall]
  by_cases hkept : totalWeight (withinDeviation scores maxDeviation) = 0
  · rw [if_pos hkept, ensure_neg (c := 0 < (sumScores
      (withinDeviation scores maxDeviation)).2) ?_]
    · by_cases hsome : 0 < (sumScores scores).2
      · rw [ensure_pos hsome]
        rfl
      · rw [ensure_neg hsome]
        rfl
    · rw [hpositive]
      omega
  have htotal : totalWeight (withinDeviation scores maxDeviation)
      ≤ totalWeight scores := totalWeight_filter_le _ _
  rw [if_neg hkept, ensure_pos ((hpositive _).mpr (by omega)),
    ensure_pos ((hpositive _).mpr (by omega))]
  exact ceilingMean_sums (fun s hs => hall s (List.mem_of_mem_filter hs))
    (by omega)

theorem calculateWeightedConsensus_filtered (scores : List (Nat × Nat))
    (maxDeviation : Nat) :
    calculateWeightedConsensus scores maxDeviation
      = filteredConsensus scores maxDeviation := by
  by_cases hfast : 100 ≤ maxDeviation
  · unfold calculateWeightedConsensus filteredConsensus
    by_cases hall : ∀ s ∈ scores, s.1 ≤ 100
    · rw [withinDeviation_all hall hfast]
      dsimp only
      by_cases hpos : 0 < (sumScores scores).2
      · rw [if_pos hfast, ensure_pos hpos]
        rfl
      · rw [if_pos hfast, ensure_neg hpos]
        rfl
    · rw [ensure_neg hall]
      rfl
  · unfold calculateWeightedConsensus filteredConsensus
    simp only [if_neg hfast]

theorem calculateWeightedConsensus_eq (scores : List (Nat × Nat))
    (maxDeviation : Nat) :
    calculateWeightedConsensus scores maxDeviation
      = consensusOutcome scores maxDeviation :=
  (calculateWeightedConsensus_filtered scores maxDeviation).trans
    (filteredConsensus_eq scores maxDeviation)

theorem consensusOutcome_ok {scores : List (Nat × Nat)} {maxDeviation c : Nat} :
    consensusOutcome scores maxDeviation = .ok c
      ↔ 2 ≤ scores.length ∧ (∀ s ∈ scores, s.1 ≤ 100)
        ∧ 0 < totalWeight (withinDeviation scores maxDeviation)
        ∧ ¬ Overflows (withinDeviation scores maxDeviation)
        ∧ c = ceilingOfMean (withinDeviation scores maxDeviation) := by
  have hall : (∀ s ∈ scores, s.1 ≤ 100) ↔ ¬ ∃ s ∈ scores, 100 < s.1 := by
    simp
  unfold consensusOutcome
  dsimp only
  rw [hall]
  split
  · simp only [reduceCtorEq, false_iff]
    omega
  · split
    · simp [*]
    · split
      · simp only [reduceCtorEq, false_iff]
        omega
      · split
        · simp [*]
        · simp only [Except.ok.injEq, *]
          constructor
          · rintro rfl
            exact ⟨by omega, not_false, by omega, not_false, rfl⟩
          · rintro ⟨-, -, -, -, rfl⟩
            rfl

theorem consensusOutcome_perm {scores scores' : List (Nat × Nat)}
    (h : scores.Perm scores') (maxDeviation : Nat) :
    consensusOutcome scores maxDeviation
      = consensusOutcome scores' maxDeviation := by
  have hkept := withinDeviation_perm h maxDeviation
  have hscores : (∃ s ∈ scores, 100 < s.1) ↔ ∃ s ∈ scores', 100 < s.1 :=
    exists_congr fun s => and_congr_left fun _ => h.mem_iff
  have hover : Overflows (withinDeviation scores maxDeviation)
      ↔ Overflows (withinDeviation scores' maxDeviation) := by
    unfold Overflows
    rw [weightedSum_perm hkept, totalWeight_perm hkept]
  have hmean : ceilingOfMean (withinDeviation scores maxDeviation)
      = ceilingOfMean (withinDeviation scores' maxDeviation) := by
    unfold ceilingOfMean
    rw [weightedSum_perm hkept, totalWeight_perm hkept]
  unfold consensusOutcome
  simp only [h.length_eq, hscores, totalWeight_perm hkept, hover, hmean]

/-- A consensus is the ceiling of the weighted mean of the scores near the
median, and lies among those of them that weigh; it depends neither on the
order of the scores nor on the fast path. There is none exactly if there are
too few scores, one is above 100, those near the median weigh nothing, or
their sums do not fit. -/
theorem consensus_law (scores : List (Nat × Nat)) (maxDeviation : Nat) :
    (∀ c, calculateWeightedConsensus scores maxDeviation = .ok c →
      c = ceilingOfMean (withinDeviation scores maxDeviation)
      ∧ (∃ s ∈ withinDeviation scores maxDeviation, 0 < s.2 ∧ s.1 ≤ c)
      ∧ ∃ s ∈ withinDeviation scores maxDeviation, 0 < s.2 ∧ c ≤ s.1)
    ∧ (∀ scores', scores.Perm scores' →
      calculateWeightedConsensus scores' maxDeviation
        = calculateWeightedConsensus scores maxDeviation)
    ∧ calculateWeightedConsensus scores maxDeviation
        = filteredConsensus scores maxDeviation
    ∧ ((¬ ∃ c, calculateWeightedConsensus scores maxDeviation = .ok c)
      ↔ scores.length < 2 ∨ (∃ s ∈ scores, 100 < s.1)
        ∨ totalWeight (withinDeviation scores maxDeviation) = 0
        ∨ Overflows (withinDeviation scores maxDeviation)) := by
  refine ⟨fun c hc => ?_, fun scores' h => ?_,
    calculateWeightedConsensus_filtered scores maxDeviation, ?_⟩
  · rw [calculateWeightedConsensus_eq, consensusOutcome_ok] at hc
    obtain ⟨-, -, hpos, -, rfl⟩ := hc
    exact ⟨rfl, exists_le_ceilingOfMean hpos, exists_ceilingOfMean_le hpos⟩
  · rw [calculateWeightedConsensus_eq, calculateWeightedConsensus_eq]
    exact (consensusOutcome_perm h maxDeviation).symm
  · simp only [calculateWeightedConsensus_eq, consensusOutcome_ok]
    constructor
    · intro hnone
      by_contra hfine
      simp only [not_or, not_lt, not_exists, not_and] at hfine
      obtain ⟨hlen, hall, hpos, hfits⟩ := hfine
      exact hnone ⟨_, hlen, hall, by omega, hfits, rfl⟩
    · rintro hbad ⟨c, hlen, hall, hpos, hfits, -⟩
      rcases hbad with hfew | ⟨s, hs, hover⟩ | hzero | hover
      · omega
      · exact absurd (hall s hs) (by omega)
      · omega
      · exact hfits hover

/-- 2^42 full scores of full weight. -/
def endlessScores : List (Nat × Nat) := List.replicate (2 ^ 42) (100, 65535)

/-- They have a mean, and no consensus. -/
theorem consensus_overflows :
    2 ≤ endlessScores.length ∧ (∀ s ∈ endlessScores, s.1 ≤ 100 ∧ s.2 < 2 ^ 16)
      ∧ 0 < totalWeight (withinDeviation endlessScores 100)
      ∧ calculateWeightedConsensus endlessScores 100
        = .error (.custom .arithmeticOverflow) := by
  have hall : ∀ s ∈ endlessScores, s.1 ≤ 100 ∧ s.2 < 2 ^ 16 := by
    intro s hs
    rw [List.eq_of_mem_replicate hs]
    decide
  have hlength : endlessScores.length = 2 ^ 42 := List.length_replicate
  have hkept : withinDeviation endlessScores 100 = endlessScores :=
    withinDeviation_all (fun s hs => (hall s hs).1) (Nat.le_refl 100)
  have hsum : weightedSum endlessScores = 2 ^ 42 * (100 * 65535) := by
    unfold weightedSum endlessScores
    rw [List.map_replicate, List.sum_replicate, smul_eq_mul]
  have htotal : totalWeight endlessScores = 2 ^ 42 * 65535 := by
    unfold totalWeight endlessScores
    rw [List.map_replicate, List.sum_replicate, smul_eq_mul]
  have hover : Overflows endlessScores := by
    unfold Overflows
    omega
  refine ⟨by omega, hall, by rw [hkept]; omega, ?_⟩
  rw [calculateWeightedConsensus_eq]
  unfold consensusOutcome
  dsimp only
  rw [hkept, if_neg (by omega), if_neg ?_, if_neg (by omega), if_pos hover]
  rintro ⟨s, hs, hscore⟩
  exact absurd (hall s hs).1 (by omega)

end KamiyoProtocol.Kamiyo
