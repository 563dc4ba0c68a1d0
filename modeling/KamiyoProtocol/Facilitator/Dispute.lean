/-
The facilitator's side of a dispute (`services/dispute.ts` and
`routes/dispute.ts`): the consensus of the revealed votes, and what the
route answers that payer and merchant got.

Numbers are doubles (`Double`). An amount is read from a NUMERIC column
with six decimals, as the number nearest to a count of micro-USDC over a
million.
-/
import KamiyoProtocol.Lib.Double
import KamiyoProtocol.Lib.Exec
import KamiyoProtocol.Lib.EcmaNumber
import Mathlib.Data.List.Sort

namespace KamiyoProtocol.Facilitator.Dispute

open Exec

def minConsensusOracles : Nat := 3
def maxScoreDeviation : ℚ := 15

structure OracleSubmission where
  oracle : String
  qualityScore : ℚ

structure ConsensusResult where
  medianScore : ℚ
  refundPercentage : Nat
  outliers : List String
  validCount : Nat

def calculateRefundPercentage (qualityScore : ℚ) : Nat :=
  if qualityScore ≤ 49 then 100
  else if qualityScore ≤ 64 then 75
  else if qualityScore ≤ 79 then 35
  else 0

def calculateMedian (scores : List ℚ) : ℚ :=
  let sorted := scores.insertionSort (· ≤ ·)
  let mid := sorted.length / 2
  if sorted.length % 2 = 0 then
    ⌊((sorted[mid - 1]?.getD 0) + (sorted[mid]?.getD 0)) / 2⌋
  else sorted[mid]?.getD 0

/-- `Number.isInteger(q) && q >= 0 && q <= 100`. -/
def ValidScore (q : ℚ) : Prop := q.den = 1 ∧ 0 ≤ q ∧ q ≤ 100
  deriving Decidable

def calculateConsensus (submissions : List OracleSubmission) :
    Except String ConsensusResult := do
  require (minConsensusOracles ≤ submissions.length)
    "Need at least 3 oracle submissions"
  require (∀ s ∈ submissions, ValidScore s.qualityScore)
    "Quality scores must be integers in [0, 100]"
  let median := calculateMedian
    (submissions.map OracleSubmission.qualityScore)
  let outliers := submissions.filter fun s =>
    maxScoreDeviation < |s.qualityScore - median|
  return {
    medianScore := median
    refundPercentage := calculateRefundPercentage median
    outliers := outliers.map OracleSubmission.oracle
    validCount := submissions.length - outliers.length }

-- ==== split

/-- The number for a count of micro-USDC. -/
def usdc (micro : Int) : ℚ := Double.div micro (10 ^ 6)

def round6 (n : ℚ) : ℚ :=
  Double.div (Ecma.mathRound (Double.mul n (10 ^ 6))) (10 ^ 6)

/-- The units an escrow of the amount is created with
(`services/escrow.ts`); its record keeps `round6` of the amount. -/
def amountUnits (amount : ℚ) : ℚ :=
  Ecma.mathRound (Double.mul amount (10 ^ 6))

/-- The amounts the route opens an escrow for. -/
def ValidAmount (amount : ℚ) : Prop := 0 < amount ∧ amount ≤ 10 ^ 9
  deriving Decidable

def merchantReceived (amount : ℚ) (refundPct : Nat) : ℚ :=
  round6 (Double.mul amount (Double.sub 1 (Double.div refundPct 100)))

def payerRefunded (amount : ℚ) (refundPct : Nat) : ℚ :=
  round6 (Double.mul amount (Double.div refundPct 100))

-- ==== rounding

/-- The payer's share in micro-USDC, before it is rounded. -/
def payerUnits (micro refundPct : Nat) : ℚ :=
  Double.mul (Double.mul (usdc micro) (Double.div refundPct 100)) (10 ^ 6)

def merchantUnits (micro refundPct : Nat) : ℚ :=
  Double.mul (Double.mul (usdc micro)
    (Double.sub 1 (Double.div refundPct 100))) (10 ^ 6)

section Rounding

variable {micro pct : Nat}

theorem usdc_within (micro : Nat) :
    Double.Within 1 ((micro : ℚ) / 10 ^ 6) ((micro : ℚ) / 10 ^ 6)
      (usdc micro) := by
  have hexact : |(micro : ℚ) / 10 ^ 6| ≤ (micro : ℚ) / 10 ^ 6 := by
    rw [abs_of_nonneg (by positivity)]
  exact (Double.Within.exact hexact).round

theorem amountUnits_le {amount : ℚ} (h : ValidAmount amount)
    (hunits : amountUnits amount = micro) : micro ≤ 10 ^ 15 := by
  obtain ⟨hpos, hle⟩ := h
  have hround := Double.abs_round_sub (amount * 10 ^ 6)
  rw [abs_of_pos (a := amount * 10 ^ 6) (by positivity), abs_le] at hround
  obtain ⟨-, hround⟩ := hround
  change Double.mul amount (10 ^ 6) - _ ≤ _ at hround
  have hsmall : Double.eps * (amount * 10 ^ 6) ≤ 1 / 4 := by
    unfold Double.eps
    linarith
  have hlt : Double.mul amount (10 ^ 6) + 1 / 2 < (10 ^ 15 + 1 : ℤ) := by
    generalize Double.mul amount (10 ^ 6) = units at hround ⊢
    push_cast
    linarith
  have hfloor : ⌊Double.mul amount (10 ^ 6) + 1 / 2⌋ < 10 ^ 15 + 1 :=
    Int.floor_lt.mpr hlt
  have hcast : ⌊Double.mul amount (10 ^ 6) + 1 / 2⌋ = (micro : ℤ) := by
    unfold amountUnits Ecma.mathRound at hunits
    exact_mod_cast hunits
  omega

theorem round6_of_units {amount : ℚ} (h : amountUnits amount = micro) :
    round6 amount = usdc micro := by
  change Double.div (amountUnits amount) (10 ^ 6) = _
  rw [h]
  rfl

theorem million_within : Double.Within 0 (10 ^ 6) (10 ^ 6) (10 ^ 6) :=
  Double.Within.exact (by norm_num)

theorem payerUnits_within (hpct : pct ≤ 100) :
    Double.Within 4 micro (micro * pct / 100) (payerUnits micro pct) := by
  have hle : |(pct : ℚ) / 100| ≤ 1 := by
    have : (pct : ℚ) ≤ 100 := by exact_mod_cast hpct
    rw [abs_of_nonneg (by positivity)]
    linarith
  have h := ((usdc_within micro).mul (Double.Within.exact hle).round).mul
    million_within
  have hscale : (micro : ℚ) / 10 ^ 6 * 1 * 10 ^ 6 = micro := by field_simp
  have hvalue : (micro : ℚ) / 10 ^ 6 * (pct / 100) * 10 ^ 6
      = micro * pct / 100 := by field_simp
  rw [hscale, hvalue] at h
  exact h

theorem share_within (hpct : pct ≤ 100) :
    Double.Within 1 (1 + Double.eps) (1 - pct / 100)
      (Double.sub 1 (Double.div pct 100)) := by
  have hle : (pct : ℚ) ≤ 100 := by exact_mod_cast hpct
  have hpos : (0 : ℚ) ≤ pct := Nat.cast_nonneg pct
  have heps := Double.eps_pos
  have hdiv := Double.abs_round_sub ((pct : ℚ) / 100)
  have hsub := Double.abs_round_sub (1 - Double.div pct 100)
  rw [abs_of_nonneg (a := (pct : ℚ) / 100) (by positivity)] at hdiv
  change |Double.div pct 100 - pct / 100| ≤ _ at hdiv
  change |Double.sub 1 (Double.div pct 100) - _| ≤ _ at hsub
  generalize Double.div pct 100 = q at hdiv hsub ⊢
  have hshare : |1 - q| ≤ 1 - pct / 100 + Double.eps * (pct / 100) := by
    rw [abs_le] at hdiv ⊢
    constructor
    · linarith
    · linarith
  constructor
  · rw [abs_of_nonneg (by linarith)]
    linarith
  · have hone : (pct : ℚ) / 100 ≤ 1 := by linarith
    have hstep : Double.eps * |1 - q|
        ≤ Double.eps * (1 - pct / 100 + Double.eps * (pct / 100)) :=
      mul_le_mul_of_nonneg_left hshare heps.le
    have hsquare : Double.eps * (Double.eps * (pct / 100))
        ≤ Double.eps * (Double.eps * 1) := by
      gcongr
    have htri : |Double.sub 1 q - (1 - pct / 100)|
        ≤ |Double.sub 1 q - (1 - q)| + |(1 - q) - (1 - pct / 100)| :=
      abs_sub_le _ _ _
    have hside : |(1 - q) - (1 - (pct : ℚ) / 100)|
        ≤ Double.eps * (pct / 100) := by
      rw [sub_sub_sub_cancel_left, abs_sub_comm]
      exact hdiv
    calc |Double.sub 1 q - (1 - pct / 100)|
        ≤ Double.eps * (1 - pct / 100 + Double.eps * (pct / 100))
          + Double.eps * (pct / 100) := by linarith
      _ = Double.eps + Double.eps * (Double.eps * (pct / 100)) := by ring
      _ ≤ Double.eps + Double.eps * (Double.eps * 1) := by linarith
      _ = ((1 + Double.eps) ^ 1 - 1) * (1 + Double.eps) := by ring

theorem merchantUnits_within (hpct : pct ≤ 100) :
    Double.Within 4 (micro * (1 + Double.eps)) (micro * (1 - pct / 100))
      (merchantUnits micro pct) := by
  have h := ((usdc_within micro).mul (share_within hpct)).mul million_within
  have hscale : (micro : ℚ) / 10 ^ 6 * (1 + Double.eps) * 10 ^ 6
      = micro * (1 + Double.eps) := by field_simp
  have hvalue : (micro : ℚ) / 10 ^ 6 * (1 - pct / 100) * 10 ^ 6
      = micro * (1 - pct / 100) := by field_simp
  rw [hscale, hvalue] at h
  exact h

/-- The shares of an amount up to 10^14 `k` micro-USDC are computed to
`k` parts in twenty of one. -/
theorem units_close (hpct : pct ≤ 100) {k : ℚ} (hk : 0 < k)
    (hm : (micro : ℚ) ≤ 10 ^ 14 * k) :
    |payerUnits micro pct - micro * pct / 100| < k / 20
      ∧ |merchantUnits micro pct - micro * (1 - pct / 100)| < k / 20 := by
  have hfactor : ((1 + Double.eps) ^ 4 - 1) * (10 ^ 14 * (1 + Double.eps))
      < 1 / 20 := by
    unfold Double.eps
    norm_num
  have heps := Double.eps_pos
  have hpow : 0 ≤ (1 + Double.eps) ^ 4 - 1 :=
    sub_nonneg.mpr (one_le_pow₀ (by linarith))
  have hbound : ((1 + Double.eps) ^ 4 - 1) * (micro * (1 + Double.eps))
      < k / 20 := by
    calc ((1 + Double.eps) ^ 4 - 1) * (micro * (1 + Double.eps))
        ≤ ((1 + Double.eps) ^ 4 - 1)
          * (10 ^ 14 * k * (1 + Double.eps)) := by gcongr
      _ = ((1 + Double.eps) ^ 4 - 1) * (10 ^ 14 * (1 + Double.eps)) * k := by
        ring
      _ < 1 / 20 * k := by gcongr
      _ = k / 20 := by ring
  constructor
  · refine lt_of_le_of_lt (payerUnits_within hpct).error
      (lt_of_le_of_lt ?_ hbound)
    refine mul_le_mul_of_nonneg_left ?_ hpow
    have : (0 : ℚ) ≤ micro := Nat.cast_nonneg micro
    have := mul_nonneg this heps.le
    linarith
  · exact lt_of_le_of_lt (merchantUnits_within hpct).error hbound

/-- A product that is close to its share is rounded down to it exactly
when it stays below the half. -/
theorem mathRound_down {x y : ℚ} {n : ℤ} (hlow : (n : ℚ) ≤ x)
    (hclose : |y - x| < 1 / 2) :
    Ecma.mathRound y = n ↔ y < n + 1 / 2 := by
  have hbounds := abs_lt.mp hclose
  unfold Ecma.mathRound
  rw [Int.cast_inj, Int.floor_eq_iff]
  constructor
  · rintro ⟨-, h⟩
    linarith
  · intro h
    constructor
    · linarith
    · linarith

theorem mathRound_up {x y : ℚ} {n : ℤ} (hhigh : x ≤ n)
    (hclose : |y - x| < 1 / 2) :
    Ecma.mathRound y = n ↔ n - 1 / 2 ≤ y := by
  have hbounds := abs_lt.mp hclose
  unfold Ecma.mathRound
  rw [Int.cast_inj, Int.floor_eq_iff]
  constructor
  · rintro ⟨h, -⟩
    linarith
  · intro h
    constructor
    · linarith
    · linarith

theorem round6_eq_usdc {y : ℚ} {n : ℤ} (hn : |(n : ℚ)| ≤ 2 ^ 50)
    (hy : |Double.mul y (10 ^ 6) - n| ≤ 2) :
    round6 y = usdc n ↔ Ecma.mathRound (Double.mul y (10 ^ 6)) = n := by
  unfold round6 usdc
  constructor
  · intro h
    unfold Ecma.mathRound at h ⊢
    have hfloor := Int.floor_le (Double.mul y (10 ^ 6) + 1 / 2)
    have hfloor' := Int.lt_floor_add_one (Double.mul y (10 ^ 6) + 1 / 2)
    rw [Double.div_injective (by norm_num) ?_ ?_ h]
    · rw [abs_le] at hn hy ⊢
      norm_num at hn hy ⊢
      constructor
      · linarith
      · linarith
    · refine le_trans hn ?_
      norm_num
  · intro h
    rw [h]

theorem share_eq (micro pct : Nat) :
    (micro * pct / 100 : ℚ)
      = (micro * pct / 100 : Nat) + ((micro * pct % 100 : Nat) : ℚ) / 100 := by
  have h := Nat.div_add_mod (micro * pct) 100
  have hcast : (100 : ℚ) * (micro * pct / 100 : Nat)
      + (micro * pct % 100 : Nat) = micro * pct := by exact_mod_cast h
  linarith

theorem refund_le_amount (hpct : pct ≤ 100) : micro * pct / 100 ≤ micro := by
  have := Nat.mul_le_mul_left micro hpct
  omega

/-- The products fall on the sides on which they are rounded to the
program's split. -/
def SplitsAlike (micro refundPct : Nat) : Prop :=
  payerUnits micro refundPct < (micro * refundPct / 100 : Nat) + 1 / 2
    ∧ ((micro - micro * refundPct / 100 : Nat) : ℚ) - 1 / 2
      ≤ merchantUnits micro refundPct
  deriving Decidable

theorem shares_close (hpct : pct ≤ 100) {k : ℚ} (hk : 0 < k)
    (hm : (micro : ℚ) ≤ 10 ^ 14 * k) :
    |payerUnits micro pct - ((micro * pct / 100 : Nat)
        + ((micro * pct % 100 : Nat) : ℚ) / 100)| < k / 20
      ∧ |merchantUnits micro pct - ((micro - micro * pct / 100 : Nat)
        - ((micro * pct % 100 : Nat) : ℚ) / 100)| < k / 20 := by
  obtain ⟨hpayer, hmerchant⟩ := units_close hpct hk hm
  have hrest := share_eq micro pct
  refine ⟨by rw [← hrest]; exact hpayer, ?_⟩
  have hshare : (micro : ℚ) * (1 - pct / 100)
      = (micro - micro * pct / 100 : Nat)
        - ((micro * pct % 100 : Nat) : ℚ) / 100 := by
    rw [Nat.cast_sub (refund_le_amount hpct)]
    linarith
  rw [← hshare]
  exact hmerchant

/-- Up to a thousand million USDC, the answers are the refund and the rest
exactly when the products fall so. -/
theorem split_iff (hpct : pct ≤ 100) (hm : micro ≤ 10 ^ 15) :
    payerRefunded (usdc micro) pct = usdc (micro * pct / 100 : Nat)
        ∧ merchantReceived (usdc micro) pct
          = usdc (micro - micro * pct / 100 : Nat)
      ↔ SplitsAlike micro pct := by
  have hcast : (micro : ℚ) ≤ 10 ^ 15 := by exact_mod_cast hm
  obtain ⟨hpayer, hmerchant⟩ := shares_close hpct (k := 10) (by norm_num)
    (by linarith)
  have hlow : ∀ n ≤ micro, |((n : Int) : ℚ)| ≤ 2 ^ 50 := by
    intro n hn
    have hn : (n : ℚ) ≤ 10 ^ 15 := by exact_mod_cast le_trans hn hm
    rw [Int.cast_natCast, abs_of_nonneg (Nat.cast_nonneg n)]
    exact le_trans hn (by norm_num)
  have hmod : ((micro * pct % 100 : Nat) : ℚ) < 100 := by
    exact_mod_cast Nat.mod_lt _ (by decide)
  have hmod0 : (0 : ℚ) ≤ (micro * pct % 100 : Nat) := Nat.cast_nonneg _
  generalize ((micro * pct % 100 : Nat) : ℚ) = rest at *
  have hpayer' := abs_lt.mp hpayer
  have hmerchant' := abs_lt.mp hmerchant
  refine and_congr ?_ ?_
  · refine (round6_eq_usdc (hlow _ (refund_le_amount hpct)) ?_).trans ?_
    · rw [abs_le, Int.cast_natCast]
      change -2 ≤ payerUnits micro pct - _ ∧ payerUnits micro pct - _ ≤ 2
      constructor
      · linarith
      · linarith
    · refine (mathRound_down ?_ (lt_of_lt_of_le hpayer (by norm_num))).trans
        ?_
      · rw [Int.cast_natCast]
        linarith
      · rw [Int.cast_natCast]
  · refine (round6_eq_usdc (hlow _ (Nat.sub_le _ _)) ?_).trans ?_
    · rw [abs_le, Int.cast_natCast]
      change -2 ≤ merchantUnits micro pct - _ ∧ merchantUnits micro pct - _ ≤ 2
      constructor
      · linarith
      · linarith
    · refine (mathRound_up ?_ (lt_of_lt_of_le hmerchant (by norm_num))).trans
        ?_
      · rw [Int.cast_natCast]
        linarith
      · rw [Int.cast_natCast]

/-- Up to a hundred million USDC and off the half, that is when the
refund's fraction is under the half. -/
theorem splitsAlike_iff (hpct : pct ≤ 100) (hfive : pct % 5 = 0)
    (hm : micro ≤ 10 ^ 14) (hhalf : micro * pct % 100 ≠ 50) :
    SplitsAlike micro pct ↔ micro * pct % 100 < 50 := by
  have hcast : (micro : ℚ) ≤ 10 ^ 14 := by exact_mod_cast hm
  obtain ⟨hpayer, hmerchant⟩ := shares_close hpct (k := 1) one_pos
    (by linarith)
  have hpayer := abs_lt.mp hpayer
  have hmerchant := abs_lt.mp hmerchant
  -- percentages in fives leave fractions in twentieths
  have hrest : micro * pct % 100 % 5 = 0 := by
    rw [Nat.mod_mod_of_dvd _ (by decide), Nat.mul_mod, hfive]
    simp
  unfold SplitsAlike
  constructor
  · rintro ⟨hless, -⟩
    by_contra hge
    have hge : 55 ≤ micro * pct % 100 := by omega
    have hge : (55 : ℚ) ≤ (micro * pct % 100 : Nat) := by exact_mod_cast hge
    linarith
  · intro hlt
    have hle : micro * pct % 100 ≤ 45 := by omega
    have hle : ((micro * pct % 100 : Nat) : ℚ) ≤ 45 := by exact_mod_cast hle
    constructor
    · linarith
    · linarith

end Rounding

end KamiyoProtocol.Facilitator.Dispute
