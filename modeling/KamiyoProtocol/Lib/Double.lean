/-
Binary64 rounding, on the rationals the numbers stand for.

A number has 53 significant bits: the unit in the last place of `x` is
two to the exponent of `x`, less 52, and rounding goes to the nearest
multiple of it, of two to the even one. Exponents are not bounded, so
overflow and subnormal numbers are left out: the operations on amounts
come nowhere near either.

The error of one rounding is `eps` of the value (`abs_round_sub`). Rounding
keeps the order (`round_mono`), and what is rounded to at most an even
number of 53 bits ends half a unit above it (`round_le_iff`).
-/
import Mathlib.Data.Int.Log
import Mathlib.Data.Rat.Floor
import Mathlib.Algebra.Order.Round
import Mathlib.Tactic.FieldSimp
import Mathlib.Tactic.Linarith
import Mathlib.Tactic.NormNum
import Mathlib.Tactic.Positivity
import Mathlib.Tactic.Ring

namespace Double

/-- The nearest integer, of two the even one. -/
def nearestEven (x : ℚ) : ℤ :=
  if x - ⌊x⌋ < 1 / 2 then ⌊x⌋
  else if 1 / 2 < x - ⌊x⌋ then ⌊x⌋ + 1
  else if ⌊x⌋ % 2 = 0 then ⌊x⌋ else ⌊x⌋ + 1

theorem abs_nearestEven_sub (x : ℚ) : |(nearestEven x : ℚ) - x| ≤ 1 / 2 := by
  have hle := Int.floor_le x
  have hlt := Int.lt_floor_add_one x
  unfold nearestEven
  rw [abs_le]
  split
  · constructor
    · linarith
    · linarith
  · split
    · push_cast
      constructor
      · linarith
      · linarith
    · split
      · constructor
        · linarith
        · linarith
      · push_cast
        constructor
        · linarith
        · linarith

theorem nearestEven_mono {x y : ℚ} (h : x ≤ y) :
    nearestEven x ≤ nearestEven y := by
  have hx := (abs_le.mp (abs_nearestEven_sub x)).2
  have hy := (abs_le.mp (abs_nearestEven_sub y)).1
  by_contra hlt
  have hsucc : (nearestEven y : ℚ) + 1 ≤ nearestEven x := by
    exact_mod_cast not_le.mp hlt
  have heq : x = y := le_antisymm h (by linarith)
  rw [heq] at hlt
  exact hlt (le_refl _)

theorem nearestEven_intCast (n : ℤ) : nearestEven n = n := by
  simp [nearestEven]

theorem nearestEven_le_iff {n : ℤ} {x : ℚ} (heven : n % 2 = 0) :
    nearestEven x ≤ n ↔ x ≤ n + 1 / 2 := by
  constructor
  · intro h
    have hx := (abs_le.mp (abs_nearestEven_sub x)).1
    have hle : (nearestEven x : ℚ) ≤ n := by exact_mod_cast h
    linarith
  · intro h
    refine le_trans (nearestEven_mono h) (le_of_eq ?_)
    have hfloor : ⌊(n : ℚ) + 1 / 2⌋ = n := by
      rw [Int.floor_eq_iff]
      constructor
      · linarith
      · linarith
    unfold nearestEven
    rw [hfloor, if_neg (by linarith), if_neg (by linarith), if_pos heven]

theorem le_nearestEven_iff {n : ℤ} {x : ℚ} (heven : n % 2 = 0) :
    n ≤ nearestEven x ↔ n - 1 / 2 ≤ x := by
  constructor
  · intro h
    have hx := (abs_le.mp (abs_nearestEven_sub x)).2
    have hle : (n : ℚ) ≤ nearestEven x := by exact_mod_cast h
    linarith
  · intro h
    refine le_trans (le_of_eq ?_) (nearestEven_mono h)
    have hfloor : ⌊(n : ℚ) - 1 / 2⌋ = n - 1 := by
      rw [Int.floor_eq_iff]
      push_cast
      constructor
      · linarith
      · linarith
    unfold nearestEven
    rw [hfloor]
    push_cast
    rw [if_neg (by linarith), if_neg (by linarith), if_neg (by omega),
      sub_add_cancel]

/-- The unit in the last place. -/
def ulp (x : ℚ) : ℚ := 2 ^ (Int.log 2 |x| - 52)

/-- The number nearest to `x`. -/
def round (x : ℚ) : ℚ := if x = 0 then 0 else nearestEven (x / ulp x) * ulp x

/-- Half a unit in the last place of one. -/
def eps : ℚ := 1 / 2 ^ 53

theorem eps_pos : 0 < eps := by
  unfold eps
  positivity

theorem ulp_pos (x : ℚ) : 0 < ulp x :=
  zpow_pos two_pos _

theorem ulp_le {x : ℚ} (h : x ≠ 0) : ulp x / 2 ≤ eps * |x| := by
  have hlog : (2 : ℚ) ^ Int.log 2 |x| ≤ |x| := by
    have := Int.zpow_log_le_self (b := 2) (by decide) (abs_pos.mpr h)
    exact_mod_cast this
  have hulp : ulp x / 2 = eps * 2 ^ Int.log 2 |x| := by
    unfold ulp eps
    rw [zpow_sub₀ two_ne_zero]
    norm_num
    ring
  rw [hulp]
  exact mul_le_mul_of_nonneg_left hlog eps_pos.le

theorem abs_round_sub (x : ℚ) : |round x - x| ≤ eps * |x| := by
  unfold round
  split
  · next hzero => simp [hzero]
  · next hne =>
      have hpos := ulp_pos x
      have hsplit : (nearestEven (x / ulp x) : ℚ) * ulp x - x
          = (nearestEven (x / ulp x) - x / ulp x) * ulp x := by
        field_simp
      rw [hsplit, abs_mul, abs_of_pos hpos]
      have hhalf := abs_nearestEven_sub (x / ulp x)
      have := mul_le_mul_of_nonneg_right hhalf hpos.le
      have := ulp_le hne
      linarith

-- ==== order

section Order

variable {x y m : ℚ} {n e : ℤ}

theorem log_scaled (hlo : 2 ^ 52 ≤ m) (hhi : m < 2 ^ 53) :
    Int.log 2 (m * 2 ^ e) = e + 52 := by
  have hscale : (0 : ℚ) < 2 ^ e := zpow_pos two_pos _
  have hpos : 0 < m * 2 ^ e :=
    mul_pos (lt_of_lt_of_le (by norm_num) hlo) hscale
  apply le_antisymm
  · have hlt : m * 2 ^ e < ((2 : ℕ) : ℚ) ^ (e + 53) := by
      rw [Nat.cast_ofNat, zpow_add₀ two_ne_zero, mul_comm]
      exact mul_lt_mul_of_pos_left (by exact_mod_cast hhi) hscale
    have := (Int.lt_zpow_iff_log_lt (by decide) hpos).mp hlt
    omega
  · apply (Int.zpow_le_iff_le_log (by decide) hpos).mp
    rw [Nat.cast_ofNat, zpow_add₀ two_ne_zero, mul_comm]
    exact mul_le_mul_of_nonneg_right (by exact_mod_cast hlo) hscale.le

/-- A value of 53 bits before the point is rounded to an integer. -/
theorem round_scaled (hlo : 2 ^ 52 ≤ m) (hhi : m < 2 ^ 53) :
    round (m * 2 ^ e) = nearestEven m * 2 ^ e := by
  have hscale : (0 : ℚ) < 2 ^ e := zpow_pos two_pos _
  have hpos : 0 < m * 2 ^ e :=
    mul_pos (lt_of_lt_of_le (by norm_num) hlo) hscale
  have hulp : ulp (m * 2 ^ e) = 2 ^ e := by
    unfold ulp
    rw [abs_of_pos hpos, log_scaled hlo hhi, add_sub_cancel_right]
  unfold round
  rw [if_neg hpos.ne', hulp, mul_div_cancel_right₀ _ hscale.ne']

/-- Every positive number is of 53 bits before the point, scaled. -/
theorem exists_scaled (h : 0 < x) :
    ∃ (m : ℚ) (e : ℤ), 2 ^ 52 ≤ m ∧ m < 2 ^ 53 ∧ x = m * 2 ^ e := by
  have hlo := Int.zpow_log_le_self (b := 2) (by decide) h
  have hhi := Int.lt_zpow_succ_log_self (b := 2) (by decide) x
  have hpow : (2 : ℚ) ^ Int.log 2 x = 2 ^ 52 * 2 ^ (Int.log 2 x - 52) := by
    rw [zpow_sub₀ two_ne_zero]
    norm_num
    ring
  rw [Nat.cast_ofNat] at hlo hhi
  rw [zpow_add_one₀ two_ne_zero] at hhi
  have hscale : (0 : ℚ) < 2 ^ (Int.log 2 x - 52) := zpow_pos two_pos _
  refine ⟨x / 2 ^ (Int.log 2 x - 52), Int.log 2 x - 52, ?_, ?_, ?_⟩
  · rw [le_div_iff₀ hscale, ← hpow]
    exact hlo
  · rw [div_lt_iff₀ hscale]
    linarith
  · rw [div_mul_cancel₀ _ hscale.ne']

theorem round_pos (h : 0 < x) : 0 < round x := by
  obtain ⟨m, e, hlo, hhi, rfl⟩ := exists_scaled h
  rw [round_scaled hlo hhi]
  have hle : (2 ^ 52 : ℤ) ≤ nearestEven m := by
    have := nearestEven_mono (x := (2 ^ 52 : ℤ)) (by exact_mod_cast hlo)
    rwa [nearestEven_intCast] at this
  have hpos : (0 : ℚ) < nearestEven m := by
    exact_mod_cast lt_of_lt_of_le (by norm_num) hle
  exact mul_pos hpos (zpow_pos two_pos _)

theorem round_zero : round 0 = 0 := by
  simp [round]

theorem round_nonneg (h : 0 ≤ x) : 0 ≤ round x := by
  rcases h.eq_or_lt with rfl | hpos
  · rw [round_zero]
  · exact (round_pos hpos).le

theorem round_mono (h₀ : 0 ≤ x) (h : x ≤ y) : round x ≤ round y := by
  rcases h₀.eq_or_lt with rfl | hx
  · rw [round_zero]
    exact round_nonneg h
  obtain ⟨m, e, hlo, hhi, rfl⟩ := exists_scaled hx
  obtain ⟨m', e', hlo', hhi', rfl⟩ := exists_scaled (lt_of_lt_of_le hx h)
  rw [round_scaled hlo hhi, round_scaled hlo' hhi']
  have hscale : (0 : ℚ) < 2 ^ e := zpow_pos two_pos _
  have hle : e ≤ e' := by
    have := Int.log_mono_right (b := 2) hx h
    rw [log_scaled hlo hhi, log_scaled hlo' hhi'] at this
    omega
  rcases hle.eq_or_lt with rfl | hlt
  · have hm := nearestEven_mono (le_of_mul_le_mul_right h hscale)
    exact mul_le_mul_of_nonneg_right (by exact_mod_cast hm) hscale.le
  · -- the greater exponent leaves a power of two between the two
    have hupper : nearestEven m ≤ 2 ^ 53 := by
      have := nearestEven_mono (y := (2 ^ 53 : ℤ)) (by exact_mod_cast hhi.le)
      rwa [nearestEven_intCast] at this
    have hlower : 2 ^ 52 ≤ nearestEven m' := by
      have := nearestEven_mono (x := (2 ^ 52 : ℤ)) (by exact_mod_cast hlo')
      rwa [nearestEven_intCast] at this
    have hstep : (2 : ℚ) ^ (e + 1) ≤ 2 ^ e' :=
      zpow_le_zpow_right₀ one_le_two hlt
    rw [zpow_add_one₀ two_ne_zero] at hstep
    have hu : (nearestEven m : ℚ) ≤ 2 ^ 53 := by exact_mod_cast hupper
    have hl : (2 ^ 52 : ℚ) ≤ nearestEven m' := by exact_mod_cast hlower
    calc (nearestEven m : ℚ) * 2 ^ e
        ≤ 2 ^ 53 * 2 ^ e := mul_le_mul_of_nonneg_right hu hscale.le
      _ = 2 ^ 52 * (2 ^ e * 2) := by ring
      _ ≤ 2 ^ 52 * 2 ^ e' := mul_le_mul_of_nonneg_left hstep (by norm_num)
      _ ≤ nearestEven m' * 2 ^ e' :=
        mul_le_mul_of_nonneg_right hl (zpow_pos two_pos _).le

/-- Where an even number of 53 bits begins and ends. -/
theorem round_le_iff (heven : n % 2 = 0) (hlo : 2 ^ 52 ≤ n)
    (hhi : n < 2 ^ 53) (h₀ : 0 ≤ x) :
    round x ≤ n * 2 ^ e ↔ x ≤ (n + 1 / 2) * 2 ^ e := by
  have hscale : (0 : ℚ) < 2 ^ e := zpow_pos two_pos _
  have hl : (2 ^ 52 : ℚ) ≤ n := by exact_mod_cast hlo
  have hu : (n : ℚ) + 1 ≤ 2 ^ 53 := by exact_mod_cast hhi
  constructor
  · intro h
    by_contra hlt
    -- above half way, still below the next power of two
    obtain ⟨c, hc, hcu, hcx⟩ : ∃ c : ℚ, n + 1 / 2 < c ∧ c < n + 1
        ∧ c * 2 ^ e ≤ x := by
      refine ⟨min (x / 2 ^ e) (n + 3 / 4), lt_min ?_ (by linarith),
        lt_of_le_of_lt (min_le_right _ _) (by linarith), ?_⟩
      · rw [lt_div_iff₀ hscale]
        exact not_le.mp hlt
      · rw [← le_div_iff₀ hscale]
        exact min_le_left _ _
    have hround := (round_mono (mul_nonneg (by linarith) hscale.le) hcx).trans h
    rw [round_scaled (by linarith) (by linarith)] at hround
    have hle : nearestEven c ≤ n := by
      exact_mod_cast le_of_mul_le_mul_right hround hscale
    have := (nearestEven_le_iff heven).mp hle
    linarith
  · intro h
    refine (round_mono h₀ h).trans ?_
    rw [round_scaled (by linarith) (by linarith)]
    have hle := (nearestEven_le_iff heven).mpr (le_refl ((n : ℚ) + 1 / 2))
    exact mul_le_mul_of_nonneg_right (by exact_mod_cast hle) hscale.le

theorem le_round_iff (heven : n % 2 = 0) (hlo : 2 ^ 52 < n)
    (hhi : n < 2 ^ 53) (h₀ : 0 ≤ x) :
    n * 2 ^ e ≤ round x ↔ (n - 1 / 2) * 2 ^ e ≤ x := by
  have hscale : (0 : ℚ) < 2 ^ e := zpow_pos two_pos _
  have hl : (2 ^ 52 : ℚ) + 1 ≤ n := by exact_mod_cast hlo
  have hu : (n : ℚ) < 2 ^ 53 := by exact_mod_cast hhi
  constructor
  · intro h
    by_contra hlt
    obtain ⟨c, hc, hcl, hcx⟩ : ∃ c : ℚ, c < n - 1 / 2 ∧ n - 1 < c
        ∧ x ≤ c * 2 ^ e := by
      refine ⟨max (x / 2 ^ e) (n - 3 / 4), max_lt ?_ (by linarith),
        lt_of_lt_of_le (by linarith) (le_max_right _ _), ?_⟩
      · rw [div_lt_iff₀ hscale]
        exact not_le.mp hlt
      · rw [← div_le_iff₀ hscale]
        exact le_max_left _ _
    have hround := h.trans (round_mono h₀ hcx)
    rw [round_scaled (by linarith) (by linarith)] at hround
    have hle : n ≤ nearestEven c := by
      exact_mod_cast le_of_mul_le_mul_right hround hscale
    have := (le_nearestEven_iff heven).mp hle
    linarith
  · intro h
    have hpos : (0 : ℚ) ≤ (n - 1 / 2) * 2 ^ e :=
      mul_nonneg (by linarith) hscale.le
    refine le_trans ?_ (round_mono hpos h)
    rw [round_scaled (by linarith) (by linarith)]
    have hle := (le_nearestEven_iff heven).mpr (le_refl ((n : ℚ) - 1 / 2))
    exact mul_le_mul_of_nonneg_right (by exact_mod_cast hle) hscale.le

end Order

-- ==== operations

def mul (x y : ℚ) : ℚ := round (x * y)

def div (x y : ℚ) : ℚ := round (x / y)

def sub (x y : ℚ) : ℚ := round (x - y)

def add (x y : ℚ) : ℚ := round (x + y)

/-- `y` is `x` after `k` roundings, on the scale of `s`. -/
structure Within (k : ℕ) (s x y : ℚ) : Prop where
  scale : |x| ≤ s
  error : |y - x| ≤ ((1 + eps) ^ k - 1) * s

section Errors

variable {j k : ℕ} {s t x y x' y' : ℚ}

theorem Within.exact (h : |x| ≤ s) : Within 0 s x x :=
  ⟨h, by simp⟩

theorem Within.abs_le (h : Within k s x y) : |y| ≤ (1 + eps) ^ k * s := by
  have hsum : |y| ≤ |y - x| + |x| := by
    have := abs_add_le (y - x) x
    simpa using this
  have := h.scale
  have := h.error
  linarith

theorem Within.round (h : Within k s x y) :
    Within (k + 1) s x (Double.round y) := by
  refine ⟨h.scale, ?_⟩
  have htri : |Double.round y - x| ≤ |Double.round y - y| + |y - x| :=
    abs_sub_le _ _ _
  have hround := abs_round_sub y
  have hy : eps * |y| ≤ eps * ((1 + eps) ^ k * s) :=
    mul_le_mul_of_nonneg_left h.abs_le eps_pos.le
  have := h.error
  calc |Double.round y - x|
      ≤ eps * ((1 + eps) ^ k * s) + ((1 + eps) ^ k - 1) * s := by linarith
    _ = ((1 + eps) ^ (k + 1) - 1) * s := by ring

theorem Within.times (h : Within j s x y) (h' : Within k t x' y') :
    Within (j + k) (s * t) (x * x') (y * y') := by
  have hs : 0 ≤ s := le_trans (abs_nonneg x) h.scale
  have ht : 0 ≤ t := le_trans (abs_nonneg x') h'.scale
  constructor
  · rw [abs_mul]
    exact mul_le_mul h.scale h'.scale (abs_nonneg x') hs
  · have hsplit : y * y' - x * x' = (y - x) * y' + x * (y' - x') := by ring
    have hleft : |(y - x) * y'|
        ≤ ((1 + eps) ^ j - 1) * s * ((1 + eps) ^ k * t) := by
      rw [abs_mul]
      exact mul_le_mul h.error h'.abs_le (abs_nonneg y')
        (le_trans (abs_nonneg _) h.error)
    have hright : |x * (y' - x')| ≤ s * (((1 + eps) ^ k - 1) * t) := by
      rw [abs_mul]
      exact mul_le_mul h.scale h'.error (abs_nonneg _) hs
    calc |y * y' - x * x'|
        ≤ |(y - x) * y'| + |x * (y' - x')| := by
          rw [hsplit]
          exact abs_add_le _ _
      _ ≤ ((1 + eps) ^ j - 1) * s * ((1 + eps) ^ k * t)
          + s * (((1 + eps) ^ k - 1) * t) := add_le_add hleft hright
      _ = ((1 + eps) ^ (j + k) - 1) * (s * t) := by ring

theorem Within.mul (h : Within j s x y) (h' : Within k t x' y') :
    Within (j + k + 1) (s * t) (x * x') (Double.mul y y') :=
  (h.times h').round

end Errors

/-- Numbers that round alike are near each other. -/
theorem round_near {x y : ℚ} (h : round x = round y) :
    |x - y| ≤ eps * (|x| + |y|) := by
  have hx := abs_round_sub x
  have hy := abs_round_sub y
  have htri := abs_sub_le x (round y) y
  rw [h, abs_sub_comm] at hx
  linarith

theorem div_injective {d : ℚ} (hd : 0 < d) {a b : ℤ} (ha : |(a : ℚ)| ≤ 2 ^ 51)
    (hb : |(b : ℚ)| ≤ 2 ^ 51) (h : div a d = div b d) : a = b := by
  have hnear := round_near h
  rw [← sub_div, abs_div, abs_div, abs_div, abs_of_pos hd, ← add_div,
    ← mul_div_assoc, div_le_div_iff_of_pos_right hd] at hnear
  have hsmall : |(a : ℚ) - b| < 1 := by
    have hsum : eps * (|(a : ℚ)| + |(b : ℚ)|) ≤ eps * 2 ^ 52 :=
      mul_le_mul_of_nonneg_left (by linarith) eps_pos.le
    have hhalf : eps * 2 ^ 52 = 1 / 2 := by
      unfold eps
      norm_num
    linarith
  have hint : |a - b| < 1 := by exact_mod_cast hsmall
  have := abs_lt.mp hint
  omega

example : round (1 / 10) = 3602879701896397 / 36028797018963968 := by
  decide +kernel

end Double
