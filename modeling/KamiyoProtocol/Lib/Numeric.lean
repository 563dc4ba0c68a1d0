/-
Quotients of the database's NUMERIC type, and what is left of them once
their text is read back as an integer.

A NUMERIC carries its number of fractional digits, and a division
chooses it: enough for sixteen significant digits, counted in base
10000, and none at all for a quotient that has them before the point.
The text of a value shows all its fractional digits, zeros included. An
integer parser that takes no decimal point therefore reads large
quotients and refuses small ones, whole numbers among them.

The last section is division by 10000, the one amounts in basis points
need: exact below the point where the fraction is dropped, rounded to
the nearest integer from there on, and monotone throughout.
-/
import Mathlib.Data.Rat.Floor
import Mathlib.Data.Nat.Log
import Mathlib.Tactic.Linarith
import Mathlib.Tactic.Positivity
import Mathlib.Tactic.FieldSimp

/-- A non-negative NUMERIC: its digits as one integer, and how many of
them stand after the point. -/
structure Numeric where
  digits : Nat
  scale : Nat

namespace Numeric

/-- The number a NUMERIC stands for. -/
def value (x : Numeric) : ℚ := x.digits / 10 ^ x.scale

theorem value_nonneg (x : Numeric) : 0 ≤ x.value := by
  unfold value
  positivity

/-- What an integer parser makes of the text of `x`. -/
def toBigInt (x : Numeric) : Option Nat :=
  if x.scale = 0 then some x.digits else none

theorem toBigInt_le (x : Numeric) : ((x.toBigInt.getD 0 : Nat) : ℚ) ≤ x.value := by
  unfold toBigInt
  split
  · next hscale =>
      show ((x.digits : Nat) : ℚ) ≤ x.value
      rw [value, hscale]
      simp
  · exact_mod_cast x.value_nonneg

/-- A sum shows as many fractional digits as any of its terms. -/
def add (x y : Numeric) : Numeric :=
  let scale := max x.scale y.scale
  ⟨x.digits * 10 ^ (scale - x.scale) + y.digits * 10 ^ (scale - y.scale), scale⟩

def sum (l : List Numeric) : Numeric :=
  l.foldr add ⟨0, 0⟩

-- ==== division

/-- Position of the leading digit in base 10000. -/
def weight (n : Nat) : Nat := Nat.log 10000 n

/-- The leading digit in base 10000. -/
def leading (n : Nat) : Nat := n / 10000 ^ weight n

/-- The position the leading digit of `a / b` is assumed to have. -/
def quotientWeight (a b : Nat) : Int :=
  if leading a ≤ leading b then (weight a : Int) - weight b - 1
  else (weight a : Int) - weight b

/-- Fractional digits of `a / b`, for integers `a` and `b`. -/
def divScale (a b : Nat) : Nat :=
  min 1000 (16 - 4 * quotientWeight a b).toNat

/-- `a / b` at that many digits, the last of them rounded. -/
def div (a b : Nat) : Numeric :=
  ⟨(2 * a * 10 ^ divScale a b + b) / (2 * b), divScale a b⟩

-- ==== division by 10000

/-- The least dividend whose quotient by 10000 has no fraction left. -/
def whole : Nat := 2 * 10000 ^ 5

theorem weight_unit : weight 10000 = 1 := by
  unfold weight
  exact Nat.log_pow (by omega) 1

theorem leading_unit : leading 10000 = 1 := by
  unfold leading
  rw [weight_unit]
  norm_num

theorem divScale_whole {a : Nat} (ha : whole ≤ a) :
    divScale a 10000 = 0 := by
  have hpos : a ≠ 0 := by
    unfold whole at ha
    omega
  have hweight : 5 ≤ weight a := by
    apply Nat.le_log_of_pow_le (by omega)
    unfold whole at ha
    omega
  have hq : 4 ≤ quotientWeight a 10000 := by
    unfold quotientWeight
    rw [weight_unit, leading_unit]
    split
    · next hlead =>
        -- a leading 1 at position 5 would put `a` below the bound
        have hsix : weight a ≠ 5 := by
          intro hfive
          rw [leading, hfive] at hlead
          have htwo : 2 ≤ a / 10000 ^ 5 :=
            (Nat.le_div_iff_mul_le (by positivity)).mpr ha
          omega
        omega
    · omega
  unfold divScale
  omega

theorem divScale_fraction {a : Nat} (ha : a < whole) :
    4 ≤ divScale a 10000 := by
  have hq : quotientWeight a 10000 ≤ 3 := by
    unfold quotientWeight
    rw [weight_unit, leading_unit]
    have hweight : weight a < 6 := by
      apply Nat.log_lt_of_lt_pow' (by omega)
      unfold whole at ha
      omega
    split
    · omega
    · next hlead =>
        have hfive : weight a ≠ 5 := by
          intro hfive
          rw [leading, hfive] at hlead
          have : a / 10000 ^ 5 < 2 :=
            (Nat.div_lt_iff_lt_mul (by positivity)).mpr ha
          omega
        omega
  unfold divScale
  omega

theorem value_div_fraction {a : Nat} (ha : a < whole) :
    (div a 10000).value = a / 10000 := by
  obtain ⟨k, hk⟩ := Nat.exists_eq_add_of_le (divScale_fraction ha)
  have hdigits : (2 * a * 10 ^ (4 + k) + 10000) / (2 * 10000) = a * 10 ^ k := by
    have hsplit : 2 * a * 10 ^ (4 + k) + 10000
        = 10000 + 2 * 10000 * (a * 10 ^ k) := by
      rw [pow_add]
      ring
    rw [hsplit, Nat.add_mul_div_left _ _ (by omega)]
    omega
  unfold value div
  rw [hk, hdigits]
  push_cast
  rw [pow_add]
  field_simp
  norm_num

theorem value_div_whole {a : Nat} (ha : whole ≤ a) :
    (div a 10000).value = ((2 * a + 10000) / (2 * 10000) : Nat) := by
  unfold value div
  rw [divScale_whole ha]
  simp

theorem value_div_mono {a b : Nat} (hab : a ≤ b) :
    (div a 10000).value ≤ (div b 10000).value := by
  by_cases hb : b < whole
  · rw [value_div_fraction hb, value_div_fraction (by omega)]
    have : (a : ℚ) ≤ b := by exact_mod_cast hab
    linarith
  · have hwb : whole ≤ b := by omega
    rw [value_div_whole hwb]
    by_cases ha : a < whole
    · rw [value_div_fraction ha]
      have hle : whole / 10000 ≤ (2 * b + 10000) / (2 * 10000) := by
        unfold whole at hwb ⊢
        omega
      have hlt : (a : ℚ) ≤ whole := by exact_mod_cast ha.le
      have hcast : ((whole / 10000 : Nat) : ℚ) = whole / 10000 := by
        norm_num [whole]
      have : ((whole / 10000 : Nat) : ℚ)
          ≤ ((2 * b + 10000) / (2 * 10000) : Nat) := by
        exact_mod_cast hle
      linarith
    · rw [value_div_whole (by omega)]
      have hle : (2 * a + 10000) / (2 * 10000)
          ≤ (2 * b + 10000) / (2 * 10000) :=
        Nat.div_le_div_right (by omega)
      exact_mod_cast hle

-- the quotients are whole numbers, and only the second is read back
example : (div (900 * 10000) 10000).toBigInt = none := by decide
example : (div (20000000000000000 * 10000) 10000).toBigInt
    = some 20000000000000000 := by decide

end Numeric
