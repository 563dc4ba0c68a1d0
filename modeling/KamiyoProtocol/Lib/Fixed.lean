/-
Fixed-width arithmetic on unbounded carriers.

Unsigned machine integers are `Nat` and signed ones `Int`; the width
enters only where an operation can leave the range. Each operation is
named after what the machine does there: `checked*` refuses,
`saturating*` clamps, `wrap` truncates. Unsigned saturating subtraction
needs no definition: it is truncated subtraction on `Nat`.

The lemmas say when the width is invisible, which is how the accounting
proofs discharge it: a value already known to be in range passes every
operation unchanged.
-/
import Mathlib.Algebra.Ring.Int.Defs
import Mathlib.Algebra.Ring.Nat
import Mathlib.Data.Nat.Basic

namespace Fixed

-- ==== unsigned

/-- Largest unsigned value of a width. -/
def maxU (bits : Nat) : Nat := 2 ^ bits - 1

/-- Addition that refuses to overflow. -/
def checkedAdd (bits a b : Nat) : Option Nat :=
  if a + b < 2 ^ bits then some (a + b) else none

/-- Subtraction that refuses to go below zero. -/
def checkedSub (a b : Nat) : Option Nat :=
  if b ≤ a then some (a - b) else none

/-- Multiplication that refuses to overflow. -/
def checkedMul (bits a b : Nat) : Option Nat :=
  if a * b < 2 ^ bits then some (a * b) else none

/-- Division that refuses a zero divisor. -/
def checkedDiv (a b : Nat) : Option Nat :=
  if b = 0 then none else some (a / b)

/-- Addition clamped at the top of the range. -/
def saturatingAdd (bits a b : Nat) : Nat := min (a + b) (maxU bits)

/-- Multiplication clamped at the top of the range. -/
def saturatingMul (bits a b : Nat) : Nat := min (a * b) (maxU bits)

/-- A narrowing cast. -/
def wrap (bits n : Nat) : Nat := n % 2 ^ bits

theorem checkedAdd_some {bits a b c : Nat} :
    checkedAdd bits a b = some c ↔ a + b < 2 ^ bits ∧ c = a + b := by
  unfold checkedAdd
  split
  · simp [*, eq_comm]
  · simp [*]

theorem checkedSub_some {a b c : Nat} :
    checkedSub a b = some c ↔ b ≤ a ∧ c = a - b := by
  unfold checkedSub
  split
  · simp [*, eq_comm]
  · simp [*]

theorem checkedMul_some {bits a b c : Nat} :
    checkedMul bits a b = some c ↔ a * b < 2 ^ bits ∧ c = a * b := by
  unfold checkedMul
  split
  · simp [*, eq_comm]
  · simp [*]

theorem checkedDiv_some {a b c : Nat} :
    checkedDiv a b = some c ↔ b ≠ 0 ∧ c = a / b := by
  unfold checkedDiv
  split
  · simp [*]
  · simp [*, eq_comm]

theorem saturatingAdd_le (bits a b : Nat) :
    saturatingAdd bits a b ≤ a + b :=
  Nat.min_le_left ..

theorem saturatingAdd_eq {bits a b : Nat} (h : a + b < 2 ^ bits) :
    saturatingAdd bits a b = a + b := by
  unfold saturatingAdd maxU
  omega

theorem wrap_eq {bits n : Nat} (h : n < 2 ^ bits) : wrap bits n = n :=
  Nat.mod_eq_of_lt h

theorem wrap_le (bits n : Nat) : wrap bits n ≤ n := Nat.mod_le ..

theorem wrap_lt (bits n : Nat) : wrap bits n < 2 ^ bits :=
  Nat.mod_lt _ (Nat.two_pow_pos bits)

-- ==== signed

/-- The signed range of a width. -/
def InRange (bits : Nat) (a : Int) : Prop :=
  -2 ^ (bits - 1) ≤ a ∧ a < 2 ^ (bits - 1)
  deriving Decidable

/-- Signed addition that refuses to leave the range. -/
def checkedAddI (bits : Nat) (a b : Int) : Option Int :=
  if InRange bits (a + b) then some (a + b) else none

/-- Signed subtraction that refuses to leave the range. -/
def checkedSubI (bits : Nat) (a b : Int) : Option Int :=
  if InRange bits (a - b) then some (a - b) else none

/-- Signed addition clamped to the range. -/
def saturatingAddI (bits : Nat) (a b : Int) : Int :=
  max (-2 ^ (bits - 1)) (min (a + b) (2 ^ (bits - 1) - 1))

/-- Signed subtraction clamped to the range. -/
def saturatingSubI (bits : Nat) (a b : Int) : Int :=
  max (-2 ^ (bits - 1)) (min (a - b) (2 ^ (bits - 1) - 1))

theorem checkedAddI_some {bits : Nat} {a b c : Int} :
    checkedAddI bits a b = some c ↔ InRange bits (a + b) ∧ c = a + b := by
  unfold checkedAddI
  split
  · simp [*, eq_comm]
  · simp [*]

theorem checkedSubI_some {bits : Nat} {a b c : Int} :
    checkedSubI bits a b = some c ↔ InRange bits (a - b) ∧ c = a - b := by
  unfold checkedSubI
  split
  · simp [*, eq_comm]
  · simp [*]

end Fixed
