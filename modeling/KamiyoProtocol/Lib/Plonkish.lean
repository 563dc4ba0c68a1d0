/-
Where a circuit's regions come to lie in its table of columns and rows.

A region is assigned without knowing where it starts: a cell is one of its
columns at one of its rows. Cells of two regions are different cells, even
if they are of one column, unless something else says that they are equal.
-/
import Mathlib.Algebra.GroupWithZero.Defs
import Mathlib.Data.List.Basic

namespace Plonkish

structure Region (C : Type) where
  columns : List C
  rows : Nat

/-- The first row after those that the columns have in use. -/
def firstFree {C : Type} (used : C → Nat) (columns : List C) : Nat :=
  columns.foldl (fun row c => max row (used c)) 0

/-- The rows the regions start at, each below all that its columns hold. -/
def starts {C : Type} [DecidableEq C] (used : C → Nat) :
    List (Region C) → List Nat
  | [] => []
  | region :: rest =>
    let start := firstFree used region.columns
    start :: starts (fun c => if c ∈ region.columns then
      start + region.rows else used c) rest

/-- A table of field elements, by column and row. -/
abbrev Table (C F : Type) := C → Nat → F

/-- A selector is one in the rows where it is enabled. -/
def selector {F : Type} [Zero F] [One F] (enabled : List Nat) (row : Nat) : F :=
  if row ∈ enabled then 1 else 0

/-- A gate that is multiplied with its selector is about the rows where
the selector is enabled. -/
theorem selector_mul {F : Type} [MulZeroOneClass F] (enabled : List Nat)
    (gate : Nat → F) :
    (∀ row, selector enabled row * gate row = 0)
      ↔ ∀ row ∈ enabled, gate row = 0 := by
  constructor
  · intro h row hrow
    have hgate := h row
    rw [selector, if_pos hrow, one_mul] at hgate
    exact hgate
  · intro h row
    unfold selector
    by_cases hrow : row ∈ enabled
    · rw [if_pos hrow, one_mul]
      exact h row hrow
    · rw [if_neg hrow, zero_mul]

/-- A lookup that is multiplied with its selector looks up zero where the
selector is not enabled. -/
theorem selector_lookup {F : Type} [MulZeroOneClass F] (enabled : List Nat)
    (value : Nat → F) {table : F → Prop} (hzero : table 0) :
    (∀ row, table (selector enabled row * value row))
      ↔ ∀ row ∈ enabled, table (value row) := by
  constructor
  · intro h row hrow
    have hvalue := h row
    rw [selector, if_pos hrow, one_mul] at hvalue
    exact hvalue
  · intro h row
    unfold selector
    by_cases hrow : row ∈ enabled
    · rw [if_pos hrow, one_mul]
      exact h row hrow
    · rw [if_neg hrow, zero_mul]
      exact hzero

end Plonkish
