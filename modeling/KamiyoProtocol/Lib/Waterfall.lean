/-
An amount handed out over claims in order.

Each claim gets what is left of the amount, or what it asks for if that
is less. What is handed out is the amount or all that is asked for
(`sum_allot`), nothing left is nothing for anyone (`allot_zero`), and a
claim gets something only once the claims before it have all of theirs
(`allot_ordered`).
-/
import Mathlib.Algebra.BigOperators.Group.List.Basic
import Mathlib.Algebra.Ring.Int.Defs
import Mathlib.Algebra.Ring.Nat

namespace Waterfall

/-- What the claims get of an amount. -/
def allot : Nat → List Nat → List Nat
  | _, [] => []
  | n, x :: xs => min x n :: allot (n - x) xs

@[simp] theorem length_allot (n : Nat) (xs : List Nat) :
    (allot n xs).length = xs.length := by
  induction xs generalizing n with
  | nil => rfl
  | cons x xs ih => simp [allot, ih]

theorem sum_allot (n : Nat) (xs : List Nat) :
    (allot n xs).sum = min n xs.sum := by
  induction xs generalizing n with
  | nil => simp [allot]
  | cons x xs ih =>
    simp only [allot, List.sum_cons, ih]
    omega

theorem allot_zero (xs : List Nat) : ∀ a ∈ allot 0 xs, a = 0 := by
  induction xs with
  | nil => nofun
  | cons x xs ih =>
    intro a ha
    simp only [allot, Nat.zero_sub] at ha
    rcases List.mem_cons.mp ha with ha | ha
    · omega
    · exact ih a ha

/-- Claims with what they get, in order: one that gets something comes
after claims that got all they ask for. -/
theorem allot_ordered (n : Nat) (xs : List Nat) :
    (xs.zip (allot n xs)).Pairwise fun a b => 0 < b.2 → a.2 = a.1 := by
  induction xs generalizing n with
  | nil => exact .nil
  | cons x xs ih =>
    refine .cons ?_ (ih _)
    intro b hb hpos
    show min x n = x
    by_contra hless
    have hnone : n - x = 0 := by omega
    rw [hnone] at hb
    have := allot_zero xs b.2 (List.of_mem_zip hb).2
    omega

end Waterfall
