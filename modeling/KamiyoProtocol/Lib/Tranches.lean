/-
Amounts put in at different rates.

A holding is a list of tranches, each an amount with the rate it was
weighed at when it was put in. Taking an amount out leaves open which
tranches it comes from: a `Draw` is any rule that takes the amount asked
for and never adds to a tranche, and what is proved for all draws does
not depend on the choice.

Weights are floored to the unit of `base`.
-/
import Mathlib.Algebra.BigOperators.Group.List.Basic
import Mathlib.Algebra.Ring.Int.Defs
import Mathlib.Algebra.Ring.Nat

namespace Tranches

/-- An amount, and the rate it was put in at. -/
structure Tranche where
  amount : Nat
  rate : Nat

/-- What a tranche weighs. -/
def Tranche.weight (base : Nat) (t : Tranche) : Nat :=
  t.amount * t.rate / base

def total (l : List Tranche) : Nat := (l.map Tranche.amount).sum

def weights (base : Nat) (l : List Tranche) : Nat :=
  (l.map (Tranche.weight base)).sum

/-- What is left of a tranche is part of it, at its rate. -/
def Part (t' t : Tranche) : Prop :=
  t'.rate = t.rate ∧ t'.amount ≤ t.amount

/-- A rule for which tranches an amount is taken from. -/
structure Draw where
  take : List Tranche → Nat → List Tranche
  /-- It takes the amount. -/
  total_take : ∀ l n, n ≤ total l → total (take l n) = total l - n
  /-- Tranche by tranche, it only takes. -/
  part_take : ∀ l n, List.Forall₂ Part (take l n) l

variable {base : Nat} {l l' : List Tranche}

theorem weight_le {t' t : Tranche} (h : Part t' t) :
    t'.weight base ≤ t.weight base := by
  unfold Tranche.weight
  rw [h.1]
  apply Nat.div_le_div_right
  exact Nat.mul_le_mul_right _ h.2

theorem weights_le (h : List.Forall₂ Part l' l) :
    weights base l' ≤ weights base l := by
  induction h with
  | nil => exact Nat.le_refl _
  | cons hhead _ ih =>
    simp only [weights, List.map_cons, List.sum_cons]
    exact Nat.add_le_add (weight_le hhead) ih

theorem total_append_one (l : List Tranche) (t : Tranche) :
    total (l ++ [t]) = total l + t.amount := by
  simp [total]

theorem weights_append_one (l : List Tranche) (t : Tranche) :
    weights base (l ++ [t]) = weights base l + t.weight base := by
  simp [weights]

theorem weights_eq_zero (h : total l = 0) : weights base l = 0 := by
  induction l with
  | nil => rfl
  | cons t rest ih =>
    simp only [total, List.map_cons, List.sum_cons, Nat.add_eq_zero_iff] at h
    obtain ⟨ht, hrest⟩ := h
    simp only [weights, List.map_cons, List.sum_cons]
    have hhead : t.weight base = 0 := by
      rw [Tranche.weight, ht, Nat.zero_mul, Nat.zero_div]
    have htail : weights base rest = 0 := ih hrest
    rw [hhead, Nat.zero_add]
    exact htail

theorem total_le_weights (hbase : 0 < base)
    (h : ∀ t ∈ l, base ≤ t.rate) : total l ≤ weights base l := by
  induction l with
  | nil => exact Nat.le_refl _
  | cons t rest ih =>
    simp only [total, weights, List.map_cons, List.sum_cons]
    have hhead : t.amount ≤ t.weight base := by
      unfold Tranche.weight
      rw [Nat.le_div_iff_mul_le hbase]
      exact Nat.mul_le_mul_left _ (h t (List.mem_cons_self ..))
    have htail : total rest ≤ weights base rest :=
      ih fun u hu => h u (List.mem_cons_of_mem _ hu)
    exact Nat.add_le_add hhead htail

theorem rates_part {P : Nat → Prop} (h : List.Forall₂ Part l' l)
    (hl : ∀ t ∈ l, P t.rate) : ∀ t ∈ l', P t.rate := by
  induction h with
  | nil => exact hl
  | @cons t' t rest' rest hhead _ ih =>
    intro u hu
    rcases List.mem_cons.mp hu with rfl | hmem
    · rw [hhead.1]
      exact hl t (List.mem_cons_self ..)
    · exact ih (fun v hv => hl v (List.mem_cons_of_mem _ hv)) u hmem

-- ==== oldest tranche first

/-- Take from the tranches in the order they were put in. -/
def takeOldest : List Tranche → Nat → List Tranche
  | [], _ => []
  | t :: rest, n =>
    { t with amount := t.amount - n } :: takeOldest rest (n - t.amount)

theorem total_takeOldest (l : List Tranche) (n : Nat) (h : n ≤ total l) :
    total (takeOldest l n) = total l - n := by
  induction l generalizing n with
  | nil => exact (Nat.zero_sub n).symm
  | cons t rest ih =>
    simp only [total, List.map_cons, List.sum_cons] at h
    have hrest := ih (n - t.amount)
      (by rw [total]; omega)
    simp only [takeOldest, total, List.map_cons, List.sum_cons] at hrest ⊢
    omega

theorem part_takeOldest (l : List Tranche) (n : Nat) :
    List.Forall₂ Part (takeOldest l n) l := by
  induction l generalizing n with
  | nil => exact .nil
  | cons t rest ih => exact .cons ⟨rfl, Nat.sub_le _ _⟩ (ih _)

def oldestFirst : Draw := ⟨takeOldest, total_takeOldest, part_takeOldest⟩

end Tranches
