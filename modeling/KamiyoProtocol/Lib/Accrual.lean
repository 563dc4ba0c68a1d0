/-
Accumulator-per-share accounting.

A fund is spread over holders in proportion to their amounts by raising
one accumulator `A`, kept in units of `1 / P`. A holder remembers as its
`debt` the product `amount * A` of its last settlement, and is due
`amount * A / P - debt / P`: the two quotients are floored on their own.

# What the flooring costs

The fraction that `debt / P` drops was not paid, and the holder is
credited with it all the same. `imbalance` measures, in units of `1 / P`,
how far payments and credits have run ahead of the fund:

- a settlement moves it by the change of the holder's fraction
  `amount * A % P` (`imbalance_settle`), so settling an unchanged amount
  is free and a changed amount may gain or lose part of a unit;
- a distribution moves it by what the accumulator credits less what came
  in (`imbalance_fund`).

Payments and dues together stay within the fund exactly while the
imbalance is less than one unit ahead of the fractions now open
(`solvent_iff`).
-/
import KamiyoProtocol.Lib.Keyed
import Mathlib.Tactic.LinearCombination
import Mathlib.Tactic.Linarith
import Mathlib.Tactic.Ring

namespace Accrual

/-- One holder: its amount, and `amount * A` as of its last
settlement. -/
structure Share where
  amount : Nat
  debt : Nat

/-- What the holder has accrued since, in whole units. -/
def Share.due (P A : Nat) (s : Share) : Nat :=
  s.amount * A / P - s.debt / P

/-- The part of a unit its product with the accumulator leaves over. -/
def fraction (P A amount : Nat) : Nat := amount * A % P

/-- A debt never runs ahead of the accumulator. -/
def Share.Current (A : Nat) (s : Share) : Prop := s.debt ≤ s.amount * A

/-- The holder after a settlement that leaves it `amount`. -/
def settle (A amount : Nat) : Share := ⟨amount, amount * A⟩

theorem settle_current (A amount : Nat) : (settle A amount).Current A :=
  Nat.le_refl _

theorem Share.Current.mono {A B : Nat} {s : Share} (h : s.Current A)
    (hAB : A ≤ B) : s.Current B :=
  Nat.le_trans h (Nat.mul_le_mul_left _ hAB)

theorem settle_due (P A amount : Nat) : (settle A amount).due P A = 0 :=
  Nat.sub_self _

/-- The product splits into what is due, the fraction, and the units the
debt accounts for. -/
theorem due_split {P A : Nat} {s : Share} (h : s.Current A) :
    P * s.due P A + fraction P A s.amount + P * (s.debt / P)
      = s.amount * A := by
  have hle : s.debt / P ≤ s.amount * A / P := Nat.div_le_div_right h
  have hdue : s.due P A + s.debt / P = s.amount * A / P :=
    Nat.sub_add_cancel hle
  have hmod := Nat.div_add_mod (s.amount * A) P
  rw [← hdue, Nat.mul_add] at hmod
  unfold fraction
  omega

-- ==== totals

/-- The amounts held together. -/
def held (l : List Share) : Nat := (l.map Share.amount).sum

/-- The whole units the debts account for. -/
def accounted (P : Nat) (l : List Share) : Nat :=
  (l.map fun s => s.debt / P).sum

/-- What all holders are due. -/
def dues (P A : Nat) (l : List Share) : Nat := (l.map (Share.due P A)).sum

/-- The fractions now open. -/
def fractions (P A : Nat) (l : List Share) : Nat :=
  (l.map fun s => fraction P A s.amount).sum

theorem dues_split {P A : Nat} {l : List Share} (h : ∀ s ∈ l, s.Current A) :
    P * dues P A l + fractions P A l + P * accounted P l = held l * A := by
  induction l with
  | nil => simp [dues, fractions, accounted, held]
  | cons s rest ih =>
    have hs := due_split (P := P) (h s (List.mem_cons_self ..))
    have hrest := ih fun t ht => h t (List.mem_cons_of_mem _ ht)
    simp only [dues, fractions, accounted, held, List.map_cons,
      List.sum_cons, Nat.mul_add, Nat.add_mul] at hrest ⊢
    omega

/-- How far payments and credits run ahead of the fund, in units of
`1 / P`. -/
def imbalance (P A paid funded : Nat) (l : List Share) : Int :=
  P * paid + held l * A - P * accounted P l - P * funded

/-- Payments and dues are within the fund exactly while the imbalance is
less than a unit ahead of the open fractions. -/
theorem solvent_iff {P A paid funded : Nat} {l : List Share} (hP : 0 < P)
    (h : ∀ s ∈ l, s.Current A) :
    paid + dues P A l ≤ funded
      ↔ imbalance P A paid funded l < P + fractions P A l := by
  have hsplit : (P * dues P A l + fractions P A l + P * accounted P l : Int)
      = held l * A := by exact_mod_cast dues_split h
  have heq : imbalance P A paid funded l
      = P * ((paid + dues P A l : Int) - funded) + fractions P A l := by
    unfold imbalance
    linear_combination -hsplit
  have hpos : (0 : Int) < P := by exact_mod_cast hP
  rw [heq]
  constructor
  · intro hle
    have hz : ((paid + dues P A l : Int) - funded) ≤ 0 := by omega
    have := Int.mul_le_mul_of_nonneg_left hz (Int.le_of_lt hpos)
    omega
  · intro hlt
    have hone : P * ((paid + dues P A l : Int) - funded) < P * 1 := by
      omega
    have := lt_of_mul_lt_mul_left hone (Int.le_of_lt hpos)
    omega

/-- A settlement that pays at most what is due moves the imbalance by the
change of the holder's fraction at most. -/
theorem imbalance_settle {P A : Nat} (paid funded : Nat) {l : List Share}
    {i x : Nat} {s : Share} (hi : l[i]? = some s) (hs : s.Current A)
    (hx : x ≤ s.due P A) (amount : Nat) :
    imbalance P A (paid + x) funded (l.set i (settle A amount))
      ≤ imbalance P A paid funded l
        + ((fraction P A amount : Int) - fraction P A s.amount) := by
  have hheld : held (l.set i (settle A amount)) + s.amount
      = held l + amount := Keyed.sum_set Share.amount hi _
  have hacc : accounted P (l.set i (settle A amount)) + s.debt / P
      = accounted P l + amount * A / P :=
    Keyed.sum_set (fun t => t.debt / P) hi _
  have hold : (P * s.due P A + fraction P A s.amount + P * (s.debt / P) : Int)
      = s.amount * A := by exact_mod_cast due_split hs
  have hnew : (P * (amount * A / P : Nat) + fraction P A amount : Int)
      = amount * A := by exact_mod_cast Nat.div_add_mod (amount * A) P
  have hpay : (P * x : Int) ≤ P * s.due P A := by
    exact_mod_cast Nat.mul_le_mul_left P hx
  have hheld' : (held (l.set i (settle A amount)) : Int)
      = held l + amount - s.amount := by omega
  have hacc' : (accounted P (l.set i (settle A amount)) : Int)
      = accounted P l + (amount * A / P : Nat) - (s.debt / P : Nat) := by
    omega
  unfold imbalance
  rw [hheld', hacc']
  push_cast at hold hnew ⊢
  linarith

/-- A distribution moves the imbalance by what the accumulator credits
less what came in. -/
theorem imbalance_fund (P A Δ paid funded n : Nat) (l : List Share) :
    imbalance P (A + Δ) paid (funded + n) l
      = imbalance P A paid funded l + ((held l * Δ : Int) - P * n) := by
  unfold imbalance
  push_cast
  ring

theorem imbalance_append_zero (P A paid funded : Nat) (l : List Share) :
    imbalance P A paid funded (l ++ [⟨0, 0⟩])
      = imbalance P A paid funded l := by
  simp [imbalance, held, accounted]

end Accrual
