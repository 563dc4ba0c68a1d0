/-
Circom templates as the constraints they put on their signals.

A template is a relation between field elements: what a prover can satisfy,
not what a witness generator computes. The bits of `Num2Bits` are any that
add up, so a comparison is of field elements whose difference, and not they
themselves, has few digits.
-/
import Mathlib.Algebra.Field.Basic
import Mathlib.Data.Nat.Cast.Defs
import Mathlib.Tactic.LinearCombination
import Mathlib.Tactic.Ring

namespace Circom

variable {F : Type} [Field F]

-- ==== bits

/-- `x * (1 - x) === 0`. -/
def Binary (x : F) : Prop := x * (1 - x) = 0

theorem binary_iff {x : F} : Binary x ↔ x = 0 ∨ x = 1 := by
  unfold Binary
  rw [mul_eq_zero, sub_eq_zero]
  exact or_congr_right eq_comm

/-- The sum of the bits, each with its power of two. -/
def fromBits (out : List F) : F := out.foldr (fun b acc => b + 2 * acc) 0

/-- `Num2Bits(n)`. -/
structure Num2Bits (n : Nat) (x : F) (out : List F) : Prop where
  length : out.length = n
  bits : ∀ b ∈ out, Binary b
  sum : fromBits out = x

theorem fromBits_append (l : List F) (b : F) :
    fromBits (l ++ [b]) = fromBits l + 2 ^ l.length * b := by
  induction l with
  | nil => simp [fromBits]
  | cons a rest ih =>
    show a + 2 * fromBits (rest ++ [b]) = (a + 2 * fromBits rest) + _
    rw [ih, List.length_cons, pow_succ]
    ring

theorem fromBits_nat {l : List F} (h : ∀ b ∈ l, Binary b) :
    ∃ v : Nat, v < 2 ^ l.length ∧ (v : F) = fromBits l := by
  induction l with
  | nil => exact ⟨0, by simp, by simp [fromBits]⟩
  | cons b rest ih =>
    obtain ⟨v, hv, hsum⟩ := ih fun b hb => h b (List.mem_cons_of_mem _ hb)
    have hcons : fromBits (b :: rest) = b + 2 * fromBits rest := rfl
    have hlength : 2 ^ (b :: rest).length = 2 * 2 ^ rest.length := by
      rw [List.length_cons, pow_succ, Nat.mul_comm]
    rcases binary_iff.mp (h b List.mem_cons_self) with rfl | rfl
    · refine ⟨2 * v, by omega, ?_⟩
      rw [hcons, ← hsum]
      push_cast
      ring
    · refine ⟨1 + 2 * v, by omega, ?_⟩
      rw [hcons, ← hsum]
      push_cast
      ring

/-- The bits of a number. -/
def toBits : (n v : Nat) → List F
  | 0, _ => []
  | n + 1, v => ((v % 2 : Nat) : F) :: toBits n (v / 2)

theorem toBits_num2Bits (n : Nat) :
    ∀ {v : Nat}, v < 2 ^ n → Num2Bits n (v : F) (toBits n v) := by
  induction n with
  | zero =>
    intro v hv
    have hzero : v = 0 := by omega
    rw [hzero]
    exact ⟨rfl, fun b hb => (List.not_mem_nil hb).elim,
      by simp [fromBits, toBits]⟩
  | succ n ih =>
    intro v hv
    have hrest := ih (v := v / 2) (by omega)
    refine ⟨?_, ?_, ?_⟩
    · simp [toBits, hrest.length]
    · intro b hb
      rcases List.mem_cons.mp hb with rfl | hb
      · rw [binary_iff]
        rcases Nat.mod_two_eq_zero_or_one v with h | h
        · exact Or.inl (by rw [h]; simp)
        · exact Or.inr (by rw [h]; simp)
      · exact hrest.bits b hb
    · show ((v % 2 : Nat) : F) + 2 * fromBits (toBits n (v / 2)) = (v : F)
      rw [hrest.sum]
      calc ((v % 2 : Nat) : F) + 2 * ((v / 2 : Nat) : F)
          = ((v % 2 + 2 * (v / 2) : Nat) : F) := by push_cast; ring
        _ = (v : F) := by rw [Nat.mod_add_div]

-- ==== comparisons

/-- `LessThan(n)`. -/
def LessThan (n : Nat) (a b out : F) : Prop :=
  ∃ bits : List F, Num2Bits (n + 1) (a + 2 ^ n - b) bits
    ∧ ∃ top, bits[n]? = some top ∧ out = 1 - top

/-- `GreaterEqThan(n)`. -/
def GreaterEqThan (n : Nat) (a b out : F) : Prop := LessThan n b (a + 1) out

theorem lessThan_one {n : Nat} {a b : F} :
    LessThan n a b 1 ↔ ∃ v : Nat, v < 2 ^ n ∧ (v : F) = a + 2 ^ n - b := by
  constructor
  · rintro ⟨bits, ⟨hlength, hbits, hsum⟩, top, htop, hout⟩
    have hzero : top = 0 := by linear_combination hout
    have hne : bits ≠ [] := by
      rintro rfl
      cases htop
    have hlast : bits.getLast hne = 0 := by
      obtain ⟨_, hget⟩ := List.getElem?_eq_some_iff.mp htop
      rw [List.getLast_eq_getElem, ← hzero]
      simp only [hlength, Nat.add_sub_cancel]
      exact hget
    have hsplit := List.dropLast_concat_getLast hne
    rw [hlast] at hsplit
    obtain ⟨v, hv, hx⟩ := fromBits_nat (l := bits.dropLast) fun b hb =>
      hbits b (List.dropLast_subset _ hb)
    refine ⟨v, ?_, ?_⟩
    · rw [List.length_dropLast, hlength] at hv
      exact hv
    · rw [← hsum, ← hsplit, fromBits_append, mul_zero, add_zero]
      exact hx
  · rintro ⟨v, hv, hx⟩
    obtain ⟨hlength, hbits, hsum⟩ := toBits_num2Bits (F := F) n hv
    refine ⟨toBits n v ++ [0], ⟨?_, ?_, ?_⟩, 0, ?_, by ring⟩
    · rw [List.length_append, hlength]
      rfl
    · intro b hb
      rcases List.mem_append.mp hb with hb | hb
      · exact hbits b hb
      · rw [List.mem_singleton.mp hb, binary_iff]
        exact Or.inl rfl
    · rw [fromBits_append, hsum, hx]
      ring
    · rw [List.getElem?_append_right (le_of_eq hlength), hlength]
      simp

theorem greaterEqThan_one {n : Nat} {a b : F} :
    GreaterEqThan n a b 1
      ↔ ∃ v : Nat, v < 2 ^ n ∧ (v : F) = b + 2 ^ n - (a + 1) :=
  lessThan_one

end Circom
