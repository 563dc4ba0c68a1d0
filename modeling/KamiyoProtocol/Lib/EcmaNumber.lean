/-
Numbers of ECMAScript as programs read them from text: the grammar of a
numeric string, `Math.round` and `Number.isSafeInteger`.

A Number is the rational it stands for, so reading one and multiplying
are exact. NaN and the infinities are no value.
-/
import KamiyoProtocol.Lib.Ecma
import Mathlib.Data.Rat.Floor
import Mathlib.Tactic.FieldSimp
import Mathlib.Tactic.Linarith
import Mathlib.Tactic.Ring

namespace Ecma

-- ==== digits

def digitVal (c : Char) : Nat :=
  if c.isDigit then c.toNat - 48
  else if 'a' ≤ c then c.toNat - 87
  else c.toNat - 55

/-- A digit in base `b`, for a base up to sixteen. -/
def isRadixDigit (b : Nat) (c : Char) : Bool :=
  (c.isDigit || ('a' ≤ c && c ≤ 'f') || ('A' ≤ c && c ≤ 'F'))
    && digitVal c < b

def ofDigits (b : Nat) (l : List Char) : Nat :=
  l.foldl (fun n c => n * b + digitVal c) 0

/-- The value of decimal digits. -/
def decimal (l : List Char) : Nat := ofDigits 10 l

/-- What `/^\d+$/` matches. -/
def AllDigits (l : List Char) : Prop := l ≠ [] ∧ ∀ c ∈ l, c.isDigit = true

instance (l : List Char) : Decidable (AllDigits l) :=
  @instDecidableAnd _ _ inferInstance (List.decidableBAll _ l)

theorem foldl_digits (b n : Nat) (l : List Char) :
    l.foldl (fun n c => n * b + digitVal c) n
      = n * b ^ l.length + ofDigits b l := by
  induction l generalizing n with
  | nil => simp [ofDigits]
  | cons c rest ih =>
    have hhead : ofDigits b (c :: rest)
        = digitVal c * b ^ rest.length + ofDigits b rest := by
      show rest.foldl _ (0 * b + digitVal c) = _
      rw [ih, Nat.zero_mul, Nat.zero_add]
    rw [List.foldl_cons, ih, hhead, List.length_cons, pow_succ]
    ring

theorem ofDigits_append (b : Nat) (l r : List Char) :
    ofDigits b (l ++ r) = ofDigits b l * b ^ r.length + ofDigits b r := by
  show (l ++ r).foldl _ 0 = _
  rw [List.foldl_append, foldl_digits]
  rfl

theorem decimal_zeros (l : List Char) (k : Nat) :
    decimal (l ++ List.replicate k '0') = decimal l * 10 ^ k := by
  have hzero : ofDigits 10 (List.replicate k '0') = 0 := by
    induction k with
    | zero => rfl
    | succ k ih =>
      rw [List.replicate_succ', ofDigits_append, ih]
      rfl
  unfold decimal
  rw [ofDigits_append, hzero, List.length_replicate, Nat.add_zero]

theorem AllDigits.append {l r : List Char} (hl : AllDigits l)
    (hr : ∀ c ∈ r, c.isDigit = true) : AllDigits (l ++ r) := by
  refine ⟨by simp [hl.1], ?_⟩
  intro c hc
  rcases List.mem_append.mp hc with hc | hc
  · exact hl.2 c hc
  · exact hr c hc

/-- Digits end where something else begins. -/
theorem takeWhile_digits {l r : List Char} (hl : ∀ c ∈ l, c.isDigit = true)
    (hr : ∀ c rest, r = c :: rest → c.isDigit = false) :
    (l ++ r).takeWhile Char.isDigit = l
      ∧ (l ++ r).dropWhile Char.isDigit = r := by
  induction l with
  | nil =>
    cases r with
    | nil => exact ⟨rfl, rfl⟩
    | cons c rest => simp [hr c rest rfl]
  | cons c l ih =>
    have hc := hl c List.mem_cons_self
    obtain ⟨htake, hdrop⟩ := ih fun d hd => hl d (List.mem_cons_of_mem _ hd)
    constructor
    · rw [List.cons_append, List.takeWhile_cons, if_pos hc, htake]
    · rw [List.cons_append, List.dropWhile_cons, if_pos hc, hdrop]

theorem isSpace_of_isDigit {c : Char} (h : c.isDigit = true) :
    isSpace c = false := by
  have hrange : 48 ≤ c.toNat ∧ c.toNat ≤ 57 := by
    simp only [Char.isDigit, Bool.and_eq_true, decide_eq_true_eq] at h
    exact ⟨UInt32.le_iff_toNat_le.mp h.1, UInt32.le_iff_toNat_le.mp h.2⟩
  unfold isSpace
  simp only [List.mem_cons, List.not_mem_nil, or_false, Bool.or_eq_false_iff,
    Bool.and_eq_false_iff, decide_eq_false_iff_not]
  omega

theorem trim_digits {l : List Char} (h : AllDigits l) :
    trim (String.ofList l) = String.ofList l := by
  have hdrop : ∀ r : List Char, (∀ c ∈ r, c.isDigit = true) →
      r.dropWhile isSpace = r := by
    intro r hr
    cases r with
    | nil => rfl
    | cons c rest =>
      rw [List.dropWhile_cons, if_neg]
      simp [isSpace_of_isDigit (hr c List.mem_cons_self)]
  unfold trim
  rw [String.toList_ofList, hdrop l h.2, hdrop l.reverse, List.reverse_reverse]
  intro c hc
  exact h.2 c (List.mem_reverse.mp hc)

-- ==== literals

def signedDigits : List Char → Option Int
  | '+' :: rest => if AllDigits rest then some (decimal rest) else none
  | '-' :: rest => if AllDigits rest then some (-decimal rest) else none
  | l => if AllDigits l then some (decimal l) else none

/-- `ExponentPart`, or nothing. -/
def exponentPart : List Char → Option Int
  | [] => some 0
  | 'e' :: rest => signedDigits rest
  | 'E' :: rest => signedDigits rest
  | _ => none

/-- `StrUnsignedDecimalLiteral`. `Infinity` matches none of it and has no
value. -/
def unsignedDecimal (l : List Char) : Option Rat :=
  let whole := l.takeWhile Char.isDigit
  match l.dropWhile Char.isDigit with
  | '.' :: rest =>
    let frac := rest.takeWhile Char.isDigit
    if whole = [] ∧ frac = [] then none
    else (exponentPart (rest.dropWhile Char.isDigit)).map fun e =>
      decimal (whole ++ frac) * (10 : Rat) ^ (e - (frac.length : Int))
  | rest =>
    if whole = [] then none
    else (exponentPart rest).map fun e => decimal whole * (10 : Rat) ^ e

/-- `NonDecimalIntegerLiteral` after its prefix. -/
def nonDecimal (b : Nat) (l : List Char) : Option Rat :=
  if l ≠ [] ∧ l.all (isRadixDigit b) then some (ofDigits b l) else none

/-- `StringNumericLiteral`, trimmed. -/
def numericLiteral : List Char → Option Rat
  | [] => some 0
  | '0' :: 'b' :: rest => nonDecimal 2 rest
  | '0' :: 'B' :: rest => nonDecimal 2 rest
  | '0' :: 'o' :: rest => nonDecimal 8 rest
  | '0' :: 'O' :: rest => nonDecimal 8 rest
  | '0' :: 'x' :: rest => nonDecimal 16 rest
  | '0' :: 'X' :: rest => nonDecimal 16 rest
  | '+' :: rest => unsignedDecimal rest
  | '-' :: rest => (unsignedDecimal rest).map Neg.neg
  | l => unsignedDecimal l

/-- `Number(s)`. -/
def toNumber (s : String) : Option Rat := numericLiteral (trim s).toList

/-- `Math.round`. -/
def mathRound (x : Rat) : Rat := ⌊x + 1 / 2⌋

def maxSafeInteger : Rat := 2 ^ 53 - 1

def IsSafeInteger (x : Rat) : Prop := x.den = 1 ∧ |x| ≤ maxSafeInteger

instance (x : Rat) : Decidable (IsSafeInteger x) :=
  inferInstanceAs (Decidable (_ ∧ _))

/-- A literal that starts with a digit and has no radix prefix is
unsigned. -/
theorem numericLiteral_unsigned {l : List Char}
    (hhead : ∃ c rest, l = c :: rest ∧ c.isDigit = true)
    (hnext : ∀ c rest, l = '0' :: c :: rest → c.isDigit = true ∨ c = '.') :
    numericLiteral l = unsignedDecimal l := by
  obtain ⟨c, rest, rfl, hc⟩ := hhead
  unfold numericLiteral
  split
  · next h => cases h
  · next h => simpa using hnext _ _ h
  · next h => simpa using hnext _ _ h
  · next h => simpa using hnext _ _ h
  · next h => simpa using hnext _ _ h
  · next h => simpa using hnext _ _ h
  · next h => simpa using hnext _ _ h
  · next h =>
      cases h
      cases hc
  · next h =>
      cases h
      cases hc
  · rfl

theorem numericLiteral_digits {l : List Char} (h : AllDigits l) :
    numericLiteral l = some (decimal l : Rat) := by
  have hunsigned : numericLiteral l = unsignedDecimal l := by
    refine numericLiteral_unsigned ?_ ?_
    · cases l with
      | nil => exact absurd rfl h.1
      | cons c rest => exact ⟨c, rest, rfl, h.2 c List.mem_cons_self⟩
    · rintro c rest rfl
      exact .inl (h.2 c (by simp))
  obtain ⟨htake, hdrop⟩ := takeWhile_digits (r := []) h.2 (by simp)
  rw [List.append_nil] at htake hdrop
  rw [hunsigned, unsignedDecimal, htake, hdrop]
  simp [exponentPart, h.1]

/-- A fixed-point literal is read as its value. -/
theorem numericLiteral_fixed {whole frac : List Char}
    (hwhole : AllDigits whole) (hfrac : ∀ c ∈ frac, c.isDigit = true) :
    numericLiteral (whole ++ '.' :: frac)
      = some ((decimal whole : Rat) + decimal frac / 10 ^ frac.length) := by
  obtain ⟨c, rest, rfl⟩ : ∃ c rest, whole = c :: rest := by
    cases whole with
    | nil => exact absurd rfl hwhole.1
    | cons c rest => exact ⟨c, rest, rfl⟩
  have hunsigned : numericLiteral (c :: rest ++ '.' :: frac)
      = unsignedDecimal (c :: rest ++ '.' :: frac) := by
    refine numericLiteral_unsigned
      ⟨c, rest ++ '.' :: frac, rfl, hwhole.2 c List.mem_cons_self⟩ ?_
    intro d l hl
    cases rest with
    | nil =>
      cases hl
      exact .inr rfl
    | cons d' rest =>
      cases hl
      exact .inl (hwhole.2 _ (by simp))
  obtain ⟨htake, hdrop⟩ := takeWhile_digits (r := '.' :: frac) hwhole.2
    (by
      intro d l hl
      cases hl
      rfl)
  obtain ⟨htake', hdrop'⟩ := takeWhile_digits (r := []) hfrac (by simp)
  rw [List.append_nil] at htake' hdrop'
  rw [hunsigned, unsignedDecimal, htake, hdrop]
  simp only [htake', hdrop']
  rw [if_neg (by simp)]
  simp only [exponentPart, Option.map_some, Option.some.injEq]
  have hvalue : decimal (c :: rest ++ frac)
      = decimal (c :: rest) * 10 ^ frac.length + decimal frac :=
    ofDigits_append 10 _ _
  rw [hvalue, Int.zero_sub, zpow_neg, zpow_natCast]
  push_cast
  field_simp

theorem mathRound_intCast (n : Int) : mathRound n = n := by
  unfold mathRound
  rw [Int.floor_intCast_add]
  norm_num

end Ecma
