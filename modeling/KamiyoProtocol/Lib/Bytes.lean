/-
Reading fixed layouts out of byte strings.

Three readers: `u16At`, a little-endian u16 at a position, `leNat`, the
number a whole string spells, and `window`, a bounds-checked slice. A
position past the end reads as zero byte-wise, so a caller that means
the checked read states the length bound itself, as the code it models
does.

`window_append` is the one law that layout proofs use: the middle part of
a concatenation is the window at the length of what precedes it.

`marked` strings optional texts together with a zero for an absent one and
nothing between two that are there, so it keeps the texts between the
absent ones and not how they are divided (`marked_inj`).
-/
import Mathlib.Algebra.Ring.Int.Defs
import Mathlib.Algebra.Ring.Nat
import Mathlib.Data.List.Basic

namespace Bytes

/-- `u16::from_le_bytes([data[i], data[i + 1]])`. -/
def u16At (data : List UInt8) (i : Nat) : Nat :=
  (data[i]?.getD 0).toNat + 256 * (data[i + 1]?.getD 0).toNat

/-- The little-endian number a byte string spells. -/
def leNat (data : List UInt8) : Nat :=
  data.foldr (fun b n => b.toNat + 256 * n) 0

/-- The two bytes of a u16, low byte first. -/
def u16le (n : Nat) : List UInt8 :=
  [UInt8.ofNat n, UInt8.ofNat (n / 256)]

/-- The low `width` bytes of a number, lowest first. -/
def le : Nat → Nat → List UInt8
  | 0, _ => []
  | width + 1, n => UInt8.ofNat n :: le width (n / 256)

@[simp] theorem length_le (width n : Nat) : (le width n).length = width := by
  induction width generalizing n with
  | zero => rfl
  | succ width ih => rw [le, List.length_cons, ih]

theorem leNat_le {width n : Nat} (h : n < 256 ^ width) :
    leNat (le width n) = n := by
  induction width generalizing n with
  | zero =>
    rw [Nat.pow_zero, Nat.lt_one_iff] at h
    subst h
    rfl
  | succ width ih =>
    have hrest : n / 256 < 256 ^ width := by
      rw [Nat.pow_succ] at h
      omega
    have htail := ih hrest
    unfold leNat at htail ⊢
    rw [le, List.foldr_cons, htail, UInt8.toNat_ofNat']
    omega

/-- The bytes of a signed number, in two's complement. -/
def leInt (width : Nat) (n : Int) : List UInt8 :=
  le width (n % 256 ^ width).toNat

/-- The signed number a byte string spells, in two's complement. -/
def intOfLe (data : List UInt8) : Int :=
  let n := leNat data
  if 2 * n < 256 ^ data.length then n else n - 256 ^ data.length

@[simp] theorem length_leInt (width : Nat) (n : Int) :
    (leInt width n).length = width :=
  length_le _ _

theorem intOfLe_leInt {width : Nat} {n : Int}
    (hlo : -256 ^ width ≤ 2 * n) (hhi : 2 * n < 256 ^ width) :
    intOfLe (leInt width n) = n := by
  have hpos : (0 : Int) < 256 ^ width := Int.pow_pos (by decide)
  have hcast : ((256 ^ width : Nat) : Int) = 256 ^ width :=
    Int.natCast_pow 256 width
  have hmod := Int.emod_nonneg n (Int.ne_of_gt hpos)
  have hlt := Int.emod_lt_of_pos n hpos
  have hnat : (n % 256 ^ width).toNat < 256 ^ width := by omega
  unfold intOfLe leInt
  rw [leNat_le hnat, length_le]
  dsimp only
  by_cases hn : 0 ≤ n
  · have hself : n % 256 ^ width = n :=
      Int.emod_eq_of_lt hn (by omega)
    rw [if_pos (by omega)]
    omega
  · have hself : n % 256 ^ width = n + 256 ^ width := by
      rw [← Int.add_emod_right n, Int.emod_eq_of_lt (by omega) (by omega)]
    rw [if_neg (by omega)]
    omega

/-- `data[off..off + len]`, when in bounds. -/
def window (data : List UInt8) (off len : Nat) : Option (List UInt8) :=
  if off + len ≤ data.length then some ((data.drop off).take len)
  else none

theorem u16le_toNat {n : Nat} (h : n < 2 ^ 16) :
    (UInt8.ofNat n).toNat + 256 * (UInt8.ofNat (n / 256)).toNat = n := by
  simp only [UInt8.toNat_ofNat']
  omega

theorem window_append (a b c : List UInt8) :
    window (a ++ (b ++ c)) a.length b.length = some b := by
  unfold window
  rw [if_pos (by simp only [List.length_append]; omega)]
  simp

-- ==== injectivity

theorem le_inj {width m n : Nat} (hm : m < 256 ^ width) (hn : n < 256 ^ width)
    (h : le width m = le width n) : m = n := by
  rw [← leNat_le hm, h, leNat_le hn]

theorem leInt_inj {width : Nat} {m n : Int}
    (hm : -256 ^ width ≤ 2 * m ∧ 2 * m < 256 ^ width)
    (hn : -256 ^ width ≤ 2 * n ∧ 2 * n < 256 ^ width)
    (h : leInt width m = leInt width n) : m = n := by
  rw [← intOfLe_leInt hm.1 hm.2, h, intOfLe_leInt hn.1 hn.2]

theorem toList_loop (bs : ByteArray) (i : Nat) (taken : List UInt8) :
    ByteArray.toList.loop bs i taken
      = taken.reverse ++ bs.data.toList.drop i := by
  induction h : bs.size - i generalizing i taken with
  | zero =>
    have hend : ¬ i < bs.size := by omega
    rw [ByteArray.toList.loop, if_neg hend, List.drop_of_length_le]
    · simp
    · exact Nat.le_of_not_lt hend
  | succ n ih =>
    have hlt : i < bs.size := by omega
    have hget : bs.get! i = bs.data[i] :=
      getElem!_pos bs.data i hlt
    rw [ByteArray.toList.loop, if_pos hlt, ih (i + 1) _ (by omega), hget,
      List.reverse_cons, List.append_assoc]
    congr 1
    exact (List.drop_eq_getElem_cons hlt).symm

theorem toList_eq_data (bs : ByteArray) : bs.toList = bs.data.toList :=
  toList_loop bs 0 []

/-- The UTF-8 bytes of a text. -/
def utf8 (s : String) : List UInt8 := s.toUTF8.toList

@[simp] theorem utf8_append (s t : String) :
    utf8 (s ++ t) = utf8 s ++ utf8 t := by
  simp [utf8, toList_eq_data, String.toByteArray_append]

theorem utf8_inj {s t : String} : utf8 s = utf8 t ↔ s = t := by
  constructor
  · intro h
    unfold utf8 at h
    rw [toList_eq_data, toList_eq_data, Array.toList_inj] at h
    exact String.toByteArray_inj.mp (ByteArray.ext h)
  · rintro rfl
    rfl

-- ==== marked sequences

/-- Texts one after the other, with a zero for an absent one. -/
def marked : List (Option String) → List UInt8
  | [] => []
  | some t :: rest => utf8 t ++ marked rest
  | none :: rest => 0 :: marked rest

@[simp] theorem utf8_empty : utf8 "" = [] := by
  simp [utf8, toList_eq_data]

/-- The texts between the absent ones, put together. -/
def runsFrom (text : String) : List (Option String) → List String
  | [] => [text]
  | some t :: rest => runsFrom (text ++ t) rest
  | none :: rest => text :: runsFrom "" rest

def runs (texts : List (Option String)) : List String := runsFrom "" texts

/-- Texts with a zero between one and the next. -/
def separated : List String → List UInt8
  | [] => []
  | [t] => utf8 t
  | t :: rest => utf8 t ++ 0 :: separated rest

theorem separated_cons {t : String} {rest : List String} (h : rest ≠ []) :
    separated (t :: rest) = utf8 t ++ 0 :: separated rest := by
  cases rest with
  | nil => exact absurd rfl h
  | cons u rest => rfl

theorem runsFrom_ne_nil (text : String) (texts : List (Option String)) :
    runsFrom text texts ≠ [] := by
  induction texts generalizing text with
  | nil => simp [runsFrom]
  | cons t rest ih =>
    cases t with
    | none => simp [runsFrom]
    | some t => exact ih (text ++ t)

theorem separated_runsFrom (text : String) (texts : List (Option String)) :
    separated (runsFrom text texts) = utf8 text ++ marked texts := by
  induction texts generalizing text with
  | nil => simp [runsFrom, separated, marked]
  | cons t rest ih =>
    cases t with
    | none =>
      rw [runsFrom, separated_cons (runsFrom_ne_nil _ _), ih, marked,
        utf8_empty, List.nil_append]
    | some t => rw [runsFrom, ih, utf8_append, List.append_assoc, marked]

theorem split_at_mark {mark : UInt8} {a b u v : List UInt8} (ha : mark ∉ a)
    (hb : mark ∉ b) (h : a ++ mark :: u = b ++ mark :: v) :
    a = b ∧ u = v := by
  rcases List.append_eq_append_iff.mp h with ⟨c, hc, htail⟩ | ⟨c, hc, htail⟩
  · cases c with
    | nil =>
      rw [List.nil_append] at htail
      rw [List.append_nil] at hc
      injection htail with _ htail
      exact ⟨hc.symm, htail⟩
    | cons x c =>
      rw [List.cons_append] at htail
      injection htail with hx
      rw [hc, ← hx] at hb
      exact absurd (by simp) hb
  · cases c with
    | nil =>
      rw [List.nil_append] at htail
      rw [List.append_nil] at hc
      injection htail with _ htail
      exact ⟨hc, htail.symm⟩
    | cons x c =>
      rw [List.cons_append] at htail
      injection htail with hx
      rw [hc, ← hx] at ha
      exact absurd (by simp) ha

/-- Nothing is lost between texts without a zero. -/
theorem separated_inj : ∀ {ts us : List String}, ts ≠ [] → us ≠ [] →
    (∀ t ∈ ts, 0 ∉ utf8 t) → (∀ u ∈ us, 0 ∉ utf8 u) →
    separated ts = separated us → ts = us
  | [], _, hts, _, _, _, _ => absurd rfl hts
  | _, [], _, hus, _, _, _ => absurd rfl hus
  | [t], [u], _, _, _, _, h => by
      rw [utf8_inj.mp h]
  | [t], u :: u' :: us, _, _, ht, _, h => by
      have hzero : (0 : UInt8) ∈ utf8 t := by
        have hsplit : utf8 t = utf8 u ++ 0 :: separated (u' :: us) := h
        rw [hsplit]
        simp
      exact absurd hzero (ht t List.mem_cons_self)
  | t :: t' :: ts, [u], _, _, _, hu, h => by
      have hzero : (0 : UInt8) ∈ utf8 u := by
        have hsplit : utf8 t ++ 0 :: separated (t' :: ts) = utf8 u := h
        rw [← hsplit]
        simp
      exact absurd hzero (hu u List.mem_cons_self)
  | t :: t' :: ts, u :: u' :: us, _, _, ht, hu, h => by
      have hsplit : utf8 t ++ 0 :: separated (t' :: ts)
          = utf8 u ++ 0 :: separated (u' :: us) := h
      obtain ⟨hhead, htail⟩ := split_at_mark (ht t List.mem_cons_self)
        (hu u List.mem_cons_self) hsplit
      rw [utf8_inj.mp hhead, separated_inj (List.cons_ne_nil _ _)
        (List.cons_ne_nil _ _) (fun s hs => ht s (List.mem_cons_of_mem _ hs))
        (fun s hs => hu s (List.mem_cons_of_mem _ hs)) htail]

/-- A mark is in the runs if it is in one of the texts. -/
theorem runsFrom_no_mark {mark : UInt8} {texts : List (Option String)} :
    ∀ {text : String}, mark ∉ utf8 text →
      (∀ t, some t ∈ texts → mark ∉ utf8 t) →
      ∀ r ∈ runsFrom text texts, mark ∉ utf8 r := by
  induction texts with
  | nil =>
    intro text htext _ r hr
    rw [List.mem_singleton.mp hr]
    exact htext
  | cons o rest ih =>
    intro text htext htexts r hr
    have hrest : ∀ t, some t ∈ rest → mark ∉ utf8 t :=
      fun t ht => htexts t (List.mem_cons_of_mem _ ht)
    cases o with
    | none =>
      rcases List.mem_cons.mp hr with rfl | hr
      · exact htext
      · exact ih (by simp) hrest r hr
    | some t =>
      refine ih ?_ hrest r hr
      rw [utf8_append, List.mem_append]
      rintro (hmem | hmem)
      · exact htext hmem
      · exact htexts t List.mem_cons_self hmem

/-- Texts without a zero are the same bytes exactly if they are the same
between the absent ones. -/
theorem marked_inj {ts us : List (Option String)}
    (hts : ∀ t, some t ∈ ts → 0 ∉ utf8 t)
    (hus : ∀ u, some u ∈ us → 0 ∉ utf8 u) :
    marked ts = marked us ↔ runs ts = runs us := by
  have hmarked : ∀ texts, separated (runs texts) = marked texts := by
    intro texts
    unfold runs
    rw [separated_runsFrom, utf8_empty, List.nil_append]
  constructor
  · intro h
    rw [← hmarked, ← hmarked] at h
    exact separated_inj (runsFrom_ne_nil _ _) (runsFrom_ne_nil _ _)
      (runsFrom_no_mark (by simp) hts)
      (runsFrom_no_mark (by simp) hus) h
  · intro h
    rw [← hmarked, ← hmarked, h]

end Bytes
