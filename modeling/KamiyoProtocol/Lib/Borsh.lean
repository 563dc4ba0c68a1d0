/-
Reading Borsh, the byte format of accounts and instruction data.

A reader takes a value off the front of its input and leaves the rest;
readers are put together in a `do` block, which reads the fields in
order. There are no tags and no field names in the format, so two
readers of one input agree as far as they read the same types, and past
that read each other's bytes.

The readers the programs call come with the equation that inverts them:
they succeeded exactly when the input is the encoding of the value
followed by the rest. For whole layouts there are two judgements, closed
under sequencing: `Reads` says which bytes a value is read from, and
`Streaming` that a reader never looks past what it takes, so that a
truncated layout holds no value (`Streaming.truncated`).
-/
import KamiyoProtocol.Lib.Bytes

namespace Borsh

/-- A reader of values of type `α`. -/
abbrev Reader (α : Type) := StateT (List UInt8) Option α

/-- A reader that is followed by another. -/
theorem bind_some {α β : Type} {m : Reader α} {f : α → Reader β}
    {data rest : List UInt8} {b : β} :
    (m >>= f) data = some (b, rest)
      ↔ ∃ a mid, m data = some (a, mid) ∧ f a mid = some (b, rest) := by
  show (m data).bind (fun r => f r.1 r.2) = some (b, rest) ↔ _
  rw [Option.bind_eq_some_iff]
  constructor
  · rintro ⟨⟨a, mid⟩, hm, hf⟩
    exact ⟨a, mid, hm, hf⟩
  · rintro ⟨a, mid, hm, hf⟩
    exact ⟨(a, mid), hm, hf⟩

theorem pure_some {α : Type} {a b : α} {data rest : List UInt8} :
    (pure a : Reader α) data = some (b, rest) ↔ a = b ∧ data = rest := by
  show some (a, data) = some (b, rest) ↔ _
  simp

/-- `[u8; n]`. -/
def fixed (n : Nat) : Reader (List UInt8) := fun data =>
  if n ≤ data.length then some (data.take n, data.drop n) else none

theorem fixed_some {n : Nat} {data x rest : List UInt8} :
    fixed n data = some (x, rest) ↔ x.length = n ∧ data = x ++ rest := by
  unfold fixed
  constructor
  · intro h
    split at h
    · next hn =>
        cases h
        exact ⟨List.length_take_of_le hn, (List.take_append_drop n data).symm⟩
    · cases h
  · rintro ⟨rfl, rfl⟩
    simp

/-- An unsigned integer of `n` bytes. -/
def word (n : Nat) : Reader Nat := do
  let bytes ← fixed n
  return Bytes.leNat bytes

/-- `String::from_utf8` accepts the bytes. -/
def isUtf8 (s : List UInt8) : Bool := (ByteArray.mk s.toArray).validateUTF8

/-- `String`: its length in bytes, then the bytes. -/
def string : Reader (List UInt8) := do
  let n ← word 4
  let s ← fixed n
  if isUtf8 s then return s else failure

theorem string_some {data s rest : List UInt8} :
    string data = some (s, rest)
      ↔ ∃ head, head.length = 4 ∧ Bytes.leNat head = s.length
          ∧ isUtf8 s = true ∧ data = head ++ (s ++ rest) := by
  unfold string word
  simp only [bind_some, pure_some, fixed_some]
  constructor
  · rintro ⟨n, mid, ⟨head, mid', ⟨hlen, hdata⟩, hn, hmid⟩, s', rest',
      ⟨hs, hrest⟩, hif⟩
    split at hif
    · next hutf =>
        obtain ⟨rfl, rfl⟩ := pure_some.mp hif
        subst hmid
        rw [hrest] at hdata
        exact ⟨head, hlen, hn.trans hs.symm, hutf, hdata⟩
    · cases hif
  · rintro ⟨head, hlen, hn, hutf, hdata⟩
    refine ⟨_, _, ⟨head, s ++ rest, ⟨hlen, hdata⟩, rfl, rfl⟩, s, rest,
      ⟨hn.symm, rfl⟩, ?_⟩
    rw [if_pos hutf]
    rfl

/-- A signed integer of `n` bytes. -/
def signed (n : Nat) : Reader Int := do
  let bytes ← fixed n
  return Bytes.intOfLe bytes

/-- `bool`: one byte, 0 or 1. -/
def bool : Reader Bool := do
  let n ← word 1
  if n = 0 then return false
  else if n = 1 then return true
  else failure

/-- An enumeration without payloads: the index of the variant. -/
def variant {α : Type} (variants : List α) : Reader α := do
  let n ← word 1
  match variants[n]? with
  | some a => return a
  | none => failure

/-- `n` values, one after the other. -/
def times {α : Type} (r : Reader α) : Nat → Reader (List α)
  | 0 => return []
  | n + 1 => do
      let a ← r
      let rest ← times r n
      return a :: rest

/-- `Vec`: its length, then its elements. -/
def vec {α : Type} (r : Reader α) : Reader (List α) := do
  let n ← word 4
  times r n

-- ==== writing

/-- The reader takes exactly these bytes off the front of an input, for
this value. -/
def Reads {α : Type} (r : Reader α) (bytes : List UInt8) (a : α) : Prop :=
  ∀ rest, r (bytes ++ rest) = some (a, rest)

section Reads

variable {α β : Type} {r : Reader α} {f : α → Reader β}
  {x y : List UInt8} {a : α} {b : β}

theorem Reads.bind (hr : Reads r x a) (hf : Reads (f a) y b) :
    Reads (r >>= f) (x ++ y) b := by
  intro rest
  rw [List.append_assoc]
  exact bind_some.mpr ⟨a, y ++ rest, hr (y ++ rest), hf rest⟩

theorem reads_pure : Reads (pure a : Reader α) [] a := fun _ => rfl

theorem Reads.map {g : α → β} (hr : Reads r x a) (hb : g a = b) :
    Reads (r >>= fun a => pure (g a)) x b := by
  have h := hr.bind (f := fun a => pure (g a)) (reads_pure (a := g a))
  rw [List.append_nil, hb] at h
  exact h

theorem reads_fixed {n : Nat} (h : x.length = n) : Reads (fixed n) x x :=
  fun _ => fixed_some.mpr ⟨h, rfl⟩

theorem reads_word {n k : Nat} (h : k < 256 ^ n) :
    Reads (word n) (Bytes.le n k) k :=
  (reads_fixed (Bytes.length_le n k)).map (Bytes.leNat_le h)

theorem reads_signed {n : Nat} {t : Int} (hlo : -256 ^ n ≤ 2 * t)
    (hhi : 2 * t < 256 ^ n) : Reads (signed n) (Bytes.leInt n t) t :=
  (reads_fixed (Bytes.length_leInt n t)).map
    (Bytes.intOfLe_leInt hlo hhi)

/-- `String` as it is written. -/
def stringBytes (s : List UInt8) : List UInt8 := Bytes.le 4 s.length ++ s

theorem reads_string {s : List UInt8} (hlen : s.length < 256 ^ 4)
    (hutf : isUtf8 s = true) : Reads string (stringBytes s) s := by
  intro rest
  refine string_some.mpr ⟨Bytes.le 4 s.length, Bytes.length_le _ _,
    Bytes.leNat_le hlen, hutf, ?_⟩
  rw [stringBytes, List.append_assoc]

/-- `bool` as it is written. -/
def boolBytes (b : Bool) : List UInt8 := Bytes.le 1 (if b then 1 else 0)

theorem reads_bool (b : Bool) : Reads bool (boolBytes b) b := by
  cases b with
  | false => exact fun _ => rfl
  | true => exact fun _ => rfl

theorem reads_variant {variants : List α} {n : Nat} (h : n < 256)
    (ha : variants[n]? = some a) :
    Reads (variant variants) (Bytes.le 1 n) a := by
  have hread := (reads_word (n := 1) (k := n) h).bind
    (f := fun n => match variants[n]? with
      | some a => (pure a : Reader α)
      | none => failure) (y := []) (b := a) (by
        rw [ha]
        exact reads_pure)
  rw [List.append_nil] at hread
  exact hread

theorem reads_times {enc : β → List UInt8} {g : β → α} {l : List β}
    (h : ∀ b ∈ l, Reads r (enc b) (g b)) :
    Reads (times r l.length) (l.flatMap enc) (l.map g) := by
  induction l with
  | nil => exact reads_pure
  | cons b l ih =>
    have hhead := h b (List.mem_cons_self ..)
    have htail := ih fun c hc => h c (List.mem_cons_of_mem _ hc)
    rw [List.flatMap_cons]
    exact hhead.bind (htail.map rfl)

/-- `Vec` as it is written. -/
def vecBytes (enc : β → List UInt8) (l : List β) : List UInt8 :=
  Bytes.le 4 l.length ++ l.flatMap enc

theorem reads_vec {enc : β → List UInt8} {g : β → α} {l : List β}
    (hlen : l.length < 256 ^ 4) (h : ∀ b ∈ l, Reads r (enc b) (g b)) :
    Reads (vec r) (vecBytes enc l) (l.map g) :=
  (reads_word hlen).bind (reads_times h)

end Reads

-- ==== truncation

/-- What the reader makes of an input, it makes of every longer one. -/
def Streaming {α : Type} (r : Reader α) : Prop :=
  ∀ data a rest more, r data = some (a, rest) →
    r (data ++ more) = some (a, rest ++ more)

section Streaming

variable {α β : Type} {r : Reader α} {f : α → Reader β}

theorem Streaming.bind (hr : Streaming r) (hf : ∀ a, Streaming (f a)) :
    Streaming (r >>= f) := by
  intro data b rest more h
  obtain ⟨a, mid, ha, hb⟩ := bind_some.mp h
  exact bind_some.mpr ⟨a, mid ++ more, hr data a mid more ha,
    hf a mid b rest more hb⟩

theorem streaming_pure (a : α) : Streaming (pure a : Reader α) := by
  intro data b rest more h
  obtain ⟨rfl, rfl⟩ := pure_some.mp h
  rfl

theorem streaming_failure : Streaming (failure : Reader α) := by
  intro data a rest more h
  cases h

theorem streaming_fixed (n : Nat) : Streaming (fixed n) := by
  intro data x rest more h
  obtain ⟨hlen, hdata⟩ := fixed_some.mp h
  refine fixed_some.mpr ⟨hlen, ?_⟩
  rw [hdata, List.append_assoc]

theorem streaming_word (n : Nat) : Streaming (word n) :=
  (streaming_fixed n).bind fun _ => streaming_pure _

theorem streaming_signed (n : Nat) : Streaming (signed n) :=
  (streaming_fixed n).bind fun _ => streaming_pure _

theorem streaming_string : Streaming string := by
  refine (streaming_word 4).bind fun n => (streaming_fixed n).bind ?_
  intro s
  split
  · exact streaming_pure s
  · exact streaming_failure

theorem streaming_bool : Streaming bool := by
  refine (streaming_word 1).bind ?_
  intro n
  split
  · exact streaming_pure _
  · split
    · exact streaming_pure _
    · exact streaming_failure

theorem streaming_variant (variants : List α) :
    Streaming (variant variants) := by
  refine (streaming_word 1).bind ?_
  intro n
  split
  · exact streaming_pure _
  · exact streaming_failure

theorem streaming_times (hr : Streaming r) (n : Nat) :
    Streaming (times r n) := by
  induction n with
  | zero => exact streaming_pure _
  | succ n ih => exact hr.bind fun a => ih.bind fun l => streaming_pure _

theorem streaming_vec (hr : Streaming r) : Streaming (vec r) :=
  (streaming_word 4).bind fun n => streaming_times hr n

theorem Streaming.truncated (hr : Streaming r) {x data more : List UInt8}
    {a : α} (ha : Reads r x a) (hx : x = data ++ more) (hm : more ≠ []) :
    r data = none := by
  cases hd : r data with
  | none => rfl
  | some out =>
    obtain ⟨b, rest⟩ := out
    have hlong := hr data b rest more hd
    have hfull := ha []
    rw [List.append_nil, hx, hlong, Option.some.injEq, Prod.mk.injEq]
      at hfull
    exact absurd (List.append_eq_nil_iff.mp hfull.2).2 hm

end Streaming

end Borsh
