/-
The Ed25519 precompile, by its documented semantics.

The precompile's instruction data starts with a signature count and a
padding byte, then one 14-byte entry per signature: the offsets of the
signature, the public key and the message, each with the index of the
instruction whose data it is read from (0xFFFF is the instruction
itself), and the message size. A transaction is accepted only if every
entry reads in bounds and verifies.

`verify` is the signature check itself. It is a parameter: nothing here
looks inside it.
-/
import KamiyoProtocol.Lib.Bytes
import KamiyoProtocol.Solana.Runtime

namespace KamiyoProtocol.Solana.Ed25519

/-- `ed25519_program::ID`. -/
def programId : Pubkey :=
  ⟨[3, 125, 70, 214, 124, 147, 251, 190, 18, 249, 66, 143, 131, 141, 64,
    255, 5, 112, 116, 73, 39, 244, 138, 100, 252, 202, 112, 68, 128, 0,
    0, 0]⟩

/-- What an entry asks to be verified. -/
structure Triple where
  signature : Bytes
  pubkey : Bytes
  message : Bytes
deriving DecidableEq

/-- The data an instruction index names: the precompile's own, or that
of another instruction of the transaction. -/
def dataAt (ixs : List Instruction) (self : Bytes) (index : Nat) :
    Option Bytes :=
  if index = 0xFFFF then some self else (ixs[index]?).map (·.data)

/-- A slice of the data an instruction index names. -/
def read (ixs : List Instruction) (self : Bytes) (index off len : Nat) :
    Option Bytes :=
  (dataAt ixs self index).bind fun d => Bytes.window d off len

/-- What entry `j` of the precompile data `self` reads; `none` is a data
error, which fails the transaction. -/
def entry (ixs : List Instruction) (self : Bytes) (j : Nat) :
    Option Triple :=
  let base := 2 + 14 * j
  if base + 14 ≤ self.length then
    match read ixs self (Bytes.u16At self (base + 2))
        (Bytes.u16At self base) 64,
      read ixs self (Bytes.u16At self (base + 6))
        (Bytes.u16At self (base + 4)) 32,
      read ixs self (Bytes.u16At self (base + 12))
        (Bytes.u16At self (base + 8)) (Bytes.u16At self (base + 10)) with
    | some s, some p, some m => some ⟨s, p, m⟩
    | _, _, _ => none
  else none

/-- Number of entries of the precompile data. -/
def count (data : Bytes) : Nat := (data[0]?.getD 0).toNat

/-- Every precompile instruction has only entries that read and
verify. -/
def Accepted (verify : Triple → Bool) (ixs : List Instruction) : Prop :=
  ∀ ix ∈ ixs, ix.programId = programId → ∀ j < count ix.data,
    ∃ t, entry ixs ix.data j = some t ∧ verify t = true

/-- Some precompile instruction of the transaction has an entry reading
exactly this triple. -/
def Checked (ixs : List Instruction) (t : Triple) : Prop :=
  ∃ ix ∈ ixs, ix.programId = programId ∧ ∃ j < count ix.data,
    entry ixs ix.data j = some t

variable {t : Triple}

theorem Accepted.verified {verify : Triple → Bool}
    {ixs : List Instruction} (ha : Accepted verify ixs)
    (hc : Checked ixs t) : verify t = true := by
  obtain ⟨ix, hix, hid, j, hj, ht⟩ := hc
  obtain ⟨t', ht', hv⟩ := ha ix hix hid j hj
  rw [ht] at ht'
  cases ht'
  exact hv

-- ==== indexes

/-- The three instruction indexes of an entry. -/
structure Indexes where
  signature : Nat
  pubkey : Nat
  message : Nat

/-- The indexes of the first entry of precompile data. -/
def indexes (data : Bytes) : Indexes :=
  ⟨Bytes.u16At data 4, Bytes.u16At data 8, Bytes.u16At data 14⟩

/-- An index that names the instruction at `i` it stands in. -/
def NamesSelf (i index : Nat) : Prop := index = 0xFFFF ∨ index = i
  deriving Decidable

/-- An index that names no instruction of a transaction of `n`. -/
def NamesNone (n index : Nat) : Prop := index ≠ 0xFFFF ∧ n ≤ index
  deriving Decidable

/-- All three name the instruction itself. -/
def Indexes.Self (x : Indexes) (i : Nat) : Prop :=
  NamesSelf i x.signature ∧ NamesSelf i x.pubkey ∧ NamesSelf i x.message
  deriving Decidable

/-- One of the three names no instruction. -/
def Indexes.Dangling (x : Indexes) (n : Nat) : Prop :=
  NamesNone n x.signature ∨ NamesNone n x.pubkey ∨ NamesNone n x.message
  deriving Decidable

variable {ixs : List Instruction} {ix : Instruction} {i n index : Nat}

theorem dataAt_self (hget : ixs[i]? = some ix) (h : NamesSelf i index) :
    dataAt ixs ix.data index = some ix.data := by
  unfold dataAt
  rcases h with h | h
  · rw [if_pos h]
  · split
    · rfl
    · rw [h, hget]
      rfl

theorem dataAt_none (hlen : ixs.length = n) (h : NamesNone n index)
    (self : Bytes) : dataAt ixs self index = none := by
  unfold dataAt
  rw [if_neg h.1, List.getElem?_eq_none (hlen ▸ h.2)]
  rfl

/-- The first entry reads a triple exactly when its three reads do. -/
theorem entry_zero {data : Bytes} (hlen : 16 ≤ data.length)
    (hs : read ixs data (indexes data).signature
      (Bytes.u16At data 2) 64 = some t.signature)
    (hp : read ixs data (indexes data).pubkey
      (Bytes.u16At data 6) 32 = some t.pubkey)
    (hm : read ixs data (indexes data).message
      (Bytes.u16At data 10) (Bytes.u16At data 12) = some t.message) :
    entry ixs data 0 = some t := by
  unfold entry
  dsimp only [indexes] at hs hp hm
  simp only [Nat.mul_zero, Nat.add_zero]
  rw [if_pos hlen, hs, hp, hm]

theorem count_one {data : Bytes} (h : data[0]? = some 1) :
    count data = 1 := by
  rw [count, h]
  rfl

-- ==== layout

/-- The sizes a one-entry layout can carry. -/
structure Triple.Sized (t : Triple) : Prop where
  signature : t.signature.length = 64
  pubkey : t.pubkey.length = 32
  message : t.message.length < 2 ^ 16

/-- Count, padding and one entry, for a message of `n` bytes. -/
def header (x : Indexes) (n : Nat) : Bytes :=
  [1, 0] ++ (Bytes.u16le 16 ++ (Bytes.u16le x.signature
    ++ (Bytes.u16le 80 ++ (Bytes.u16le x.pubkey ++ (Bytes.u16le 112
    ++ (Bytes.u16le n ++ Bytes.u16le x.message))))))

/-- One-entry precompile data carrying `t` right after the header. -/
def layout (x : Indexes) (t : Triple) : Bytes :=
  header x t.message.length ++ (t.signature ++ (t.pubkey ++ t.message))

theorem indexes_layout {x : Indexes} (t : Triple)
    (h₁ : x.signature < 2 ^ 16) (h₂ : x.pubkey < 2 ^ 16)
    (h₃ : x.message < 2 ^ 16) : indexes (layout x t) = x := by
  show Indexes.mk
    ((UInt8.ofNat x.signature).toNat
      + 256 * (UInt8.ofNat (x.signature / 256)).toNat)
    ((UInt8.ofNat x.pubkey).toNat + 256 * (UInt8.ofNat (x.pubkey / 256)).toNat)
    ((UInt8.ofNat x.message).toNat
      + 256 * (UInt8.ofNat (x.message / 256)).toNat) = x
  rw [Bytes.u16le_toNat h₁, Bytes.u16le_toNat h₂, Bytes.u16le_toNat h₃]

/-- The header decodes to one entry, the fixed offsets and the message
size. -/
theorem layout_header {x : Indexes} (ht : t.Sized) :
    (layout x t)[0]? = some 1 ∧ 16 ≤ (layout x t).length
      ∧ Bytes.u16At (layout x t) 2 = 16
      ∧ Bytes.u16At (layout x t) 6 = 80
      ∧ Bytes.u16At (layout x t) 10 = 112
      ∧ Bytes.u16At (layout x t) 12 = t.message.length := by
  refine ⟨rfl, ?_, rfl, rfl, rfl, ?_⟩
  · have hlen : (header x t.message.length).length = 16 := rfl
    rw [layout, List.length_append, hlen]
    exact Nat.le_add_right _ _
  · exact Bytes.u16le_toNat ht.message

theorem layout_windows {x : Indexes} (ht : t.Sized) :
    Bytes.window (layout x t) 16 64 = some t.signature
      ∧ Bytes.window (layout x t) 80 32 = some t.pubkey
      ∧ Bytes.window (layout x t) 112 t.message.length = some t.message := by
  have hlen : (header x t.message.length).length = 16 := rfl
  have hsig : (header x t.message.length ++ t.signature).length = 80 := by
    rw [List.length_append, hlen, ht.signature]
  have hkey : ((header x t.message.length ++ t.signature)
      ++ t.pubkey).length = 112 := by
    rw [List.length_append, hsig, ht.pubkey]
  refine ⟨?_, ?_, ?_⟩
  · have h := Bytes.window_append (header x t.message.length) t.signature
      (t.pubkey ++ t.message)
    rw [hlen, ht.signature] at h
    exact h
  · have h := Bytes.window_append (header x t.message.length
      ++ t.signature) t.pubkey t.message
    rw [hsig, ht.pubkey, List.append_assoc] at h
    exact h
  · have h := Bytes.window_append ((header x t.message.length
      ++ t.signature) ++ t.pubkey) t.message []
    rw [hkey, List.append_nil, List.append_assoc, List.append_assoc] at h
    exact h

/-- The indexes of an instruction that reads its own bytes. -/
def ownIndexes : Indexes := ⟨0xFFFF, 0xFFFF, 0xFFFF⟩

theorem entry_layout (ht : t.Sized) (ixs : List Instruction) :
    entry ixs (layout ownIndexes t) 0 = some t := by
  obtain ⟨-, hlen, hso, hpo, hmo, hms⟩ := layout_header (x := ownIndexes) ht
  obtain ⟨hs, hp, hm⟩ := layout_windows (x := ownIndexes) ht
  have hx : indexes (layout ownIndexes t) = ownIndexes :=
    indexes_layout t (by decide) (by decide) (by decide)
  refine entry_zero hlen ?_ ?_ ?_
  · rw [hx, hso]
    exact hs
  · rw [hx, hpo]
    exact hp
  · rw [hx, hmo, hms]
    exact hm

-- ==== splice

/-- A transaction of `n` instructions whose only precompile instruction
is at `i`, with data `own`; the others belong to another program and
carry `donor`. -/
def splice (n i : Nat) (own donor : Bytes) : List Instruction :=
  (List.range n).map fun j =>
    if j = i then ⟨programId, own⟩ else ⟨⟨[]⟩, donor⟩

theorem length_splice (n i : Nat) (own donor : Bytes) :
    (splice n i own donor).length = n := by
  simp [splice]

theorem getElem_splice {own donor : Bytes} (hi : i < n) :
    (splice n i own donor)[i]? = some ⟨programId, own⟩ := by
  simp [splice, hi]

theorem of_mem_splice {own donor : Bytes}
    (h : ix ∈ splice n i own donor) (hid : ix.programId = programId) :
    ix = ⟨programId, own⟩ := by
  obtain ⟨j, -, hj⟩ := List.mem_map.mp h
  by_cases hji : j = i
  · rw [if_pos hji] at hj
    exact hj.symm
  · rw [if_neg hji] at hj
    rw [← hj] at hid
    cases hid

/-- What a read that resolves finds in a splice: its own bytes if the
index names the instruction itself, the donor's otherwise. -/
theorem read_splice {own donor s : Bytes} {off len : Nat} (hi : i < n)
    (hin : ¬ NamesNone n index)
    (hown : NamesSelf i index → Bytes.window own off len = some s)
    (hdonor : ¬ NamesSelf i index → Bytes.window donor off len = some s) :
    read (splice n i own donor) own index off len = some s := by
  unfold read
  by_cases hself : NamesSelf i index
  · have hget : (splice n i own donor)[i]? = some ⟨programId, own⟩ :=
      getElem_splice hi
    have hdata : dataAt (splice n i own donor) own index = some own :=
      dataAt_self hget hself
    rw [hdata]
    exact hown hself
  · have hne : index ≠ 0xFFFF := fun h => hself (.inl h)
    have hlt : index < n := by
      by_contra hge
      exact hin ⟨hne, Nat.le_of_not_lt hge⟩
    have hdata : dataAt (splice n i own donor) own index = some donor := by
      unfold dataAt
      rw [if_neg hne]
      have hni : index ≠ i := fun h => hself (.inr h)
      simp [splice, hlt, hni]
    rw [hdata]
    exact hdonor hself

end KamiyoProtocol.Solana.Ed25519
