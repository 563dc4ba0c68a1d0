/-
Signature introspection: how the kamiyo program decides that a signature
was verified by the transaction it runs in.

`findEd25519Instruction` scans the first sixteen instructions for an
Ed25519 precompile instruction with one entry whose own bytes, at the
offsets of the entry, are the expected signature, key and message. It
never reads the three instruction indexes of the entry, so what it
compares and what the precompile verified are the same bytes only if the
indexes name the instruction itself.
-/
import KamiyoProtocol.Solana.Ed25519
import KamiyoProtocol.Kamiyo.State

namespace KamiyoProtocol.Kamiyo

open Solana
open Solana.Ed25519 (Triple Indexes NamesSelf Accepted Checked)

def maxInstructions : Nat := 16

/-- The loop body: does this instruction carry the expected triple in
its own data? -/
def matchesEd25519 (ix : Instruction) (t : Triple) : Bool :=
  ix.programId = Ed25519.programId
    && 16 ≤ ix.data.length
    && ix.data[0]? = some 1
    && Bytes.window ix.data (Bytes.u16At ix.data 2) 64 = some t.signature
    && Bytes.window ix.data (Bytes.u16At ix.data 6) 32 = some t.pubkey
    && Bytes.window ix.data (Bytes.u16At ix.data 10)
        (Bytes.u16At ix.data 12)
      = some t.message

def findEd25519Instruction (ixs : List Instruction) (t : Triple) :
    Outcome Unit :=
  ensure ((ixs.take maxInstructions).any fun ix => matchesEd25519 ix t)
    .invalidSignature

def verifyEd25519Signature (ixs : List Instruction) (signature : Bytes)
    (verifier : Pubkey) (message : Bytes) : Outcome Unit :=
  findEd25519Instruction ixs ⟨signature, verifier.bytes, message⟩

variable {t : Triple}

/-- The introspection succeeds exactly on a match among the first
sixteen instructions. -/
theorem findEd25519Instruction_ok {ixs : List Instruction} {u : Unit} :
    findEd25519Instruction ixs t = .ok u
      ↔ ∃ i ix, i < maxInstructions ∧ ixs[i]? = some ix
          ∧ matchesEd25519 ix t = true := by
  rw [findEd25519Instruction, ensure_ok, List.any_eq_true]
  constructor
  · rintro ⟨ix, hix, hm⟩
    obtain ⟨i, hi⟩ := List.mem_iff_getElem?.mp hix
    have hlt : i < maxInstructions := by
      by_contra hge
      rw [List.getElem?_take_eq_none (by omega)] at hi
      cases hi
    rw [List.getElem?_take_of_lt hlt] at hi
    exact ⟨i, ix, hlt, hi, hm⟩
  · rintro ⟨i, ix, hlt, hi, hm⟩
    refine ⟨ix, List.mem_iff_getElem?.mpr ⟨i, ?_⟩, hm⟩
    rw [List.getElem?_take_of_lt hlt]
    exact hi

variable {ix : Instruction}

/-- What a match compared. -/
theorem matchesEd25519_iff :
    matchesEd25519 ix t = true
      ↔ ix.programId = Ed25519.programId ∧ 16 ≤ ix.data.length
        ∧ ix.data[0]? = some 1
        ∧ Bytes.window ix.data (Bytes.u16At ix.data 2) 64 = some t.signature
        ∧ Bytes.window ix.data (Bytes.u16At ix.data 6) 32 = some t.pubkey
        ∧ Bytes.window ix.data (Bytes.u16At ix.data 10)
            (Bytes.u16At ix.data 12) = some t.message := by
  simp [matchesEd25519, and_assoc]

-- ==== soundness

/-- A match whose indexes name the instruction itself was checked: the
precompile read the bytes that were compared. -/
theorem checked_of_self {ixs : List Instruction}
    {i : Nat} (hget : ixs[i]? = some ix)
    (hm : matchesEd25519 ix t = true)
    (hself : (Ed25519.indexes ix.data).Self i) : Checked ixs t := by
  obtain ⟨hid, hlen, hone, hs, hp, hmsg⟩ := matchesEd25519_iff.mp hm
  refine ⟨ix, List.mem_of_getElem? hget, hid, 0, ?_, Ed25519.entry_zero hlen ?_ ?_
    ?_⟩
  · rw [Ed25519.count_one hone]
    exact Nat.one_pos
  · rw [Ed25519.read, Ed25519.dataAt_self hget hself.1]
    exact hs
  · rw [Ed25519.read, Ed25519.dataAt_self hget hself.2.1]
    exact hp
  · rw [Ed25519.read, Ed25519.dataAt_self hget hself.2.2]
    exact hmsg

/-- No accepted transaction has a precompile instruction with a dangling
index. -/
theorem not_accepted_of_dangling {verify : Triple → Bool}
    {ixs : List Instruction} {n : Nat}
    (hlen : ixs.length = n) (hmem : ix ∈ ixs)
    (hid : ix.programId = Ed25519.programId)
    (hone : ix.data[0]? = some 1)
    (hx : (Ed25519.indexes ix.data).Dangling n) :
    ¬ Accepted verify ixs := by
  intro hacc
  obtain ⟨t, ht, -⟩ := hacc ix hmem hid 0 (by
    rw [Ed25519.count_one hone]
    exact Nat.one_pos)
  have hread : ∀ index off len, Ed25519.NamesNone n index →
      Ed25519.read ixs ix.data index off len = none := by
    intro index off len hn
    rw [Ed25519.read, Ed25519.dataAt_none hlen hn]
    rfl
  unfold Ed25519.entry at ht
  simp only [Nat.mul_zero, Nat.add_zero] at ht
  split at ht
  · split at ht
    · next s p m hs hp hm =>
        rcases hx with h | h | h
        · cases hs.symm.trans (hread _ _ _ h)
        · cases hp.symm.trans (hread _ _ _ h)
        · cases hm.symm.trans (hread _ _ _ h)
    · cases ht
  · cases ht

-- ==== forgery

/-- A byte string of the same length that differs, unless it is empty. -/
def tweak : Bytes → Bytes
  | [] => []
  | b :: rest => (b + 1) :: rest

theorem length_tweak (bs : Bytes) : (tweak bs).length = bs.length := by
  cases bs with
  | nil => rfl
  | cons b rest => rfl

theorem tweak_ne {bs : Bytes} (h : 0 < bs.length) : tweak bs ≠ bs := by
  cases bs with
  | nil => simp at h
  | cons b rest =>
    intro heq
    simp only [tweak, List.cons.injEq, and_true] at heq
    have := congrArg UInt8.toNat heq
    simp only [UInt8.toNat_add, UInt8.reduceToNat] at this
    omega

/-- The triple `t` with every part altered that an index reads from
elsewhere. -/
def forge (x : Indexes) (i : Nat) (t : Triple) : Triple :=
  { signature := if NamesSelf i x.signature then t.signature
      else tweak t.signature
    pubkey := if NamesSelf i x.pubkey then t.pubkey else tweak t.pubkey
    message := if NamesSelf i x.message then t.message
      else tweak t.message }

theorem forge_sized {x : Indexes} {i : Nat} (h : t.Sized) :
    (forge x i t).Sized ∧ (forge x i t).message.length = t.message.length := by
  have hlen : ∀ (c : Prop) [Decidable c] (bs : Bytes),
      (if c then bs else tweak bs).length = bs.length := by
    intro c _ bs
    split
    · rfl
    · exact length_tweak bs
  refine ⟨⟨?_, ?_, ?_⟩, hlen _ _⟩
  · exact (hlen _ _).trans h.signature
  · exact (hlen _ _).trans h.pubkey
  · show (if _ then _ else _ : Bytes).length < _
    rw [hlen]
    exact h.message

/-- A forgery differs from its original unless every index names the
instruction itself. -/
theorem forge_ne {x : Indexes} {i : Nat} (h : t.Sized)
    (hmsg : 0 < t.message.length) (hx : ¬ x.Self i) :
    forge x i t ≠ t := by
  intro heq
  apply hx
  refine ⟨?_, ?_, ?_⟩
  · by_contra hno
    have hs := congrArg Triple.signature heq
    simp only [forge, if_neg hno] at hs
    refine tweak_ne ?_ hs
    rw [h.signature]
    decide
  · by_contra hno
    have hp := congrArg Triple.pubkey heq
    simp only [forge, if_neg hno] at hp
    refine tweak_ne ?_ hp
    rw [h.pubkey]
    decide
  · by_contra hno
    have hm := congrArg Triple.message heq
    simp only [forge, if_neg hno] at hm
    exact tweak_ne hmsg hm

/-- The transaction that carries the forgery in the precompile
instruction at `i` and the verifiable original everywhere else. -/
def forgedTx (n i : Nat) (x : Indexes) (t : Triple) : List Instruction :=
  Ed25519.splice n i (Ed25519.layout x (forge x i t)) (Ed25519.layout x t)

/-- The precompile verifies the original: what an index reads is either
unaltered or taken from elsewhere. -/
theorem entry_forgedTx {n i : Nat} {x : Indexes}
    (ht : t.Sized) (hi : i < n) (hx : ¬ x.Dangling n)
    (h₁ : x.signature < 2 ^ 16) (h₂ : x.pubkey < 2 ^ 16)
    (h₃ : x.message < 2 ^ 16) :
    Ed25519.entry (forgedTx n i x t) (Ed25519.layout x (forge x i t)) 0
      = some t := by
  obtain ⟨hf, hflen⟩ := forge_sized (x := x) (i := i) ht
  obtain ⟨-, hlen, ho₂, ho₆, ho₁₀, ho₁₂⟩ := Ed25519.layout_header (x := x) hf
  obtain ⟨hs, hp, hm⟩ := Ed25519.layout_windows (x := x) hf
  obtain ⟨ds, dp, dm⟩ := Ed25519.layout_windows (x := x) ht
  rw [hflen] at hm ho₁₂
  have hindex := Ed25519.indexes_layout (forge x i t) h₁ h₂ h₃
  refine Ed25519.entry_zero hlen ?_ ?_ ?_
  · rw [hindex, ho₂]
    refine Ed25519.read_splice hi (fun h => hx (.inl h)) ?_ fun _ => ds
    intro hself
    rw [hs, forge, if_pos hself]
  · rw [hindex, ho₆]
    refine Ed25519.read_splice hi (fun h => hx (.inr (.inl h))) ?_
      fun _ => dp
    intro hself
    rw [hp, forge, if_pos hself]
  · rw [hindex, ho₁₀, ho₁₂]
    refine Ed25519.read_splice hi (fun h => hx (.inr (.inr h))) ?_
      fun _ => dm
    intro hself
    rw [hm, forge]
    dsimp only
    rw [if_pos hself]

theorem forgedTx_matches {i : Nat} {x : Indexes} (ht : t.Sized) :
    matchesEd25519 ⟨Ed25519.programId, Ed25519.layout x (forge x i t)⟩
      (forge x i t) = true := by
  obtain ⟨hf, -⟩ := forge_sized (x := x) (i := i) ht
  obtain ⟨hone, hlen, ho₂, ho₆, ho₁₀, ho₁₂⟩ :=
    Ed25519.layout_header (x := x) hf
  obtain ⟨hs, hp, hm⟩ := Ed25519.layout_windows (x := x) hf
  rw [matchesEd25519_iff]
  dsimp only
  rw [ho₂, ho₆, ho₁₀, ho₁₂]
  exact ⟨rfl, hlen, hone, hs, hp, hm⟩

section Forged

variable {verify : Triple → Bool} {v : Triple} {n i : Nat} {x : Indexes}

theorem only_entry {j : Nat} (hmem : ix ∈ forgedTx n i x v)
    (hid : ix.programId = Ed25519.programId)
    (hj : j < Ed25519.count ix.data) :
    ix = ⟨Ed25519.programId, Ed25519.layout x (forge x i v)⟩ ∧ j = 0 := by
  obtain rfl := Ed25519.of_mem_splice hmem hid
  refine ⟨rfl, ?_⟩
  have hone : Ed25519.count (Ed25519.layout x (forge x i v)) = 1 :=
    Ed25519.count_one rfl
  dsimp only at hj
  omega

theorem forgedTx_accepted (hv : verify v = true) (ht : v.Sized)
    (hi : i < n) (hx : ¬ x.Dangling n) (h₁ : x.signature < 2 ^ 16)
    (h₂ : x.pubkey < 2 ^ 16) (h₃ : x.message < 2 ^ 16) :
    Accepted verify (forgedTx n i x v) := by
  intro ix hmem hid j hj
  obtain ⟨rfl, rfl⟩ := only_entry hmem hid hj
  exact ⟨v, entry_forgedTx ht hi hx h₁ h₂ h₃, hv⟩

theorem forgedTx_found (ht : v.Sized) (hn : n ≤ maxInstructions) (hi : i < n) :
    findEd25519Instruction (forgedTx n i x v) (forge x i v) = .ok () :=
  findEd25519Instruction_ok.mpr ⟨i, _, Nat.lt_of_lt_of_le hi hn,
    Ed25519.getElem_splice hi, forgedTx_matches ht⟩

theorem forgedTx_unchecked (ht : v.Sized) (hmsg : 0 < v.message.length)
    (hi : i < n) (hself : ¬ x.Self i) (hx : ¬ x.Dangling n)
    (h₁ : x.signature < 2 ^ 16) (h₂ : x.pubkey < 2 ^ 16)
    (h₃ : x.message < 2 ^ 16) :
    ¬ Checked (forgedTx n i x v) (forge x i v) := by
  rintro ⟨ix, hmem, hid, j, hj, hentry⟩
  obtain ⟨rfl, rfl⟩ := only_entry hmem hid hj
  dsimp only at hentry
  rw [entry_forgedTx ht hi hx h₁ h₂ h₃] at hentry
  exact forge_ne ht hmsg hself (Option.some.inj hentry).symm

/-- In every accepted transaction of `n` instructions, what the program
finds in the instruction at `i`, when its indexes are `x`, the precompile
checked. -/
def FoundIsChecked (verify : Triple → Bool) (n i : Nat) (x : Indexes) :
    Prop :=
  ∀ ixs ix t, ixs.length = n → Accepted verify ixs →
    findEd25519Instruction ixs t = .ok () → ixs[i]? = some ix →
    matchesEd25519 ix t = true → Ed25519.indexes ix.data = x →
    Checked ixs t

/-- For a precompile that verifies at least one signature over a nonempty
message: what is found was checked, for every content of the transaction,
if and only if the three indexes name the instruction itself, or one of
them names none and the transaction is never accepted. -/
theorem found_is_checked_iff (hv : verify v = true) (ht : v.Sized)
    (hmsg : 0 < v.message.length) (hn : n ≤ maxInstructions) (hi : i < n)
    (h₁ : x.signature < 2 ^ 16) (h₂ : x.pubkey < 2 ^ 16)
    (h₃ : x.message < 2 ^ 16) :
    FoundIsChecked verify n i x ↔ x.Self i ∨ x.Dangling n := by
  constructor
  · intro hall
    by_cases hself : x.Self i
    · exact .inl hself
    · right
      by_contra hx
      refine forgedTx_unchecked ht hmsg hi hself hx h₁ h₂ h₃ ?_
      exact hall _ _ _ (Ed25519.length_splice _ _ _ _)
        (forgedTx_accepted hv ht hi hx h₁ h₂ h₃) (forgedTx_found ht hn hi)
        (Ed25519.getElem_splice hi) (forgedTx_matches ht)
        (Ed25519.indexes_layout _ h₁ h₂ h₃)
  · rintro hx ixs ix t hlen hacc - hget hm hindex
    rcases hx with hself | hdangling
    · rw [← hindex] at hself
      exact checked_of_self hget hm hself
    · obtain ⟨hid, -, hone, -⟩ := matchesEd25519_iff.mp hm
      rw [← hindex] at hdangling
      exact absurd hacc (not_accepted_of_dangling hlen
        (List.mem_of_getElem? hget) hid hone hdangling)

end Forged

/-- A published Ed25519 test vector: the one-byte message 0x72. -/
def testVector : Triple :=
  { signature :=
      [0x92, 0xa0, 0x09, 0xa9, 0xf0, 0xd4, 0xca, 0xb8, 0x72, 0x0e, 0x82,
       0x0b, 0x5f, 0x64, 0x25, 0x40, 0xa2, 0xb2, 0x7b, 0x54, 0x16, 0x50,
       0x3f, 0x8f, 0xb3, 0x76, 0x22, 0x23, 0xeb, 0xdb, 0x69, 0xda, 0x08,
       0x5a, 0xc1, 0xe4, 0x3e, 0x15, 0x99, 0x6e, 0x45, 0x8f, 0x36, 0x13,
       0xd0, 0xf1, 0x1d, 0x8c, 0x38, 0x7b, 0x2e, 0xae, 0xb4, 0x30, 0x2a,
       0xee, 0xb0, 0x0d, 0x29, 0x16, 0x12, 0xbb, 0x0c, 0x00]
    pubkey :=
      [0x3d, 0x40, 0x17, 0xc3, 0xe8, 0x43, 0x89, 0x5a, 0x92, 0xb7, 0x0a,
       0xa7, 0x4d, 0x1b, 0x7e, 0xbc, 0x9c, 0x98, 0x2c, 0xcf, 0x2e, 0xc4,
       0x96, 0x8c, 0xc0, 0xcd, 0x55, 0xf1, 0x2a, 0xf4, 0x66, 0x0c]
    message := [0x72] }

theorem testVector_sized : testVector.Sized :=
  ⟨by decide, by decide, by decide⟩

/-- A verifier that knows the test vector. -/
def verifyVector (t : Triple) : Bool := t = testVector

/-- An instruction that reads its own bytes. -/
theorem found_is_checked_iff_self :
    FoundIsChecked verifyVector 1 0 ⟨0xFFFF, 0xFFFF, 0xFFFF⟩
      ↔ Indexes.Self ⟨0xFFFF, 0xFFFF, 0xFFFF⟩ 0
        ∨ Indexes.Dangling ⟨0xFFFF, 0xFFFF, 0xFFFF⟩ 1 :=
  found_is_checked_iff (v := testVector) (by decide) testVector_sized
    (by decide) (by decide) (by decide) (by decide) (by decide)
    (by decide)

/-- Two instructions: the precompile one shows the program a signature, a
key and a message that verify nowhere, and reads the test vector from the
other. -/
theorem found_not_checked :
    ∃ ixs t, ixs.length = 2 ∧ Accepted verifyVector ixs
      ∧ findEd25519Instruction ixs t = .ok () ∧ ¬ Checked ixs t
      ∧ verifyVector t = false :=
  ⟨forgedTx 2 0 ⟨1, 1, 1⟩ testVector, forge ⟨1, 1, 1⟩ 0 testVector,
    Ed25519.length_splice _ _ _ _,
    forgedTx_accepted (by decide) testVector_sized (by decide) (by decide)
      (by decide) (by decide) (by decide),
    forgedTx_found testVector_sized (by decide) (by decide),
    forgedTx_unchecked testVector_sized (by decide) (by decide) (by decide)
      (by decide) (by decide) (by decide) (by decide), by decide⟩

end KamiyoProtocol.Kamiyo
