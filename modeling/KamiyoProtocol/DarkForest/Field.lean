/-
`field.c` of `dark-forest-core`, as it is built without assembly.

Elements are four limbs of 64 bits, a product eight. Loops that carry from
limb to limb are those of `Limbs`; every result is written only after the
limbs it depends on are read, so that a result may be stored over an operand.
-/
import KamiyoProtocol.Lib.Limbs
import KamiyoProtocol.Lib.Bn254
import Mathlib.Data.Vector.Basic
import Mathlib.FieldTheory.Finite.Basic

namespace KamiyoProtocol.DarkForest.Portable

/-- The base of the limbs. -/
abbrev word : Nat := 2 ^ 64

theorem one_lt_word : 1 < word := by decide

theorem word_pos : 0 < word := by decide

/-- `uint64_t[n]`. -/
structure Words (n : Nat) where
  limbs : List Nat
  valid : Limbs.Valid word n limbs

/-- `field_t`. -/
abbrev Field := Words 4

/-- The number the limbs stand for. -/
def Words.value {n : Nat} (a : Words n) : Nat := Nat.ofDigits word a.limbs

variable {n : Nat}

theorem Words.value_lt (a : Words n) : a.value < word ^ n :=
  a.valid.value_lt one_lt_word

theorem Words.ext_value {a b : Words n} (h : a.value = b.value) :
    a = b := by
  obtain ⟨xs, hxs⟩ := a
  obtain ⟨ys, hys⟩ := b
  congr
  exact hxs.ext hys one_lt_word h

-- ==== constants

def fieldModulus : Field :=
  ⟨[0x3C208C16D87CFD47, 0x97816A916871CA8D, 0xB85045B68181585D,
    0x30644E72E131A029], by decide⟩

def fieldR : Field :=
  ⟨[0xD35D438DC58F0D9D, 0x0A78EB28F5C70B3D, 0x666EA36F7879462C,
    0x0E0A77C19A07DF2F], by decide⟩

def fieldR2 : Field :=
  ⟨[0xF32CFC5B538AFA89, 0xB5E71911D44501FB, 0x47AB1EFF0A417FF6,
    0x06D89F71CAB8351F], by decide⟩

/-- `FIELD_INV`. -/
def fieldInvWord : Nat := 0x87D20782E4866389

-- ==== 256 bits

/-- `add_256`, and the carry out. -/
def add256 (a b : Field) : Field × Nat :=
  let r := Limbs.add word a.limbs b.limbs 0
  (⟨r.1, a.valid.length ▸ Limbs.add_valid word_pos
    (b.valid.length.trans a.valid.length.symm)⟩, r.2)

/-- `sub_256`, and whether it borrows. -/
def sub256 (a b : Field) : Field × Nat :=
  let r := Limbs.sub word a.limbs b.limbs 0
  (⟨r.1, a.valid.length ▸ Limbs.sub_valid word_pos
    (b.valid.length.trans a.valid.length.symm)⟩, if r.2 < 0 then 1 else 0)

/-- `(x & ~mask) | (y & mask)`. -/
def selectWord (mask x y : Nat) : Nat :=
  (x &&& (word - 1 - mask)) ||| (y &&& mask)

theorem selectWord_lt {mask x y : Nat} (hx : x < word) (hy : y < word) :
    selectWord mask x y < word :=
  Nat.or_lt_two_pow (Nat.lt_of_le_of_lt Nat.and_le_left hx)
    (Nat.lt_of_le_of_lt Nat.and_le_left hy)

theorem zipWith_valid {mask : Nat} {xs : List Nat} :
    ∀ {n : Nat} {ys : List Nat}, Limbs.Valid word n xs → Limbs.Valid word n ys →
      Limbs.Valid word n (List.zipWith (selectWord mask) xs ys) := by
  induction xs with
  | nil => exact fun hx _ => hx
  | cons x xs ih =>
    intro n ys hx hy
    cases ys with
    | nil => exact hy
    | cons y ys =>
      obtain rfl : n = xs.length + 1 := hx.length.symm
      exact .cons (selectWord_lt hx.tail.1 hy.tail.1)
        (ih hx.tail.2 hy.tail.2)

/-- The limbs of one number or of the other, by a mask. -/
def select {n : Nat} (mask : Nat) (r tmp : Words n) : Words n :=
  ⟨List.zipWith (selectWord mask) r.limbs tmp.limbs,
    zipWith_valid r.valid tmp.valid⟩

/-- `mul_256x256`: the rows are added over four zeros; each writes its carry
above. -/
def mul256 (a b : Field) : Words 8 :=
  ⟨Limbs.mulRows word a.limbs b.limbs [0, 0, 0, 0],
    Limbs.mulRows_valid (by decide) b.valid a.valid (by decide)⟩

def sqr256 (a : Field) : Words 8 := mul256 a a

/-- `mont_reduce`: a limb that was cleared is not read again. -/
def montReduce (t : Words 8) : Field :=
  let r : Field := ⟨Limbs.montgomery word fieldInvWord fieldModulus.limbs 4
    t.limbs, Limbs.montgomery_valid word_pos (by decide) 4 t.valid⟩
  let (tmp, borrow) := sub256 r fieldModulus
  let mask := (borrow + (word - 1)) % word
  select mask r tmp

-- ==== field

def fieldAdd (a b : Field) : Field :=
  let (r, carry) := add256 a b
  let (tmp, borrow) := sub256 r fieldModulus
  let useReduced := carry ||| (borrow ^^^ 1)
  let mask := (word - useReduced) % word
  select mask r tmp

def fieldSub (a b : Field) : Field :=
  let (r, borrow) := sub256 a b
  let (tmp, _) := add256 r fieldModulus
  let mask := (word - borrow) % word
  select mask r tmp

def fieldMul (a b : Field) : Field := montReduce (mul256 a b)

def fieldSqr (a : Field) : Field := montReduce (sqr256 a)

def fieldIsZero (a : Field) : Bool := a.limbs.foldl (· ||| ·) 0 == 0

/-- `field_set_zero`. -/
def fieldZero : Field := ⟨[0, 0, 0, 0], by decide⟩

/-- `field_set_one`. -/
def fieldOne : Field := fieldR

def fieldNeg (a : Field) : Field :=
  if fieldIsZero a then fieldZero else (sub256 fieldModulus a).1

/-- The bits of one limb of an exponent, lowest first: the result, and the
base. -/
def powBits : Nat → Nat → Field × Field → Field × Field
  | 0, _, x => x
  | n + 1, e, (result, base) =>
    let result := if e &&& 1 ≠ 0 then fieldMul result base else result
    powBits n (e >>> 1) (result, fieldSqr base)

def fieldPow (a : Field) (exp : List Nat) : Field :=
  (exp.foldl (fun x e => powBits 64 e x) (fieldOne, a)).1

/-- `field_inv`: the exponent is the modulus less two. -/
def fieldInv (a : Field) : Field :=
  fieldPow a [0x3C208C16D87CFD45, 0x97816A916871CA8D, 0xB85045B68181585D,
    0x30644E72E131A029]

def fieldToMont (a : Field) : Field := fieldMul a fieldR2

def fieldFromMont (a : Field) : Field :=
  montReduce ⟨a.limbs ++ [0, 0, 0, 0],
    a.valid.append (show Limbs.Valid word 4 [0, 0, 0, 0] by decide)⟩

-- ==== bytes

/-- Eight bytes of a limb, highest first. -/
def limbOfBytes (b : Nat → UInt8) : Nat :=
  (b 0).toNat <<< 56 ||| (b 1).toNat <<< 48 ||| (b 2).toNat <<< 40
    ||| (b 3).toNat <<< 32 ||| (b 4).toNat <<< 24 ||| (b 5).toNat <<< 16
    ||| (b 6).toNat <<< 8 ||| (b 7).toNat

theorem or_byte (n k : Nat) (x : UInt8) :
    n * 2 ^ (k + 8) ||| x.toNat <<< k = (n * 2 ^ 8 + x.toNat) * 2 ^ k := by
  have hlt : x.toNat * 2 ^ k < 2 ^ (k + 8) := by
    rw [pow_add, Nat.mul_comm]
    exact Nat.mul_lt_mul_of_pos_left x.toNat_lt (Nat.two_pow_pos k)
  rw [Nat.shiftLeft_eq, Nat.mul_comm n, ← Nat.two_pow_add_eq_or_of_lt hlt]
  ring

theorem limbOfBytes_eq (b : Nat → UInt8) : limbOfBytes b
    = (b 0).toNat * 2 ^ 56 + (b 1).toNat * 2 ^ 48 + (b 2).toNat * 2 ^ 40
      + (b 3).toNat * 2 ^ 32 + (b 4).toNat * 2 ^ 24 + (b 5).toNat * 2 ^ 16
      + (b 6).toNat * 2 ^ 8 + (b 7).toNat := by
  have hlast : (b 7).toNat = (b 7).toNat <<< 0 := rfl
  rw [limbOfBytes, hlast, Nat.shiftLeft_eq (b 0).toNat, or_byte _ 48,
    or_byte _ 40, or_byte _ 32, or_byte _ 24, or_byte _ 16, or_byte _ 8,
    or_byte _ 0, Nat.shiftLeft_zero]
  ring

theorem limbOfBytes_lt (b : Nat → UInt8) : limbOfBytes b < word := by
  have h0 := (b 0).toNat_lt
  have h1 := (b 1).toNat_lt
  have h2 := (b 2).toNat_lt
  have h3 := (b 3).toNat_lt
  have h4 := (b 4).toNat_lt
  have h5 := (b 5).toNat_lt
  have h6 := (b 6).toNat_lt
  have h7 := (b 7).toNat_lt
  rw [limbOfBytes_eq]
  change _ < 2 ^ 64
  omega

/-- `field_from_bytes`: most significant byte first. -/
def fieldFromBytes (bytes : Vector UInt8 32) : Field :=
  let limb i := limbOfBytes fun j => bytes[i * 8 + j]?.getD 0
  ⟨[limb 3, limb 2, limb 1, limb 0], .cons (limbOfBytes_lt _)
    (.cons (limbOfBytes_lt _) (.cons (limbOfBytes_lt _)
      (.cons (limbOfBytes_lt _) .nil)))⟩

def fieldToBytes (a : Field) : Vector UInt8 32 :=
  Vector.ofFn fun k => UInt8.ofNat
    ((a.limbs[3 - k.val / 8]?.getD 0) >>> (56 - 8 * (k.val % 8)))

theorem limbOfBytes_byte (b : Nat → UInt8) {j : Nat} (hj : j < 8) :
    UInt8.ofNat (limbOfBytes b >>> (56 - 8 * j)) = b j := by
  have h0 := (b 0).toNat_lt
  have h1 := (b 1).toNat_lt
  have h2 := (b 2).toNat_lt
  have h3 := (b 3).toNat_lt
  have h4 := (b 4).toNat_lt
  have h5 := (b 5).toNat_lt
  have h6 := (b 6).toNat_lt
  have h7 := (b 7).toNat_lt
  rw [← UInt8.toNat_inj, UInt8.toNat_ofNat', Nat.shiftRight_eq_div_pow,
    limbOfBytes_eq]
  interval_cases j
  · omega
  · omega
  · omega
  · omega
  · omega
  · omega
  · omega
  · omega

theorem limbOfBytes_bytes (hn : n < word) {b : Nat → UInt8}
    (hb : ∀ j < 8, b j = UInt8.ofNat (n >>> (56 - 8 * j))) :
    limbOfBytes b = n := by
  have hbyte : ∀ j < 8, (b j).toNat = n / 2 ^ (56 - 8 * j) % 256 := by
    intro j hj
    rw [hb j hj, UInt8.toNat_ofNat', Nat.shiftRight_eq_div_pow]
  rw [limbOfBytes_eq, hbyte 0 (by decide), hbyte 1 (by decide),
    hbyte 2 (by decide), hbyte 3 (by decide), hbyte 4 (by decide),
    hbyte 5 (by decide), hbyte 6 (by decide), hbyte 7 (by decide)]
  change n < 2 ^ 64 at hn
  norm_num
  omega

theorem fieldToBytes_fromBytes (bytes : Vector UInt8 32) :
    fieldToBytes (fieldFromBytes bytes) = bytes := by
  apply Vector.ext
  intro k hk
  have hlimb : (fieldFromBytes bytes).limbs[3 - k / 8]?.getD 0
      = limbOfBytes fun j => bytes[k / 8 * 8 + j]?.getD 0 := by
    have hi : k / 8 < 4 := by omega
    generalize k / 8 = i at hi ⊢
    interval_cases i
    · rfl
    · rfl
    · rfl
    · rfl
  rw [fieldToBytes, Vector.getElem_ofFn, hlimb,
    limbOfBytes_byte _ (Nat.mod_lt k (by decide)), Nat.div_add_mod',
    Vector.getElem?_eq_getElem hk, Option.getD_some]

theorem fieldFromBytes_toBytes (a : Field) :
    fieldFromBytes (fieldToBytes a) = a := by
  obtain ⟨limbs, hvalid⟩ := a
  obtain ⟨l0, l1, l2, l3, rfl⟩ :=
    List.length_eq_four.mp hvalid.length
  have hlimb : ∀ i < 4, ∀ n, [l0, l1, l2, l3][3 - i]? = some n →
      (limbOfBytes fun j =>
        (fieldToBytes ⟨[l0, l1, l2, l3], hvalid⟩)[i * 8 + j]?.getD 0) = n := by
    intro i hi n hn
    refine limbOfBytes_bytes (hvalid.lt n (List.mem_of_getElem? hn)) ?_
    intro j hj
    have hdiv : (i * 8 + j) / 8 = i := by omega
    have hmod : (i * 8 + j) % 8 = j := by omega
    rw [Vector.getElem?_eq_getElem (by omega), Option.getD_some, fieldToBytes,
      Vector.getElem_ofFn]
    dsimp only
    rw [hdiv, hmod, hn, Option.getD_some]
  simp only [fieldFromBytes, hlimb 3 (by decide) l0 rfl,
    hlimb 2 (by decide) l1 rfl, hlimb 1 (by decide) l2 rfl,
    hlimb 0 (by decide) l3 rfl]

-- ==== values

theorem fieldModulus_value : fieldModulus.value = Bn254.modulus := by decide

/-- `2^256`. -/
abbrev radix : Nat := word ^ 4

theorem radix_eq : radix = 2 ^ 256 := by decide

theorem modulus_lt : 4 * Bn254.modulus < radix := by decide

theorem add256_value (a b : Field) :
    (add256 a b).1.value = (a.value + b.value) % radix
      ∧ (add256 a b).2 = (a.value + b.value) / radix :=
  Limbs.add_eq one_lt_word a.valid b.valid

theorem sub256_value (a b : Field) :
    ((sub256 a b).1.value : Int) = (a.value - b.value : Int) % radix
      ∧ (sub256 a b).2 = if a.value < b.value then 1 else 0 := by
  obtain ⟨hvalue, hborrow⟩ := Limbs.sub_eq one_lt_word a.valid b.valid
  refine ⟨by exact_mod_cast hvalue, ?_⟩
  unfold sub256
  dsimp only
  by_cases hlt : a.value < b.value
  · rw [if_pos (hborrow.mpr hlt), if_pos hlt]
  · rw [if_neg (fun h => hlt (hborrow.mp h)), if_neg hlt]

theorem selectWord_zero {x y : Nat} (hx : x < word) : selectWord 0 x y = x := by
  rw [selectWord, Nat.and_zero, Nat.or_zero, Nat.sub_zero,
    Nat.and_two_pow_sub_one_eq_mod, Nat.mod_eq_of_lt hx]

theorem selectWord_ones {x y : Nat} (hy : y < word) :
    selectWord (word - 1) x y = y := by
  rw [selectWord, Nat.sub_self, Nat.and_zero, Nat.zero_or,
    Nat.and_two_pow_sub_one_eq_mod, Nat.mod_eq_of_lt hy]

theorem zipWith_zero {xs : List Nat} :
    ∀ {ys : List Nat}, ys.length = xs.length → (∀ x ∈ xs, x < word) →
      List.zipWith (selectWord 0) xs ys = xs := by
  induction xs with
  | nil => simp
  | cons x xs ih =>
    intro ys h hx
    cases ys with
    | nil => cases h
    | cons y ys =>
      rw [List.zipWith_cons_cons, selectWord_zero (hx x List.mem_cons_self),
        ih (Nat.succ.inj h) fun z hz => hx z (List.mem_cons_of_mem x hz)]

theorem zipWith_ones {xs : List Nat} :
    ∀ {ys : List Nat}, ys.length = xs.length → (∀ y ∈ ys, y < word) →
      List.zipWith (selectWord (word - 1)) xs ys = ys := by
  induction xs with
  | nil =>
    intro ys h _
    rw [List.length_eq_zero_iff.mp h]
    rfl
  | cons x xs ih =>
    intro ys h hy
    cases ys with
    | nil => cases h
    | cons y ys =>
      rw [List.zipWith_cons_cons, selectWord_ones (hy y List.mem_cons_self),
        ih (Nat.succ.inj h) fun z hz => hy z (List.mem_cons_of_mem y hz)]

theorem select_zero (r tmp : Words n) : select 0 r tmp = r := by
  unfold select
  congr
  exact zipWith_zero (tmp.valid.length.trans r.valid.length.symm) r.valid.lt

theorem select_ones (r tmp : Words n) :
    select (word - 1) r tmp = tmp := by
  unfold select
  congr
  exact zipWith_ones (tmp.valid.length.trans r.valid.length.symm) tmp.valid.lt

theorem select_set {c : Prop} [Decidable c] (r tmp : Words n) :
    select ((word - if c then 1 else 0) % word) r tmp
      = if c then tmp else r := by
  by_cases hc : c
  · rw [if_pos hc, if_pos hc]
    exact select_ones r tmp
  · rw [if_neg hc, if_neg hc]
    exact select_zero r tmp

theorem select_clear {c : Prop} [Decidable c] (r tmp : Words n) :
    select (((if c then 1 else 0) + (word - 1)) % word) r tmp
      = if c then r else tmp := by
  by_cases hc : c
  · rw [if_pos hc, if_pos hc]
    exact select_zero r tmp
  · rw [if_neg hc, if_neg hc]
    exact select_ones r tmp

theorem mul256_value (a b : Field) :
    (mul256 a b).value = a.value * b.value := by
  have hne : b.limbs ≠ [] :=
    List.length_pos_iff.mp (b.valid.length.symm ▸ by decide)
  exact Limbs.mulRows_value (B := word) hne (r := [0, 0, 0, 0])
    b.valid.length.symm

-- ==== reduction

theorem reduced_value {r : Field} (h : r.value < 2 * Bn254.modulus) :
    (if r.value < Bn254.modulus then r
      else (sub256 r fieldModulus).1).value = r.value % Bn254.modulus := by
  obtain ⟨hvalue, -⟩ := sub256_value r fieldModulus
  rw [fieldModulus_value] at hvalue
  have hlt : r.value < radix := r.value_lt
  by_cases hless : r.value < Bn254.modulus
  · rw [if_pos hless, Nat.mod_eq_of_lt hless]
  · rw [if_neg hless, Nat.mod_eq_sub_mod (Nat.not_lt.mp hless),
      Nat.mod_eq_of_lt (by omega)]
    have hmod := Int.emod_eq_of_lt (a := (r.value : Int) - Bn254.modulus)
      (b := radix) (by omega) (by omega)
    omega

theorem montReduce_spec {t : Words 8} (ht : t.value < radix * Bn254.modulus) :
    (montReduce t).value < Bn254.modulus
      ∧ (montReduce t).value * radix ≡ t.value [MOD Bn254.modulus] := by
  obtain ⟨k, hk, heq⟩ := Limbs.montgomery_value word_pos (q := fieldInvWord)
    (m := 4) (p := fieldModulus.limbs) (by decide) (by decide) 4 t.valid (by
      change t.value + (radix - 1) * fieldModulus.value < word ^ (4 + 4)
      rw [fieldModulus_value]
      have hdouble : 2 * (radix * Bn254.modulus) ≤ word ^ (4 + 4) := by decide
      have hpred : (radix - 1) * Bn254.modulus ≤ radix * Bn254.modulus :=
        Nat.mul_le_mul_right _ (Nat.sub_le _ _)
      omega)
  change radix * _ = t.value + k * fieldModulus.value at heq
  rw [fieldModulus_value] at heq
  unfold montReduce
  dsimp only
  generalize hr : (⟨Limbs.montgomery word fieldInvWord fieldModulus.limbs 4
    t.limbs, _⟩ : Field) = r
  have hvalue : radix * r.value = t.value + k * Bn254.modulus := by
    rw [← heq, ← hr]
    rfl
  have hlt : r.value < 2 * Bn254.modulus := by
    have hkp := Nat.mul_lt_mul_of_pos_right hk
      (show 0 < Bn254.modulus by decide)
    refine Nat.lt_of_mul_lt_mul_left (a := radix) ?_
    calc radix * r.value = t.value + k * Bn254.modulus := hvalue
      _ < radix * Bn254.modulus + radix * Bn254.modulus := Nat.add_lt_add ht hkp
      _ = radix * (2 * Bn254.modulus) := by ring
  have hresult : (select (((sub256 r fieldModulus).2 + (word - 1)) % word) r
      (sub256 r fieldModulus).1).value = r.value % Bn254.modulus := by
    rw [(sub256_value r fieldModulus).2, fieldModulus_value, select_clear,
      reduced_value hlt]
  rw [hresult]
  refine ⟨Nat.mod_lt _ (by decide), ?_⟩
  calc r.value % Bn254.modulus * radix
      ≡ r.value * radix [MOD Bn254.modulus] := (Nat.mod_modEq _ _).mul_right _
    _ = t.value + k * Bn254.modulus := by rw [Nat.mul_comm, hvalue]
    _ ≡ t.value [MOD Bn254.modulus] := Nat.add_mul_mod_self_right _ _ _

-- ==== operations

variable {a b : Field}

theorem fieldAdd_value (ha : a.value < Bn254.modulus)
    (hb : b.value < Bn254.modulus) :
    (fieldAdd a b).value = (a.value + b.value) % Bn254.modulus := by
  have hlt := modulus_lt
  obtain ⟨hsum, hcarry⟩ := add256_value a b
  rw [Nat.mod_eq_of_lt (by omega)] at hsum
  rw [Nat.div_eq_of_lt (by omega)] at hcarry
  have hborrow := (sub256_value (add256 a b).1 fieldModulus).2
  unfold fieldAdd
  dsimp only
  have huse : (add256 a b).2 ||| ((sub256 (add256 a b).1 fieldModulus).2 ^^^ 1)
      = if ¬ (add256 a b).1.value < Bn254.modulus then 1 else 0 := by
    rw [hcarry, hborrow, fieldModulus_value, ite_not]
    split
    · rfl
    · rfl
  rw [huse, select_set, ite_not, reduced_value (by omega), hsum]

theorem fieldSub_value (ha : a.value < Bn254.modulus)
    (hb : b.value < Bn254.modulus) :
    (fieldSub a b).value
      = (a.value + (Bn254.modulus - b.value)) % Bn254.modulus := by
  have hlt := modulus_lt
  obtain ⟨hdiff, hborrow⟩ := sub256_value a b
  have hsum := (add256_value (sub256 a b).1 fieldModulus).1
  rw [fieldModulus_value] at hsum
  unfold fieldSub
  dsimp only
  rw [hborrow, select_set]
  by_cases hless : a.value < b.value
  · have hwrap : ((sub256 a b).1.value : Int) = a.value - b.value + radix := by
      rw [hdiff, ← Int.add_emod_right, Int.emod_eq_of_lt (by omega) (by omega)]
    have hsmall : a.value + (Bn254.modulus - b.value) < Bn254.modulus := by
      omega
    have hover : (sub256 a b).1.value + Bn254.modulus
        = a.value + (Bn254.modulus - b.value) + radix := by
      omega
    rw [if_pos hless, hsum, hover, Nat.add_mod_right,
      Nat.mod_eq_of_lt (hsmall.trans (by omega)), Nat.mod_eq_of_lt hsmall]
  · rw [if_neg hless]
    rw [Int.emod_eq_of_lt (by omega) (by omega)] at hdiff
    rw [show a.value + (Bn254.modulus - b.value)
      = a.value - b.value + Bn254.modulus by omega, Nat.add_mod_right,
      Nat.mod_eq_of_lt (by omega)]
    omega

theorem foldl_or_eq_zero {l : List Nat} :
    ∀ {n : Nat}, l.foldl (· ||| ·) n = 0 ↔ n = 0 ∧ ∀ x ∈ l, x = 0 := by
  induction l with
  | nil => simp
  | cons x rest ih =>
    intro n
    rw [List.foldl_cons, ih, Nat.or_eq_zero_iff]
    simp [and_assoc]

theorem ofDigits_eq_zero {l : List Nat} :
    Nat.ofDigits word l = 0 ↔ ∀ x ∈ l, x = 0 := by
  induction l with
  | nil => simp
  | cons x rest ih =>
    rw [Nat.ofDigits_cons, Nat.add_eq_zero_iff, Nat.mul_eq_zero, ih]
    simp

theorem fieldIsZero_iff {a : Field} : fieldIsZero a = true ↔ a.value = 0 := by
  rw [fieldIsZero, beq_iff_eq, foldl_or_eq_zero, Words.value, ofDigits_eq_zero]
  simp

theorem fieldNeg_value {a : Field} (ha : a.value < Bn254.modulus) :
    (fieldNeg a).value = (Bn254.modulus - a.value) % Bn254.modulus := by
  have hlt := modulus_lt
  unfold fieldNeg
  split
  · next hzero =>
      rw [fieldIsZero_iff.mp hzero, Nat.sub_zero, Nat.mod_self]
      rfl
  · next hne =>
      have hpos : a.value ≠ 0 := fun h => hne (fieldIsZero_iff.mpr h)
      have hdiff := (sub256_value fieldModulus a).1
      rw [fieldModulus_value, Int.emod_eq_of_lt (by omega) (by omega)] at hdiff
      rw [Nat.mod_eq_of_lt (by omega)]
      omega

/-- The product of what multiplies to less than the radix times the
modulus. -/
theorem fieldMul_spec (h : a.value * b.value < radix * Bn254.modulus) :
    (fieldMul a b).value < Bn254.modulus
      ∧ (fieldMul a b).value * radix ≡ a.value * b.value
        [MOD Bn254.modulus] := by
  rw [← mul256_value a b] at h ⊢
  exact montReduce_spec h

theorem mul_lt_of_reduced (hb : b.value < Bn254.modulus) :
    a.value * b.value < radix * Bn254.modulus :=
  Nat.mul_lt_mul'' a.value_lt hb

-- ==== Montgomery form

instance : Fact Bn254.modulus.Prime := ⟨Bn254.modulus_prime⟩

/-- What Montgomery form multiplies by. -/
def montRadix : ZMod Bn254.modulus := (radix : Nat)

/-- The number that an element in Montgomery form stands for. -/
def mont (a : Field) : ZMod Bn254.modulus := a.value * montRadix⁻¹

theorem montRadix_ne_zero : montRadix ≠ 0 := by
  rw [montRadix, Ne, ZMod.natCast_eq_zero_iff]
  decide

theorem cast_of_modEq {n m : Nat} (h : n * radix ≡ m [MOD Bn254.modulus]) :
    (n : ZMod Bn254.modulus) = m * montRadix⁻¹ := by
  have hcast := (ZMod.natCast_eq_natCast_iff _ _ _).mpr h
  rw [Nat.cast_mul] at hcast
  rw [← hcast, mul_assoc]
  exact (mul_right_eq_self₀.mpr
    (Or.inl (mul_inv_cancel₀ montRadix_ne_zero))).symm

theorem mont_injective (ha : a.value < Bn254.modulus)
    (hb : b.value < Bn254.modulus) (h : mont a = mont b) : a = b := by
  have hinv := inv_ne_zero montRadix_ne_zero
  have hcast := mul_right_cancel₀ hinv h
  refine Words.ext_value ?_
  have hmod := (ZMod.natCast_eq_natCast_iff' _ _ _).mp hcast
  rwa [Nat.mod_eq_of_lt ha, Nat.mod_eq_of_lt hb] at hmod

theorem mont_mul (hb : b.value < Bn254.modulus) :
    (fieldMul a b).value < Bn254.modulus
      ∧ mont (fieldMul a b) = mont a * mont b := by
  obtain ⟨hlt, hmod⟩ := fieldMul_spec (mul_lt_of_reduced hb)
  refine ⟨hlt, ?_⟩
  unfold mont
  rw [cast_of_modEq hmod]
  push_cast
  ring

theorem mont_one : mont fieldOne = 1 := by
  have hcast : ((fieldOne.value : Nat) : ZMod Bn254.modulus) = montRadix :=
    (ZMod.natCast_eq_natCast_iff' _ _ _).mpr (by decide)
  rw [mont, hcast, mul_inv_cancel₀ montRadix_ne_zero]

-- ==== powers

theorem powBits_spec (n : Nat) :
    ∀ {e : Nat} {x : Field × Field}, e < 2 ^ n →
      x.1.value < Bn254.modulus → x.2.value < Bn254.modulus →
      (powBits n e x).1.value < Bn254.modulus
        ∧ (powBits n e x).2.value < Bn254.modulus
        ∧ mont (powBits n e x).1 = mont x.1 * mont x.2 ^ e
        ∧ mont (powBits n e x).2 = mont x.2 ^ 2 ^ n := by
  induction n with
  | zero =>
    intro e x he hr hb
    obtain rfl : e = 0 := by simpa using he
    exact ⟨hr, hb, by simp [powBits], by simp [powBits]⟩
  | succ n ih =>
    intro e ⟨result, base⟩ he hr hb
    dsimp only at hr hb ⊢
    obtain ⟨hsqr, hmont⟩ := mont_mul (a := base) hb
    obtain ⟨hmul, hprod⟩ := mont_mul (a := result) hb
    have hhalf : e / 2 < 2 ^ n := by omega
    have hnext : (if e &&& 1 ≠ 0 then fieldMul result base else result).value
          < Bn254.modulus
        ∧ mont (if e &&& 1 ≠ 0 then fieldMul result base else result)
          = mont result * mont base ^ (e % 2) := by
      rw [Nat.and_one_is_mod]
      by_cases hodd : e % 2 = 0
      · rw [if_neg (not_not.mpr hodd), hodd, pow_zero, mul_one]
        exact ⟨hr, rfl⟩
      · rw [if_pos hodd, show e % 2 = 1 by omega, pow_one]
        exact ⟨hmul, hprod⟩
    obtain ⟨h1, h2, h3, h4⟩ := ih (x := (if e &&& 1 ≠ 0
      then fieldMul result base else result, fieldSqr base)) hhalf hnext.1
      hsqr
    change mont (fieldSqr base) = _ at hmont
    rw [powBits, Nat.shiftRight_one]
    refine ⟨h1, h2, ?_, ?_⟩
    · rw [h3, hnext.2, hmont, mul_assoc, ← pow_two, ← pow_mul, ← pow_add]
      congr 2
      omega
    · rw [h4, hmont, ← pow_two, ← pow_mul, pow_succ']

theorem fieldPow_fold (exp : List Nat) :
    ∀ {x : Field × Field}, (∀ e ∈ exp, e < word) →
      x.1.value < Bn254.modulus → x.2.value < Bn254.modulus →
      (exp.foldl (fun x e => powBits 64 e x) x).1.value < Bn254.modulus
        ∧ mont (exp.foldl (fun x e => powBits 64 e x) x).1
          = mont x.1 * mont x.2 ^ Nat.ofDigits word exp := by
  induction exp with
  | nil =>
    intro x _ hr _
    exact ⟨hr, by simp⟩
  | cons e rest ih =>
    intro x hexp hr hb
    obtain ⟨h1, h2, h3, h4⟩ :=
      powBits_spec 64 (hexp e List.mem_cons_self) hr hb
    obtain ⟨hlt, hmont⟩ := ih
      (fun e' he' => hexp e' (List.mem_cons_of_mem e he')) h1 h2
    refine ⟨hlt, ?_⟩
    rw [List.foldl_cons, hmont, h3, h4, Nat.ofDigits_cons, pow_add, pow_mul,
      mul_assoc]

theorem fieldPow_mont {a : Field} (ha : a.value < Bn254.modulus)
    (exp : List Nat) (hexp : ∀ e ∈ exp, e < word) :
    (fieldPow a exp).value < Bn254.modulus
      ∧ mont (fieldPow a exp) = mont a ^ Nat.ofDigits word exp := by
  obtain ⟨hlt, hmont⟩ := fieldPow_fold exp (x := (fieldOne, a)) hexp
    (show fieldOne.value < Bn254.modulus by decide) ha
  rw [mont_one, one_mul] at hmont
  exact ⟨hlt, hmont⟩

theorem fieldInv_mont {a : Field} (ha : a.value < Bn254.modulus) :
    (fieldInv a).value < Bn254.modulus ∧ mont (fieldInv a) = (mont a)⁻¹ := by
  obtain ⟨hlt, hmont⟩ := fieldPow_mont ha [0x3C208C16D87CFD45,
    0x97816A916871CA8D, 0xB85045B68181585D, 0x30644E72E131A029] (by decide)
  refine ⟨hlt, hmont.trans ?_⟩
  rw [show Nat.ofDigits word _ = Bn254.modulus - 2 by decide]
  by_cases hzero : mont a = 0
  · rw [hzero, inv_zero, zero_pow (by decide)]
  · refine eq_inv_of_mul_eq_one_left ?_
    rw [← pow_succ]
    exact ZMod.pow_card_sub_one_eq_one hzero

-- ==== conversions

theorem fieldToMont_value (a : Field) :
    (fieldToMont a).value = a.value * 2 ^ 256 % Bn254.modulus := by
  have hR2 : fieldR2.value < Bn254.modulus := by decide
  obtain ⟨hlt, hmod⟩ := fieldMul_spec (mul_lt_of_reduced (a := a) hR2)
  have hsquare : fieldR2.value ≡ radix * radix [MOD Bn254.modulus] := by decide
  have hcancel : (fieldToMont a).value * radix
      ≡ a.value * radix * radix [MOD Bn254.modulus] := by
    rw [Nat.mul_assoc]
    exact hmod.trans (hsquare.mul_left _)
  have hprime : Bn254.modulus.gcd radix = 1 := by decide
  have hvalue := Nat.ModEq.cancel_right_of_coprime hprime hcancel
  rw [← radix_eq, ← hvalue]
  exact (Nat.mod_eq_of_lt hlt).symm

theorem fieldFromMont_spec (a : Field) :
    (fieldFromMont a).value < Bn254.modulus
      ∧ (fieldFromMont a).value * radix ≡ a.value [MOD Bn254.modulus] := by
  have hvalue : (⟨a.limbs ++ [0, 0, 0, 0], a.valid.append
      (show Limbs.Valid word 4 [0, 0, 0, 0] by decide)⟩ : Words 8).value
        = a.value := by
    rw [Words.value, Nat.ofDigits_append,
      show Nat.ofDigits word [0, 0, 0, 0] = 0 by decide, Nat.mul_zero]
    rfl
  have hspec := montReduce_spec (t := ⟨a.limbs ++ [0, 0, 0, 0],
    a.valid.append (show Limbs.Valid word 4 [0, 0, 0, 0] by decide)⟩) (by
      rw [hvalue]
      exact a.value_lt.trans_le (Nat.le_mul_of_pos_right _ (by decide)))
  rwa [hvalue] at hspec

theorem fieldFromMont_toMont (a : Field) :
    (fieldFromMont (fieldToMont a)).value = a.value % Bn254.modulus := by
  obtain ⟨hlt, hmod⟩ := fieldFromMont_spec (fieldToMont a)
  rw [fieldToMont_value, ← radix_eq] at hmod
  have hprime : Bn254.modulus.gcd radix = 1 := by decide
  have hvalue := Nat.ModEq.cancel_right_of_coprime hprime
    (hmod.trans (Nat.mod_modEq _ _))
  rw [← hvalue, Nat.mod_eq_of_lt hlt]

-- ==== correctness

theorem natCast_eq {n m : Nat} (h : n ≡ m [MOD Bn254.modulus]) :
    (n : ZMod Bn254.modulus) = m :=
  (ZMod.natCast_eq_natCast_iff _ _ _).mpr h

theorem fieldAdd_correct (ha : a.value < Bn254.modulus)
    (hb : b.value < Bn254.modulus) :
    (fieldAdd a b).value < Bn254.modulus
      ∧ ((fieldAdd a b).value : ZMod Bn254.modulus) = a.value + b.value := by
  rw [fieldAdd_value ha hb, natCast_eq (Nat.mod_modEq _ _)]
  exact ⟨Nat.mod_lt _ (by decide), Nat.cast_add _ _⟩

theorem fieldSub_correct (ha : a.value < Bn254.modulus)
    (hb : b.value < Bn254.modulus) :
    (fieldSub a b).value < Bn254.modulus
      ∧ ((fieldSub a b).value : ZMod Bn254.modulus) = a.value - b.value := by
  rw [fieldSub_value ha hb, natCast_eq (Nat.mod_modEq _ _)]
  refine ⟨Nat.mod_lt _ (by decide), ?_⟩
  rw [Nat.cast_add, Nat.cast_sub hb.le, ZMod.natCast_self]
  ring

theorem fieldNeg_correct {a : Field} (ha : a.value < Bn254.modulus) :
    (fieldNeg a).value < Bn254.modulus
      ∧ ((fieldNeg a).value : ZMod Bn254.modulus) = -a.value := by
  rw [fieldNeg_value ha, natCast_eq (Nat.mod_modEq _ _)]
  refine ⟨Nat.mod_lt _ (by decide), ?_⟩
  rw [Nat.cast_sub ha.le, ZMod.natCast_self, zero_sub]

theorem montRadix_eq : montRadix = 2 ^ 256 := by
  rw [montRadix, radix_eq]
  exact Nat.cast_pow 2 256

theorem fieldMul_correct (hb : b.value < Bn254.modulus) :
    (fieldMul a b).value < Bn254.modulus
      ∧ ((fieldMul a b).value : ZMod Bn254.modulus)
        = a.value * b.value * (2 ^ 256)⁻¹ := by
  obtain ⟨hlt, hmod⟩ := fieldMul_spec (mul_lt_of_reduced (a := a) hb)
  rw [cast_of_modEq hmod, Nat.cast_mul, montRadix_eq]
  exact ⟨hlt, rfl⟩

theorem fieldInv_correct {a : Field} (ha : a.value < Bn254.modulus)
    (hne : a.value ≠ 0) :
    (fieldInv a).value < Bn254.modulus
      ∧ (a.value * (2 ^ 256)⁻¹) * ((fieldInv a).value * (2 ^ 256)⁻¹)
        = (1 : ZMod Bn254.modulus) := by
  obtain ⟨hlt, hmont⟩ := fieldInv_mont ha
  refine ⟨hlt, ?_⟩
  have hzero : mont a ≠ 0 := by
    refine mul_ne_zero ?_ (inv_ne_zero montRadix_ne_zero)
    rw [Ne, ZMod.natCast_eq_zero_iff]
    exact Nat.not_dvd_of_pos_of_lt (Nat.pos_of_ne_zero hne) ha
  rw [← montRadix_eq]
  change mont a * mont (fieldInv a) = 1
  rw [hmont, mul_inv_cancel₀ hzero]

/-- On reduced elements the operations are those of the field, in Montgomery
form, and their results are reduced; any element goes into Montgomery form
and comes back reduced, and through bytes as it was. -/
theorem portable_field_correct {a b : Field} (ha : a.value < Bn254.modulus)
    (hb : b.value < Bn254.modulus) :
    ((fieldAdd a b).value < Bn254.modulus
        ∧ ((fieldAdd a b).value : ZMod Bn254.modulus) = a.value + b.value)
      ∧ ((fieldSub a b).value < Bn254.modulus
        ∧ ((fieldSub a b).value : ZMod Bn254.modulus) = a.value - b.value)
      ∧ ((fieldNeg a).value < Bn254.modulus
        ∧ ((fieldNeg a).value : ZMod Bn254.modulus) = -a.value)
      ∧ ((fieldMul a b).value < Bn254.modulus
        ∧ ((fieldMul a b).value : ZMod Bn254.modulus)
          = a.value * b.value * (2 ^ 256)⁻¹)
      ∧ ((fieldSqr a).value < Bn254.modulus
        ∧ ((fieldSqr a).value : ZMod Bn254.modulus)
          = a.value * a.value * (2 ^ 256)⁻¹)
      ∧ (a.value ≠ 0 → (fieldInv a).value < Bn254.modulus
        ∧ (a.value * (2 ^ 256)⁻¹) * ((fieldInv a).value * (2 ^ 256)⁻¹)
          = (1 : ZMod Bn254.modulus))
      ∧ (∀ x : Field,
        (fieldToMont x).value = x.value * 2 ^ 256 % Bn254.modulus
          ∧ (fieldFromMont (fieldToMont x)).value = x.value % Bn254.modulus)
      ∧ (∀ bytes, fieldToBytes (fieldFromBytes bytes) = bytes)
      ∧ ∀ x, fieldFromBytes (fieldToBytes x) = x :=
  ⟨fieldAdd_correct ha hb, fieldSub_correct ha hb, fieldNeg_correct ha,
    fieldMul_correct hb, fieldMul_correct ha, fieldInv_correct ha,
    fun x => ⟨fieldToMont_value x, fieldFromMont_toMont x⟩,
    fieldToBytes_fromBytes, fieldFromBytes_toBytes⟩

/-- The largest element, which is minus one. -/
def largest : Field := ⟨[0x3C208C16D87CFD46, 0x97816A916871CA8D,
  0xB85045B68181585D, 0x30644E72E131A029], by decide⟩

def two : Field := ⟨[2, 0, 0, 0], by decide⟩

theorem largest_cast : (largest.value : ZMod Bn254.modulus) = -1 := by
  have h : ((largest.value + 1 : Nat) : ZMod Bn254.modulus) = (0 : Nat) :=
    natCast_eq (by decide)
  rw [Nat.cast_add, Nat.cast_one, Nat.cast_zero] at h
  exact eq_neg_of_add_eq_zero_left h

theorem portable_field_at :
    ((fieldAdd largest two).value : ZMod Bn254.modulus) = -1 + two.value
      ∧ ((fieldSub two largest).value : ZMod Bn254.modulus) = two.value - -1
      ∧ ((fieldNeg largest).value : ZMod Bn254.modulus) = - -1
      ∧ ((fieldMul largest two).value : ZMod Bn254.modulus)
        = -1 * two.value * (2 ^ 256)⁻¹
      ∧ ((fieldSqr largest).value : ZMod Bn254.modulus)
        = -1 * -1 * (2 ^ 256)⁻¹
      ∧ (two.value * (2 ^ 256)⁻¹) * ((fieldInv two).value * (2 ^ 256)⁻¹)
        = (1 : ZMod Bn254.modulus)
      ∧ (fieldFromMont (fieldToMont two)).value = two.value % Bn254.modulus
      ∧ fieldFromBytes (fieldToBytes two) = two := by
  have hlargest : largest.value < Bn254.modulus := by decide
  have htwo : two.value < Bn254.modulus := by decide
  obtain ⟨hadd, -, hneg, hmul, hsqr, -⟩ := portable_field_correct hlargest htwo
  obtain ⟨-, hsub, -, -, -, hinv, hmont, -, hbytes⟩ :=
    portable_field_correct htwo hlargest
  rw [← largest_cast]
  exact ⟨hadd.2, hsub.2, hneg.2, hmul.2, hsqr.2, (hinv (by decide)).2,
    (hmont two).2, hbytes two⟩

end KamiyoProtocol.DarkForest.Portable
