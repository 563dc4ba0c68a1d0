/-
`mul_256x256` and `sqr_256` of `field.c` of `dark-forest-core`, as they are
built for x86-64.

`mulx` leaves the flags alone, `add` and `adc` set the carry flag. From the
second row on, the multiplication adds the high half of one product and the
carry to the low half of the next with `adc`, and then adds the sum to the
row with `add`, which overwrites the carry of the `adc`: it is dropped
(`dropped`). The square drops carries where it doubles a product, and leaves
out or misplaces the products of the lowest limb with the two highest.

What is lost is a sum of powers of the base, so the results are exact where
nothing is lost; of the square that takes an argument, as what is misplaced
could make up for what is lost (`sqr_balanced`).
-/
import KamiyoProtocol.DarkForest.Field

namespace KamiyoProtocol.DarkForest.Portable.Asm

-- ==== instructions

/-- The low and the high half of a product. -/
def mulx (x y : Nat) : Nat × Nat := (x * y % word, x * y / word)

/-- The sum, and the carry flag. -/
def addq (x y : Nat) : Nat × Nat := ((x + y) % word, (x + y) / word)

/-- The sum with the carry flag, and the carry flag. -/
def adcq (x y cf : Nat) : Nat × Nat := ((x + y + cf) % word, (x + y + cf) / word)

-- ==== rows

/-- A row over words that are nothing yet: `mulx`, and `adc` onto the high
half before. -/
def firstRow (k : Nat) : List Nat → Nat → Nat → List Nat × Nat × Nat
  | x :: xs, hi, cf =>
    let (lo, hi') := mulx k x
    let (t, cf') := adcq lo hi cf
    let (row, carry) := firstRow k xs hi' cf'
    (t :: row, carry)
  | [], hi, cf => ([], hi, cf)

/-- A row over words that are there: `mulx`, `adc` onto the high half before,
and `add` to the word. The carry of the `adc` is overwritten. -/
def mulRow (k : Nat) : List Nat → List Nat → Nat → Nat → List Nat × Nat × Nat
  | x :: xs, t :: ts, hi, cf =>
    let (lo, hi') := mulx k x
    let (c0, _) := adcq lo hi cf
    let (t', cf') := addq t c0
    let (row, carry) := mulRow k xs ts hi' cf'
    (t' :: row, carry)
  | _, _, hi, cf => ([], hi, cf)

/-- What the carries that a row drops amount to. -/
def dropped (k : Nat) : List Nat → List Nat → Nat → Nat
  | x :: xs, t :: ts, c =>
    let s := k * x % word + c
    word * (s / word + dropped k xs ts (k * x / word + (t + s % word) / word))
  | _, _, _ => 0

variable {k : Nat}

theorem firstRow_valid (xs : List Nat) :
    ∀ {u f : Nat}, Limbs.Valid word xs.length (firstRow k xs u f).1 := by
  induction xs with
  | nil => exact .nil
  | cons x xs ih => exact .cons (Nat.mod_lt _ word_pos) ih

theorem firstRow_value (xs : List Nat) :
    ∀ {u f : Nat}, Nat.ofDigits word (firstRow k xs u f).1
        + word ^ xs.length * ((firstRow k xs u f).2.1 + (firstRow k xs u f).2.2)
      = k * Nat.ofDigits word xs + u + f := by
  induction xs with
  | nil => simp [firstRow]
  | cons x xs ih =>
    intro u f
    have hrest := ih (u := k * x / word)
      (f := (k * x % word + u + f) / word)
    have hprod := Nat.mod_add_div (k * x) word
    have hsum := Nat.mod_add_div (k * x % word + u + f) word
    simp only [firstRow, mulx, adcq, Nat.ofDigits_cons, List.length_cons,
      pow_succ word]
    linear_combination hprod + hsum + word * hrest

variable {xs : List Nat}

theorem mulRow_valid :
    ∀ {ts : List Nat} {u f : Nat}, ts.length = xs.length →
      Limbs.Valid word xs.length (mulRow k xs ts u f).1 := by
  induction xs with
  | nil => exact fun _ => .nil
  | cons x xs ih =>
    intro ts u f h
    cases ts with
    | nil => cases h
    | cons t ts => exact .cons (Nat.mod_lt _ word_pos) (ih (Nat.succ.inj h))

theorem mulRow_value :
    ∀ {ts : List Nat} {u f : Nat}, ts.length = xs.length →
      Nat.ofDigits word (mulRow k xs ts u f).1
          + word ^ xs.length
            * ((mulRow k xs ts u f).2.1 + (mulRow k xs ts u f).2.2)
          + dropped k xs ts (u + f)
        = k * Nat.ofDigits word xs + Nat.ofDigits word ts + (u + f) := by
  induction xs with
  | nil =>
    intro ts u f h
    rw [List.length_eq_zero_iff.mp h]
    simp [mulRow, dropped]
  | cons x xs ih =>
    intro ts u f h
    cases ts with
    | nil => cases h
    | cons t ts =>
      have hrest := ih (u := k * x / word) (f := (t + (k * x % word
        + (u + f)) % word) / word) (Nat.succ.inj h)
      have hprod := Nat.mod_add_div (k * x) word
      have hsum := Nat.mod_add_div (k * x % word + (u + f)) word
      have htotal := Nat.mod_add_div (t + (k * x % word + (u + f)) % word)
        word
      simp only [mulRow, dropped, mulx, adcq, addq, Nat.ofDigits_cons,
        List.length_cons, pow_succ word, Nat.add_assoc (k * x % word) u f]
      linear_combination hprod + hsum + htotal + word * hrest

theorem carry_lt {k x t s : Nat} (hk : k < word) (hx : x < word) (ht : t < word)
    (hs : s < word) : k * x / word + (t + s) / word < word := by
  have hprod : k * x ≤ (word - 1) * (word - 1) :=
    Nat.mul_le_mul (by omega) (by omega)
  have hhigh : k * x / word ≤ word - 2 := by
    refine (Nat.div_le_div_right hprod).trans (le_of_eq ?_)
    decide
  have hcarry : (t + s) / word < 2 :=
    (Nat.div_lt_iff_lt_mul word_pos).mpr (by omega)
  change _ < 2 ^ 64
  change _ ≤ 2 ^ 64 - 2 at hhigh
  omega

theorem firstRow_carry_lt (hk : k < word) :
    ∀ {hi cf : Nat}, (∀ x ∈ xs, x < word) → hi + cf < word →
      (firstRow k xs hi cf).2.1 + (firstRow k xs hi cf).2.2 < word := by
  induction xs with
  | nil => exact fun _ h => h
  | cons x xs ih =>
    intro hi cf hxs hc
    have hx := hxs x List.mem_cons_self
    have hlow := Nat.mod_lt (k * x) word_pos
    refine ih (fun y hy => hxs y (List.mem_cons_of_mem x hy)) ?_
    rw [Nat.add_assoc]
    exact carry_lt hk hx hlow hc

theorem mulRow_carry_lt (hk : k < word) :
    ∀ {ts : List Nat} {hi cf : Nat}, (∀ x ∈ xs, x < word) →
      (∀ t ∈ ts, t < word) → hi + cf < word →
      (mulRow k xs ts hi cf).2.1 + (mulRow k xs ts hi cf).2.2 < word := by
  induction xs with
  | nil => exact fun _ _ h => h
  | cons x xs ih =>
    intro ts hi cf hxs hts hc
    cases ts with
    | nil => exact hc
    | cons t ts =>
      have hx := hxs x List.mem_cons_self
      have ht := hts t List.mem_cons_self
      exact ih (fun y hy => hxs y (List.mem_cons_of_mem x hy))
        (fun y hy => hts y (List.mem_cons_of_mem t hy))
        (carry_lt hk hx ht (Nat.mod_lt _ word_pos))

-- ==== dropped carries

/-- The carry into a limb of `k * Y + W + c`. -/
def carryInto (k Y W c j : Nat) : Nat :=
  (k * (Y % word ^ j) + W % word ^ j + c) / word ^ j

/-- Each low half of a product takes the carry before it. -/
def RowFits (k : Nat) (ys : List Nat) (W c : Nat) : Prop :=
  ∀ j < ys.length, k * ys.getD j 0 % word
    + carryInto k (Nat.ofDigits word ys) W c j < word

instance (k : Nat) (ys : List Nat) (W c : Nat) : Decidable (RowFits k ys W c) :=
  Nat.decidableBallLT _ _

theorem carryInto_zero {k Y W c : Nat} : carryInto k Y W c 0 = c := by
  simp [carryInto, Nat.mod_one]

theorem carryInto_succ {k x Y t W c j : Nat} (hx : x < word) (ht : t < word) :
    carryInto k (x + word * Y) (t + word * W) c (j + 1)
      = carryInto k Y W (k * x / word + (t + (k * x % word + c)) / word) j := by
  have hmod : ∀ z Z, z < word →
      (z + word * Z) % word ^ (j + 1) = z + word * (Z % word ^ j) := by
    intro z Z hz
    rw [pow_succ', Nat.mod_mul, Nat.add_mul_mod_self_left,
      Nat.mod_eq_of_lt hz, Nat.add_mul_div_left _ _ word_pos,
      Nat.div_eq_of_lt hz, Nat.zero_add]
  have hprod := Nat.mod_add_div (k * x) word
  unfold carryInto
  rw [hmod x Y hx, hmod t W ht, pow_succ', ← Nat.div_div_eq_div_mul]
  congr 1
  rw [show k * (x + word * (Y % word ^ j)) + (t + word * (W % word ^ j)) + c
      = t + (k * x % word + c) + word * (k * (Y % word ^ j) + W % word ^ j
        + k * x / word) by linear_combination -hprod,
    Nat.add_mul_div_left _ _ word_pos]
  omega

theorem rowFits_cons {k x t W c : Nat} (hx : x < word) (ht : t < word) :
    RowFits k (x :: xs) (t + word * W) c
      ↔ k * x % word + c < word ∧ RowFits k xs W
        (k * x / word + (t + (k * x % word + c)) / word) := by
  unfold RowFits
  rw [List.length_cons, Nat.forall_lt_succ_left, Nat.ofDigits_cons]
  simp only [carryInto_zero, carryInto_succ hx ht, List.getD_cons_zero,
    List.getD_cons_succ]

theorem dropped_eq_zero :
    ∀ {ts : List Nat} {c : Nat}, ts.length = xs.length →
      (∀ x ∈ xs, x < word) → (∀ t ∈ ts, t < word) →
      (dropped k xs ts c = 0 ↔ RowFits k xs (Nat.ofDigits word ts) c) := by
  induction xs with
  | nil => simp [dropped, RowFits]
  | cons x xs ih =>
    intro ts c h hxs hts
    cases ts with
    | nil => cases h
    | cons t ts =>
      have hx := hxs x List.mem_cons_self
      have ht := hts t List.mem_cons_self
      have hrest := fun c => ih (c := c) (Nat.succ.inj h)
        (fun y hy => hxs y (List.mem_cons_of_mem x hy))
        (fun y hy => hts y (List.mem_cons_of_mem t hy))
      rw [Nat.ofDigits_cons, rowFits_cons hx ht, ← hrest,
        dropped, Nat.mul_eq_zero, 
        Nat.add_eq_zero_iff, Nat.div_eq_zero_iff]
      constructor
      · rintro (hword | ⟨hword | hlt, hzero⟩)
        · exact absurd hword word_pos.ne'
        · exact absurd hword word_pos.ne'
        · rw [Nat.mod_eq_of_lt hlt] at hzero
          exact ⟨hlt, hzero⟩
      · rintro ⟨hlt, hzero⟩
        rw [Nat.mod_eq_of_lt hlt]
        exact Or.inr ⟨Or.inr hlt, hzero⟩

-- ==== mul_256x256

/-- The words above the lowest one of a row, and its carry above them. -/
def above (row : List Nat × Nat × Nat) : List Nat :=
  row.1.drop 1 ++ [(adcq 0 row.2.1 row.2.2).1]

/-- The rows after the first, each over the words above the lowest one of the
row before, and a word that is cleared. -/
def mulRows : List Nat → List Nat → List Nat → List Nat
  | x :: xs, ys, ts =>
    let row := mulRow x ys ts 0 0
    row.1.take 1 ++ mulRows xs ys (above row)
  | [], _, ts => ts

/-- What the rows drop. -/
def droppedRows : List Nat → List Nat → List Nat → Nat
  | x :: xs, ys, ts =>
    dropped x ys ts 0 + word * droppedRows xs ys (above (mulRow x ys ts 0 0))
  | [], _, _ => 0

variable {n : Nat}

theorem above_valid (hn : 0 < n) {row : List Nat × Nat × Nat}
    (h : Limbs.Valid word n row.1) :
    Limbs.Valid word 1 (row.1.take 1) ∧ Limbs.Valid word n (above row) := by
  have htake : Limbs.Valid word 1 (row.1.take 1) := by
    refine ⟨?_, fun y hy => h.lt y (List.mem_of_mem_take hy)⟩
    rw [List.length_take, h.length]
    omega
  have hdrop : Limbs.Valid word (n - 1) (row.1.drop 1) := by
    refine ⟨?_, fun y hy => h.lt y (List.mem_of_mem_drop hy)⟩
    rw [List.length_drop, h.length]
  have hall := hdrop.append (.cons (Nat.mod_lt (0 + row.2.1 + row.2.2) word_pos)
    .nil)
  rw [Nat.zero_add, Nat.sub_add_cancel hn] at hall
  exact ⟨htake, hall⟩

theorem above_value (hn : 0 < n) {row : List Nat × Nat × Nat}
    (h : Limbs.Valid word n row.1) (hcarry : row.2.1 + row.2.2 < word) :
    Nat.ofDigits word (row.1.take 1) + word * Nat.ofDigits word (above row)
      = Nat.ofDigits word row.1 + word ^ n * (row.2.1 + row.2.2) := by
  have hsplit := Limbs.value_take_drop (B := word)
    (List.length_pos_iff.mp (h.length.symm ▸ hn))
  have hpow : word ^ n = word * word ^ (n - 1) := by
    rw [← pow_succ', Nat.sub_add_cancel hn]
  have hword : (adcq 0 row.2.1 row.2.2).1 = row.2.1 + row.2.2 := by
    unfold adcq
    dsimp only
    rw [Nat.zero_add, Nat.mod_eq_of_lt hcarry]
  rw [above, Nat.ofDigits_append, Nat.ofDigits_singleton, List.length_drop,
    h.length, hword, hpow]
  linear_combination hsplit

theorem mulRows_valid (hn : 0 < n) {ys : List Nat} (hys : ys.length = n) :
    ∀ {ts : List Nat}, Limbs.Valid word n ts →
      Limbs.Valid word (xs.length + n) (mulRows xs ys ts) := by
  induction xs with
  | nil =>
    intro ts hts
    rw [List.length_nil, Nat.zero_add]
    exact hts
  | cons x xs ih =>
    intro ts hts
    have hrow := mulRow_valid (k := x) (u := 0) (f := 0)
      (hts.length.trans hys.symm)
    rw [hys] at hrow
    obtain ⟨htake, habove⟩ := above_valid hn hrow
    have hall := htake.append (ih habove)
    rwa [Nat.add_comm 1, Nat.add_right_comm] at hall

theorem mulRows_value (hn : 0 < n) {ys : List Nat}
    (hys : Limbs.Valid word n ys) :
    ∀ {ts : List Nat}, (∀ x ∈ xs, x < word) → Limbs.Valid word n ts →
      Nat.ofDigits word (mulRows xs ys ts) + droppedRows xs ys ts
        = Nat.ofDigits word xs * Nat.ofDigits word ys
          + Nat.ofDigits word ts := by
  induction xs with
  | nil => simp [mulRows, droppedRows]
  | cons x xs ih =>
    intro ts hxs hts
    have hlength := hts.length.trans hys.length.symm
    have hvalid := mulRow_valid (k := x) (u := 0) (f := 0) hlength
    have hvalue := mulRow_value (k := x) (u := 0) (f := 0) hlength
    rw [hys.length] at hvalid hvalue
    have hcarry := mulRow_carry_lt (hxs x List.mem_cons_self) hys.lt hts.lt
      (show 0 + 0 < word from word_pos)
    obtain ⟨htake, habove⟩ := above_valid hn hvalid
    have hsplit := above_value hn hvalid hcarry
    have hrest := ih (fun y hy => hxs y (List.mem_cons_of_mem x hy)) habove
    rw [mulRows, droppedRows, Nat.ofDigits_append, htake.length, pow_one,
      Nat.ofDigits_cons]
    linear_combination hvalue + hsplit + word * hrest

/-- Every row takes its carries; each is over what the rows before it are
without their lowest words. -/
def RowsFit : List Nat → List Nat → Nat → Prop
  | x :: xs, ys, W =>
    RowFits x ys W 0 ∧ RowsFit xs ys ((x * Nat.ofDigits word ys + W) / word)
  | [], _, _ => True

def decideRows (ys : List Nat) :
    (xs : List Nat) → (W : Nat) → Decidable (RowsFit xs ys W)
  | [], _ => .isTrue trivial
  | x :: xs, W =>
    have := decideRows ys xs ((x * Nat.ofDigits word ys + W) / word)
    inferInstanceAs (Decidable (_ ∧ _))

instance (xs ys : List Nat) (W : Nat) : Decidable (RowsFit xs ys W) :=
  decideRows ys xs W

theorem above_exact {n x : Nat} (hn : 0 < n) (hx : x < word) {ys ts : List Nat}
    (hys : Limbs.Valid word n ys) (hts : Limbs.Valid word n ts)
    (h : dropped x ys ts 0 = 0) :
    Nat.ofDigits word (above (mulRow x ys ts 0 0))
      = (x * Nat.ofDigits word ys + Nat.ofDigits word ts) / word := by
  have hlength := hts.length.trans hys.length.symm
  have hvalid := mulRow_valid (k := x) (u := 0) (f := 0) hlength
  have hvalue := mulRow_value (k := x) (u := 0) (f := 0) hlength
  rw [Nat.add_zero, h, hys.length] at hvalue
  rw [hys.length] at hvalid
  have hcarry := mulRow_carry_lt hx hys.lt hts.lt
    (show 0 + 0 < word from word_pos)
  have hsplit := above_value hn hvalid hcarry
  have hlow := (above_valid hn hvalid).1.value_lt one_lt_word
  rw [pow_one] at hlow
  rw [← Nat.add_zero (_ + _), ← hvalue, Nat.add_zero, ← hsplit,
    Nat.add_mul_div_left _ _ word_pos, Nat.div_eq_of_lt hlow, Nat.zero_add]

theorem droppedRows_eq_zero (hn : 0 < n) {ys : List Nat}
    (hys : Limbs.Valid word n ys) :
    ∀ {ts : List Nat}, (∀ x ∈ xs, x < word) → Limbs.Valid word n ts →
      (droppedRows xs ys ts = 0 ↔ RowsFit xs ys (Nat.ofDigits word ts)) := by
  induction xs with
  | nil => simp [droppedRows, RowsFit]
  | cons x xs ih =>
    intro ts hxs hts
    have hx := hxs x List.mem_cons_self
    have hlength := hts.length.trans hys.length.symm
    have hvalid := mulRow_valid (k := x) (u := 0) (f := 0) hlength
    rw [hys.length] at hvalid
    have hrest := ih (fun y hy => hxs y (List.mem_cons_of_mem x hy))
      (above_valid hn hvalid).2
    rw [droppedRows, RowsFit, ← dropped_eq_zero hlength hys.lt hts.lt,
      Nat.add_eq_zero_iff, Nat.mul_eq_zero, or_iff_right word_pos.ne', hrest]
    refine and_congr_right fun hzero => ?_
    rw [above_exact hn hx hys hts hzero]

/-- `mul_256x256`. -/
def mulAsm (a b : Field) : Words 8 :=
  let row := firstRow (a.limbs.headD 0) b.limbs 0 0
  ⟨row.1.take 1 ++ mulRows a.limbs.tail b.limbs (above row), by
    have hrow : Limbs.Valid word 4 row.1 :=
      b.valid.length ▸ firstRow_valid b.limbs
    obtain ⟨htake, habove⟩ := above_valid (by decide) hrow
    have hrest : Limbs.Valid word _ (mulRows a.limbs.tail b.limbs (above row)) :=
      mulRows_valid (by decide) b.valid.length habove
    have hall := htake.append hrest
    rwa [List.length_tail, a.valid.length] at hall⟩

/-- The product of the lowest limb is added over nothing; of the others,
every row has to take its carries. -/
def MulFits (a b : Field) : Prop :=
  RowsFit a.limbs.tail b.limbs (a.limbs.headD 0 * b.value / word)

instance (a b : Field) : Decidable (MulFits a b) :=
  inferInstanceAs (Decidable (RowsFit _ _ _))

theorem mulAsm_iff (a b : Field) : mulAsm a b = mul256 a b ↔ MulFits a b := by
  obtain ⟨x, xs, hlimbs⟩ : ∃ x xs, a.limbs = x :: xs :=
    List.exists_cons_of_length_pos (by rw [a.valid.length]; decide)
  have hvalid := a.valid.lt
  rw [hlimbs] at hvalid
  have hx := hvalid x List.mem_cons_self
  have hxs : ∀ y ∈ xs, y < word :=
    fun y hy => hvalid y (List.mem_cons_of_mem x hy)
  have hrow := firstRow_valid (k := x) b.limbs (u := 0) (f := 0)
  have hvalue := firstRow_value (k := x) b.limbs (u := 0) (f := 0)
  have hcarry := firstRow_carry_lt hx b.valid.lt
    (show 0 + 0 < word from word_pos)
  rw [b.valid.length] at hrow hvalue
  obtain ⟨htake, habove⟩ := above_valid (by decide) hrow
  have hsplit := above_value (by decide) hrow hcarry
  have hrest := mulRows_value (by decide) b.valid hxs habove
  have hexact : Nat.ofDigits word (above (firstRow x b.limbs 0 0))
      = x * b.value / word := by
    have hlow := htake.value_lt one_lt_word
    rw [pow_one] at hlow
    have hwhole : x * b.value = Nat.ofDigits word
        ((firstRow x b.limbs 0 0).1.take 1) + word * Nat.ofDigits word
          (above (firstRow x b.limbs 0 0)) := by
      rw [Words.value]
      linear_combination -hvalue - hsplit
    rw [hwhole, Nat.add_mul_div_left _ _ word_pos, Nat.div_eq_of_lt hlow,
      Nat.zero_add]
  have hlost : (mulAsm a b).value
      + word * droppedRows xs b.limbs (above (firstRow x b.limbs 0 0))
        = (mul256 a b).value := by
    rw [mul256_value, mulAsm, Words.value, Words.value, Words.value]
    simp only [hlimbs, List.headD_cons, List.tail_cons, Nat.ofDigits_append,
      Nat.ofDigits_cons, htake.length, pow_one]
    linear_combination hvalue + hsplit + word * hrest
  have hfits := droppedRows_eq_zero (by decide) b.valid hxs habove
  rw [hexact] at hfits
  have hiff : MulFits a b ↔ RowsFit xs b.limbs (x * b.value / word) := by
    rw [MulFits, hlimbs, List.headD_cons, List.tail_cons]
  rw [hiff, ← hfits]
  constructor
  · intro heq
    rw [heq] at hlost
    have hzero := Nat.add_eq_left.mp hlost
    rwa [Nat.mul_eq_zero, or_iff_right word_pos.ne'] at hzero
  · intro hzero
    rw [hzero, Nat.mul_zero, Nat.add_zero] at hlost
    exact Words.ext_value hlost

-- ==== sqr_256

/-- A square added to two words; what it carries out is overwritten. -/
def addSquare (x t t' : Nat) : Nat × Nat :=
  let (c0, c1) := mulx x x
  let (t, cf) := addq t c0
  let (t', _) := adcq t' c1 cf
  (t, t')

/-- A product doubled, and added to two words; what either carries out is
overwritten. -/
def addDouble (x y t t' : Nat) : Nat × Nat :=
  let (c0, c1) := mulx x y
  let (c0, cf) := addq c0 c0
  let (c1, _) := adcq c1 c1 cf
  let (t, cf) := addq t c0
  let (t', _) := adcq t' c1 cf
  (t, t')

/-- The lowest words: the product of the lowest limb with the third is added
once, its product with the second twice. -/
def sqrFirst (a0 a1 a2 : Nat) : Nat × Nat × Nat × Nat :=
  let (t0, t1) := mulx a0 a0
  let (c0, c1) := mulx a0 a1
  let (t2, t3) := mulx a0 a2
  let (c0, cf) := addq c0 c0
  let (t2, cf) := adcq t2 c1 cf
  let (t3, _) := adcq t3 0 cf
  let (t1, cf) := addq t1 c0
  let (t2, _) := adcq t2 c1 cf
  (t0, t1, t2, t3)

/-- The highest words: a square, and a word added. -/
def sqrLast (x t : Nat) : Nat × Nat :=
  let (c0, t') := mulx x x
  let (t, cf) := addq t c0
  let (t', _) := adcq t' 0 cf
  (t, t')

/-- The words of a square; the product of the lowest limb with the highest is
put one word too high, and once. -/
def sqrWords (a0 a1 a2 a3 : Nat) : List Nat :=
  let (t0, t1, t2, t3) := sqrFirst a0 a1 a2
  let (t4, t5) := mulx a0 a3
  let (t2, t3) := addSquare a1 t2 t3
  let (t3, t4) := addDouble a1 a2 t3 t4
  let (t4, t5) := addDouble a1 a3 t4 t5
  let (t4, t5) := addSquare a2 t4 t5
  let (t5, t6) := addDouble a2 a3 t5 0
  let (t6, t7) := sqrLast a3 t6
  [t0, t1, t2, t3, t4, t5, t6, t7]

/-- Both words are below the base, and stand for a sum, less what it carries
out. -/
structure Pair (r : Nat × Nat) (sum n : Nat) : Prop where
  low : r.1 < word
  high : r.2 < word
  value : r.1 + word * r.2 + word ^ 2 * n = sum

theorem Pair.carry_le {r : Nat × Nat} {sum n m : Nat} (h : Pair r sum n)
    (hsum : sum < word ^ 2 * (m + 1)) : n ≤ m := by
  refine Nat.le_of_lt_succ (Nat.lt_of_mul_lt_mul_left (a := word ^ 2) ?_)
  exact (h.value ▸ Nat.le_add_left _ _).trans_lt hsum

theorem products_lt {x y t t' : Nat} (hx : x < word) (hy : y < word)
    (ht : t < word) (ht' : t' < word) :
    t + word * t' + x * y < word ^ 2 * (1 + 1)
      ∧ t + word * t' + 2 * (x * y) < word ^ 2 * (2 + 1) := by
  have hprod : x * y ≤ (word - 1) * (word - 1) :=
    Nat.mul_le_mul (by omega) (by omega)
  norm_num [word] at *
  omega

theorem addSquare_pair (x t t' : Nat) :
    ∃ n, Pair (addSquare x t t') (t + word * t' + x * x) n := by
  have hprod := Nat.mod_add_div (x * x) word
  have hlow := Nat.mod_add_div (t + x * x % word) word
  have hhigh := Nat.mod_add_div (t' + x * x / word + (t + x * x % word) / word)
    word
  refine ⟨(t' + x * x / word + (t + x * x % word) / word) / word,
    Nat.mod_lt _ word_pos, Nat.mod_lt _ word_pos, ?_⟩
  simp only [addSquare, mulx, addq, adcq]
  linear_combination hprod + hlow + word * hhigh

theorem addDouble_pair (x y t t' : Nat) :
    ∃ n, Pair (addDouble x y t t') (t + word * t' + 2 * (x * y)) n := by
  have hprod := Nat.mod_add_div (x * y) word
  unfold addDouble mulx addq adcq
  dsimp only
  generalize x * y % word = c0, x * y / word = c1 at hprod ⊢
  have hdlow := Nat.mod_add_div (c0 + c0) word
  generalize (c0 + c0) % word = d0, (c0 + c0) / word = cf at hdlow ⊢
  have hdhigh := Nat.mod_add_div (c1 + c1 + cf) word
  generalize (c1 + c1 + cf) % word = d1, (c1 + c1 + cf) / word = n at hdhigh ⊢
  have hlow := Nat.mod_add_div (t + d0) word
  have hhigh := Nat.mod_add_div (t' + d1 + (t + d0) / word) word
  refine ⟨n + (t' + d1 + (t + d0) / word) / word, Nat.mod_lt _ word_pos,
    Nat.mod_lt _ word_pos, ?_⟩
  linear_combination 2 * hprod + hdlow + word * hdhigh + hlow + word * hhigh

theorem mulx_pair {x y : Nat} (hx : x < word) (hy : y < word) :
    Pair (mulx x y) (x * y) 0 := by
  refine ⟨Nat.mod_lt _ word_pos, ?_, ?_⟩
  · exact Nat.div_lt_of_lt_mul (Nat.mul_lt_mul'' hx hy)
  · rw [Nat.mul_zero, Nat.add_zero]
    exact Nat.mod_add_div (x * y) word

theorem sqrLast_pair {x t : Nat} (hx : x < word) (ht : t < word) :
    Pair (sqrLast x t) (t + x * x) 0 := by
  have hprod : x * x ≤ (word - 1) * (word - 1) :=
    Nat.mul_le_mul (by omega) (by omega)
  have hsplit := Nat.mod_add_div (x * x) word
  refine ⟨Nat.mod_lt _ word_pos, Nat.mod_lt _ word_pos, ?_⟩
  simp only [sqrLast, mulx, addq, adcq]
  norm_num [word] at *
  omega

/-- The lowest words stand for the products they add, less one carry; the
highest of them is nothing without the product with the third limb. -/
theorem sqrFirst_value {a0 a1 a2 : Nat} (h0 : a0 < word) (h1 : a1 < word)
    (h2 : a2 < word) :
    ∃ t0 t1 t2 t3 k, sqrFirst a0 a1 a2 = (t0, t1, t2, t3)
      ∧ (t0 < word ∧ t1 < word ∧ t2 < word ∧ t3 < word ∧ k ≤ 1)
      ∧ t0 + word * t1 + word ^ 2 * t2 + word ^ 3 * t3 + word ^ 3 * k
        = a0 * a0 + 2 * (a0 * a1) * word + a0 * a2 * word ^ 2
      ∧ (a0 * a2 = 0 → t3 = 0) := by
  have hsquare := mulx_pair h0 h0
  have hdouble := mulx_pair h0 h1
  have hthird := mulx_pair h0 h2
  unfold sqrFirst
  generalize mulx a0 a0 = s at hsquare ⊢
  generalize mulx a0 a1 = c at hdouble ⊢
  generalize mulx a0 a2 = t at hthird ⊢
  obtain ⟨hs0, hs1, hs⟩ := hsquare
  obtain ⟨hc0, hc1, hc⟩ := hdouble
  obtain ⟨ht0, ht1, ht⟩ := hthird
  have hc1' : c.2 + 1 < word := by
    have hprod : a0 * a1 ≤ (word - 1) * (word - 1) :=
      Nat.mul_le_mul (by omega) (by omega)
    norm_num [word] at hprod hc ⊢
    omega
  have ht1' : t.2 + 1 < word := by
    have hprod : a0 * a2 ≤ (word - 1) * (word - 1) :=
      Nat.mul_le_mul (by omega) (by omega)
    norm_num [word] at hprod ht ⊢
    omega
  refine ⟨_, _, _, _, ((t.1 + c.2 + (c.1 + c.1) / word) % word + c.2
    + (s.2 + (c.1 + c.1) % word) / word) / word, rfl, ⟨hs0,
    Nat.mod_lt _ word_pos, Nat.mod_lt _ word_pos, Nat.mod_lt _ word_pos, ?_⟩,
    ?_, ?_⟩
  · norm_num [word] at *
    omega
  · norm_num [word] at *
    omega
  · intro hzero
    rw [hzero] at ht
    norm_num [word] at *
    omega

theorem near_mul_mod {i j : Nat} (hi : i < 13) (hj : j < 13) :
    (word - (i + 1)) * (word - (j + 1)) % word = (i + 1) * (j + 1) := by
  have hsmall : (i + 1) * (j + 1) ≤ 13 * 13 := Nat.mul_le_mul hi hj
  obtain ⟨n, hn⟩ : ∃ n, word = n + (i + 1) + (j + 1) := by
    refine ⟨word - (i + 1) - (j + 1), ?_⟩
    change 2 ^ 64 = 2 ^ 64 - (i + 1) - (j + 1) + (i + 1) + (j + 1)
    omega
  have hexpand : (word - (i + 1)) * (word - (j + 1))
      = (i + 1) * (j + 1) + word * n := by
    rw [hn, show n + (i + 1) + (j + 1) - (i + 1) = n + (j + 1) by omega,
      Nat.add_sub_cancel]
    ring
  rw [hexpand, Nat.add_mul_mod_self_left, Nat.mod_eq_of_lt]
  exact hsmall.trans_lt (by decide)

theorem high_lt {x y u : Nat} (hx : x < word) (hy : y < word)
    (h : x * y = word * u) : u + 13 < word := by
  by_contra hge
  have hnear : ∀ {z w : Nat}, w < word → z * w = word * u → word ≤ z + 13 := by
    intro z w hw hzw
    by_contra hlt
    have hmul : z * w ≤ (word - 14) * word := Nat.mul_le_mul (by omega) hw.le
    have hbase : word * (word - 13) ≤ word * u :=
      Nat.mul_le_mul_left word (by omega)
    rw [← hzw] at hbase
    exact absurd (hbase.trans hmul) (by decide)
  have hxnear := hnear hy h
  have hynear := hnear hx (Nat.mul_comm x y ▸ h)
  obtain ⟨i, hi, rfl⟩ : ∃ i < 13, x = word - (i + 1) :=
    ⟨word - 1 - x, by omega, by omega⟩
  obtain ⟨j, hj, rfl⟩ : ∃ j < 13, y = word - (j + 1) :=
    ⟨word - 1 - y, by omega, by omega⟩
  have hmod := near_mul_mod hi hj
  rw [h, Nat.mul_mod_right] at hmod
  exact absurd hmod.symm (Nat.mul_ne_zero (by omega) (by omega))

/-- What is put too high cannot make up for what is dropped and what is added
once: times the base less two, it would be a high word near the base. -/
theorem sqr_balanced {x y v k n4 n5 n6 n7 : Nat} (hx : x < word)
    (hy : y < word) (hv : v < word * word) (hk : k ≤ 1) (h4 : n4 ≤ 1)
    (h5 : n5 ≤ 2)
    (h : x * y + 2 * v * word + k * word + n4 * word ^ 2 + n5 * word ^ 3
      + n6 * word ^ 4 + n7 * word ^ 5 = v * word ^ 2) :
    x * y = 0 ∧ v = 0 ∧ k = 0 ∧ n4 = 0 ∧ n5 = 0 ∧ n6 = 0 ∧ n7 = 0 := by
  obtain ⟨u, hu⟩ : ∃ u, x * y = word * u := by
    refine (Nat.dvd_add_right (?_ : word ∣ 2 * v * word + k * word
      + n4 * word ^ 2 + n5 * word ^ 3 + n6 * word ^ 4 + n7 * word ^ 5)).mp ?_
    · exact ⟨2 * v + k + n4 * word + n5 * word ^ 2 + n6 * word ^ 3
        + n7 * word ^ 4, by ring⟩
    · exact ⟨v * word, by linear_combination h⟩
  have hhigh := high_lt hx hy hu
  rw [hu] at h ⊢
  norm_num [word] at *
  have h67 : n6 = 0 ∧ n7 = 0 := by omega
  obtain ⟨q, hq⟩ : ∃ q : Int, q = v - n4 - n5 * 18446744073709551618 :=
    ⟨_, rfl⟩
  have hmultiple : (u + k + 2 * n4 + 4 * n5 : Int)
      = 18446744073709551614 * q := by omega
  clear h
  have hzero : q = 0 := by omega
  omega

/-- The words of a square, the pairs that they were added in, and what each of
these carried out. -/
structure SqrSums (a0 a1 a2 a3 : Nat) where
  (t0 t1 t2 t3 k n4 n5 n6 n6' n7 : Nat)
  (m s d e f g h : Nat × Nat)
  words : sqrWords a0 a1 a2 a3 = [t0, t1, s.1, d.1, f.1, g.1, h.1, h.2]
  lt : t0 < word ∧ t1 < word ∧ t2 < word ∧ t3 < word ∧ k ≤ 1
  first : t0 + word * t1 + word ^ 2 * t2 + word ^ 3 * t3 + word ^ 3 * k
    = a0 * a0 + 2 * (a0 * a1) * word + a0 * a2 * word ^ 2
  none : a0 * a2 = 0 → t3 = 0
  atM : Pair m (a0 * a3) 0
  atS : Pair s (t2 + word * t3 + a1 * a1) n4
  atD : Pair d (s.2 + word * m.1 + 2 * (a1 * a2)) n5
  atE : Pair e (d.2 + word * m.2 + 2 * (a1 * a3)) n6
  atF : Pair f (e.1 + word * e.2 + a2 * a2) n6'
  atG : Pair g (f.2 + 2 * (a2 * a3)) n7
  atH : Pair h (g.2 + a3 * a3) 0

section sums

variable {a0 a1 a2 a3 : Nat}

theorem sqrWords_sums (h0 : a0 < word) (h1 : a1 < word) (h2 : a2 < word)
    (h3 : a3 < word) : Nonempty (SqrSums a0 a1 a2 a3) := by
  obtain ⟨t0, t1, t2, t3, k, hfirst, hlt, hsum, hnone⟩ :=
    sqrFirst_value h0 h1 h2
  obtain ⟨n4, hs⟩ := addSquare_pair a1 t2 t3
  obtain ⟨n5, hd⟩ := addDouble_pair a1 a2 (addSquare a1 t2 t3).2
    (mulx a0 a3).1
  obtain ⟨n6, he⟩ := addDouble_pair a1 a3 (addDouble a1 a2
    (addSquare a1 t2 t3).2 (mulx a0 a3).1).2 (mulx a0 a3).2
  obtain ⟨n6', hf⟩ := addSquare_pair a2 (addDouble a1 a3 (addDouble a1 a2
    (addSquare a1 t2 t3).2 (mulx a0 a3).1).2 (mulx a0 a3).2).1
    (addDouble a1 a3 (addDouble a1 a2 (addSquare a1 t2 t3).2
      (mulx a0 a3).1).2 (mulx a0 a3).2).2
  obtain ⟨n7, hg⟩ := addDouble_pair a2 a3 (addSquare a2 (addDouble a1 a3
    (addDouble a1 a2 (addSquare a1 t2 t3).2 (mulx a0 a3).1).2
      (mulx a0 a3).2).1 (addDouble a1 a3 (addDouble a1 a2
        (addSquare a1 t2 t3).2 (mulx a0 a3).1).2 (mulx a0 a3).2).2).2 0
  rw [Nat.mul_zero, Nat.add_zero] at hg
  refine ⟨t0, t1, t2, t3, k, n4, n5, n6, n6', n7, _, _, _, _, _, _, _, ?_, hlt,
    hsum, hnone, mulx_pair h0 h3, hs, hd, he, hf, hg, sqrLast_pair h3 hg.high⟩
  rw [sqrWords, hfirst]

theorem SqrSums.valid (w : SqrSums a0 a1 a2 a3) :
    Limbs.Valid word 8 (sqrWords a0 a1 a2 a3) := by
  rw [w.words]
  exact .cons w.lt.1 (.cons w.lt.2.1 (.cons w.atS.low (.cons w.atD.low
    (.cons w.atF.low (.cons w.atG.low (.cons w.atH.low (.cons w.atH.high
      .nil)))))))

/-- What is carried out, and what is added once, against what is put too
high. -/
theorem SqrSums.total (w : SqrSums a0 a1 a2 a3) :
    Nat.ofDigits word (sqrWords a0 a1 a2 a3)
      + word ^ 2 * (a0 * a2 + 2 * (a0 * a3) * word + w.k * word
        + w.n4 * word ^ 2 + w.n5 * word ^ 3 + (w.n6 + w.n6') * word ^ 4
        + w.n7 * word ^ 5)
    = (a0 + word * (a1 + word * (a2 + word * a3))) ^ 2
      + word ^ 2 * (a0 * a3 * word ^ 2) := by
  have hm := w.atM.value
  have hs := w.atS.value
  have hd := w.atD.value
  have he := w.atE.value
  have hf := w.atF.value
  have hg := w.atG.value
  have hh := w.atH.value
  rw [w.words]
  simp only [Nat.ofDigits_cons, Nat.ofDigits_nil]
  linear_combination w.first + word ^ 4 * hm + word ^ 2 * hs + word ^ 3 * hd
    + word ^ 4 * he + word ^ 4 * hf + word ^ 5 * hg + word ^ 6 * hh

/-- The sums so far, as the words they are in and what they carry out, where
the lowest limb is multiplied with the second only. -/
theorem SqrSums.partials (w : SqrSums a0 a1 a2 a3) (h1 : a1 < word)
    (hz2 : a0 * a2 = 0) (hz3 : a0 * a3 = 0) :
    w.n4 = 0
      ∧ a0 * a0 + 2 * (a0 * a1) * word
        = Nat.ofDigits word [w.t0, w.t1, w.t2] + word ^ 3 * w.k
      ∧ (w.k = 0 → a0 * a0 + 2 * (a0 * a1) * word + a1 * a1 * word ^ 2
          + 2 * (a1 * a2) * word ^ 3
        = Nat.ofDigits word [w.t0, w.t1, w.s.1, w.d.1, w.d.2] + word ^ 5 * w.n5)
      ∧ (w.k = 0 → w.n5 = 0 → a0 * a0 + 2 * (a0 * a1) * word
          + a1 * a1 * word ^ 2 + 2 * (a1 * a2) * word ^ 3
          + 2 * (a1 * a3) * word ^ 4 + a2 * a2 * word ^ 4
        = Nat.ofDigits word [w.t0, w.t1, w.s.1, w.d.1, w.f.1, w.f.2]
          + word ^ 6 * (w.n6 + w.n6'))
      ∧ (w.k = 0 → w.n5 = 0 → w.n6 + w.n6' = 0 →
        a0 * a0 + 2 * (a0 * a1) * word + a1 * a1 * word ^ 2
          + 2 * (a1 * a2) * word ^ 3 + 2 * (a1 * a3) * word ^ 4
          + a2 * a2 * word ^ 4 + 2 * (a2 * a3) * word ^ 5
        = Nat.ofDigits word [w.t0, w.t1, w.s.1, w.d.1, w.f.1, w.g.1, w.g.2]
          + word ^ 7 * w.n7) := by
  have hfirst := w.first
  have hm := w.atM.value
  have hs := w.atS.value
  have hd := w.atD.value
  have he := w.atE.value
  have hf := w.atF.value
  have hg := w.atG.value
  have hn4 : w.n4 = 0 := by
    refine Nat.le_zero.mp (w.atS.carry_le ?_)
    have hprod : a1 * a1 ≤ (word - 1) * (word - 1) :=
      Nat.mul_le_mul (by omega) (by omega)
    have ht2 := w.lt.2.2.1
    rw [w.none hz2]
    norm_num [word] at hprod ht2 ⊢
    omega
  have hm1 : w.m.1 = 0 := by omega
  have hm2 : w.m.2 = 0 := by
    have : word * w.m.2 = 0 := by omega
    exact (Nat.mul_eq_zero.mp this).resolve_left word_pos.ne'
  rw [hz2, w.none hz2] at hfirst
  rw [w.none hz2, hn4] at hs
  rw [hm1] at hd
  rw [hm2] at he
  simp only [Nat.ofDigits_cons, Nat.ofDigits_nil]
  refine ⟨hn4, ?_, ?_, ?_, ?_⟩
  · linear_combination -hfirst
  · intro hk
    rw [hk] at hfirst
    linear_combination -hfirst - word ^ 2 * hs - word ^ 3 * hd
  · intro hk hn5
    rw [hk] at hfirst
    rw [hn5] at hd
    linear_combination -hfirst - word ^ 2 * hs - word ^ 3 * hd
      - word ^ 4 * he - word ^ 4 * hf
  · intro hk hn5 hn6
    obtain ⟨hn, hn'⟩ := Nat.add_eq_zero_iff.mp hn6
    rw [hk] at hfirst
    rw [hn5] at hd
    rw [hn] at he
    rw [hn'] at hf
    linear_combination -hfirst - word ^ 2 * hs - word ^ 3 * hd
      - word ^ 4 * he - word ^ 4 * hf - word ^ 5 * hg

end sums

/-- The limb at an index. -/
def limb (a : Field) (i : Nat) : Nat := a.limbs.getD i 0

theorem limb_lt (a : Field) (i : Nat) : limb a i < word := by
  rw [limb, List.getD_eq_getElem?_getD]
  cases h : a.limbs[i]? with
  | none => exact word_pos
  | some x => exact a.valid.lt x (List.mem_of_getElem? h)

/-- `sqr_256`. -/
def sqrAsm (a : Field) : Words 8 :=
  ⟨sqrWords (limb a 0) (limb a 1) (limb a 2) (limb a 3), by
    obtain ⟨w⟩ := sqrWords_sums (limb_lt a 0) (limb_lt a 1) (limb_lt a 2)
      (limb_lt a 3)
    exact w.valid⟩

/-- The lowest limb has nothing to be multiplied with but the second, and the
sums fit into the words they are added to. -/
def SqrFits (a : Field) : Prop :=
  let s := limb a 0 * limb a 0 + 2 * (limb a 0 * limb a 1) * word
  let s' := s + limb a 1 * limb a 1 * word ^ 2
    + 2 * (limb a 1 * limb a 2) * word ^ 3
  let s'' := s' + 2 * (limb a 1 * limb a 3) * word ^ 4
    + limb a 2 * limb a 2 * word ^ 4
  (limb a 0 * limb a 2 = 0 ∧ limb a 0 * limb a 3 = 0) ∧ s < word ^ 3
    ∧ s' < word ^ 5 ∧ s'' < word ^ 6
    ∧ s'' + 2 * (limb a 2 * limb a 3) * word ^ 5 < word ^ 7
  deriving Decidable

theorem sqr256_limbs (a : Field) : (sqr256 a).value
    = (limb a 0 + word * (limb a 1 + word * (limb a 2
      + word * limb a 3))) ^ 2 := by
  rw [sqr256, mul256_value, ← pow_two, Words.value]
  congr 1
  obtain ⟨limbs, hvalid⟩ := a
  obtain ⟨a0, a1, a2, a3, rfl⟩ :=
    List.length_eq_four.mp hvalid.length
  simp [limb, Nat.ofDigits_cons]

theorem carry_eq_zero {v r n c : Nat} (hlt : v < word ^ n)
    (h : v = r + word ^ n * c) : c = 0 := by
  by_contra hc
  have := Nat.le_mul_of_pos_right (word ^ n) (Nat.pos_of_ne_zero hc)
  omega

theorem sqrAsm_iff (a : Field) : sqrAsm a = sqr256 a ↔ SqrFits a := by
  have h0 := limb_lt a 0
  have h1 := limb_lt a 1
  have h2 := limb_lt a 2
  have h3 := limb_lt a 3
  have hsquare := sqr256_limbs a
  have hvalue : (sqrAsm a).value = Nat.ofDigits word
      (sqrWords (limb a 0) (limb a 1) (limb a 2) (limb a 3)) := rfl
  have heq : sqrAsm a = sqr256 a ↔ (sqrAsm a).value = (sqr256 a).value :=
    ⟨congrArg _, Words.ext_value⟩
  rw [heq, hsquare, hvalue, SqrFits]
  generalize limb a 0 = a0, limb a 1 = a1, limb a 2 = a2, limb a 3 = a3
    at h0 h1 h2 h3 ⊢
  obtain ⟨w⟩ := sqrWords_sums h0 h1 h2 h3
  have htotal := w.total
  obtain ⟨ht0, ht1, ht2, ht3, hk⟩ := w.lt
  constructor
  · intro hexact
    rw [hexact] at htotal
    have hlost := Nat.eq_of_mul_eq_mul_left (by decide)
      (Nat.add_left_cancel htotal)
    have hn4 := w.atS.carry_le (products_lt h1 h1 ht2 ht3).1
    have hn5 := w.atD.carry_le (products_lt h1 h2 w.atS.high w.atM.low).2
    obtain ⟨hz2, hz3, hk0, -, hn5, hn6, hn7⟩ := sqr_balanced h0 h2
      (Nat.mul_lt_mul'' h0 h3) hk hn4 hn5 hlost
    obtain ⟨-, hs3, hs5, hs6, hs7⟩ := w.partials h1 hz2 hz3
    rw [hs7 hk0 hn5 hn6, hs6 hk0 hn5, hs5 hk0, hs3, hk0, hn5, hn6, hn7]
    have hv3 : Limbs.Valid word 3 [w.t0, w.t1, w.t2] :=
      .cons ht0 (.cons ht1 (.cons ht2 .nil))
    have hv5 : Limbs.Valid word 5 [w.t0, w.t1, w.s.1, w.d.1, w.d.2] :=
      .cons ht0 (.cons ht1 (.cons w.atS.low (.cons w.atD.low
        (.cons w.atD.high .nil))))
    have hv6 : Limbs.Valid word 6 [w.t0, w.t1, w.s.1, w.d.1, w.f.1, w.f.2] :=
      .cons ht0 (.cons ht1 (.cons w.atS.low (.cons w.atD.low
        (.cons w.atF.low (.cons w.atF.high .nil)))))
    have hv7 : Limbs.Valid word 7
        [w.t0, w.t1, w.s.1, w.d.1, w.f.1, w.g.1, w.g.2] :=
      .cons ht0 (.cons ht1 (.cons w.atS.low (.cons w.atD.low
        (.cons w.atF.low (.cons w.atG.low (.cons w.atG.high .nil))))))
    exact ⟨⟨hz2, hz3⟩, hv3.value_lt one_lt_word, hv5.value_lt one_lt_word,
      hv6.value_lt one_lt_word, hv7.value_lt one_lt_word⟩
  · rintro ⟨⟨hz2, hz3⟩, hlt3, hlt5, hlt6, hlt7⟩
    obtain ⟨hn4, hs3, hs5, hs6, hs7⟩ := w.partials h1 hz2 hz3
    have hk0 := carry_eq_zero hlt3 hs3
    have hn5 := carry_eq_zero hlt5 (hs5 hk0)
    have hn6 := carry_eq_zero hlt6 (hs6 hk0 hn5)
    have hn7 := carry_eq_zero hlt7 (hs7 hk0 hn5 hn6)
    rw [hz2, hz3, hk0, hn4, hn5, hn6, hn7] at htotal
    simpa using htotal

end KamiyoProtocol.DarkForest.Portable.Asm
