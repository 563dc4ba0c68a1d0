/-
The other places where `field.c` of `dark-forest-core` takes a faster way:
`mont_reduce` as it is built for x86-64, the comparison without branches, and
the inversion of many elements at once.

A round of the reduction adds its row and carries on over the four words
above, past the end of the eight from the second round on. What it drops is a
sum of few powers of the base, none of them a multiple of the modulus.
-/
import KamiyoProtocol.DarkForest.FieldAsm

namespace KamiyoProtocol.DarkForest.Portable.Asm

-- ==== mont_reduce

/-- `adc` to a word each; the words behind are not touched. -/
def adcWords : List Nat → List Nat → Nat → List Nat
  | t :: ts, y :: ys, cf =>
    let (t', cf') := adcq t y cf
    t' :: adcWords ts ys cf'
  | ts, _, _ => ts

/-- One round, on the words from the one that it clears: the row, and its
carry added to the four words above. -/
def montRound (t : List Nat) : List Nat :=
  let k := t.headD 0 * fieldInvWord % word
  let (row, hi, cf) := mulRow k fieldModulus.limbs (t.take 4) 0 0
  (row ++ adcWords (t.drop 4) [hi, 0, 0, 0] cf).tail

def montRounds : Nat → List Nat → List Nat
  | 0, t => t
  | n + 1, t => montRounds n (montRound t)

theorem adcWords_valid {ts : List Nat} :
    ∀ {n : Nat} (ys : List Nat) (cf : Nat), Limbs.Valid word n ts →
      Limbs.Valid word n (adcWords ts ys cf) := by
  induction ts with
  | nil => exact fun _ _ h => h
  | cons t ts ih =>
    intro n ys cf h
    cases ys with
    | nil => exact h
    | cons y ys =>
      obtain rfl : n = ts.length + 1 := h.length.symm
      exact .cons (Nat.mod_lt _ word_pos) (ih ys _ h.tail.2)

theorem montRound_valid {n : Nat} (hn : 4 ≤ n) {t : List Nat}
    (ht : Limbs.Valid word (n + 1) t) :
    Limbs.Valid word n (montRound t) := by
  have htake : (t.take 4).length = fieldModulus.limbs.length := by
    rw [List.length_take, ht.length]
    exact Nat.min_eq_left (by omega)
  have hdrop : Limbs.Valid word (n + 1 - 4) (t.drop 4) := by
    refine ⟨?_, fun y hy => ht.lt y (List.mem_of_mem_drop hy)⟩
    rw [List.length_drop, ht.length]
  have hrow := mulRow_valid (k := t.headD 0 * fieldInvWord % word) (u := 0)
    (f := 0) htake
  unfold montRound
  dsimp only
  generalize mulRow (t.headD 0 * fieldInvWord % word) fieldModulus.limbs
    (t.take 4) 0 0 = row at hrow ⊢
  have hall := hrow.append (adcWords_valid [row.2.1, 0, 0, 0] row.2.2 hdrop)
  refine ⟨?_, fun y hy => hall.lt y (List.mem_of_mem_tail hy)⟩
  rw [List.length_tail, hall.length, fieldModulus.valid.length]
  omega

theorem montRounds_valid (n : Nat) :
    ∀ {m : Nat} {t : List Nat}, 4 ≤ m → Limbs.Valid word (m + n) t →
      Limbs.Valid word m (montRounds n t) := by
  induction n with
  | zero => exact fun _ h => h
  | succ n ih =>
    intro m t hm ht
    exact ih hm (montRound_valid (hm.trans (Nat.le_add_right m n)) ht)

theorem adcWords_zeros {ts : List Nat} :
    ∀ {n : Nat}, (∀ t ∈ ts, t < word) →
      adcWords ts (List.replicate n 0) 0 = ts := by
  induction ts with
  | nil => exact fun _ => rfl
  | cons t ts ih =>
    intro n h
    cases n with
    | zero => rfl
    | succ n =>
      have ht := h t List.mem_cons_self
      rw [List.replicate_succ, adcWords]
      simp only [adcq, Nat.add_zero]
      rw [Nat.mod_eq_of_lt ht, Nat.div_eq_of_lt ht,
        ih fun y hy => h y (List.mem_cons_of_mem t hy)]

/-- What a round drops. -/
def droppedRound (t : List Nat) : Nat :=
  dropped (t.headD 0 * fieldInvWord % word) fieldModulus.limbs (t.take 4) 0

theorem dropped_dvd {k : Nat} {xs ts : List Nat} {c : Nat} :
    word ∣ dropped k xs ts c := by
  cases xs with
  | nil => exact Nat.dvd_zero _
  | cons x xs =>
    cases ts with
    | nil => exact Nat.dvd_zero _
    | cons t ts => exact Nat.dvd_mul_right _ _

/-- What the rounds drop. -/
def droppedRounds : Nat → List Nat → Nat
  | 0, _ => 0
  | n + 1, t => droppedRound t + word * droppedRounds n (montRound t)

/-- Every round takes its carries; each is over what is left of the sums
before it. -/
def RoundsFit : Nat → Nat → Prop
  | 0, _ => True
  | n + 1, T =>
    let k := T * fieldInvWord % word
    RowFits k fieldModulus.limbs T 0
      ∧ RoundsFit n ((T + k * Bn254.modulus) / word)

def decideRounds : (n T : Nat) → Decidable (RoundsFit n T)
  | 0, _ => .isTrue trivial
  | n + 1, T =>
    have := decideRounds n ((T + T * fieldInvWord % word * Bn254.modulus)
      / word)
    inferInstanceAs (Decidable (_ ∧ _))

instance (n T : Nat) : Decidable (RoundsFit n T) := decideRounds n T

theorem rowFits_mod {k c W : Nat} (ys : List Nat) :
    RowFits k ys (W % word ^ ys.length) c ↔ RowFits k ys W c := by
  refine forall₂_congr fun j hj => ?_
  rw [carryInto, carryInto, Nat.mod_mod_of_dvd W (pow_dvd_pow word hj.le)]

theorem head_mul (w : List Nat) : w.headD 0 * fieldInvWord % word
    = Nat.ofDigits word w * fieldInvWord % word :=
  ((Limbs.value_modEq_head w).symm.mul_right _ :)

theorem droppedRound_append {w rest : List Nat} (h : 4 ≤ w.length) :
    droppedRound (w ++ rest) = droppedRound w := by
  rw [droppedRound, List.take_append_of_le_length h]
  cases w with
  | nil => cases h
  | cons x xs => rfl

theorem droppedRound_eq_zero {n : Nat} (hn : 4 ≤ n) {w : List Nat}
    (hw : Limbs.Valid word n w) :
    droppedRound w = 0 ↔ RowFits (Nat.ofDigits word w * fieldInvWord % word)
      fieldModulus.limbs (Nat.ofDigits word w) 0 := by
  have hp : fieldModulus.limbs.length = 4 := fieldModulus.valid.length
  have hlow : (w.take 4).length = 4 :=
    List.length_take_of_le (by rw [hw.length]; exact hn)
  rw [droppedRound, head_mul, dropped_eq_zero (hlow.trans hp.symm)
    fieldModulus.valid.lt fun y hy => hw.lt y (List.mem_of_mem_take hy),
    ← Nat.ofDigits_mod_pow_eq_ofDigits_take 4 word_pos w hw.lt]
  exact rowFits_mod fieldModulus.limbs

section behind

variable {rest : List Nat} (hrest : ∀ t ∈ rest, t < word)
include hrest

theorem adcWords_carry {ts : List Nat} :
    ∀ {n c : Nat}, ts.length ≤ n → Nat.ofDigits word ts + c < word ^ ts.length →
      ∃ us, adcWords (ts ++ rest) (List.replicate n 0) c = us ++ rest
        ∧ Limbs.Valid word ts.length us
        ∧ Nat.ofDigits word us = Nat.ofDigits word ts + c := by
  induction ts with
  | nil =>
    intro n c _ hfits
    obtain rfl : c = 0 := by simpa using hfits
    exact ⟨[], adcWords_zeros hrest, .nil, rfl⟩
  | cons t ts ih =>
    intro n c hn hfits
    obtain ⟨n, rfl⟩ := Nat.exists_eq_add_of_le' (Nat.one_le_of_lt hn)
    have hdiv := Nat.mod_add_div (t + 0 + c) word
    rw [Nat.ofDigits_cons, List.length_cons, pow_succ'] at hfits
    obtain ⟨us, heq, hvalid, hvalue⟩ := ih (n := n) (c := (t + 0 + c) / word)
      (Nat.le_of_succ_le_succ hn) (by
        refine Nat.lt_of_mul_lt_mul_left (a := word) ?_
        rw [Nat.mul_add]
        omega)
    refine ⟨(t + 0 + c) % word :: us, congrArg (_ :: ·) heq,
      .cons (Nat.mod_lt _ word_pos) hvalid, ?_⟩
    rw [Nat.ofDigits_cons, Nat.ofDigits_cons, hvalue]
    linear_combination hdiv

theorem adcWords_row (ts : List Nat) (hi cf : Nat) (hne : ts ≠ [])
    (hlen : ts.length ≤ 4)
    (hfits : Nat.ofDigits word ts + (hi + cf) < word ^ ts.length) :
    ∃ us, adcWords (ts ++ rest) [hi, 0, 0, 0] cf = us ++ rest
      ∧ Limbs.Valid word ts.length us
      ∧ Nat.ofDigits word us = Nat.ofDigits word ts + (hi + cf) := by
  obtain ⟨t, ts, rfl⟩ := List.exists_cons_of_ne_nil hne
  have hdiv := Nat.mod_add_div (t + hi + cf) word
  rw [Nat.ofDigits_cons, List.length_cons, pow_succ'] at hfits
  obtain ⟨us, heq, hvalid, hvalue⟩ := adcWords_carry hrest (n := 3)
    (c := (t + hi + cf) / word) (Nat.le_of_succ_le_succ hlen) (by
      refine Nat.lt_of_mul_lt_mul_left (a := word) ?_
      rw [Nat.mul_add]
      omega)
  refine ⟨(t + hi + cf) % word :: us, congrArg (_ :: ·) heq,
    .cons (Nat.mod_lt _ word_pos) hvalid, ?_⟩
  rw [Nat.ofDigits_cons, Nat.ofDigits_cons, hvalue]
  linear_combination hdiv

/-- A round leaves, with what it drops, the sum with the multiple of the
modulus, divided by the base. -/
theorem montRound_value {m : Nat} (hm : 4 ≤ m) (hm' : m ≤ 7) {w : List Nat}
    (hw : Limbs.Valid word (m + 1) w)
    (hfits : Nat.ofDigits word w + (word - 1) * Bn254.modulus < word ^ (m + 1)) :
    ∃ w', montRound (w ++ rest) = w' ++ rest ∧ Limbs.Valid word m w'
      ∧ word * Nat.ofDigits word w' + droppedRound w
        = Nat.ofDigits word w
          + w.headD 0 * fieldInvWord % word * Bn254.modulus := by
  have hp : fieldModulus.limbs.length = 4 := fieldModulus.valid.length
  have hmodulus : Nat.ofDigits word fieldModulus.limbs = Bn254.modulus :=
    fieldModulus_value
  have hle : 4 ≤ w.length := by rw [hw.length]; omega
  have hhead : (w ++ rest).headD 0 = w.headD 0 := by
    cases w with
    | nil => cases hw.length
    | cons x xs => rfl
  have hlow : (w.take 4).length = 4 := List.length_take_of_le hle
  have hhigh : (w.drop 4).length = m + 1 - 4 := by
    rw [List.length_drop, hw.length]
  have hsplit : Nat.ofDigits word w = Nat.ofDigits word (w.take 4)
      + word ^ 4 * Nat.ofDigits word (w.drop 4) := by
    conv_lhs => rw [← List.take_append_drop 4 w]
    rw [Nat.ofDigits_append, hlow]
  have hk := Nat.mod_lt (w.headD 0 * fieldInvWord) word_pos
  have hclear := Limbs.cleared (B := word) (q := fieldInvWord)
    (p := fieldModulus.limbs) (t := w) (by decide)
  unfold montRound droppedRound
  dsimp only
  rw [hhead, List.take_append_of_le_length hle,
    List.drop_append_of_le_length hle]
  rw [hmodulus] at hclear
  generalize w.headD 0 * fieldInvWord % word = k at hk hclear ⊢
  have hvalid := mulRow_valid (k := k) (u := 0) (f := 0) (hlow.trans hp.symm)
  have hvalue := mulRow_value (k := k) (u := 0) (f := 0) (hlow.trans hp.symm)
  rw [hmodulus, Nat.add_zero] at hvalue
  rw [hp] at hvalid hvalue
  have hdvd : word ∣ dropped k fieldModulus.limbs (w.take 4) 0 := dropped_dvd
  generalize mulRow k fieldModulus.limbs (w.take 4) 0 0 = row
    at hvalid hvalue ⊢
  generalize dropped k fieldModulus.limbs (w.take 4) 0 = lost
    at hvalue hdvd ⊢
  have hmul := Nat.mul_le_mul_right Bn254.modulus (Nat.le_sub_one_of_lt hk)
  obtain ⟨us, heq, husvalid, husvalue⟩ := adcWords_row hrest (w.drop 4)
    row.2.1 row.2.2
    (List.length_pos_iff.mp (by rw [hhigh]; omega)) (by rw [hhigh]; omega) (by
      refine Nat.lt_of_mul_lt_mul_left (a := word ^ 4) ?_
      rw [hhigh, ← pow_add, show 4 + (m + 1 - 4) = m + 1 by omega]
      refine Nat.lt_of_le_of_lt ?_ hfits
      rw [Nat.mul_add]
      omega)
  rw [hhigh] at husvalid
  have hall := hvalid.append husvalid
  have hsum : Nat.ofDigits word (row.1 ++ us) + lost
      = Nat.ofDigits word w + k * Bn254.modulus := by
    rw [Nat.ofDigits_append, hvalid.length, husvalue]
    linear_combination hvalue - hsplit
  have hzero : Nat.ofDigits word (row.1 ++ us) ≡ 0 [MOD word] := by
    have hlost : lost ≡ 0 [MOD word] := (Nat.modEq_zero_iff_dvd).mpr hdvd
    have hboth : Nat.ofDigits word (row.1 ++ us) + lost ≡ 0 + 0 [MOD word] := by
      rw [hsum]
      exact hclear
    exact Nat.ModEq.add_right_cancel hlost hboth
  have htail := Limbs.value_tail hall.lt hzero
  have hlen : (row.1 ++ us).length = m + 1 := by
    rw [hall.length]
    omega
  refine ⟨(row.1 ++ us).tail, ?_, ⟨?_, ?_⟩, ?_⟩
  · rw [heq, ← List.append_assoc]
    refine List.tail_append_of_ne_nil ?_
    exact List.length_pos_iff.mp (by rw [hlen]; omega)
  · rw [List.length_tail, hlen, Nat.add_sub_cancel]
  · exact fun y hy => hall.lt y (List.mem_of_mem_tail hy)
  · rw [htail, hsum]

/-- After all rounds the result, times the base as often as there were
rounds, is with what is dropped the number and a multiple of the modulus. -/
theorem montRounds_value (n : Nat) :
    ∀ {m : Nat} {w : List Nat}, 4 ≤ m → m + n ≤ 8 → Limbs.Valid word (m + n) w →
      Nat.ofDigits word w + (word ^ n - 1) * Bn254.modulus < word ^ (m + n) →
      ∃ w', montRounds n (w ++ rest) = w' ++ rest ∧ Limbs.Valid word m w'
        ∧ (∃ K < word ^ n, word ^ n * Nat.ofDigits word w'
            + droppedRounds n (w ++ rest)
          = Nat.ofDigits word w + K * Bn254.modulus)
        ∧ (droppedRounds n (w ++ rest) = 0
          ↔ RoundsFit n (Nat.ofDigits word w)) := by
  induction n with
  | zero =>
    intro m w _ _ hw _
    exact ⟨w, rfl, hw, ⟨0, by simp, by simp [droppedRounds]⟩,
      by simp [droppedRounds, RoundsFit]⟩
  | succ n ih =>
    intro m w hm hmn hw hfits
    have hpow : 1 ≤ word ^ n := Nat.one_le_pow _ _ word_pos
    have hfirst : (word - 1) * Bn254.modulus
        ≤ (word ^ (n + 1) - 1) * Bn254.modulus := by
      refine Nat.mul_le_mul_right _ (Nat.sub_le_sub_right ?_ 1)
      rw [pow_succ]
      exact Nat.le_mul_of_pos_left word hpow
    obtain ⟨w', heq, hvalid, hround⟩ := montRound_value hrest (m := m + n)
      (by omega) (by omega) hw (by rw [Nat.add_assoc]; omega)
    have hk := Nat.mod_lt (w.headD 0 * fieldInvWord) word_pos
    have hdropped : droppedRound (w ++ rest) = droppedRound w :=
      droppedRound_append (by rw [hw.length]; omega)
    have hlow := droppedRound_eq_zero (by omega) hw
    rw [head_mul] at hk hround
    generalize hkeq : Nat.ofDigits word w * fieldInvWord % word = k
      at hk hround hlow
    have hnext : Nat.ofDigits word w' + (word ^ n - 1) * Bn254.modulus
        < word ^ (m + n) := by
      have hkle : k + word * (word ^ n - 1) ≤ word ^ (n + 1) - 1 := by
        rw [pow_succ', Nat.mul_sub, Nat.mul_one]
        have := Nat.le_mul_of_pos_right word hpow
        omega
      have hmul := Nat.mul_le_mul_right Bn254.modulus hkle
      refine Nat.lt_of_mul_lt_mul_left (a := word) ?_
      calc word * (Nat.ofDigits word w' + (word ^ n - 1) * Bn254.modulus)
          ≤ word * (Nat.ofDigits word w' + (word ^ n - 1) * Bn254.modulus)
            + droppedRound w := Nat.le_add_right _ _
        _ = Nat.ofDigits word w
            + (k + word * (word ^ n - 1)) * Bn254.modulus := by
            linear_combination hround
        _ ≤ Nat.ofDigits word w + (word ^ (n + 1) - 1) * Bn254.modulus :=
            Nat.add_le_add_left hmul _
        _ < word ^ (m + (n + 1)) := hfits
        _ = word * word ^ (m + n) := pow_succ' word (m + n)
    obtain ⟨w'', heq', hvalid', ⟨K, hK, hrounds⟩, hiff⟩ :=
      ih hm (by omega) hvalid hnext
    refine ⟨w'', ?_, hvalid', ⟨k + word * K, ?_, ?_⟩, ?_⟩
    · rw [montRounds, heq, heq']
    · calc k + word * K < word + word * K := Nat.add_lt_add_right hk _
        _ = word * (K + 1) := by ring
        _ ≤ word * word ^ n := Nat.mul_le_mul_left word hK
        _ = word ^ (n + 1) := (pow_succ' word n).symm
    · rw [droppedRounds, hdropped, heq, pow_succ]
      linear_combination word * hrounds + hround
    · rw [droppedRounds, hdropped, heq, RoundsFit, Nat.add_eq_zero_iff,
        Nat.mul_eq_zero, or_iff_right word_pos.ne', hiff, hlow]
      rw [hkeq]
      refine and_congr_right fun hfit => ?_
      have hzero := hlow.mpr hfit
      rw [hzero, Nat.add_zero] at hround
      rw [← hround, Nat.mul_div_cancel_left _ word_pos]

end behind

-- ==== what is dropped

theorem dropped_cons {k x t c : Nat} (xs ts : List Nat) (hk : k < word)
    (hx : x < word) (ht : t < word) (hc : c < word) :
    ∃ b ≤ 1, ∃ c' < word,
      dropped k (x :: xs) (t :: ts) c = word * (b + dropped k xs ts c')
        ∧ (c = 0 → b = 0) := by
  have hlow := Nat.mod_lt (k * x) word_pos
  refine ⟨(k * x % word + c) / word, ?_, _, carry_lt hk hx ht
    (Nat.mod_lt (k * x % word + c) word_pos), rfl, ?_⟩
  · exact Nat.le_of_lt_succ ((Nat.div_lt_iff_lt_mul word_pos).mpr (by omega))
  · rintro rfl
    exact Nat.div_eq_of_lt hlow

/-- What a round drops: nothing with its first limb, and one carry at most
with each of the others. -/
theorem droppedRound_bits {n : Nat} (hn : 4 ≤ n) {w : List Nat}
    (hw : Limbs.Valid word n w) :
    ∃ b1 ≤ 1, ∃ b2 ≤ 1, ∃ b3 ≤ 1, droppedRound w
      = word ^ 2 * (b1 + word * b2 + word ^ 2 * b3) := by
  have hk := Nat.mod_lt (w.headD 0 * fieldInvWord) word_pos
  unfold droppedRound
  generalize w.headD 0 * fieldInvWord % word = k at hk ⊢
  have hlow : (w.take 4).length = 4 :=
    List.length_take_of_le (by rw [hw.length]; exact hn)
  have hlt : ∀ t ∈ w.take 4, t < word :=
    fun y hy => hw.lt y (List.mem_of_mem_take hy)
  match w.take 4, hlow, hlt with
  | [t0, t1, t2, t3], _, hlt =>
    obtain ⟨b0, -, c0, hc0, h0, hnone⟩ := dropped_cons
      [0x97816A916871CA8D, 0xB85045B68181585D, 0x30644E72E131A029]
      [t1, t2, t3] hk (show 0x3C208C16D87CFD47 < word by decide)
      (hlt t0 (by simp)) word_pos
    obtain ⟨b1, hb1, c1, hc1, h1, -⟩ := dropped_cons
      [0xB85045B68181585D, 0x30644E72E131A029] [t2, t3] hk
      (show 0x97816A916871CA8D < word by decide) (hlt t1 (by simp)) hc0
    obtain ⟨b2, hb2, c2, hc2, h2, -⟩ := dropped_cons
      [0x30644E72E131A029] [t3] hk
      (show 0xB85045B68181585D < word by decide) (hlt t2 (by simp)) hc1
    obtain ⟨b3, hb3, c3, -, h3, -⟩ := dropped_cons [] [] hk
      (show 0x30644E72E131A029 < word by decide) (hlt t3 (by simp)) hc2
    have hend : dropped k [] [] c3 = 0 := rfl
    refine ⟨b1, hb1, b2, hb2, b3, hb3, ?_⟩
    change dropped k [_, _, _, _] _ 0 = _
    rw [h0, h1, h2, h3, hnone rfl, hend]
    ring

/-- Few carries of the two highest weights, and less than four of the next,
are no multiple of the modulus. -/
theorem carries_eq_zero {low c4 c5 : Nat} (hlow : low < 4 * word ^ 3)
    (h4 : c4 ≤ 2) (h5 : c5 ≤ 1)
    (h : Bn254.modulus ∣ low + word ^ 4 * c4 + word ^ 5 * c5) :
    low = 0 ∧ c4 = 0 ∧ c5 = 0 := by
  obtain ⟨q, hq⟩ := h
  unfold Bn254.modulus at hq
  norm_num [word] at hq hlow ⊢
  interval_cases c5
  · interval_cases c4
    · omega
    · omega
    · omega
  · interval_cases c4
    · omega
    · omega
    · omega

theorem droppedRounds_eq_zero {n : Nat} (hn : 4 ≤ n) {t : List Nat}
    (ht : Limbs.Valid word (n + 4) t)
    (h : Bn254.modulus ∣ droppedRounds 4 t) : droppedRounds 4 t = 0 := by
  have ht1 := montRound_valid (n := n + 3) (by omega) ht
  have ht2 := montRound_valid (n := n + 2) (by omega) ht1
  have ht3 := montRound_valid (n := n + 1) (by omega) ht2
  obtain ⟨b1, hb1, b2, hb2, b3, hb3, hd0⟩ := droppedRound_bits (by omega) ht
  obtain ⟨e1, he1, e2, he2, e3, he3, hd1⟩ := droppedRound_bits (by omega) ht1
  obtain ⟨f1, hf1, f2, hf2, f3, hf3, hd2⟩ := droppedRound_bits (by omega) ht2
  obtain ⟨g1, hg1, g2, hg2, g3, hg3, hd3⟩ := droppedRound_bits (by omega) ht3
  have hsum : droppedRounds 4 t = word ^ 2 * (b1 + word * (b2 + e1)
      + word ^ 2 * (b3 + e2 + f1) + word ^ 3 * (e3 + f2 + g1)
      + word ^ 4 * (f3 + g2) + word ^ 5 * g3) := by
    simp only [droppedRounds, hd0, hd1, hd2, hd3]
    ring
  have hcoprime : Nat.gcd Bn254.modulus (word ^ 2) = 1 := by decide
  rw [hsum] at h ⊢
  obtain ⟨hlow, h4, h5⟩ := carries_eq_zero (by
    norm_num [word]
    omega) (show f3 + g2 ≤ 2 by omega) hg3
    (Nat.Coprime.dvd_of_dvd_mul_left hcoprime h)
  rw [hlow, h4, h5]
  rfl

-- ==== sub_256

/-- The difference with the carry flag, and the carry flag. -/
def sbbq (x y cf : Nat) : Nat × Nat :=
  ((x + word - y - cf) % word, if x < y + cf then 1 else 0)

/-- `sub` and `sbb`, and the carry flag at the end. -/
def sbbWords : List Nat → List Nat → Nat → List Nat × Nat
  | x :: xs, y :: ys, cf =>
    let (r, cf') := sbbq x y cf
    let (rs, out) := sbbWords xs ys cf'
    (r :: rs, out)
  | _, _, cf => ([], cf)

theorem sbbWords_eq {xs : List Nat} :
    ∀ {ys : List Nat} {cf : Nat}, cf ≤ 1 → (∀ x ∈ xs, x < word) →
      (∀ y ∈ ys, y < word) →
      (sbbWords xs ys cf).1 = (Limbs.sub word xs ys (-cf)).1
        ∧ (sbbWords xs ys cf).2 ≤ 1
        ∧ -((sbbWords xs ys cf).2 : Int) = (Limbs.sub word xs ys (-cf)).2 := by
  induction xs with
  | nil => exact fun h _ _ => ⟨rfl, h, rfl⟩
  | cons x xs ih =>
    intro ys cf h hxs hys
    cases ys with
    | nil => exact ⟨rfl, h, rfl⟩
    | cons y ys =>
      have hx := hxs x List.mem_cons_self
      have hy := hys y List.mem_cons_self
      have hborrow : (-(cf : Int) + (x - y)) / word
          = -((sbbq x y cf).2 : Nat) := by
        change x < 2 ^ 64 at hx
        change y < 2 ^ 64 at hy
        unfold sbbq word
        dsimp only
        split
        · omega
        · omega
      have hdigit : ((-(cf : Int) + (x - y)) % word).toNat
          = (sbbq x y cf).1 := by
        change x < 2 ^ 64 at hx
        change y < 2 ^ 64 at hy
        change ((-(cf : Int) + (x - y)) % (2 ^ 64 : Nat)).toNat
          = (x + 2 ^ 64 - y - cf) % 2 ^ 64
        omega
      have hle : (sbbq x y cf).2 ≤ 1 := by
        unfold sbbq
        split
        · exact le_rfl
        · exact Nat.zero_le 1
      obtain ⟨hdigits, hout, hneg⟩ := ih hle
        (fun z hz => hxs z (List.mem_cons_of_mem x hz))
        (fun z hz => hys z (List.mem_cons_of_mem y hz))
      simp only [sbbWords, Limbs.sub, hborrow, hdigit, hdigits]
      exact ⟨trivial, hout, hneg⟩

/-- `sub_256`. -/
def subAsm (a b : Field) : Field × Nat :=
  let r := sbbWords a.limbs b.limbs 0
  (⟨r.1, by
    obtain ⟨heq, -⟩ := sbbWords_eq (Nat.zero_le 1) a.valid.lt b.valid.lt
    exact heq ▸ (sub256 a b).1.valid⟩, r.2)

theorem subAsm_eq (a b : Field) : subAsm a b = sub256 a b := by
  obtain ⟨heq, hle, hneg⟩ :=
    sbbWords_eq (Nat.zero_le 1) a.valid.lt b.valid.lt
  rw [Nat.cast_zero, neg_zero] at heq hneg
  refine Prod.ext ?_ ?_
  · refine Words.ext_value ?_
    exact congrArg (Nat.ofDigits word) heq
  · change (sbbWords a.limbs b.limbs 0).2
      = if (Limbs.sub word a.limbs b.limbs 0).2 < 0 then 1 else 0
    rw [← hneg]
    split
    · omega
    · omega

/-- `mont_reduce`, on the eight words and the three behind them. -/
def montReduceAsm (t : Words 8) (behind : Words 3) : Field :=
  let r : Field := ⟨(montRounds 4 (t.limbs ++ behind.limbs)).take 4, by
    have hall : Limbs.Valid word 7 (montRounds 4 (t.limbs ++ behind.limbs)) :=
      montRounds_valid 4 (by decide) (t.valid.append behind.valid)
    refine ⟨List.length_take_of_le (by rw [hall.length]; decide), ?_⟩
    exact fun y hy => hall.lt y (List.mem_of_mem_take hy)⟩
  let (tmp, borrow) := subAsm r fieldModulus
  let mask := (borrow + (word - 1)) % word
  select mask r tmp

/-- The words behind the eight are left as they were, and the result is that
of the portable reduction exactly where every round takes its carries. -/
theorem montReduceAsm_iff {t : Words 8} (behind : Words 3)
    (ht : t.value < radix * Bn254.modulus) :
    (montRounds 4 (t.limbs ++ behind.limbs)).drop 4 = behind.limbs
      ∧ (montReduceAsm t behind = montReduce t ↔ RoundsFit 4 t.value) := by
  have hfits : t.value + (word ^ 4 - 1) * Bn254.modulus < word ^ (4 + 4) := by
    have hdouble : 2 * (radix * Bn254.modulus) ≤ word ^ (4 + 4) := by decide
    have hpred : (radix - 1) * Bn254.modulus ≤ radix * Bn254.modulus :=
      Nat.mul_le_mul_right _ (Nat.sub_le _ _)
    change t.value + (radix - 1) * Bn254.modulus < _
    omega
  obtain ⟨w, heq, hvalid, ⟨K, hK, hvalue⟩, hiff⟩ := montRounds_value
    behind.valid.lt 4 (m := 4) le_rfl le_rfl t.valid hfits
  have hzero := droppedRounds_eq_zero (n := 7) (by decide)
    (t.valid.append behind.valid)
  change radix * _ + _ = t.value + K * Bn254.modulus at hvalue
  generalize droppedRounds 4 (t.limbs ++ behind.limbs) = lost
    at hvalue hiff hzero
  have hlt : Nat.ofDigits word w < 2 * Bn254.modulus := by
    have hkp := Nat.mul_lt_mul_of_pos_right hK
      (show 0 < Bn254.modulus by decide)
    refine Nat.lt_of_mul_lt_mul_left (a := radix) ?_
    calc radix * Nat.ofDigits word w
        ≤ radix * Nat.ofDigits word w + lost := Nat.le_add_right _ _
      _ = t.value + K * Bn254.modulus := hvalue
      _ < radix * Bn254.modulus + radix * Bn254.modulus := Nat.add_lt_add ht hkp
      _ = radix * (2 * Bn254.modulus) := by ring
  have hresult : (montReduceAsm t behind).value
      = Nat.ofDigits word w % Bn254.modulus := by
    have hr : montReduceAsm t behind = select (((sub256 ⟨w, hvalid⟩
        fieldModulus).2 + (word - 1)) % word) ⟨w, hvalid⟩
        (sub256 ⟨w, hvalid⟩ fieldModulus).1 := by
      have htake : (montRounds 4 (t.limbs ++ behind.limbs)).take 4 = w := by
        rw [heq]
        exact List.take_left' hvalid.length
      simp only [montReduceAsm, subAsm_eq, htake]
    rw [hr, (sub256_value _ fieldModulus).2, fieldModulus_value, select_clear]
    exact reduced_value hlt
  refine ⟨?_, ?_⟩
  · rw [heq]
    exact List.drop_left' hvalid.length
  have hscaled : (montReduceAsm t behind).value * radix + lost
      ≡ t.value [MOD Bn254.modulus] := by
    rw [hresult]
    calc Nat.ofDigits word w % Bn254.modulus * radix + lost
        ≡ Nat.ofDigits word w * radix + lost [MOD Bn254.modulus] :=
          ((Nat.mod_modEq _ _).mul_right _).add_right _
      _ = t.value + K * Bn254.modulus := by rw [Nat.mul_comm, hvalue]
      _ ≡ t.value [MOD Bn254.modulus] := Nat.add_mul_mod_self_right _ _ _
  obtain ⟨hless, hspec⟩ := montReduce_spec ht
  change lost = 0 ↔ RoundsFit 4 t.value at hiff
  rw [← hiff]
  constructor
  · intro hsame
    rw [hsame] at hscaled
    have hlost : lost ≡ 0 [MOD Bn254.modulus] :=
      Nat.ModEq.add_left_cancel hspec.symm hscaled.symm |>.symm
    exact hzero ((Nat.modEq_zero_iff_dvd).mp hlost)
  · intro hnone
    rw [hnone, Nat.add_zero] at hscaled
    have hprime : Bn254.modulus.gcd radix = 1 := by decide
    have hmod := Nat.ModEq.cancel_right_of_coprime hprime
      (hscaled.trans hspec.symm)
    have hsmall : (montReduceAsm t behind).value < Bn254.modulus := by
      rw [hresult]
      exact Nat.mod_lt _ (by decide)
    exact Words.ext_value (Nat.ModEq.eq_of_lt_of_lt hmod hsmall hless)

-- ==== field_cmp

/-- One limb of the comparison: the highest bits of the differences, unless
the order is known. -/
def cmpLimb (xy decided : Nat × Nat) : Nat × Nat :=
  let aGtB := ((xy.2 + word - xy.1) % word) >>> 63
  let bGtA := ((xy.1 + word - xy.2) % word) >>> 63
  let undecided := (decided.1 ||| decided.2) ^^^ 1
  (decided.1 ||| (aGtB &&& undecided), decided.2 ||| (bGtA &&& undecided))

/-- `field_cmp`, from the highest limb down. -/
def fieldCmp (a b : Field) : Int :=
  let (gt, lt) := (a.limbs.zip b.limbs).foldr cmpLimb (0, 0)
  (gt : Int) - lt

/-- The highest limbs that differ are less than `2^63` apart. -/
def Near : List Nat → List Nat → Prop
  | x :: xs, y :: ys =>
    if xs = ys then x < y + 2 ^ 63 ∧ y < x + 2 ^ 63 else Near xs ys
  | _, _ => True

def decideNear : (xs ys : List Nat) → Decidable (Near xs ys)
  | x :: xs, y :: ys =>
    have := decideNear xs ys
    inferInstanceAs (Decidable (if xs = ys
      then x < y + 2 ^ 63 ∧ y < x + 2 ^ 63 else Near xs ys))
  | [], _ => .isTrue trivial
  | _ :: _, [] => .isTrue trivial

instance (xs ys : List Nat) : Decidable (Near xs ys) := decideNear xs ys

theorem highBit {x y : Nat} (hx : x < word) (hy : y < word) :
    ((y + word - x) % word) >>> 63
      = if y < x ∧ x ≤ y + 2 ^ 63 ∨ x + 2 ^ 63 ≤ y then 1 else 0 := by
  rw [Nat.shiftRight_eq_div_pow]
  change x < 2 ^ 64 at hx
  change y < 2 ^ 64 at hy
  change (y + 2 ^ 64 - x) % 2 ^ 64 / 2 ^ 63 = _
  split
  · omega
  · omega

/-- A limb where nothing is known: equal limbs leave it so; others decide it,
and rightly where they are less than `2^63` apart. -/
theorem cmpLimb_open {x y : Nat} (hx : x < word) (hy : y < word) :
    (x = y → cmpLimb (x, y) (0, 0) = (0, 0))
      ∧ (x ≠ y → (cmpLimb (x, y) (0, 0)).1 ||| (cmpLimb (x, y) (0, 0)).2 = 1
        ∧ (((cmpLimb (x, y) (0, 0)).1 : Int) - (cmpLimb (x, y) (0, 0)).2
            = Int.sign (x - y) ↔ x < y + 2 ^ 63 ∧ y < x + 2 ^ 63)) := by
  have hbit : ∀ p : Prop, [Decidable p] → 0 ||| ((if p then 1 else 0)
      &&& ((0 ||| 0) ^^^ 1)) = if p then 1 else 0 := by
    intro p hp
    split
    · rfl
    · rfl
  simp only [cmpLimb, highBit hx hy, highBit hy hx, hbit]
  constructor
  · rintro rfl
    rw [if_neg (by omega)]
  · intro hne
    rcases Nat.lt_or_gt_of_ne hne with hlt | hgt
    · have hsign : Int.sign ((x : Int) - y) = -1 :=
        Int.sign_eq_neg_one_of_neg (by omega)
      rw [hsign]
      split <;> split <;> simp <;> omega
    · have hsign : Int.sign ((x : Int) - y) = 1 :=
        Int.sign_eq_one_of_pos (by omega)
      rw [hsign]
      split <;> split <;> simp <;> omega

theorem cmpLimb_decided {xy decided : Nat × Nat}
    (h : decided.1 ||| decided.2 = 1) : cmpLimb xy decided = decided := by
  simp [cmpLimb, h]

theorem sign_cons {x y X Y : Nat} (hx : x < word) (hy : y < word)
    (h : X ≠ Y) : Int.sign (((x + word * X : Nat) : Int) - (y + word * Y : Nat))
      = Int.sign ((X : Int) - Y) := by
  change x < 2 ^ 64 at hx
  change y < 2 ^ 64 at hy
  change Int.sign (((x + 2 ^ 64 * X : Nat) : Int) - (y + 2 ^ 64 * Y : Nat)) = _
  rcases Nat.lt_or_gt_of_ne h with hlt | hgt
  · rw [Int.sign_eq_neg_one_of_neg (by omega),
      Int.sign_eq_neg_one_of_neg (by omega)]
  · rw [Int.sign_eq_one_of_pos (by omega), Int.sign_eq_one_of_pos (by omega)]

/-- The limbs decide the order exactly if they differ, and rightly exactly if
the highest that differ are near. -/
theorem cmpLimbs_spec {xs : List Nat} :
    ∀ {ys : List Nat}, ys.length = xs.length → (∀ x ∈ xs, x < word) →
      (∀ y ∈ ys, y < word) →
      (xs = ys → (xs.zip ys).foldr cmpLimb (0, 0) = (0, 0))
        ∧ (xs ≠ ys → ((xs.zip ys).foldr cmpLimb (0, 0)).1
            ||| ((xs.zip ys).foldr cmpLimb (0, 0)).2 = 1)
        ∧ ((((xs.zip ys).foldr cmpLimb (0, 0)).1 : Int)
            - ((xs.zip ys).foldr cmpLimb (0, 0)).2
          = Int.sign (Nat.ofDigits word xs - Nat.ofDigits word ys : Int)
            ↔ Near xs ys) := by
  induction xs with
  | nil =>
    intro ys h _ _
    rw [List.length_eq_zero_iff.mp h]
    simp [Near]
  | cons x xs ih =>
    intro ys h hxs hys
    cases ys with
    | nil => cases h
    | cons y ys =>
      have hx := hxs x List.mem_cons_self
      have hy := hys y List.mem_cons_self
      obtain ⟨hsame, hdiff, hsign⟩ := ih (Nat.succ.inj h)
        (fun z hz => hxs z (List.mem_cons_of_mem x hz))
        (fun z hz => hys z (List.mem_cons_of_mem y hz))
      rw [List.zip_cons_cons, List.foldr_cons, Near]
      by_cases heq : xs = ys
      · subst heq
        obtain ⟨hequal, hother⟩ := cmpLimb_open hx hy
        rw [hsame rfl, if_pos rfl]
        refine ⟨fun h => hequal (List.cons.inj h).1,
          fun h => (hother fun hxy => h (by rw [hxy])).1, ?_⟩
        rw [Nat.ofDigits_cons, Nat.ofDigits_cons, Nat.cast_add,
          Nat.cast_add, add_sub_add_right_eq_sub]
        by_cases hxy : x = y
        · subst hxy
          rw [hequal rfl]
          simp
        · exact (hother hxy).2
      · have hdecided := hdiff heq
        rw [cmpLimb_decided hdecided, if_neg heq, ← hsign]
        refine ⟨fun h => absurd (List.cons.inj h).2 heq, fun _ => hdecided, ?_⟩
        have hvalue : Nat.ofDigits word xs ≠ Nat.ofDigits word ys :=
          fun hv => heq (Nat.ofDigits_inj_of_len_eq one_lt_word
            (Nat.succ.inj h).symm
            (fun z hz => hxs z (List.mem_cons_of_mem x hz))
            (fun z hz => hys z (List.mem_cons_of_mem y hz)) hv)
        rw [Nat.ofDigits_cons, Nat.ofDigits_cons, sign_cons hx hy hvalue]

theorem fieldCmp_iff (a b : Field) :
    fieldCmp a b = Int.sign (a.value - b.value) ↔ Near a.limbs b.limbs :=
  (cmpLimbs_spec (b.valid.length.trans a.valid.length.symm) a.valid.lt
    b.valid.lt).2.2

-- ==== field_batch_inv

/-- The products before each element, and the element. -/
def prefixes : Field → List Field → List (Field × Field)
  | _, [] => []
  | acc, x :: xs => (acc, x) :: prefixes (fieldMul acc x) xs

/-- From the last element down: the inverse of the product so far times the
product before an element is that of the element. -/
def invertBack (pair : Field × Field) (rs : List Field × Field) :
    List Field × Field :=
  (fieldMul rs.2 pair.1 :: rs.1, fieldMul rs.2 pair.2)

/-- `field_batch_inv`, where the scratch allocation succeeds or does not. -/
def fieldBatchInv (alloc : Bool) : List Field → List Field
  | [] => []
  | [x] => [fieldInv x]
  | x :: xs =>
    if alloc then
      let invAll := fieldInv (xs.foldl fieldMul x)
      let (rs, inv) := (prefixes x xs).foldr invertBack ([], invAll)
      inv :: rs
    else (x :: xs).map fieldInv

theorem foldl_mul {xs : List Field} :
    ∀ {x : Field}, x.value < Bn254.modulus →
      (∀ y ∈ xs, y.value < Bn254.modulus) →
      (xs.foldl fieldMul x).value < Bn254.modulus
        ∧ mont (xs.foldl fieldMul x) = mont x * (xs.map mont).prod := by
  induction xs with
  | nil =>
    intro x hx _
    exact ⟨hx, by simp⟩
  | cons y xs ih =>
    intro x hx hxs
    obtain ⟨hlt, hmul⟩ := mont_mul (a := x) (hxs y List.mem_cons_self)
    obtain ⟨hless, hprod⟩ := ih hlt
      fun z hz => hxs z (List.mem_cons_of_mem y hz)
    rw [List.foldl_cons, hprod, hmul, List.map_cons, List.prod_cons, mul_assoc]
    exact ⟨hless, rfl⟩

/-- With the inverse of a product that is not zero, every element gets its
inverse, and with zero, zero. -/
theorem invertBack_spec {xs : List Field} :
    ∀ {x inv : Field}, x.value < Bn254.modulus →
      (∀ y ∈ xs, y.value < Bn254.modulus) → inv.value < Bn254.modulus →
      mont inv = (mont x * (xs.map mont).prod)⁻¹ →
      ((prefixes x xs).foldr invertBack ([], inv)).2.value < Bn254.modulus
        ∧ (∀ r ∈ ((prefixes x xs).foldr invertBack ([], inv)).1,
          r.value < Bn254.modulus)
        ∧ mont ((prefixes x xs).foldr invertBack ([], inv)).2
          = (mont x * (xs.map mont).prod)⁻¹ * (xs.map mont).prod
        ∧ ((prefixes x xs).foldr invertBack ([], inv)).1.map mont
          = xs.map fun y =>
            if mont x * (xs.map mont).prod = 0 then 0 else (mont y)⁻¹ := by
  induction xs with
  | nil =>
    intro x inv hx _ hinv hmont
    exact ⟨hinv, by simp [prefixes], by simpa [prefixes] using hmont,
      by simp [prefixes]⟩
  | cons y xs ih =>
    intro x inv hx hxs hinv hmont
    have hy := hxs y List.mem_cons_self
    obtain ⟨hlt, hmul⟩ := mont_mul (a := x) hy
    have htotal : mont (fieldMul x y) * (xs.map mont).prod
        = mont x * ((y :: xs).map mont).prod := by
      rw [hmul, List.map_cons, List.prod_cons, mul_assoc]
    obtain ⟨hinv', hrs, hmont', hmap⟩ := ih hlt
      (fun z hz => hxs z (List.mem_cons_of_mem y hz)) hinv
      (hmont.trans (congrArg _ htotal.symm))
    rw [htotal] at hmont' hmap
    rw [prefixes, List.foldr_cons]
    generalize (prefixes (fieldMul x y) xs).foldr invertBack ([], inv) = st
      at hinv' hrs hmont' hmap ⊢
    obtain ⟨hless, hprod⟩ := mont_mul (a := st.2) hx
    obtain ⟨hless', hprod'⟩ := mont_mul (a := st.2) hy
    refine ⟨hless', ?_, ?_, ?_⟩
    · intro r hr
      rcases List.mem_cons.mp hr with rfl | hr
      · exact hless
      · exact hrs r hr
    · rw [invertBack, hprod', hmont', List.map_cons, List.prod_cons]
      ring
    · have hhead : (mont x * ((y :: xs).map mont).prod)⁻¹
          * (xs.map mont).prod * mont x
          = if mont x * ((y :: xs).map mont).prod = 0 then 0
            else (mont y)⁻¹ := by
        by_cases hzero : mont x * ((y :: xs).map mont).prod = 0
        · rw [if_pos hzero, hzero, inv_zero, zero_mul, zero_mul]
        · rw [if_neg hzero]
          rw [List.map_cons, List.prod_cons] at hzero ⊢
          have hx0 := left_ne_zero_of_mul hzero
          have hy0 := left_ne_zero_of_mul (right_ne_zero_of_mul hzero)
          have hp0 := right_ne_zero_of_mul (right_ne_zero_of_mul hzero)
          field_simp
      rw [invertBack, List.map_cons, hmap, hprod, hmont', hhead]
      rfl

theorem mont_eq_zero {a : Field} (ha : a.value < Bn254.modulus) :
    mont a = 0 ↔ a.value = 0 := by
  rw [mont, mul_eq_zero, or_iff_left (inv_ne_zero montRadix_ne_zero),
    ZMod.natCast_eq_zero_iff]
  constructor
  · exact fun h => Nat.eq_zero_of_dvd_of_lt h ha
  · intro h
    rw [h]
    exact Nat.dvd_zero _

theorem map_mont_injective {l : List Field} :
    ∀ {l' : List Field}, (∀ a ∈ l, a.value < Bn254.modulus) →
      (∀ a ∈ l', a.value < Bn254.modulus) → l.map mont = l'.map mont →
      l = l' := by
  induction l with
  | nil =>
    intro l' _ _ h
    exact (List.map_eq_nil_iff.mp h.symm).symm
  | cons a l ih =>
    intro l' hl hl' h
    cases l' with
    | nil => cases h
    | cons b l' =>
      obtain ⟨hhead, htail⟩ := List.cons.inj h
      rw [mont_injective (hl a List.mem_cons_self)
        (hl' b List.mem_cons_self) hhead,
        ih (fun c hc => hl c (List.mem_cons_of_mem a hc))
          (fun c hc => hl' c (List.mem_cons_of_mem b hc)) htail]

section batch

variable {x y : Field} {xs : List Field}

/-- What is computed all at once: zeros, if an element is zero, else the
inverses. -/
theorem fieldBatchInv_mont (hl : ∀ a ∈ x :: y :: xs, a.value < Bn254.modulus) :
    (∀ r ∈ fieldBatchInv true (x :: y :: xs), r.value < Bn254.modulus)
      ∧ (fieldBatchInv true (x :: y :: xs)).map mont
        = (x :: y :: xs).map fun z =>
          if ((x :: y :: xs).map mont).prod = 0 then 0 else (mont z)⁻¹ := by
  have hx := hl x List.mem_cons_self
  have hxs : ∀ a ∈ y :: xs, a.value < Bn254.modulus :=
    fun a ha => hl a (List.mem_cons_of_mem x ha)
  obtain ⟨hall, hprod⟩ := foldl_mul hx hxs
  obtain ⟨hinv, hmont⟩ := fieldInv_mont hall
  rw [hprod] at hmont
  obtain ⟨hlast, hrest, hfirst, hmap⟩ := invertBack_spec hx hxs hinv hmont
  have hrun : fieldBatchInv true (x :: y :: xs)
      = ((prefixes x (y :: xs)).foldr invertBack
          ([], fieldInv ((y :: xs).foldl fieldMul x))).2
        :: ((prefixes x (y :: xs)).foldr invertBack
          ([], fieldInv ((y :: xs).foldl fieldMul x))).1 := rfl
  rw [hrun]
  generalize (prefixes x (y :: xs)).foldr invertBack
    ([], fieldInv ((y :: xs).foldl fieldMul x)) = st
    at hlast hrest hfirst hmap ⊢
  rw [List.map_cons (f := mont) (a := x), List.prod_cons]
  generalize ((y :: xs).map mont).prod = P at hfirst hmap ⊢
  constructor
  · intro r hr
    rcases List.mem_cons.mp hr with rfl | hr
    · exact hlast
    · exact hrest r hr
  · have hhead : (mont x * P)⁻¹ * P
        = if mont x * P = 0 then 0 else (mont x)⁻¹ := by
      by_cases hzero : mont x * P = 0
      · rw [if_pos hzero, hzero, inv_zero, zero_mul]
      · rw [if_neg hzero]
        have hx0 := left_ne_zero_of_mul hzero
        have hP0 := right_ne_zero_of_mul hzero
        field_simp
    rw [List.map_cons, hmap, hfirst, hhead]
    rfl

end batch

/-- All at once is one by one, but where some elements are zero and some are
not: then every element gets zero. -/
theorem fieldBatchInv_iff (alloc : Bool) {l : List Field}
    (hl : ∀ a ∈ l, a.value < Bn254.modulus) :
    fieldBatchInv alloc l = l.map fieldInv
      ↔ l.length ≤ 1 ∨ alloc = false ∨ (∀ a ∈ l, a.value ≠ 0)
        ∨ ∀ a ∈ l, a.value = 0 := by
  match l, alloc, hl with
  | [], _, _ => simp [fieldBatchInv]
  | [x], _, _ => simp [fieldBatchInv]
  | x :: y :: xs, false, _ => simp [fieldBatchInv]
  | x :: y :: xs, true, hl =>
    obtain ⟨hless, hmap⟩ := fieldBatchInv_mont hl
    have hinvs : ∀ r ∈ (x :: y :: xs).map fieldInv,
        r.value < Bn254.modulus := by
      intro r hr
      obtain ⟨a, ha, rfl⟩ := List.mem_map.mp hr
      exact (fieldInv_mont (hl a ha)).1
    have hmonts : ((x :: y :: xs).map fieldInv).map mont
        = (x :: y :: xs).map fun z => (mont z)⁻¹ := by
      rw [List.map_map]
      exact List.map_congr_left fun a ha => (fieldInv_mont (hl a ha)).2
    have hsame : fieldBatchInv true (x :: y :: xs)
        = (x :: y :: xs).map fieldInv
          ↔ ∀ z ∈ x :: y :: xs, (if ((x :: y :: xs).map mont).prod = 0 then 0
            else (mont z)⁻¹) = (mont z)⁻¹ := by
      rw [← List.map_inj_left, ← hmap, ← hmonts]
      exact ⟨congrArg _, map_mont_injective hless hinvs⟩
    have hsome : ((x :: y :: xs).map mont).prod = 0
        ↔ ∃ a ∈ x :: y :: xs, a.value = 0 := by
      rw [List.prod_eq_zero_iff, List.mem_map]
      exact exists_congr fun a => and_congr_right fun ha =>
        mont_eq_zero (hl a ha)
    rw [hsame]
    have hlength : ¬ (x :: y :: xs).length ≤ 1 := by simp
    generalize x :: y :: xs = l at hl hsome hlength ⊢
    by_cases hzero : (l.map mont).prod = 0
    · obtain ⟨a, ha, ha0⟩ := hsome.mp hzero
      have hnot : ¬ ∀ a ∈ l, a.value ≠ 0 := fun h => h a ha ha0
      simp only [if_pos hzero, hlength, hnot, false_or, reduceCtorEq]
      refine forall₂_congr fun z hz => ?_
      rw [eq_comm, inv_eq_zero, mont_eq_zero (hl z hz)]
    · have hnone : ∀ a ∈ l, a.value ≠ 0 :=
        fun a ha ha0 => hzero (hsome.mpr ⟨a, ha, ha0⟩)
      simp only [if_neg hzero]
      exact ⟨fun _ => Or.inr (Or.inr (Or.inl hnone)), fun _ _ _ => trivial⟩

end KamiyoProtocol.DarkForest.Portable.Asm
