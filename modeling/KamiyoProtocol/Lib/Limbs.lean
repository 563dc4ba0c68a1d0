/-
Numbers of several limbs, and the loops that compute with them.

A number is a list of limbs below a base, lowest first, and stands for
`Nat.ofDigits` of it. Each loop runs from the lowest limb up and hands a
carry on; what it returns stands, with the last carry, for the result
exactly, so a loop is right wherever its last carry is nothing.

`montgomery` adds multiples of the modulus that clear the lowest limb and
drops it, as often as it is told.
-/
import Mathlib.Data.Nat.Digits.Lemmas
import Mathlib.Tactic.LinearCombination
import Mathlib.Tactic.Ring
import Mathlib.Tactic.Linarith

namespace Limbs

variable {B : Nat}

/-- `n` limbs below the base. -/
structure Valid (B n : Nat) (xs : List Nat) : Prop where
  length : xs.length = n
  lt : ∀ x ∈ xs, x < B

instance (B n : Nat) (xs : List Nat) : Decidable (Valid B n xs) :=
  decidable_of_iff (xs.length = n ∧ ∀ x ∈ xs, x < B)
    ⟨fun h => ⟨h.1, h.2⟩, fun h => ⟨h.length, h.lt⟩⟩

variable {xs : List Nat}

variable {n : Nat}

theorem Valid.value_lt (h : Valid B n xs)
    (hB : 1 < B) : Nat.ofDigits B xs < B ^ n := by
  rw [← h.length]
  exact Nat.ofDigits_lt_base_pow_length hB h.lt

theorem Valid.ext {xs ys : List Nat} (hx : Valid B n xs)
    (hy : Valid B n ys) (hB : 1 < B)
    (h : Nat.ofDigits B xs = Nat.ofDigits B ys) : xs = ys :=
  Nat.ofDigits_inj_of_len_eq hB (hx.length.trans hy.length.symm) hx.lt hy.lt h

theorem Valid.cons {n x : Nat} (hx : x < B)
    (h : Valid B n xs) : Valid B (n + 1) (x :: xs) := by
  refine ⟨by rw [List.length_cons, h.length], ?_⟩
  intro y hy
  rcases List.mem_cons.mp hy with rfl | hy
  · exact hx
  · exact h.lt y hy

theorem Valid.append {m n : Nat} {xs ys : List Nat} (hx : Valid B m xs)
    (hy : Valid B n ys) : Valid B (m + n) (xs ++ ys) := by
  refine ⟨by rw [List.length_append, hx.length, hy.length], ?_⟩
  intro z hz
  rcases List.mem_append.mp hz with hz | hz
  · exact hx.lt z hz
  · exact hy.lt z hz

theorem Valid.nil : Valid B 0 [] := ⟨rfl, by simp⟩

theorem Valid.tail {n x : Nat} (h : Valid B (n + 1) (x :: xs)) :
    x < B ∧ Valid B n xs := by
  refine ⟨h.lt x List.mem_cons_self, Nat.succ.inj h.length, ?_⟩
  exact fun y hy => h.lt y (List.mem_cons_of_mem x hy)

-- ==== addition

/-- The sum of limbs and a carry, and the carry out. -/
def add (B : Nat) : List Nat → List Nat → Nat → List Nat × Nat
  | x :: xs, y :: ys, c =>
    let rest := add B xs ys ((c + (x + y)) / B)
    ((c + (x + y)) % B :: rest.1, rest.2)
  | _, _, c => ([], c)

/-- The difference of limbs with a borrow, a negative carry. -/
def sub (B : Nat) : List Nat → List Nat → Int → List Nat × Int
  | x :: xs, y :: ys, c =>
    let rest := sub B xs ys ((c + (x - y)) / B)
    (((c + (x - y)) % B).toNat :: rest.1, rest.2)
  | _, _, c => ([], c)

theorem add_valid (hB : 0 < B) :
    ∀ {ys : List Nat} {c : Nat}, ys.length = xs.length →
      Valid B xs.length (add B xs ys c).1 := by
  induction xs with
  | nil => exact fun _ => .nil
  | cons x xs ih =>
    intro ys c h
    cases ys with
    | nil => cases h
    | cons y ys => exact .cons (Nat.mod_lt _ hB) (ih (Nat.succ.inj h))

theorem add_value :
    ∀ {ys : List Nat} {c : Nat}, ys.length = xs.length →
      Nat.ofDigits B (add B xs ys c).1 + B ^ xs.length * (add B xs ys c).2
        = Nat.ofDigits B xs + Nat.ofDigits B ys + c := by
  induction xs with
  | nil =>
    intro ys c h
    rw [List.length_eq_zero_iff.mp h]
    simp [add]
  | cons x xs ih =>
    intro ys c h
    cases ys with
    | nil => cases h
    | cons y ys =>
      have hrest := ih (c := (c + (x + y)) / B) (Nat.succ.inj h)
      have hdiv := Nat.mod_add_div (c + (x + y)) B
      simp only [add, Nat.ofDigits_cons, List.length_cons, pow_succ]
      linear_combination hdiv + B * hrest

theorem sub_valid (hB : 0 < B) :
    ∀ {ys : List Nat} {c : Int}, ys.length = xs.length →
      Valid B xs.length (sub B xs ys c).1 := by
  induction xs with
  | nil => exact fun _ => .nil
  | cons x xs ih =>
    intro ys c h
    cases ys with
    | nil => cases h
    | cons y ys =>
      have hlt := Int.emod_lt_of_pos (c + (x - y)) (Int.natCast_pos.mpr hB)
      refine .cons ?_ (ih (Nat.succ.inj h))
      omega

theorem sub_value (hB : 0 < B) :
    ∀ {ys : List Nat} {c : Int}, ys.length = xs.length →
      ((Nat.ofDigits B (sub B xs ys c).1 : Nat) : Int)
          + B ^ xs.length * (sub B xs ys c).2
        = (Nat.ofDigits B xs : Nat) - (Nat.ofDigits B ys : Nat) + c := by
  induction xs with
  | nil =>
    intro ys c h
    rw [List.length_eq_zero_iff.mp h]
    simp [sub]
  | cons x xs ih =>
    intro ys c h
    cases ys with
    | nil => cases h
    | cons y ys =>
      have hrest := ih (c := (c + (x - y)) / B) (Nat.succ.inj h)
      have hdiv := Int.emod_add_mul_ediv (c + (x - y)) B
      have hnonneg : (((c + (x - y)) % B).toNat : Int) = (c + (x - y)) % B :=
        Int.toNat_of_nonneg (Int.emod_nonneg _ (by omega))
      simp only [sub, Nat.ofDigits_cons, List.length_cons, pow_succ]
      rw [Nat.cast_add, Nat.cast_add, Nat.cast_add, Nat.cast_mul,
        Nat.cast_mul, Nat.cast_mul, hnonneg]
      linear_combination hdiv + B * hrest

theorem div_mod_of_value {n r c v : Nat} (hr : r < B ^ n)
    (h : r + B ^ n * c = v) : r = v % B ^ n ∧ c = v / B ^ n := by
  have hpos : 0 < B ^ n := Nat.zero_lt_of_lt hr
  obtain ⟨hdiv, hmod⟩ := (Nat.div_mod_unique hpos).mpr ⟨h, hr⟩
  exact ⟨hmod.symm, hdiv.symm⟩

theorem add_eq (hB : 1 < B) {xs ys : List Nat}
    (hx : Valid B n xs) (hy : Valid B n ys) :
    Nat.ofDigits B (add B xs ys 0).1
        = (Nat.ofDigits B xs + Nat.ofDigits B ys) % B ^ n
      ∧ (add B xs ys 0).2
        = (Nat.ofDigits B xs + Nat.ofDigits B ys) / B ^ n := by
  have hlength := hy.length.trans hx.length.symm
  have hvalid := add_valid (Nat.zero_lt_of_lt hB) (c := 0) hlength
  have hvalue := add_value (B := B) (c := 0) hlength
  rw [hx.length] at hvalid hvalue
  exact div_mod_of_value (hvalid.value_lt hB) hvalue

theorem sub_eq (hB : 1 < B) {xs ys : List Nat}
    (hx : Valid B n xs) (hy : Valid B n ys) :
    ((Nat.ofDigits B (sub B xs ys 0).1 : Nat) : Int)
        = ((Nat.ofDigits B xs : Nat) - (Nat.ofDigits B ys : Nat) : Int) % B ^ n
      ∧ ((sub B xs ys 0).2 < 0 ↔ Nat.ofDigits B xs < Nat.ofDigits B ys) := by
  have hpos := Nat.zero_lt_of_lt hB
  have hlength := hy.length.trans hx.length.symm
  have hvalid := sub_valid hpos (c := 0) hlength
  have hvalue := sub_value hpos (c := 0) hlength
  rw [hx.length] at hvalid hvalue
  have hlt : ((Nat.ofDigits B (sub B xs ys 0).1 : Nat) : Int) < B ^ n := by
    exact_mod_cast hvalid.value_lt hB
  have hbase : (0 : Int) < B ^ n := by positivity
  rw [add_zero] at hvalue
  constructor
  · rw [← hvalue, Int.add_mul_emod_self_left,
      Int.emod_eq_of_lt (Int.natCast_nonneg _) hlt]
  · constructor
    · intro hneg
      have := mul_le_mul_of_nonneg_left (show (sub B xs ys 0).2 ≤ -1 by omega)
        hbase.le
      omega
    · intro hless
      by_contra hnonneg
      have := mul_nonneg hbase.le (Int.not_lt.mp hnonneg)
      omega

-- ==== multiplication

/-- Limbs with a multiple of others added and a carry, and the carry out. -/
def mulAdd (B k : Nat) : List Nat → List Nat → Nat → List Nat × Nat
  | x :: xs, t :: ts, c =>
    let rest := mulAdd B k xs ts ((k * x + t + c) / B)
    ((k * x + t + c) % B :: rest.1, rest.2)
  | _, _, c => ([], c)

/-- A carry added, until there is none. -/
def addCarry (B : Nat) : List Nat → Nat → List Nat
  | t :: ts, c =>
    if c = 0 then t :: ts else (t + c) % B :: addCarry B ts ((t + c) / B)
  | [], _ => []

/-- One row for each limb of the first factor, over as many limbs as the
second has; a row leaves its lowest limb behind. -/
def mulRows (B : Nat) : List Nat → List Nat → List Nat → List Nat
  | x :: xs, ys, r =>
    let row := mulAdd B x ys r 0
    row.1.take 1 ++ mulRows B xs ys (row.1.drop 1 ++ [row.2])
  | [], _, r => r

theorem mulAdd_length {k : Nat} :
    ∀ {ts : List Nat} {c : Nat}, ts.length = xs.length →
      (mulAdd B k xs ts c).1.length = xs.length := by
  induction xs with
  | nil => exact fun _ => rfl
  | cons x xs ih =>
    intro ts c h
    cases ts with
    | nil => cases h
    | cons t ts =>
      rw [mulAdd, List.length_cons, List.length_cons, ih (Nat.succ.inj h)]

theorem mulAdd_valid (hB : 0 < B) {k : Nat} :
    ∀ {ts : List Nat} {c : Nat}, ts.length = xs.length →
      Valid B xs.length (mulAdd B k xs ts c).1 := by
  induction xs with
  | nil => exact fun _ => .nil
  | cons x xs ih =>
    intro ts c h
    cases ts with
    | nil => cases h
    | cons t ts => exact .cons (Nat.mod_lt _ hB) (ih (Nat.succ.inj h))

theorem mulAdd_value {k : Nat} :
    ∀ {ts : List Nat} {c : Nat}, ts.length = xs.length →
      Nat.ofDigits B (mulAdd B k xs ts c).1
          + B ^ xs.length * (mulAdd B k xs ts c).2
        = k * Nat.ofDigits B xs + Nat.ofDigits B ts + c := by
  induction xs with
  | nil =>
    intro ts c h
    rw [List.length_eq_zero_iff.mp h]
    simp [mulAdd]
  | cons x xs ih =>
    intro ts c h
    cases ts with
    | nil => cases h
    | cons t ts =>
      have hrest := ih (c := (k * x + t + c) / B) (Nat.succ.inj h)
      have hdiv := Nat.mod_add_div (k * x + t + c) B
      simp only [mulAdd, Nat.ofDigits_cons, List.length_cons, pow_succ]
      linear_combination hdiv + B * hrest

theorem mulAdd_carry_lt {k : Nat} (hk : k < B) :
    ∀ {ts : List Nat} {c : Nat}, (∀ x ∈ xs, x < B) → (∀ t ∈ ts, t < B) →
      c < B → (mulAdd B k xs ts c).2 < B := by
  induction xs with
  | nil => exact fun _ _ hc => hc
  | cons x xs ih =>
    intro ts c hxs hts hc
    cases ts with
    | nil => exact hc
    | cons t ts =>
      have hx := hxs x List.mem_cons_self
      have ht := hts t List.mem_cons_self
      refine ih (fun y hy => hxs y (List.mem_cons_of_mem x hy))
        (fun y hy => hts y (List.mem_cons_of_mem t hy)) ?_
      have hprod : k * x ≤ (B - 1) * (B - 1) :=
        Nat.mul_le_mul (by omega) (by omega)
      obtain ⟨b, rfl⟩ : ∃ b, B = b + 1 := ⟨B - 1, by omega⟩
      rw [Nat.div_lt_iff_lt_mul (by omega)]
      rw [Nat.add_sub_cancel] at hprod
      linarith

theorem addCarry_valid {ts : List Nat} :
    ∀ {n c : Nat}, 0 < B → Valid B n ts → Valid B n (addCarry B ts c) := by
  induction ts with
  | nil => exact fun _ h => h
  | cons t ts ih =>
    intro n c hB h
    unfold addCarry
    split
    · exact h
    · have hn := h.length
      rw [List.length_cons] at hn
      subst hn
      exact .cons (Nat.mod_lt _ hB) (ih hB h.tail.2)

theorem addCarry_value {ts : List Nat} :
    ∀ {c : Nat}, Nat.ofDigits B ts + c < B ^ ts.length →
      Nat.ofDigits B (addCarry B ts c) = Nat.ofDigits B ts + c := by
  induction ts with
  | nil =>
    intro c h
    have hc : c = 0 := by simpa using h
    simp [addCarry, hc]
  | cons t ts ih =>
    intro c h
    unfold addCarry
    split
    · next hc => rw [hc, Nat.add_zero]
    · have hdiv := Nat.mod_add_div (t + c) B
      have hB : 0 < B := by
        rcases Nat.eq_zero_or_pos B with rfl | hB
        · simp at h
        · exact hB
      rw [Nat.ofDigits_cons, List.length_cons, pow_succ] at h
      have hfits : Nat.ofDigits B ts + (t + c) / B < B ^ ts.length := by
        refine Nat.lt_of_mul_lt_mul_left (a := B) ?_
        calc B * (Nat.ofDigits B ts + (t + c) / B)
            = B * Nat.ofDigits B ts + B * ((t + c) / B) := Nat.mul_add ..
          _ ≤ t + B * Nat.ofDigits B ts + c := by omega
          _ < B ^ ts.length * B := h
          _ = B * B ^ ts.length := Nat.mul_comm ..
      have hrest := ih hfits
      rw [Nat.ofDigits_cons, Nat.ofDigits_cons, hrest]
      linear_combination hdiv

theorem value_take_drop {l : List Nat} (h : l ≠ []) :
    Nat.ofDigits B (l.take 1) + B * Nat.ofDigits B (l.drop 1)
      = Nat.ofDigits B l := by
  cases l with
  | nil => exact absurd rfl h
  | cons x xs => simp [Nat.ofDigits_cons]

theorem mulRows_valid (hn : 0 < n) {ys : List Nat} (hys : Valid B n ys) :
    ∀ {m : Nat} {r : List Nat}, Valid B m xs → Valid B n r →
      Valid B (m + n) (mulRows B xs ys r) := by
  induction xs with
  | nil =>
    intro m r hx hr
    rw [← hx.length, List.length_nil, Nat.zero_add]
    exact hr
  | cons x xs ih =>
    intro m r hx hr
    obtain rfl : m = xs.length + 1 := hx.length.symm
    have hB : 0 < B := Nat.zero_lt_of_lt hx.tail.1
    have hrow := mulAdd_valid hB (k := x) (c := 0)
      (hr.length.trans hys.length.symm)
    rw [hys.length] at hrow
    have hcarry := mulAdd_carry_lt hx.tail.1 hys.lt hr.lt hB
    have htake : Valid B 1 ((mulAdd B x ys r 0).1.take 1) := by
      refine ⟨?_, fun y hy => hrow.lt y (List.mem_of_mem_take hy)⟩
      rw [List.length_take, hrow.length]
      omega
    have hdrop : Valid B (n - 1) ((mulAdd B x ys r 0).1.drop 1) := by
      refine ⟨?_, fun y hy => hrow.lt y (List.mem_of_mem_drop hy)⟩
      rw [List.length_drop, hrow.length]
    have hnext := hdrop.append (.cons hcarry .nil)
    rw [Nat.zero_add, Nat.sub_add_cancel hn] at hnext
    have hall := htake.append (ih hx.tail.2 hnext)
    rwa [Nat.add_comm 1, Nat.add_right_comm] at hall

/-- The rows add up to the product. -/
theorem mulRows_value {ys : List Nat} (hne : ys ≠ []) :
    ∀ {r : List Nat}, r.length = ys.length →
      Nat.ofDigits B (mulRows B xs ys r)
        = Nat.ofDigits B xs * Nat.ofDigits B ys + Nat.ofDigits B r := by
  have hpos := List.length_pos_iff.mpr hne
  induction xs with
  | nil => simp [mulRows]
  | cons x xs ih =>
    intro r hr
    have hlength := mulAdd_length (B := B) (k := x) (c := 0) hr
    have hrow := mulAdd_value (B := B) (k := x) (c := 0) hr
    have hsplit := value_take_drop (B := B)
      (List.length_pos_iff.mp (hlength ▸ hpos))
    have hrest := ih (r := (mulAdd B x ys r 0).1.drop 1
      ++ [(mulAdd B x ys r 0).2]) (by
        rw [List.length_append, List.length_drop, hlength,
          List.length_singleton]
        omega)
    rw [Nat.ofDigits_append, Nat.ofDigits_singleton, List.length_drop,
      hlength] at hrest
    have hpow : B ^ ys.length = B * B ^ (ys.length - 1) := by
      rw [← pow_succ', Nat.sub_add_cancel hpos]
    rw [mulRows, Nat.ofDigits_append, List.length_take, hlength,
      Nat.min_eq_left hpos, pow_one, hrest, Nat.ofDigits_cons]
    rw [hpow] at hrow
    linear_combination hrow + hsplit

-- ==== reduction

/-- Adds the multiple of the modulus that clears the lowest limb, and drops
the limb. -/
def montRound (B q : Nat) (p t : List Nat) : List Nat :=
  let row := mulAdd B (t.headD 0 * q % B) p (t.take p.length) 0
  (row.1 ++ addCarry B (t.drop p.length) row.2).tail

/-- As many limbs dropped as there are rounds. -/
def montgomery (B q : Nat) (p : List Nat) : Nat → List Nat → List Nat
  | 0, t => t
  | n + 1, t => montgomery B q p n (montRound B q p t)

theorem montRound_valid (hB : 0 < B) {q n : Nat} {p t : List Nat}
    (ht : Valid B (n + 1) t) (hp : p.length ≤ n + 1) :
    Valid B n (montRound B q p t) := by
  have htake : (t.take p.length).length = p.length := by
    rw [List.length_take, ht.length]
    omega
  have hdrop : Valid B (n + 1 - p.length) (t.drop p.length) := by
    refine ⟨?_, fun y hy => ht.lt y (List.mem_of_mem_drop hy)⟩
    rw [List.length_drop, ht.length]
  have hrow := mulAdd_valid hB (k := t.headD 0 * q % B) (c := 0) htake
  have hall := hrow.append (addCarry_valid hB hdrop
    (c := (mulAdd B (t.headD 0 * q % B) p (t.take p.length) 0).2))
  rw [Nat.add_sub_cancel' hp] at hall
  refine ⟨?_, fun y hy => hall.lt y (List.mem_of_mem_tail hy)⟩
  rw [montRound, List.length_tail, hall.length]
  rfl

theorem value_modEq_head (l : List Nat) :
    Nat.ofDigits B l ≡ l.headD 0 [MOD B] := by
  cases l with
  | nil => rfl
  | cons x xs =>
    rw [Nat.ofDigits_cons, List.headD_cons, Nat.ModEq,
      Nat.add_mul_mod_self_left]

theorem cleared {q : Nat} {p t : List Nat}
    (hinv : p.headD 0 * q + 1 ≡ 0 [MOD B]) :
    Nat.ofDigits B t + t.headD 0 * q % B * Nat.ofDigits B p ≡ 0 [MOD B] :=
  calc Nat.ofDigits B t + t.headD 0 * q % B * Nat.ofDigits B p
      ≡ t.headD 0 + t.headD 0 * q * p.headD 0 [MOD B] :=
        (value_modEq_head t).add
          ((Nat.mod_modEq _ _).mul (value_modEq_head p))
    _ = t.headD 0 * (p.headD 0 * q + 1) := by ring
    _ ≡ t.headD 0 * 0 [MOD B] := Nat.ModEq.mul_left _ hinv
    _ = 0 := Nat.mul_zero _

theorem value_tail {l : List Nat} (hl : ∀ x ∈ l, x < B)
    (h : Nat.ofDigits B l ≡ 0 [MOD B]) :
    B * Nat.ofDigits B l.tail = Nat.ofDigits B l := by
  cases l with
  | nil => simp
  | cons x xs =>
    have hx : x % B = 0 := (value_modEq_head (x :: xs)).symm.trans h
    rw [Nat.mod_eq_of_lt (hl x List.mem_cons_self)] at hx
    rw [Nat.ofDigits_cons, hx, Nat.zero_add, List.tail_cons]

/-- What a round leaves is the sum with the multiple, divided by the base,
where the sum fits. -/
theorem montRound_value (hB : 0 < B) {q n : Nat} {p t : List Nat}
    (hinv : p.headD 0 * q + 1 ≡ 0 [MOD B]) (hlen : p.length ≤ n)
    (ht : Valid B n t)
    (hfits : Nat.ofDigits B t + (B - 1) * Nat.ofDigits B p < B ^ n) :
    B * Nat.ofDigits B (montRound B q p t)
      = Nat.ofDigits B t + t.headD 0 * q % B * Nat.ofDigits B p := by
  have hclear := cleared (t := t) hinv
  unfold montRound
  dsimp only
  generalize hk : t.headD 0 * q % B = k at hclear ⊢
  have hkB : k < B := hk ▸ Nat.mod_lt _ hB
  have htake : (t.take p.length).length = p.length := by
    rw [List.length_take, ht.length]
    omega
  have hsplit : Nat.ofDigits B t = Nat.ofDigits B (t.take p.length)
      + B ^ p.length * Nat.ofDigits B (t.drop p.length) := by
    conv_lhs => rw [← List.take_append_drop p.length t]
    rw [Nat.ofDigits_append, htake]
  have hrow := mulAdd_value (B := B) (k := k) (c := 0) htake
  have hvalid := mulAdd_valid hB (k := k) (c := 0) htake
  generalize mulAdd B k p (t.take p.length) 0 = row at hrow hvalid ⊢
  have hdrop : Valid B (n - p.length) (t.drop p.length) := by
    refine ⟨?_, fun y hy => ht.lt y (List.mem_of_mem_drop hy)⟩
    rw [List.length_drop, ht.length]
  -- the sum is below the range, so the carry runs out before the limbs do
  have hsum : Nat.ofDigits B row.1 + B ^ p.length
      * (Nat.ofDigits B (t.drop p.length) + row.2)
        = Nat.ofDigits B t + k * Nat.ofDigits B p := by
    rw [hsplit]
    linear_combination hrow
  have hcarry : Nat.ofDigits B (t.drop p.length) + row.2
      < B ^ (t.drop p.length).length := by
    have hmul : k * Nat.ofDigits B p ≤ (B - 1) * Nat.ofDigits B p :=
      Nat.mul_le_mul_right _ (by omega)
    refine Nat.lt_of_mul_lt_mul_left (a := B ^ p.length) ?_
    rw [hdrop.length, ← pow_add, Nat.add_sub_cancel' hlen]
    omega
  have hall : Nat.ofDigits B (row.1 ++ addCarry B (t.drop p.length) row.2)
      = Nat.ofDigits B t + k * Nat.ofDigits B p := by
    rw [Nat.ofDigits_append, hvalid.length, addCarry_value hcarry, hsum]
  rw [← hall] at hclear ⊢
  exact value_tail
    (hvalid.append (addCarry_valid hB hdrop)).lt hclear

theorem montgomery_valid (hB : 0 < B) {q m : Nat} {p : List Nat}
    (hlen : p.length ≤ m) (n : Nat) :
    ∀ {t : List Nat}, Valid B (m + n) t → Valid B m (montgomery B q p n t) := by
  induction n with
  | zero => exact fun ht => ht
  | succ n ih =>
    intro t ht
    exact ih (montRound_valid hB ht
      (Nat.le_succ_of_le (hlen.trans (Nat.le_add_right m n))))

/-- After all rounds the result, times the base as often as there were
rounds, is the number and a multiple of the modulus. -/
theorem montgomery_value (hB : 0 < B) {q m : Nat} {p : List Nat}
    (hinv : p.headD 0 * q + 1 ≡ 0 [MOD B]) (hlen : p.length ≤ m) (n : Nat) :
    ∀ {t : List Nat}, Valid B (m + n) t →
      Nat.ofDigits B t + (B ^ n - 1) * Nat.ofDigits B p < B ^ (m + n) →
      ∃ k < B ^ n, B ^ n * Nat.ofDigits B (montgomery B q p n t)
        = Nat.ofDigits B t + k * Nat.ofDigits B p := by
  induction n with
  | zero =>
    intro t ht _
    exact ⟨0, by simp, by simp [montgomery]⟩
  | succ n ih =>
    intro t ht hfits
    have hpow : 1 ≤ B ^ n := Nat.one_le_pow _ _ hB
    have hle : B - 1 ≤ B ^ (n + 1) - 1 := by
      rw [pow_succ]
      exact Nat.sub_le_sub_right (Nat.le_mul_of_pos_left B hpow) 1
    have hvalid : Valid B (m + n) (montRound B q p t) :=
      montRound_valid hB ht
        (Nat.le_succ_of_le (hlen.trans (Nat.le_add_right m n)))
    have hround := montRound_value hB hinv (n := m + (n + 1)) (by omega) ht
      (by
        have := Nat.mul_le_mul_right (Nat.ofDigits B p) hle
        omega)
    have hk := Nat.mod_lt (t.headD 0 * q) hB
    generalize t.headD 0 * q % B = k at hround hk
    have hnext : Nat.ofDigits B (montRound B q p t)
        + (B ^ n - 1) * Nat.ofDigits B p < B ^ (m + n) := by
      have hkle : k + B * (B ^ n - 1) ≤ B ^ (n + 1) - 1 := by
        rw [pow_succ', Nat.mul_sub, Nat.mul_one]
        have := Nat.le_mul_of_pos_right B hpow
        omega
      have hmul := Nat.mul_le_mul_right (Nat.ofDigits B p) hkle
      refine Nat.lt_of_mul_lt_mul_left (a := B) ?_
      calc B * (Nat.ofDigits B (montRound B q p t)
            + (B ^ n - 1) * Nat.ofDigits B p)
          = Nat.ofDigits B t + (k + B * (B ^ n - 1)) * Nat.ofDigits B p := by
            linear_combination hround
        _ ≤ Nat.ofDigits B t + (B ^ (n + 1) - 1) * Nat.ofDigits B p :=
            Nat.add_le_add_left hmul _
        _ < B ^ (m + (n + 1)) := hfits
        _ = B * B ^ (m + n) := pow_succ' B (m + n)
    obtain ⟨j, hj, heq⟩ := ih hvalid hnext
    refine ⟨k + B * j, ?_, ?_⟩
    · calc k + B * j < B + B * j := Nat.add_lt_add_right hk _
        _ = B * (j + 1) := by ring
        _ ≤ B * B ^ n := Nat.mul_le_mul_left B hj
        _ = B ^ (n + 1) := (pow_succ' B n).symm
    · rw [montgomery, pow_succ]
      linear_combination B * heq + hround

end Limbs
