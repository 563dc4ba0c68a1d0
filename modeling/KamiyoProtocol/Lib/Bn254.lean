/-
The fields of BN254: the order of the scalar field and the modulus of the
base field are primes.

A number is prime if some residue has the order that only a prime allows,
which the powers at the prime factors of its predecessor tell; the large
factors are prime for the same reason. A power is computed from the binary
digits of its exponent, the last one first.
-/
import Mathlib.NumberTheory.LucasPrimality
import Mathlib.Tactic.NormNum.Prime

namespace Bn254

/-- The order of the scalar field. -/
def order : Nat :=
  21888242871839275222246405745257275088548364400416034343698204186575808495617

-- ==== powers

/-- `acc * a ^ n % m`, for an `n` of at most so many digits. -/
def mulPow (m : Nat) : (digits acc a n : Nat) → Nat
  | 0, acc, _, _ => acc % m
  | digits + 1, acc, a, n =>
    mulPow m digits (if n % 2 = 0 then acc else acc * a % m) (a * a % m)
      (n / 2)

theorem mulPow_eq {m digits : Nat} :
    ∀ {acc a n : Nat}, n < 2 ^ digits →
      mulPow m digits acc a n ≡ acc * a ^ n [MOD m] := by
  induction digits with
  | zero =>
    intro acc a n hn
    have hzero : n = 0 := by omega
    rw [hzero, pow_zero, mul_one]
    exact Nat.mod_modEq acc m
  | succ digits ih =>
    intro acc a n hn
    have hhalf : n / 2 < 2 ^ digits := by omega
    refine (ih hhalf).trans ?_
    have hsquare : (a * a % m) ^ (n / 2) ≡ a ^ (2 * (n / 2)) [MOD m] := by
      rw [pow_mul, pow_two]
      exact (Nat.mod_modEq (a * a) m).pow (n / 2)
    refine (hsquare.mul_left _).trans ?_
    by_cases heven : n % 2 = 0
    · have hn' : n = 2 * (n / 2) := by omega
      rw [if_pos heven, ← hn']
    · have hn' : n = 2 * (n / 2) + 1 := by omega
      rw [if_neg heven]
      refine ((Nat.mod_modEq (acc * a) m).mul_right _).trans ?_
      rw [mul_assoc, ← pow_succ', ← hn']

theorem cast_pow_eq_one {p digits a n : Nat} (hn : n < 2 ^ digits) :
    (a : ZMod p) ^ n = 1 ↔ mulPow p digits 1 a n % p = 1 % p := by
  have hpow := @mulPow_eq p digits 1 a n hn
  rw [one_mul] at hpow
  rw [← Nat.cast_pow, ← Nat.cast_one, ZMod.natCast_eq_natCast_iff]
  exact ⟨hpow.trans, hpow.symm.trans⟩

-- ==== primes

/-- The residue has the order `p - 1`. -/
def checkOrder (p digits a : Nat) (factors : List Nat) : Bool :=
  decide (p < 2 ^ digits) && factors.prod == p - 1
    && mulPow p digits 1 a (p - 1) % p == 1 % p
    && factors.all fun q => mulPow p digits 1 a ((p - 1) / q) % p != 1 % p

theorem prime_of_order {p digits a : Nat} {factors : List Nat}
    (hcheck : checkOrder p digits a factors = true)
    (hprimes : ∀ q ∈ factors, q.Prime) : p.Prime := by
  simp only [checkOrder, Bool.and_eq_true, decide_eq_true_eq, beq_iff_eq,
    List.all_eq_true, bne_iff_ne, ne_eq] at hcheck
  obtain ⟨⟨⟨hdigits, hprod⟩, hone⟩, hne⟩ := hcheck
  have hlt : ∀ n, n ≤ p - 1 → n < 2 ^ digits := by
    intro n hn
    omega
  refine lucas_primality p (a : ZMod p) ?_ ?_
  · exact (cast_pow_eq_one (hlt _ le_rfl)).mpr hone
  · intro q hq hdvd h
    rw [← hprod] at hdvd
    obtain ⟨r, hr, hqr⟩ := (Nat.Prime.prime hq).dvd_prod_iff.mp hdvd
    have heq := (Nat.prime_dvd_prime_iff_eq hq (hprimes r hr)).mp hqr
    rw [heq] at h
    exact hne r hr
      ((cast_pow_eq_one (hlt _ (Nat.div_le_self _ _))).mp h)

-- ==== certificates

/-- What shows a prime to be one: a residue, and the factors of the prime's
predecessor. -/
structure Certificate where
  prime : Nat
  digits : Nat
  root : Nat
  factors : List Nat

/-- The certificates hold, each with factors that are known by then. -/
def checkAll : (known : List Nat) → List Certificate → Bool
  | _, [] => true
  | known, c :: rest =>
    checkOrder c.prime c.digits c.root c.factors
      && c.factors.all (fun q => decide (q ∈ known))
      && checkAll (c.prime :: known) rest

theorem prime_of_checkAll {certificates : List Certificate} :
    ∀ {known : List Nat}, (∀ q ∈ known, q.Prime) →
      checkAll known certificates = true →
      ∀ c ∈ certificates, c.prime.Prime := by
  induction certificates with
  | nil =>
    intro known _ _ c hc
    cases hc
  | cons c rest ih =>
    intro known hknown hcheck
    simp only [checkAll, Bool.and_eq_true, List.all_eq_true,
      decide_eq_true_eq] at hcheck
    obtain ⟨⟨horder, hfactors⟩, hrest⟩ := hcheck
    have hprime : c.prime.Prime :=
      prime_of_order horder fun q hq => hknown q (hfactors q hq)
    have hmore : ∀ q ∈ c.prime :: known, q.Prime := by
      intro q hq
      rcases List.mem_cons.mp hq with rfl | hq
      · exact hprime
      · exact hknown q hq
    intro d hd
    rcases List.mem_cons.mp hd with rfl | hd
    · exact hprime
    · exact ih hmore hrest d hd

/-- The modulus of the base field. -/
def modulus : Nat :=
  21888242871839275222246405745257275088696311157297823662689037894645226208583

/-- From two up to the order and the modulus. -/
def certificates : List Certificate :=
  [⟨3, 2, 2, [2]⟩, ⟨13, 4, 2, [2, 2, 3]⟩, ⟨7, 3, 3, [2, 3]⟩,
   ⟨29, 5, 2, [2, 2, 7]⟩, ⟨5, 3, 2, [2, 2]⟩, ⟨491, 9, 2, [2, 5, 7, 7]⟩,
   ⟨983, 10, 5, [2, 491]⟩, ⟨11, 4, 2, [2, 5]⟩,
   ⟨5501, 13, 2, [2, 2, 5, 5, 5, 11]⟩, ⟨11003, 14, 2, [2, 5501]⟩,
   ⟨449, 9, 3, [2, 2, 2, 2, 2, 2, 7]⟩,
   ⟨237073, 18, 15, [2, 2, 2, 2, 3, 11, 449]⟩, ⟨41, 6, 6, [2, 2, 2, 5]⟩,
   ⟨3691, 12, 2, [2, 3, 3, 5, 41]⟩, ⟨17, 5, 3, [2, 2, 2, 2]⟩,
   ⟨4999, 13, 3, [2, 3, 7, 7, 17]⟩, ⟨405928799, 29, 22, [2, 11, 3691, 4999]⟩,
   ⟨53, 6, 2, [2, 2, 13]⟩, ⟨107, 7, 2, [2, 53]⟩,
   ⟨661, 10, 2, [2, 2, 3, 5, 11]⟩, ⟨31, 5, 3, [2, 3, 5]⟩,
   ⟨93001, 17, 14, [2, 2, 2, 3, 5, 5, 5, 31]⟩,
   ⟨12048837557, 34, 2, [2, 2, 7, 7, 661, 93001]⟩,
   ⟨5156902474397, 43, 2, [2, 2, 107, 12048837557]⟩,
   ⟨1670836401704629, 51, 2, [2, 2, 3, 3, 3, 3, 5156902474397]⟩,
   ⟨137, 8, 3, [2, 2, 2, 17]⟩, ⟨823, 10, 3, [2, 3, 137]⟩,
   ⟨19, 5, 2, [2, 3, 3]⟩, ⟨23, 5, 5, [2, 11]⟩, ⟨47, 6, 5, [2, 23]⟩,
   ⟨37, 6, 2, [2, 2, 3, 3]⟩, ⟨223, 8, 3, [2, 3, 37]⟩,
   ⟨20963, 15, 2, [2, 47, 223]⟩, ⟨41927, 16, 5, [2, 20963]⟩,
   ⟨1593227, 21, 2, [2, 19, 41927]⟩, ⟨83, 7, 2, [2, 41]⟩,
   ⟨379, 9, 2, [2, 3, 3, 3, 7]⟩, ⟨409, 9, 21, [2, 2, 2, 3, 17]⟩,
   ⟨1637, 11, 2, [2, 2, 409]⟩, ⟨229, 8, 6, [2, 2, 3, 19]⟩,
   ⟨71, 7, 7, [2, 5, 7]⟩, ⟨853, 10, 2, [2, 2, 3, 71]⟩,
   ⟨639533339, 30, 2, [2, 229, 853, 1637]⟩,
   ⟨65865678001877903, 56, 5, [2, 83, 379, 1637, 639533339]⟩,
   ⟨13818364434197438864469338081, 94, 3, [2, 2, 2, 2, 2, 5, 823, 1593227,
     65865678001877903]⟩,
   ⟨21888242871839275222246405745257275088548364400416034343698204186575808495617,
     254, 5, List.replicate 28 2 ++ [3, 3, 13, 29, 983, 11003, 237073,
     405928799, 1670836401704629, 13818364434197438864469338081]⟩,
   ⟨67, 7, 2, [2, 3, 11]⟩, ⟨311, 9, 17, [2, 5, 31]⟩,
   ⟨233, 8, 3, [2, 2, 2, 29]⟩, ⟨327599, 19, 19, [2, 19, 37, 233]⟩,
   ⟨11465965001, 34, 3, [2, 2, 2, 5, 5, 5, 5, 7, 327599]⟩,
   ⟨271, 9, 6, [2, 3, 3, 3, 5]⟩,
   ⟨1853641, 21, 17, [2, 2, 2, 3, 3, 5, 19, 271]⟩,
   ⟨109, 7, 6, [2, 2, 3, 3, 3]⟩, ⟨1231, 11, 3, [2, 3, 5, 41]⟩,
   ⟨4562087, 23, 5, [2, 17, 109, 1231]⟩, ⟨73, 7, 5, [2, 2, 2, 3, 3]⟩,
   ⟨89, 7, 3, [2, 2, 2, 11]⟩, ⟨2221, 12, 2, [2, 2, 3, 5, 37]⟩,
   ⟨13327, 14, 3, [2, 3, 2221]⟩, ⟨173171039, 28, 13, [2, 73, 89, 13327]⟩,
   ⟨911, 10, 17, [2, 5, 7, 13]⟩, ⟨127, 7, 3, [2, 3, 3, 7]⟩,
   ⟨3557, 12, 2, [2, 2, 7, 127]⟩,
   ⟨1263766531, 31, 10, [2, 3, 5, 13, 911, 3557]⟩,
   ⟨35385462869, 36, 2, [2, 2, 7, 1263766531]⟩,
   ⟨2480874801745591, 52, 6, [2, 3, 3, 5, 19, 41, 35385462869]⟩,
   ⟨13427688667394608761327070753331941386769, 134, 17, [2, 2, 2, 2, 3, 7,
     11, 1853641, 4562087, 173171039, 2480874801745591]⟩,
   ⟨21888242871839275222246405745257275088696311157297823662689037894645226208583,
     254, 3, [2, 3, 3, 13, 29, 67, 229, 311, 983, 11003, 405928799,
     11465965001, 13427688667394608761327070753331941386769]⟩]

theorem certificates_prime : ∀ c ∈ certificates, c.prime.Prime := by
  have hcheck : checkAll [2] certificates = true := by decide +kernel
  refine prime_of_checkAll ?_ hcheck
  intro q hq
  rw [List.mem_singleton.mp hq]
  exact Nat.prime_two

theorem prime_of_mem {p : Nat}
    (h : p ∈ certificates.map Certificate.prime) : p.Prime := by
  obtain ⟨c, hc, rfl⟩ := List.mem_map.mp h
  exact certificates_prime c hc

theorem order_prime : order.Prime :=
  prime_of_mem (by simp [certificates, order])

theorem modulus_prime : modulus.Prime :=
  prime_of_mem (by simp [certificates, modulus])

end Bn254
