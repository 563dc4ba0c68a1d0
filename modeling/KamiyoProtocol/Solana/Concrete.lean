/-
Concrete addresses: the laws of `Env` and `Tx` are satisfiable, and runs
can be evaluated.

A derived address is a tagged encoding of its seed, so distinct seeds
give distinct addresses once the encoding is injective. Wallets carry a
tag no derived address has, so any set of wallets may sign.
-/
import KamiyoProtocol.Solana.Token

namespace KamiyoProtocol.Solana.Concrete

/-- A byte string made self-delimiting, followed by another. -/
def delimit : Bytes → Bytes → Bytes
  | [], rest => 0 :: rest
  | b :: bs, rest => 1 :: b :: delimit bs rest

theorem delimit_inj {a b : Bytes} :
    ∀ {c d : Bytes}, delimit a c = delimit b d → a = b ∧ c = d := by
  induction a generalizing b with
  | nil =>
    intro c d h
    cases b with
    | nil =>
      simp only [delimit, List.cons.injEq] at h
      exact ⟨rfl, h.2⟩
    | cons y ys => simp [delimit] at h
  | cons x xs ih =>
    intro c d h
    cases b with
    | nil => simp [delimit] at h
    | cons y ys =>
      simp only [delimit, List.cons.injEq] at h
      obtain ⟨-, rfl, hrest⟩ := h
      obtain ⟨rfl, rfl⟩ := ih hrest
      exact ⟨rfl, rfl⟩

/-- The tag of a wallet's first byte. -/
def walletTag : UInt8 := 255

/-- The wallet number `i`, a 32-byte key. -/
def wallet (i : UInt8) : Pubkey := ⟨walletTag :: List.replicate 31 i⟩

/-- The environment deriving addresses by an injective tagged encoding.
The hash is the identity, which is as collision-free as a hash can be;
rent is the rate of the main network. -/
def envOf {Seed : Type} (address : Seed → Bytes)
    (hinj : Function.Injective address) : Env Seed where
  hash := id
  pda s := ⟨address s⟩
  ata wallet mint := ⟨254 :: delimit wallet.bytes mint.bytes⟩
  minimumBalance n := (128 + n) * 6960
  pda_injective := by
    intro s t h
    exact hinj (congrArg Pubkey.bytes h)

/-- How the seeds of a program are written: a kind no wallet has, a key
and what follows it. -/
structure Coding (Seed : Type) where
  code : Seed → UInt8 × Pubkey × Bytes
  code_inj : ∀ {s t : Seed}, code s = code t → s = t := by
    intro s t h
    cases s <;> cases t <;> simp_all
  code_tag : ∀ s, (code s).1 ≠ walletTag := by
    intro s
    cases s <;> simp [walletTag]

namespace Coding

variable {Seed : Type} (c : Coding Seed)

def address (s : Seed) : Bytes :=
  (c.code s).1 :: delimit (c.code s).2.1.bytes (c.code s).2.2

theorem address_inj : Function.Injective c.address := by
  intro s t h
  simp only [address, List.cons.injEq] at h
  obtain ⟨htag, hrest⟩ := h
  obtain ⟨hkey, hbytes⟩ := delimit_inj hrest
  have hkey' : (c.code s).2.1 = (c.code t).2.1 :=
    congrArg Pubkey.mk hkey
  exact c.code_inj (Prod.ext htag (Prod.ext hkey' hbytes))

def env : Env Seed := envOf c.address c.address_inj

theorem wallet_ne_pda (i : UInt8) (s : Seed) : c.env.pda s ≠ wallet i := by
  intro h
  have hbytes : c.address s = walletTag :: List.replicate 31 i :=
    congrArg Pubkey.bytes h
  exact c.code_tag s (List.cons.inj hbytes).1

end Coding

/-- A transaction signed by wallets. -/
def txOf {Seed : Type} (env : Env Seed)
    (hne : ∀ i s, env.pda s ≠ wallet i) (signers : List UInt8)
    (clock : UInt32) (instructions : List Instruction) : Tx env where
  signers := signers.map wallet
  clock := clock.toNat
  instructions := instructions
  systemOwned _ := true
  clock_i64 := by
    have := clock.toNat_lt
    constructor
    · omega
    · omega
  no_pda_signs := by
    intro s h
    obtain ⟨i, -, hi⟩ := List.mem_map.mp h
    exact hne i s hi.symm

/-- Token accounts listed by address. -/
def tokensOf (accounts : List (Pubkey × TokenAccount)) : Tokens where
  accounts k := (accounts.find? fun t => t.1 = k).map Prod.snd
  journal := []

end KamiyoProtocol.Solana.Concrete
