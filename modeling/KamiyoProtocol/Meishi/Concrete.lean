/-
A concrete environment for the program: addresses, a hash, and the
transactions the witnesses and counterexamples run.

The hash has to be injective and to give 32 bytes on the messages that
are signed. It is the identity but for those messages, each of which
changes places with a 32-byte string.
-/
import KamiyoProtocol.Meishi.Program

namespace KamiyoProtocol.Meishi.Concrete

open Solana Solana.Concrete

/-- The kind of a seed, and what follows it. -/
def coding : Coding Seed where
  code
    | .passport id => (0, id, [])
    | .mandate k version => (1, k, List.replicate version 0)
    | .audit k nonce => (2, k, List.replicate nonce 0)
    | .liability k c => (3, k, c.bytes)
  code_inj {s t} h := by
    cases s <;> cases t <;> simp_all
    next k' c' => exact congrArg Pubkey.mk h.2

/-- Addresses derived at another program's id. -/
def find : Finder := fun seeds programId =>
  ⟨4 :: delimit programId.bytes seeds.flatten⟩

-- ==== the cast

/-- Wallet 1 owns the agent; 2 is a bystander; 20 to 22 are oracles. -/
def agentKey : Pubkey :=
  find [agentSeed, (wallet 1).bytes] kamiyoProgramIdPrimary

def passportKey : Pubkey := coding.env.pda (.passport agentKey)

/-- The identity of wallet 1, as the kamiyo program stores it. -/
def agent : AccountInfo :=
  ⟨agentKey, kamiyoProgramIdPrimary, Kamiyo.AgentIdentity.data
    ⟨wallet 1, [97], .custom, 0, 0, true, 0, 0, 0, 0, 0⟩ 255⟩

theorem from_i64 (start : UInt32) : Fixed.InRange 64 start.toNat := by
  have := start.toNat_lt
  constructor
  · omega
  · omega

theorem until_i64 (start : UInt32) :
    Fixed.InRange 64 (start.toNat + 86400) := by
  have := start.toNat_lt
  constructor
  · omega
  · omega

/-- A mandate of one day from the given time. -/
def terms (start : UInt32) : MandateTerms where
  spendingLimitUsd := 10
  dailyLimitUsd := 100
  monthlyLimitUsd := 1000
  categoryWhitelist := List.replicate 32 1
  merchantWhitelistHash := List.replicate 32 2
  requiresHumanApprovalAbove := 50
  geoRestrictions := 3
  validFrom := start.toNat
  validUntil := start.toNat + 86400
  spending_u64 := by decide
  daily_u64 := by decide
  monthly_u64 := by decide
  category_length := by decide
  merchant_length := by decide
  approval_u64 := by decide
  from_i64 := from_i64 start
  until_i64 := until_i64 start

/-- The message of version `v`, starting at the given time. -/
def message (v : Nat) (start : UInt32) : Bytes :=
  mandateMessage passportKey v (terms start)

/-- What it hashes to. -/
def digest (v : UInt8) : Bytes := List.replicate 32 v

/-- Two strings change places. -/
def exchange (x y b : Bytes) : Bytes :=
  if b = x then y else if b = y then x else b

theorem exchange_exchange (x y b : Bytes) :
    exchange x y (exchange x y b) = b := by
  unfold exchange
  by_cases hx : b = x
  · subst hx
    by_cases hy : y = b
    · simp [hy]
    · simp [hy]
  · by_cases hy : b = y
    · subst hy
      simp [hx]
    · simp [hx, hy]

theorem exchange_injective (x y : Bytes) :
    Function.Injective (exchange x y) := by
  intro b c h
  rw [← exchange_exchange x y b, h, exchange_exchange]

/-- The messages of versions one and two hash to 32 bytes. -/
def hash (b : Bytes) : Bytes :=
  exchange (message 1 2000) (digest 1)
    (exchange (message 2 3000) (digest 2) b)

theorem hash_injective : Function.Injective hash :=
  (exchange_injective _ _).comp (exchange_injective _ _)

/-- The environment. -/
def env : Env Seed :=
  { coding.env with hash := hash }

/-- A transaction signed by wallets. -/
def tx (signers : List UInt8) (clock : UInt32)
    (instructions : List Instruction) : Tx env :=
  txOf env coding.wallet_ne_pda signers clock instructions

def signature : Bytes := List.replicate 64 9

/-- Wallet `i` signs a message, in an instruction that reads its own
bytes. -/
def attest (i : UInt8) (m : Bytes) : Instruction :=
  ⟨Ed25519.programId, Ed25519.layout Ed25519.ownIndexes
    ⟨signature, (wallet i).bytes, m⟩⟩

-- ==== instructions

def issue : Action env :=
  ⟨tx [1] 1000 [], .createMeishi ⟨wallet 1, agent⟩ 1⟩

/-- Wallet 1 signs the mandate of version `v`, starting at the given
time. -/
def mandate (v : UInt8) (start : UInt32) : Action env :=
  ⟨tx [1] 1500 [attest 1 (digest v)],
    .updateMandate 1 ⟨wallet 1, passportKey⟩ (terms start) signature⟩

/-- Wallet 1 revokes the mandate of version `v`. -/
def revoke (v : Nat) : Action env :=
  ⟨tx [1] 4000 [], .revokeMandate ⟨wallet 1, passportKey,
    env.pda (.mandate passportKey v)⟩⟩

end KamiyoProtocol.Meishi.Concrete
