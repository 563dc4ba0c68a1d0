/-
What the programs take from the Solana runtime: addresses, the
transaction they run in, and account funding.

The runtime is not part of the repository, so it enters as data. `Env`
collects the functions the programs call out to (the hash, program
derived addresses, associated token addresses, rent) together with the
one law the accounting rests on, that distinct seeds derive distinct
addresses. `Tx` is the transaction around an instruction; it carries the
fact that nobody holds a key for a derived address, so a signer is never
one. Both laws are fields: an `Env` or a `Tx` that breaks them cannot be
built.

Addresses are byte strings without a length bound, so that an injective
address derivation exists at all. Nothing below depends on the length
being 32 except the byte comparison of the signature introspection,
which carries it in its slices.

Lamports live in a `Ledger` capped at 2^64: the total supply fits a u64,
which is what makes every credit overflow-free.
-/
import KamiyoProtocol.Lib.Exec
import KamiyoProtocol.Lib.Fixed
import KamiyoProtocol.Lib.Ledger

namespace KamiyoProtocol.Solana

/-- Byte strings: instruction data, hashes, strings as their UTF-8. -/
abbrev Bytes := List UInt8

/-- An account address. -/
structure Pubkey where
  bytes : Bytes
deriving DecidableEq

/-- The bound on the lamport supply. -/
abbrev supplyCap : Nat := 2 ^ 64

/-- The lamport balances of all accounts. -/
abbrev Lamports := Ledger Pubkey supplyCap

/-- One instruction of a transaction, as the instructions sysvar shows
it (account metas are read by no modelled function). -/
structure Instruction where
  programId : Pubkey
  data : Bytes

/-- The outside functions a program with derived-address seeds `Seed`
calls. -/
structure Env (Seed : Type) where
  /-- `solana_program::hash::hash`. -/
  hash : Bytes → Bytes
  /-- `Pubkey::find_program_address` at this program's id. -/
  pda : Seed → Pubkey
  /-- The associated token address of a wallet and a mint. -/
  ata : Pubkey → Pubkey → Pubkey
  /-- `Rent::minimum_balance` of a data length. -/
  minimumBalance : Nat → Nat
  pda_injective : Function.Injective pda

/-- The transaction around an instruction. -/
structure Tx {Seed : Type} (env : Env Seed) where
  signers : List Pubkey
  /-- `Clock::unix_timestamp`. -/
  clock : Int
  instructions : List Instruction
  /-- The accounts the system program owns, as the runtime loads them. -/
  systemOwned : Pubkey → Bool
  clock_i64 : Fixed.InRange 64 clock
  no_pda_signs : ∀ s, env.pda s ∉ signers

/-- Why an instruction fails. `custom` carries the program's own error
code; the rest is raised by account validation, by called programs and
by checked arithmetic (`overflow-checks` is on in the release
profile). -/
inductive Fault (ε : Type) where
  | custom (e : ε)
  | accountNotInitialized
  | accountAlreadyInUse
  | accountNotSigner
  | constraintSeeds
  | constraintSystemAccount
  | constraintTokenMint
  | constraintTokenOwner
  | constraintAssociated
  | constraintRaw
  | maxSeedLengthExceeded
  | accountDidNotSerialize
  | instructionDidNotDeserialize
  | insufficientFunds
  | externalAccountLamportSpend
  | tokenProgramError
  | arithmeticPanic
deriving DecidableEq

/-- The outcome of an instruction or of one of its steps. -/
abbrev Result (ε α : Type) := Except (Fault ε) α

/-- One program's environment among several that share a chain. -/
def Env.comap {S T : Type} (env : Env S) (f : T → S)
    (hf : Function.Injective f) : Env T where
  hash := env.hash
  pda t := env.pda (f t)
  ata := env.ata
  minimumBalance := env.minimumBalance
  pda_injective := env.pda_injective.comp hf

/-- The transaction as that program sees it. -/
def Tx.comap {S T : Type} {env : Env S} (tx : Tx env) (f : T → S)
    (hf : Function.Injective f) : Tx (env.comap f hf) where
  signers := tx.signers
  clock := tx.clock
  instructions := tx.instructions
  systemOwned := tx.systemOwned
  clock_i64 := tx.clock_i64
  no_pda_signs t := tx.no_pda_signs (f t)

variable {Seed ε : Type} {env : Env Seed}

/-- `require!(c, e)`. -/
def ensure (c : Prop) [Decidable c] (e : ε) : Result ε Unit :=
  Exec.require c (Fault.custom e)

/-- `Signer<'info>` validation. -/
def requireSigner (tx : Tx env) (k : Pubkey) : Result ε Unit :=
  Exec.require (k ∈ tx.signers) Fault.accountNotSigner

/-- `seeds = [..], bump` validation. -/
def requireSeeds (env : Env Seed) (s : Seed) (k : Pubkey) :
    Result ε Unit :=
  Exec.require (k = env.pda s) Fault.constraintSeeds

/-- `+` on i64, panicking on overflow. -/
def addI64 (a b : Int) : Result ε Int :=
  Exec.okOr (Fixed.checkedAddI 64 a b) Fault.arithmeticPanic

/-- `-` on i64, panicking on overflow. -/
def subI64 (a b : Int) : Result ε Int :=
  Exec.okOr (Fixed.checkedSubI 64 a b) Fault.arithmeticPanic

/-- `+` on u64, panicking on overflow. -/
def addU64 (a b : Nat) : Result ε Nat :=
  Exec.okOr (Fixed.checkedAdd 64 a b) Fault.arithmeticPanic

theorem ensure_ok {c : Prop} [Decidable c] {e : ε} {u : Unit} :
    ensure c e = .ok u ↔ c :=
  Exec.require_ok

theorem requireSigner_ok {tx : Tx env} {k : Pubkey} {u : Unit} :
    (requireSigner tx k : Result ε Unit) = .ok u ↔ k ∈ tx.signers :=
  Exec.require_ok

theorem requireSeeds_ok {s : Seed} {k : Pubkey} {u : Unit} :
    (requireSeeds env s k : Result ε Unit) = .ok u ↔ k = env.pda s :=
  Exec.require_ok

theorem ensure_isOk {α : Type} {c : Prop} [Decidable c] {e : ε}
    {f : Unit → Result ε α} (hc : c) (hf : ∃ b, f () = .ok b) :
    ∃ b, (ensure c e >>= f) = .ok b :=
  Exec.require_isOk hc hf

theorem requireSigner_isOk {α : Type} {tx : Tx env} {k : Pubkey}
    {f : Unit → Result ε α} (hk : k ∈ tx.signers)
    (hf : ∃ b, f () = .ok b) : ∃ b, (requireSigner tx k >>= f) = .ok b :=
  Exec.require_isOk hk hf

theorem addI64_ok {a b c : Int} :
    (addI64 a b : Result ε Int) = .ok c
      ↔ Fixed.InRange 64 (a + b) ∧ c = a + b := by
  unfold addI64
  rw [Exec.okOr_ok, Fixed.checkedAddI_some]

theorem subI64_ok {a b c : Int} :
    (subI64 a b : Result ε Int) = .ok c
      ↔ Fixed.InRange 64 (a - b) ∧ c = a - b := by
  unfold subI64
  rw [Exec.okOr_ok, Fixed.checkedSubI_some]

theorem addU64_ok {a b c : Nat} :
    (addU64 a b : Result ε Nat) = .ok c ↔ a + b < 2 ^ 64 ∧ c = a + b := by
  unfold addU64
  rw [Exec.okOr_ok, Fixed.checkedAdd_some]

/-- `Account<'info, T>`: the account exists. -/
def load {α : Type} (o : Option α) : Result ε α :=
  Exec.okOr o .accountNotInitialized

theorem load_ok {α : Type} {o : Option α} {a : α} :
    (load o : Result ε α) = .ok a ↔ o = some a :=
  Exec.okOr_ok

/-- `init`: the account does not exist yet. -/
def requireFresh {α : Type} (o : Option α) : Result ε Unit :=
  Exec.require (o = none) .accountAlreadyInUse

theorem requireFresh_ok {α : Type} {o : Option α} {u : Unit} :
    (requireFresh o : Result ε Unit) = .ok u ↔ o = none :=
  Exec.require_ok

theorem requireFresh_isOk {α β : Type} {o : Option α}
    {f : Unit → Result ε β} (ho : o = none) (hf : ∃ b, f () = .ok b) :
    ∃ b, (requireFresh o >>= f) = .ok b :=
  Exec.require_isOk ho hf

theorem signer_ne {tx : Tx env} {k : Pubkey} (h : k ∈ tx.signers)
    {s : Seed} : k ≠ env.pda s := by
  rintro rfl
  exact tx.no_pda_signs s h

theorem pda_ne {s t : Seed} (h : s ≠ t) : env.pda s ≠ env.pda t :=
  fun he => h (env.pda_injective he)

-- ==== lamports

/-- Move lamports, failing with `f` when the source is short. The credit
cannot overflow (`Ledger.bounded`). -/
def moveLamports (l : Lamports) (src dst : Pubkey) (n : Nat) (f : Fault ε) :
    Result ε Lamports :=
  Exec.okOr (l.move src dst n) f

variable {l l' : Lamports} {src dst : Pubkey}

variable {n : Nat}

theorem moveLamports_ok {f : Fault ε} :
    moveLamports l src dst n f = .ok l' ↔ l.move src dst n = some l' :=
  Exec.okOr_ok

/-- The CPI to the system program's `transfer`. -/
def systemTransfer (l : Lamports) (src dst : Pubkey) (n : Nat) :
    Result ε Lamports :=
  moveLamports l src dst n Fault.insufficientFunds

theorem systemTransfer_ok :
    (systemTransfer l src dst n : Result ε Lamports) = .ok l'
      ↔ l.move src dst n = some l' :=
  Exec.okOr_ok

/-- A guarded payment, `if n > 0 { **a -= n; **b += n }`. -/
def payLamports (l : Lamports) (src dst : Pubkey) (n : Nat) :
    Result ε Lamports :=
  if 0 < n then moveLamports l src dst n Fault.arithmeticPanic else .ok l

/-- The transfers of a guarded payment. -/
def payment (src dst : Pubkey) (n : Nat) : List (Transfer Pubkey) :=
  if 0 < n then [⟨src, dst, n⟩] else []

@[simp] theorem outOf_payment (src dst k : Pubkey) (n : Nat) :
    Transfer.outOf (payment src dst n) k = if src = k then n else 0 := by
  unfold payment
  split
  · simp
  · simp only [Transfer.outOf_nil]
    split
    · omega
    · rfl

@[simp] theorem into_payment (src dst k : Pubkey) (n : Nat) :
    Transfer.into (payment src dst n) k = if dst = k then n else 0 := by
  unfold payment
  split
  · simp
  · simp only [Transfer.into_nil]
    split
    · omega
    · rfl

theorem of_mem_payment {t : Transfer Pubkey} (h : t ∈ payment src dst n) :
    t.src = src ∧ t.dst = dst := by
  unfold payment at h
  split at h
  · rw [List.mem_singleton] at h
    subst h
    exact ⟨rfl, rfl⟩
  · cases h

theorem payLamports_ok
    (h : (payLamports l src dst n : Result ε Lamports) = .ok l') :
    l.moves (payment src dst n) = some l' := by
  unfold payLamports at h
  unfold payment
  split at h
  · next hn =>
      rw [if_pos hn]
      exact Ledger.moves_single (moveLamports_ok.mp h)
  · next hn =>
      rw [if_neg hn]
      cases h
      rfl

theorem payLamports_isOk {l : Lamports} (h : n ≤ l.bal src) :
    ∃ l', (payLamports l src dst n : Result ε Lamports) = .ok l' := by
  unfold payLamports
  split
  · obtain ⟨l', hl'⟩ : ∃ l', l.move src dst n = some l' :=
      Ledger.move_isSome h
    exact ⟨l', moveLamports_ok.mpr hl'⟩
  · exact ⟨l, rfl⟩

/-- Fund a fresh derived account up to its rent minimum, as the `init`
constraint does: lamports already there count. -/
def fundRent (env : Env Seed) (l : Lamports) (payer k : Pubkey)
    (space : Nat) : Result ε Lamports :=
  let short := max 1 (env.minimumBalance space) - l.bal k
  if 0 < short then systemTransfer l payer k short else .ok l

theorem fundRent_ok {payer k : Pubkey} {space : Nat}
    (h : (fundRent env l payer k space : Result ε Lamports) = .ok l') :
    l.moves (payment payer k
      (max 1 (env.minimumBalance space) - l.bal k)) = some l' := by
  unfold fundRent at h
  unfold payment
  dsimp only at h
  split at h
  · next hn =>
      rw [if_pos hn]
      exact Ledger.moves_single (systemTransfer_ok.mp h)
  · next hn =>
      rw [if_neg hn]
      cases h
      rfl

theorem fundRent_moves {payer k : Pubkey} {space : Nat}
    (h : (fundRent env l payer k space : Result ε Lamports) = .ok l') :
    ∃ ts, l.moves ts = some l' ∧ ∀ t ∈ ts, t.src = payer :=
  ⟨_, fundRent_ok h, fun _ ht => (of_mem_payment ht).1⟩

theorem fundRent_covers {payer k : Pubkey} {space : Nat} (hne : payer ≠ k)
    (h : (fundRent env l payer k space : Result ε Lamports) = .ok l') :
    env.minimumBalance space ≤ l'.bal k := by
  have hb := Ledger.bal_moves (fundRent_ok h) k
  rw [outOf_payment, into_payment, if_neg hne, if_pos rfl] at hb
  omega

end KamiyoProtocol.Solana
