/-
A concrete environment for the governance program: three wallets with
token accounts, a proposal of the first, and votes on it.
-/
import KamiyoProtocol.Governance.Program
import KamiyoProtocol.Solana.Concrete

namespace KamiyoProtocol.Governance.Concrete

open Solana Solana.Concrete Exec Function

/-- The kind of a seed, and what follows it. -/
def coding : Coding Seeds where
  code
    | .inl .governance => (0, ⟨[]⟩, [])
    | .inl (.proposal id) => (1, ⟨[]⟩, List.replicate id 0)
    | .inl (.vote k voter) => (2, k, voter.bytes)
    | .inl .depositVault => (3, ⟨[]⟩, [])
    | .inr .pool => (4, ⟨[]⟩, [])
    | .inr .vault => (5, ⟨[]⟩, [])
    | .inr .rewards => (6, ⟨[]⟩, [])
    | .inr (.position user) => (7, user, [])
  code_inj {s t} h := by
    rcases s with s | s
    · rcases t with t | t
      · cases s <;> cases t <;> simp_all
        next u v => exact congrArg Pubkey.mk h.2
      · cases s <;> cases t <;> simp_all
    · rcases t with t | t
      · cases s <;> cases t <;> simp_all
      · cases s <;> cases t <;> simp_all
  code_tag s := by
    rcases s with s | s
    · cases s <;> simp [walletTag]
    · cases s <;> simp [walletTag]

def env : Env Seeds := coding.env

/-- An instruction signed by a wallet at a time. -/
def act (signer : UInt8) (clock : UInt32) (op : Op) : Action env :=
  ⟨txOf env coding.wallet_ne_pda [signer] clock [], op⟩

def mint : Pubkey := wallet 50

def purse (i : UInt8) : Pubkey := env.ata (wallet i) mint

/-- Wallet 1 holds twenty million tokens; wallets 2 and 3 hold none. -/
def start : World where
  staking :=
    { now := 1000
      pool := none
      positions := []
      tokens := tokensOf [(purse 1, ⟨mint, wallet 1, 20000000000000⟩),
        (purse 2, ⟨mint, wallet 2, 0⟩), (purse 3, ⟨mint, wallet 3, 0⟩)] }
  config := none
  proposals _ := none
  voteRecords := []

/-- The first proposal. -/
def first : Pubkey := env.pda (.inl (.proposal 0))

/-- Wallet 1 proposes. -/
def proposed : List (Action env) :=
  [act 9 1000 (.initializeGovernance ⟨mint, wallet 9⟩),
    act 9 1000 (.initializeDepositVault ⟨mint, wallet 9⟩),
    act 1 1000 (.createProposal ⟨purse 1, mint, wallet 1⟩ [] [])]

def vote (i : UInt8) (clock : UInt32) : Action env :=
  act i clock (.castVote ⟨first, purse i, none, wallet i⟩ true)

def wait (clock now : UInt32) : Action env :=
  act 9 clock (.viaStaking (.advanceClock now.toNat))

def send (i j : UInt8) (n : Nat) : Action env :=
  act i 1000 (.viaStaking (.viaTokens (.transfer (purse i) (purse j)
    (wallet i) n)))

-- ==== token accounts

/-- The token accounts there are in the runs below. -/
def accounts : List Pubkey :=
  [purse 1, purse 2, purse 3, env.pda (.inl .depositVault)]

def Listed (w : World) : Prop :=
  ∀ k, k ∉ accounts → w.tokens.accounts k = none

theorem transfer_listed {b b' : Tokens} {src dst authority k : Pubkey}
    {n : Nat} (h : b.transfer src dst authority n = some b')
    (hk : b.accounts k = none) : b'.accounts k = none := by
  obtain ⟨_, _, -, -, -, -, -, hacc, -⟩ := Tokens.transfer_some h
  rw [hacc, Tokens.adjust, hk]
  rfl

/-- The instructions that open no token account but the deposit vault. -/
def opensNone (a : Action env) : Bool :=
  match a.op with
  | .initializeGovernance _ | .initializeDepositVault _ | .createProposal _ _ _
  | .castVote _ _ | .viaStaking (.viaTokens (.transfer _ _ _ _)) => true
  | _ => false

theorem listed_step {a : Action env} {w w' : World} (hl : Listed w)
    (ha : opensNone a = true) (h : step env a w = .ok w') : Listed w' := by
  obtain ⟨_, -, h⟩ := bind_ok.mp h
  unfold opensNone at ha
  unfold perform at h
  split at h
  · simp only [initializeGovernance, bind_ok] at h
    obtain ⟨-, -, -, -, hw'⟩ := h
    cases hw'
    exact hl
  · simp only [createProposal, bind_ok] at h
    obtain ⟨config, -, -, -, -, -, source, -, -, -, -, -, -, -, -, -, -, -,
      -, -, -, -, b, hb, count, -, ends, -, hw'⟩ := h
    cases hw'
    intro k hk
    show b.accounts k = none
    unfold payDeposit at hb
    split at hb
    · exact transfer_listed (transferChecked_ok hb) (hl k hk)
    · cases hb
      exact hl k hk
  · simp only [castVote, bind_ok] at h
    obtain ⟨-, -, config, -, p, -, -, -, -, -, wallet, -, -, -, -, -, -, -,
      -, -, staked, -, p', -, hw'⟩ := h
    cases hw'
    exact hl
  · next hop => simp [hop] at ha
  · next hop => simp [hop] at ha
  · next hop => simp [hop] at ha
  · simp only [initializeDepositVault, bind_ok, okOr_ok] at h
    obtain ⟨config, -, b, hb, -, -, -, -, hw'⟩ := h
    cases hw'
    intro k hk
    show b.accounts k = none
    unfold Tokens.openAccount at hb
    split at hb
    · cases hb
    · cases hb
      have hne : k ≠ env.pda (.inl .depositVault) := by
        intro he
        rw [he] at hk
        exact hk (by simp [accounts])
      exact (update_of_ne hne ..).trans (hl k hk)
  · next hop => simp [hop] at ha
  · next hop => simp [hop] at ha
  · next hop => simp [hop] at ha
  · next hop => simp [hop] at ha
  · next op hop =>
      rw [hop] at ha
      split at ha
      · next heq => cases heq
      · next heq => cases heq
      · next heq => cases heq
      · next heq => cases heq
      · next src dst authority n heq =>
          cases heq
          simp only [viaStaking, bind_ok, okOr_ok] at h
          obtain ⟨staking, hs, hw'⟩ := h
          cases hw'
          cases hr : Staking.step (stakingEnv env) ⟨stakingTx a.tx,
              .viaTokens (.transfer src dst authority n)⟩ w.staking with
          | error e =>
            rw [hr] at hs
            cases hs
          | ok s' =>
            rw [hr] at hs
            cases hs
            obtain ⟨_, -, b, hb, hs⟩ := bind_ok₂.mp hr
            cases hs
            have hb := okOr_ok.mp hb
            simp only [TokenOp.apply] at hb
            split at hb
            · intro k hk
              exact transfer_listed hb (hl k hk)
            · cases hb
      · cases ha

theorem start_listed : Listed start := by
  intro k hk
  simp only [accounts, List.mem_cons, not_or] at hk
  obtain ⟨h1, h2, h3, -⟩ := hk
  show ((tokensOf _).accounts k) = none
  simp [tokensOf, Ne.symm h1, Ne.symm h2, Ne.symm h3]

end KamiyoProtocol.Governance.Concrete
