/-
A concrete environment for the staking program: two stakers share a
reward, with or without a month passing.
-/
import KamiyoProtocol.Solana.Concrete
import KamiyoProtocol.Staking.Pool

namespace KamiyoProtocol.Staking.Concrete

open Solana Solana.Concrete

/-- The kind of a seed, and what follows it. -/
def coding : Coding Seed where
  code
    | .pool => (0, ⟨[]⟩, [])
    | .vault => (1, ⟨[]⟩, [])
    | .rewards => (2, ⟨[]⟩, [])
    | .position user => (3, user, [])

def env : Env Seed := coding.env

/-- An instruction signed by wallets at a time. -/
def act (signers : List UInt8) (clock : UInt32) (op : Op) : Action env :=
  ⟨txOf env coding.wallet_ne_pda signers clock [], op⟩

def mint : Pubkey := wallet 50

def ata (i : UInt8) : Pubkey := env.ata (wallet i) mint

/-- Wallets 10 and 11 hold what they are going to stake; wallet 12 holds
the rewards, in account 40. -/
def start : World where
  now := 1000
  pool := none
  positions := []
  tokens := tokensOf
    [(ata 10, ⟨mint, wallet 10, 100000000000⟩),
     (ata 11, ⟨mint, wallet 11, 100000000000⟩),
     (wallet 40, ⟨mint, wallet 12, 1000⟩)]

def deposit (i : UInt8) : Action env :=
  act [i] 1000 (.stake ⟨ata i, wallet i⟩ 100000000000)

def reward : Action env :=
  act [12] 1000 (.distributeRewards ⟨mint, wallet 40, wallet 12⟩ 1000)

def collect (i : UInt8) (clock : UInt32) : Action env :=
  act [i] clock (.claimRewards ⟨ata i, wallet i, wallet i⟩)

/-- The accounts wallet `i` withdraws with. -/
def own (i : UInt8) : PositionAccounts := ⟨ata i, wallet i, wallet i⟩

def takeOut (i : UInt8) (clock : UInt32) (amount : Nat) : Action env :=
  act [i] clock (.unstake (own i) amount)

/-- Wallet `i` has the position, and its token account. -/
def owns (w : World) (i : UInt8) (p : StakePosition) : Bool :=
  decide ((wallet i, p) ∈ w.positions)
    && (w.tokens.accounts (ata i)).any fun a =>
      decide (a.mint = mint ∧ a.owner = wallet i)

/-- Two equal stakes share a reward of 990. -/
def shared : List (Action env) := [deposit 10, deposit 11, reward]

/-- Thirty days later. -/
def later : Action env := act [] 1000 (.advanceClock 2593000)

/-- The pool as wallet 1 creates it. -/
def created : Outcome World :=
  initializePool env (txOf env coding.wallet_ne_pda [1] 1000 []) ⟨mint, wallet 1⟩
    start

end KamiyoProtocol.Staking.Concrete
