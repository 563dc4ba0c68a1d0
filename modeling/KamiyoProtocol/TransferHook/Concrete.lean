/-
A concrete environment for the transfer hook: its deployment, two wallets
with token accounts, and a call of `execute`.
-/
import KamiyoProtocol.Solana.Concrete
import KamiyoProtocol.TransferHook.Program

namespace KamiyoProtocol.TransferHook.Concrete

open Solana Solana.Concrete

/-- The kind of a seed, and what follows it. -/
def coding : Coding Seed where
  code
    | .hookConfig => (0, ⟨[]⟩, [])
    | .whitelist => (1, ⟨[]⟩, [])
    | .burnExempt => (2, ⟨[]⟩, [])
    | .transferState owner => (3, owner, [])

def env : Env Seed := coding.env

/-- An instruction signed by a wallet at a time. -/
def act (signer : UInt8) (clock : UInt32) (op : Op) : Action env :=
  ⟨txOf env coding.wallet_ne_pda [signer] clock [], op⟩

def mint : Pubkey := wallet 50

def purse (i : UInt8) : Pubkey := env.ata (wallet i) mint

def start : World where
  config := none
  whitelist := none
  burnExempt := none
  transferStates _ := none
  tokenAccounts _ := none
  mints := []

theorem start_deployed : Deployed start := ⟨rfl, rfl, rfl, fun _ => rfl⟩

/-- The hook is set up and wallets 1 and 2 hold token accounts; wallet 2
opens the state of wallet 1. -/
def opened : List (Action env) :=
  [act 9 1000 (.initializeHook (wallet 9)),
    act 9 1000 (.initializeWhitelist (wallet 9)),
    act 9 1000 (.initializeBurnExempt (wallet 9)),
    act 9 1000 (.createMint mint),
    act 1 1000 (.setTokenAccount (purse 1) (some ⟨mint, wallet 1, 500⟩)),
    act 2 1000 (.setTokenAccount (purse 2) (some ⟨mint, wallet 2, 0⟩)),
    act 2 1000 (.initializeTransferState (wallet 1) (wallet 2))]

/-- A call of `execute` for a transfer from wallet 1 to wallet 2. -/
def sent (signer : UInt8) (clock : UInt32) (amount : Nat) : Action env :=
  act signer clock (.execute ⟨env.pda (.transferState (wallet 1)), purse 1,
    purse 2, mint⟩ amount)

end KamiyoProtocol.TransferHook.Concrete
