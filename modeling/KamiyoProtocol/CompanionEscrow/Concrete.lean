/-
A concrete environment for the escrow program: a user disputes an escrow,
and three oracles commit and reveal their scores.
-/
import KamiyoProtocol.CompanionEscrow.Program
import KamiyoProtocol.Solana.Concrete

namespace KamiyoProtocol.CompanionEscrow.Concrete

open Solana Solana.Concrete

/-- The kind of a seed, and what follows it. -/
def coding : Coding Seed where
  code
    | .oracleConfig => (0, ⟨[]⟩, [])
    | .tokenTreasury => (1, ⟨[]⟩, [])
    | .escrow user id => (2, user, id)
    | .stakePosition oracle => (3, oracle, [])

def env : Env Seed := coding.env

/-- An instruction signed by wallets at a time. -/
def act (signers : List UInt8) (clock : UInt32) (op : Op) : Action env :=
  ⟨txOf env coding.wallet_ne_pda signers clock [], op⟩

/-- Wallet 1 is the admin, 10 the user, 11 the treasury, 20 to 22 are
oracles; 50 is the mint, 40 the user's token account. -/
def sessionId : Bytes := List.replicate 32 7

def escrowKey : Pubkey := env.pda (.escrow (wallet 10) sessionId)

def start : World where
  now := 1000
  lamports := Ledger.ofList [(wallet 10, 10000000000)] (by decide)
  tokens := tokensOf [(wallet 40, ⟨wallet 50, wallet 10, 50000000⟩)]
  config := none
  escrows _ := none

def salt : Bytes := List.replicate 32 9

def commit (i : UInt8) (score : Nat) : Action env :=
  act [i] 1000 (.commitVote ⟨wallet i, escrowKey, none⟩
    (computeCommitmentHash env sessionId (wallet i) score salt))

def reveal (i : UInt8) (score : Nat) : Action env :=
  act [i] 1060 (.revealVote ⟨wallet i, escrowKey⟩ score salt)

/-- The program set up, and one SOL escrowed and disputed. -/
def dispute : List (Action env) :=
  [act [1] 1000 (.initializeOracleConfig (wallet 1) 3 15 60 300 false),
   act [1] 1000 (.registerOracle (wallet 1) (wallet 20)),
   act [1] 1000 (.registerOracle (wallet 1) (wallet 21)),
   act [1] 1000 (.registerOracle (wallet 1) (wallet 22)),
   act [1] 1000 (.initializeTreasury (wallet 1) (wallet 50)),
   act [10] 1000 (.createEscrow
     ⟨wallet 10, wallet 11, wallet 50, wallet 40⟩ sessionId 1000000000),
   act [10] 1000 (.markDisputed ⟨wallet 10, escrowKey⟩)]

/-- The oracles score the session, and the reveal window passes. -/
def vote (x y z : Nat) : List (Action env) :=
  [commit 20 x, commit 21 y, commit 22 z, act [] 1000 (.advanceClock 1060),
   reveal 20 x, reveal 21 y, reveal 22 z,
   act [] 1060 (.advanceClock 1360)]

/-- From the creation on: the dispute, votes for a refund of three
quarters, and the split. -/
def split : List (Action env) :=
  dispute.drop 6 ++ vote 50 60 64
    ++ [act [] 1360 (.finalizeDispute ⟨wallet 10, wallet 11, escrowKey⟩)]

end KamiyoProtocol.CompanionEscrow.Concrete
