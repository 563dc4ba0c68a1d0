/-
A concrete environment for the program, and the runs the witnesses and
counterexamples share: the set-up of the protocol, a dispute over
lamports and one over tokens.
-/
import KamiyoProtocol.Kamiyo.Machine
import KamiyoProtocol.Solana.Concrete

namespace KamiyoProtocol.Kamiyo.Concrete

open Solana Solana.Concrete

/-- The kind of a seed, and what follows it. -/
def coding : Coding Seed where
  code
    | .protocolConfig => (0, ⟨[]⟩, [])
    | .treasury => (1, ⟨[]⟩, [])
    | .oracleRegistry => (2, ⟨[]⟩, [])
    | .escrow agent id => (3, agent, id)
    | .agent owner => (4, owner, [])
    | .reputation entity => (5, entity, [])

def env : Env Seed := coding.env

/-- A transaction signed by wallets. -/
def tx (signers : List UInt8) (clock : UInt32)
    (instructions : List Instruction) : Tx env :=
  txOf env coding.wallet_ne_pda signers clock instructions

/-- An instruction signed by wallets at a time. -/
def act (signers : List UInt8) (clock : UInt32) (op : Op) : Action env :=
  ⟨tx signers clock [], op⟩

/-- The world before the program is set up, with some funded accounts,
mints and token accounts. -/
def genesis (balances : List (Pubkey × Nat))
    (h : (balances.map Prod.snd).sum < supplyCap)
    (mints : List (Pubkey × Nat)) (tokens : List (Pubkey × TokenAccount)) :
    World where
  lamports := Ledger.ofList balances h
  tokens := tokensOf tokens
  mints k := (mints.find? fun m => m.1 = k).map Prod.snd
  config := none
  treasury := none
  registry := none
  escrows _ := none
  agents _ := none
  reputations _ := none

theorem genesis_genesis (balances : List (Pubkey × Nat))
    (h : (balances.map Prod.snd).sum < supplyCap)
    (mints : List (Pubkey × Nat)) (tokens : List (Pubkey × TokenAccount)) :
    Genesis (genesis balances h mints tokens) :=
  ⟨rfl, rfl, rfl, fun _ => rfl, fun _ => rfl, fun _ => rfl⟩

-- ==== a dispute

/-- The signature every wallet gives here; the check itself is the
precompile's business. -/
def signature : Bytes := List.replicate 64 9

/-- Wallet `i` signs a message, in an instruction that reads its own
bytes. -/
def attest (i : UInt8) (message : Bytes) : Instruction :=
  ⟨Ed25519.programId, Ed25519.layout ⟨0xFFFF, 0xFFFF, 0xFFFF⟩
    ⟨signature, (wallet i).bytes, message⟩⟩

/-- The cast: wallets 1 to 3 govern, 10 is the agent, 11 the api, 20 to
22 are oracles, 30 is a bystander. -/
def transactionId : Bytes := [97]

def escrowKey : Pubkey := env.pda (.escrow (wallet 10) transactionId)

def start : World :=
  genesis [(wallet 1, 10000000000), (wallet 10, 10000000000),
    (wallet 20, 10000000000), (wallet 21, 10000000000),
    (wallet 22, 10000000000)] (by decide) [] []

/-- Enrol wallet `i` with one SOL of stake. -/
def enrol (i : UInt8) : Action env :=
  act [1, i] 1000
    (.addOracle ⟨wallet 1, wallet i⟩ (wallet i) .ed25519 1 1000000000)

/-- Set up the protocol, three oracles and two reputations. -/
def setup : List (Action env) :=
  [act [1] 1000 (.initializeProtocol ⟨wallet 1⟩ (wallet 2) (wallet 3)),
   act [1] 1000 (.initializeTreasury ⟨wallet 1⟩),
   act [1] 1000 (.initializeOracleRegistry ⟨wallet 1⟩ 3 10),
   enrol 20, enrol 21, enrol 22,
   act [1] 1000 (.initReputation ⟨wallet 10, wallet 1⟩),
   act [1] 1000 (.initReputation ⟨wallet 11, wallet 1⟩)]

def solAccounts : InitializeEscrowAccounts :=
  { agent := wallet 10
    api := wallet 11
    tokenMint := none
    escrowTokenAccount := none
    agentTokenAccount := none
    tokenProgram := false
    associatedTokenProgram := false }

/-- The agent escrows one SOL for the api. -/
def openSol : Action env :=
  act [10] 1000
    (.initializeEscrow solAccounts 1000000000 3600 transactionId false)

def dispute : Action env :=
  act [10] 1050 (.markDisputed ⟨escrowKey, wallet 10⟩)

def salt (i : UInt8) : Bytes := List.replicate 32 i

/-- Wallet `i` commits to a score under a salt. -/
def commit (i : UInt8) (score : Nat) (salt : Bytes) : Action env :=
  act [i] 1100 (.commitOracleScore ⟨escrowKey, wallet i⟩
    (computeCommitmentHash env transactionId score salt))

/-- Wallet `i` reveals a score and a salt, with its signature. -/
def reveal (i : UInt8) (score : Nat) (salt : Bytes) : Action env :=
  ⟨tx [i] 1500 [attest i (scoreMessage transactionId score)],
   .submitOracleScore ⟨escrowKey, wallet i⟩ score salt signature⟩

/-- All three oracles vote the same score. -/
def vote (score : Nat) : List (Action env) :=
  [commit 20 score (salt 20), commit 21 score (salt 21),
   commit 22 score (salt 22), reveal 20 score (salt 20),
   reveal 21 score (salt 21), reveal 22 score (salt 22)]

/-- A bystander finalises, with or without the treasury. -/
def finalize (treasury : Bool) : Action env :=
  act [30] 1600 (.finalizeMultiOracleDispute
    { escrow := escrowKey
      agent := wallet 10
      api := wallet 11
      agentIdentity := false
      caller := wallet 30
      treasury := treasury
      parties := ⟨none, none, none, false⟩
      treasuryTokenAccount := none })

-- ==== a token dispute

/-- Wallet 50 is a mint; 41 is the agent's token account, 42 a second one
of its, 43 the api's and 44 the bystander's. -/
def startSpl : World :=
  genesis [(wallet 1, 10000000000), (wallet 10, 10000000000),
    (wallet 20, 10000000000), (wallet 21, 10000000000),
    (wallet 22, 10000000000)] (by decide) [(wallet 50, 6)]
    [(wallet 41, ⟨wallet 50, wallet 10, 1000000000⟩),
     (wallet 42, ⟨wallet 50, wallet 10, 0⟩),
     (wallet 43, ⟨wallet 50, wallet 11, 0⟩),
     (wallet 44, ⟨wallet 50, wallet 30, 0⟩)]

/-- The associated token account of the escrow. -/
def escrowAta : Pubkey := env.ata escrowKey (wallet 50)

/-- Creation accounts naming `ta` as the escrow's token account. -/
def splAccounts (ta : Pubkey) : InitializeEscrowAccounts :=
  { agent := wallet 10
    api := wallet 11
    tokenMint := some (wallet 50)
    escrowTokenAccount := some ta
    agentTokenAccount := some (wallet 41)
    tokenProgram := true
    associatedTokenProgram := true }

/-- The agent escrows a thousand tokens for the api. -/
def openSpl (ta : Pubkey) : Action env :=
  act [10] 1000 (.initializeEscrow (splAccounts ta) 1000000000 3600
    transactionId true)

/-- A bystander finalises a token escrow, naming `ta` as the treasury
token account. -/
def finalizeTokens (ta : Pubkey) : Action env :=
  act [30] 1600 (.finalizeMultiOracleDispute
    { escrow := escrowKey
      agent := wallet 10
      api := wallet 11
      agentIdentity := false
      caller := wallet 30
      treasury := true
      parties := ⟨some escrowAta, some (wallet 41), some (wallet 43), true⟩
      treasuryTokenAccount := some ta })

end KamiyoProtocol.Kamiyo.Concrete
