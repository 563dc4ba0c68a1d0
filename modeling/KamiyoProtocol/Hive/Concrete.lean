/-
A concrete environment for the hive program: addresses, proofs, and the
accounts the witnesses and counterexamples run with.

A proof is the agent's secret and the opening of its commitments, and is
checked by looking. It is as sound as a proof can be: what passes is a
member's, under the one nullifier the member has for the action.
-/
import KamiyoProtocol.Hive.Stakes
import KamiyoProtocol.Hive.Swarm
import KamiyoProtocol.Solana.Concrete

namespace KamiyoProtocol.Hive.Concrete

open Solana Solana.Concrete

/-- The kind of a seed, and what follows it. -/
def coding : Coding Seed where
  code
    | .registry => (0, ⟨[]⟩, [])
    | .treasury k => (1, k, [])
    | .stakeVault k => (2, k, [])
    | .agent c => (3, ⟨[]⟩, c)
    | .withdrawal k => (4, k, [])
    | .collateralVault k => (5, k, [])
    | .collateralWithdrawal k => (6, k, [])
    | .swarmAction h => (7, ⟨[]⟩, h)
    | .vote k n => (8, k, n)
    | .voteRecord k n => (9, k, n)
    | .swarmActionBid k h => (10, k, h)
    | .voteBid k n => (11, k, n)
    | .voteBidRecord k n => (12, k, n)

def env : Env Seed := coding.env

/-- A transaction signed by the numbered wallets. -/
def tx (signers : List UInt8) (clock : UInt32) : Tx env :=
  txOf env coding.wallet_ne_pda signers clock []

-- ==== proofs

/-- The secret of agent `i`. -/
def secret (i : UInt8) : Bytes := List.replicate 32 i

/-- The agents are numbered 1 to 9. -/
def members : List Bytes :=
  [1, 2, 3, 4, 5, 6, 7, 8, 9].map secret

/-- The nullifier of an agent for an action or an epoch. -/
def nullifierOf (s scope : Bytes) : Bytes := s.take 8 ++ scope.drop 8

/-- The hash is the concatenation, injective on inputs of equal
lengths. -/
def zk : Swarm.Zk where
  poseidon inputs := some inputs.flatten
  agentIdentity proof inputs :=
    match inputs with
    | [_, nullifier, epoch] =>
      decide (proof.a ∈ members ∧ nullifier = nullifierOf proof.a epoch)
    | _ => false
  swarmVote proof inputs :=
    match inputs with
    | [_, actionHash, nullifier, commitment] =>
      decide (proof.a ∈ members ∧ nullifier = nullifierOf proof.a actionHash
        ∧ commitment = proof.b ++ actionHash)
    | _ => false
  swarmVoteBid proof inputs :=
    match inputs with
    | [_, actionHash, nullifier, voteCommitment, bidCommitment, _] =>
      decide (proof.a ∈ members ∧ nullifier = nullifierOf proof.a actionHash
        ∧ voteCommitment = proof.b ++ actionHash
        ∧ bidCommitment = proof.c ++ actionHash)
    | _ => false

-- ==== accounts

def registryKey : Pubkey := env.pda .registry
def treasury : Pubkey := env.pda (.treasury registryKey)

/-- A registry without caps, under wallet 0, with the fee token set. -/
def registry : AgentRegistry where
  authority := wallet 0
  agentsRoot := List.replicate 32 9
  agentCount := 0
  signalCount := 0
  swarmActionCount := 0
  epoch := 0
  minStake := 100
  minSignalConfidence := 0
  bump := 255
  paused := false
  maxTotalStake := 1000000
  maxStakePerAgent := 1000000
  totalStake := 0
  kamiyoMint := kamiyoMintId
  treasuryBump := 255
  totalBurned := 0
  totalFeesCollected := 0
  minSignalCollateral := 0

/-- Token account of wallet `i`. -/
def purse (i : UInt8) : Pubkey := env.ata (wallet i) kamiyoMintId

/-- Ten thousand tokens with each of the wallets 1 to 3. -/
def purses : List (Pubkey × TokenAccount) :=
  ([1, 2, 3] : List UInt8).map fun i =>
    (purse i, ⟨kamiyoMintId, wallet i, 10000000000⟩)

/-- The purses and the treasury. -/
def tokens : Tokens :=
  tokensOf ((treasury, ⟨kamiyoMintId, treasury, 0⟩) :: purses)

/-- How wallet `i` pays a fee. -/
def feeFrom (i : UInt8) : FeeAccounts := ⟨wallet i, kamiyoMintId, purse i⟩

end KamiyoProtocol.Hive.Concrete

-- ==== swarm

namespace KamiyoProtocol.Hive.Swarm.Concrete

open Solana Solana.Concrete Hive.Concrete

/-- Before the first action. -/
def start : World where
  slot := 0
  registry := some registry
  tokens := tokens
  actions _ := none
  nullifiers _ := none
  records := []
  bidActions _ := none
  bidNullifiers _ := none
  bidRecords := []

theorem start_genesis : Genesis start :=
  ⟨fun _ => rfl, rfl, fun _ => rfl, rfl⟩

def act (op : Op) : Action Hive.Concrete.env := ⟨tx [1] 0, op⟩

/-- What opens the commitment of agent `i`. -/
def opening (i : UInt8) (v : Bool) : Bytes :=
  List.replicate 31 0 ++ [if v then 1 else 0] ++ secret i

end KamiyoProtocol.Hive.Swarm.Concrete

-- ==== stakes

namespace KamiyoProtocol.Hive.Stakes.Concrete

open Solana Solana.Concrete Hive.Concrete

/-- Before the registry: wallets 1 and 2 hold a thousand lamports. -/
def start : World where
  slot := 0
  now := 0
  lamports := Ledger.ofList [(wallet 1, 1000), (wallet 2, 1000)] (by decide)
  tokens := tokensOf purses
  registry := none
  agents := []
  withdrawals _ := none
  collateralWithdrawals _ := none

theorem start_genesis : Genesis start :=
  ⟨by decide, rfl, rfl, fun _ => rfl, fun _ => rfl⟩

def act (op : Op) : Action Hive.Concrete.env := ⟨tx [0, 1, 2] 0, op⟩

/-- The agent of wallet `i`. -/
def agentKey (i : UInt8) : Pubkey := Hive.Concrete.env.pda (.agent (secret i))

/-- A registry under wallet 0, without caps. -/
def opening : Action Hive.Concrete.env :=
  act (.initializeRegistry (wallet 0) kamiyoMintId ⟨100, 0, 0, 0, 0⟩
    255 255)

def register (i : UInt8) (n : Nat) : Action Hive.Concrete.env :=
  act (.registerAgent (feeFrom i) (secret i) n)

end KamiyoProtocol.Hive.Stakes.Concrete
