/-
The accounts of the kamiyo program and the world they live in.

The structures follow the program's account structs field by field,
except the canonical bumps, which are a function of the address, and the
descriptive counters nothing reads. u8, u16, u32 and u64 fields are
`Nat` and i64 fields `Int`; the operations that can leave a width say so
where they stand. Strings are their UTF-8 bytes.

The program's addresses are all derived, so an account is stored under
its address for the kinds there are many of, and as an optional
singleton for the three kinds there is one of.
-/
import KamiyoProtocol.Solana.Token

namespace KamiyoProtocol.Kamiyo

open Solana Function

-- ==== addresses

/-- The seeds of the program's derived addresses. -/
inductive Seed where
  | protocolConfig
  | treasury
  | oracleRegistry
  | escrow (agent : Pubkey) (transactionId : Bytes)
  | agent (owner : Pubkey)
  | reputation (entity : Pubkey)

/-- `KamiyoError`, the codes the modelled instructions raise. -/
inductive KamiyoError where
  | invalidStatus
  | unauthorized
  | invalidQualityScore
  | invalidRefundPercentage
  | invalidSignature
  | invalidTimeLock
  | invalidAmount
  | invalidTransactionId
  | disputeWindowExpired
  | insufficientDisputeFunds
  | arithmeticOverflow
  | insufficientOracleConsensus
  | unregisteredOracle
  | noConsensusReached
  | duplicateOracleSubmission
  | maxOraclesReached
  | oracleNotFound
  | invalidOracleWeight
  | missingTokenMint
  | missingTokenAccount
  | missingTokenProgram
  | tokenMintMismatch
  | invalidAgentName
  | insufficientStake
  | agentNotActive
  | protocolPaused
  | protocolAlreadyPaused
  | protocolNotPaused
  | invalidAuthority
  | duplicateMultiSigSigner
  | invalidMultiSigSigner
  | insufficientOracleStake
  | escrowNotExpired
  | escrowAlreadyClaimed
  | oraclePubkeyMismatch
  | noRewardsToClaim
  | insufficientTreasuryBalance
  | revealDelayNotMet
  | publicRegistrationDisabled
  | oracleNotActive
  | withdrawalAlreadyRequested
  | withdrawalNotRequested
  | withdrawalCooldownNotComplete
  | commitPhaseEnded
  | commitPhaseNotEnded
  | revealPhaseExpired
  | noCommitmentFound
  | invalidCommitmentHash
  | alreadyRevealed
  | duplicateOracleCommitment

/-- The outcome of an instruction, or of a step of one. -/
abbrev Outcome (α : Type) := Result KamiyoError α

-- ==== constants

def minTimeLock : Int := 3600
def maxTimeLock : Int := 2592000
def maxEscrowAmount : Nat := 1000000000000
def minEscrowAmount : Nat := 1000000
def baseDisputeCost : Nat := 1000000
def maxOracles : Nat := 50
def minConsensusOracles : Nat := 3
def oracleRevealDelay : Int := 300
def oracleWithdrawalCooldown : Int := 7 * 86400
def commitPhaseDuration : Int := 300
def revealPhaseDuration : Int := 1800
def minStakeAmount : Nat := 100000000
def maxAgentNameLength : Nat := 32
def minOracleStake : Nat := 500000000
def oracleSlashPercent : Nat := 10
def oracleRewardPercent : Nat := 1
def maxOracleSlashViolations : Nat := 3
def gracePeriodSeconds : Int := 7 * 86400
def tier2EscrowThreshold : Nat := 10000000000
def tier3EscrowThreshold : Nat := 100000000000
def agentDisputeLossSlashPercent : Nat := 5
def protocolFeePercent : Nat := 1
def escrowCreationFeeBps : Nat := 10

-- ==== accounts

/-- `ProtocolConfig`: the 2-of-3 signer set and the pause switch. -/
structure ProtocolConfig where
  authority : Pubkey
  secondarySigner : Pubkey
  tertiarySigner : Pubkey
  paused : Bool
  createdAt : Int
  updatedAt : Int

structure Treasury where
  admin : Pubkey
  totalFeesCollected : Nat
  totalSlashedCollected : Nat
  totalWithdrawn : Nat
  createdAt : Int
  updatedAt : Int

inductive OracleType where
  | ed25519
  | switchboard
  | custom

/-- `OracleConfig`. Status 0 is active, 1 is pending withdrawal. -/
structure OracleConfig where
  pubkey : Pubkey
  oracleType : OracleType
  weight : Nat
  stakeAmount : Nat
  violationCount : Nat
  totalRewards : Nat
  disputesParticipated : Nat
  consensusVotes : Nat
  registeredAt : Int
  withdrawalRequestedAt : Int
  status : Nat

/-- The oracles, their stake and what a quorum asks. -/
structure OracleRegistry where
  admin : Pubkey
  oracles : List OracleConfig
  minConsensus : Nat
  maxScoreDeviation : Nat
  createdAt : Int
  updatedAt : Int
  publicRegistration : Bool
  totalStake : Nat

structure OracleSubmission where
  oracle : Pubkey
  qualityScore : Nat
  submittedAt : Int
deriving DecidableEq

structure OracleCommitment where
  oracle : Pubkey
  commitmentHash : Bytes
  committedAt : Int
  revealed : Bool
deriving DecidableEq

inductive EscrowStatus where
  | active
  | released
  | disputed
  | resolved
deriving DecidableEq

/-- One account, from opening to settlement. -/
structure Escrow where
  agent : Pubkey
  api : Pubkey
  amount : Nat
  status : EscrowStatus
  createdAt : Int
  expiresAt : Int
  transactionId : Bytes
  qualityScore : Option Nat
  refundPercentage : Option Nat
  oracleSubmissions : List OracleSubmission
  oracleCommitments : List OracleCommitment
  tokenMint : Option Pubkey
  escrowTokenAccount : Option Pubkey
  tokenDecimals : Nat
  disputedAt : Option Int
  commitPhaseEndsAt : Option Int

inductive AgentType where
  | trading
  | service
  | oracle
  | custom

structure AgentIdentity where
  owner : Pubkey
  name : Bytes
  agentType : AgentType
  reputation : Nat
  stakeAmount : Nat
  isActive : Bool
  createdAt : Int
  lastActive : Int
  totalEscrows : Nat
  successfulEscrows : Nat
  disputedEscrows : Nat

structure EntityReputation where
  entity : Pubkey
  totalTransactions : Nat
  disputesFiled : Nat
  disputesWon : Nat
  disputesPartial : Nat
  disputesLost : Nat
  averageQualityReceived : Nat
  reputationScore : Nat
  createdAt : Int
  lastUpdated : Int

-- ==== space

/-- `8 + Escrow::INIT_SPACE`: a string of 64 bytes, five submissions and
five commitments at most, each sized on its own. -/
def escrowSpace : Nat :=
  8 + (32 + 32 + 8 + 1 + 8 + 8 + (4 + 64) + 1 + (1 + 1) + (1 + 1)
    + (4 + 5 * (32 + 1 + 8)) + (4 + 5 * (32 + 32 + 8 + 1))
    + (1 + 32) + (1 + 32) + 1 + (1 + 8) + (1 + 8))

def protocolConfigSpace : Nat := 8 + (3 * 32 + 3 + 2 * 8 + 2 * 8 + 1)

def treasurySpace : Nat := 8 + (32 + 3 * 8 + 2 * 8 + 1)

def oracleRegistrySpace : Nat :=
  8 + (32 + (4 + 50 * (32 + 1 + 2 + 8 + 1 + 8 + 4 + 4 + 8 + 8 + 1))
    + 2 + 2 * 8 + 1 + 1 + 8)

def agentIdentitySpace : Nat :=
  8 + (32 + (4 + 32) + 1 + 2 * 8 + 1 + 2 * 8 + 3 * 8 + 1)

def entityReputationSpace : Nat :=
  8 + (32 + 1 + 5 * 8 + 1 + 2 + 2 * 8 + 1)

/-- The data length of an SPL token account. -/
def tokenAccountSpace : Nat := 165

/-- Borsh size of an `Option`, given the size of its payload. -/
def optionSize {α : Type} (o : Option α) (payload : Nat) : Nat :=
  match o with
  | some _ => 1 + payload
  | none => 1

theorem optionSize_some {α : Type} (a : α) (payload : Nat) :
    optionSize (some a) payload = 1 + payload := rfl

theorem optionSize_bounds {α : Type} (o : Option α) (payload : Nat) :
    1 ≤ optionSize o payload ∧ optionSize o payload ≤ 1 + payload := by
  cases o with
  | none => exact ⟨Nat.le_refl 1, Nat.le_add_right 1 payload⟩
  | some a => exact ⟨Nat.le_add_right 1 payload, Nat.le_refl _⟩

/-- Serialized size of an escrow account, discriminator included. -/
def Escrow.serializedSize (e : Escrow) : Nat :=
  8 + (32 + 32 + 8 + 1 + 8 + 8 + (4 + e.transactionId.length) + 1
    + optionSize e.qualityScore 1 + optionSize e.refundPercentage 1
    + (4 + e.oracleSubmissions.length * (32 + 1 + 8))
    + (4 + e.oracleCommitments.length * (32 + 32 + 8 + 1))
    + optionSize e.tokenMint 32 + optionSize e.escrowTokenAccount 32 + 1
    + optionSize e.disputedAt 8 + optionSize e.commitPhaseEndsAt 8)

-- ==== world

/-- Everything an instruction can read or write. `mints` gives the
decimals of the existing mints. -/
structure World where
  lamports : Lamports
  tokens : Tokens
  mints : Pubkey → Option Nat
  config : Option ProtocolConfig
  treasury : Option Treasury
  registry : Option OracleRegistry
  escrows : Pubkey → Option Escrow
  agents : Pubkey → Option AgentIdentity
  reputations : Pubkey → Option EntityReputation

/-- Funds still locked: neither released nor resolved. -/
def Escrow.Open (e : Escrow) : Prop :=
  e.status = .active ∨ e.status = .disputed

instance (e : Escrow) : Decidable e.Open :=
  inferInstanceAs (Decidable (_ ∨ _))

/-- Load an escrow account and validate its address. -/
def loadEscrow (env : Env Seed) (w : World) (k : Pubkey) :
    Outcome Escrow := do
  let e ← load (w.escrows k)
  requireSeeds env (.escrow e.agent e.transactionId) k
  .ok e

theorem loadEscrow_ok {env : Env Seed} {w : World} {k : Pubkey} {e : Escrow} :
    loadEscrow env w k = .ok e
      ↔ w.escrows k = some e
        ∧ k = env.pda (.escrow e.agent e.transactionId) := by
  simp only [loadEscrow, Exec.bind_ok, load_ok, requireSeeds_ok]
  constructor
  · rintro ⟨a, ha, -, hk, he⟩
    cases he
    exact ⟨ha, hk⟩
  · rintro ⟨he, hk⟩
    exact ⟨e, he, (), hk, rfl⟩

-- The writers, one for each part of the world.

def World.setLamports (w : World) (l : Lamports) : World :=
  { w with lamports := l }

def World.setTokens (w : World) (b : Tokens) : World :=
  { w with tokens := b }

def World.setMint (w : World) (k : Pubkey) (decimals : Nat) : World :=
  { w with mints := update w.mints k (some decimals) }

def World.setConfig (w : World) (c : ProtocolConfig) : World :=
  { w with config := some c }

def World.setTreasury (w : World) (t : Treasury) : World :=
  { w with treasury := some t }

def World.setRegistry (w : World) (r : OracleRegistry) : World :=
  { w with registry := some r }

def World.setEscrow (w : World) (k : Pubkey) (e : Escrow) : World :=
  { w with escrows := update w.escrows k (some e) }

theorem setEscrow_self (w : World) (k : Pubkey) (e : Escrow) :
    (w.setEscrow k e).escrows k = some e :=
  update_self ..

def World.setAgent (w : World) (k : Pubkey) (a : AgentIdentity) : World :=
  { w with agents := update w.agents k (some a) }

def World.setReputation (w : World) (k : Pubkey) (r : EntityReputation) :
    World :=
  { w with reputations := update w.reputations k (some r) }

/-- Write an escrow back, as account exit does: the serialized account
must fit the space it was created with. -/
def storeEscrow (w : World) (k : Pubkey) (e : Escrow) : Outcome World :=
  if e.serializedSize ≤ escrowSpace then .ok (w.setEscrow k e)
  else .error .accountDidNotSerialize

theorem storeEscrow_ok {w w' : World} {k : Pubkey} {e : Escrow} :
    storeEscrow w k e = .ok w'
      ↔ e.serializedSize ≤ escrowSpace ∧ w' = w.setEscrow k e := by
  unfold storeEscrow
  split
  · simp [*, eq_comm]
  · simp [*]

end KamiyoProtocol.Kamiyo
