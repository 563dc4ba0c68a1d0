/-
The accounts of the kamiyo program as other programs see them: an oracle
registry and an agent identity as the bytes Anchor stores.

The data is the discriminator of the type and then the fields in the
order of their declaration, in Borsh; the space behind is whatever the
account was allotted. The bump, which nothing else in this development
reads, is a parameter. `Fits` says that a value is one of the Rust type:
keys of 32 bytes, integers of their width, names that are UTF-8.
-/
import KamiyoProtocol.Lib.Borsh
import KamiyoProtocol.Kamiyo.State

namespace KamiyoProtocol.Kamiyo

open Solana

/-- The Rust integer types, as ranges. -/
def FitsU (width n : Nat) : Prop := n < 256 ^ width
  deriving Decidable

def FitsI (width : Nat) (t : Int) : Prop :=
  -256 ^ width ≤ 2 * t ∧ 2 * t < 256 ^ width
  deriving Decidable

def FitsKey (k : Pubkey) : Prop := k.bytes.length = 32
  deriving Decidable

-- ==== oracle registry

def oracleRegistryDiscriminator : Bytes :=
  [94, 153, 19, 250, 94, 0, 12, 172]

/-- The variants of `OracleType`, in order. -/
def OracleType.index : OracleType → Nat
  | .ed25519 => 0
  | .switchboard => 1
  | .custom => 2

def OracleConfig.data (o : OracleConfig) : Bytes :=
  o.pubkey.bytes ++ (Bytes.le 1 o.oracleType.index ++ (Bytes.le 2 o.weight
    ++ (Bytes.le 8 o.stakeAmount ++ (Bytes.le 1 o.violationCount
    ++ (Bytes.le 8 o.totalRewards ++ (Bytes.le 4 o.disputesParticipated
    ++ (Bytes.le 4 o.consensusVotes ++ (Bytes.leInt 8 o.registeredAt
    ++ (Bytes.leInt 8 o.withdrawalRequestedAt
    ++ Bytes.le 1 o.status)))))))))

structure OracleConfig.Fits (o : OracleConfig) : Prop where
  pubkey : FitsKey o.pubkey
  weight : FitsU 2 o.weight
  stakeAmount : FitsU 8 o.stakeAmount
  violationCount : FitsU 1 o.violationCount
  totalRewards : FitsU 8 o.totalRewards
  disputesParticipated : FitsU 4 o.disputesParticipated
  consensusVotes : FitsU 4 o.consensusVotes
  registeredAt : FitsI 8 o.registeredAt
  withdrawalRequestedAt : FitsI 8 o.withdrawalRequestedAt
  status : FitsU 1 o.status

/-- The fields up to `min_consensus`. -/
def OracleRegistry.head (r : OracleRegistry) : Bytes :=
  r.admin.bytes ++ (Borsh.vecBytes OracleConfig.data r.oracles
    ++ Bytes.le 1 r.minConsensus)

/-- The fields behind it. -/
def OracleRegistry.tail (r : OracleRegistry) (bump : UInt8) : Bytes :=
  Bytes.le 1 r.maxScoreDeviation ++ Bytes.leInt 8 r.createdAt
    ++ Bytes.leInt 8 r.updatedAt ++ [bump]
    ++ Borsh.boolBytes r.publicRegistration ++ Bytes.le 8 r.totalStake

/-- The data of the registry account. -/
def OracleRegistry.data (r : OracleRegistry) (bump : UInt8) : Bytes :=
  oracleRegistryDiscriminator ++ (r.head ++ r.tail bump)

structure OracleRegistry.Fits (r : OracleRegistry) : Prop where
  admin : FitsKey r.admin
  oracles : ∀ o ∈ r.oracles, o.Fits
  minConsensus : FitsU 1 r.minConsensus
  /-- `#[max_len(50)]`. -/
  maxLen : r.oracles.length ≤ 50

-- ==== agent identity

def agentIdentityDiscriminator : Bytes :=
  [11, 149, 31, 27, 186, 76, 241, 72]

/-- The variants of `AgentType`, in order. -/
def AgentType.index : AgentType → Nat
  | .trading => 0
  | .service => 1
  | .oracle => 2
  | .custom => 3

/-- The fields up to `is_active`. -/
def AgentIdentity.head (a : AgentIdentity) : Bytes :=
  a.owner.bytes ++ (Borsh.stringBytes a.name
    ++ (Bytes.le 1 a.agentType.index ++ (Bytes.le 8 a.reputation
    ++ (Bytes.le 8 a.stakeAmount ++ Borsh.boolBytes a.isActive))))

/-- The fields behind it. -/
def AgentIdentity.tail (a : AgentIdentity) (bump : UInt8) : Bytes :=
  Bytes.leInt 8 a.createdAt ++ Bytes.leInt 8 a.lastActive
    ++ Bytes.le 8 a.totalEscrows ++ Bytes.le 8 a.successfulEscrows
    ++ Bytes.le 8 a.disputedEscrows ++ [bump]

/-- The data of an identity account. -/
def AgentIdentity.data (a : AgentIdentity) (bump : UInt8) : Bytes :=
  agentIdentityDiscriminator ++ (a.head ++ a.tail bump)

structure AgentIdentity.Fits (a : AgentIdentity) : Prop where
  owner : FitsKey a.owner
  nameLength : FitsU 4 a.name.length
  nameUtf8 : Borsh.isUtf8 a.name = true
  reputation : FitsU 8 a.reputation
  stakeAmount : FitsU 8 a.stakeAmount

end KamiyoProtocol.Kamiyo
