/-
How the meishi program reads the accounts of the kamiyo program: its own
copies of their first fields, and the two parsers.

The program does not depend on the kamiyo crate. It declares the fields
it needs, and those before them, and deserialises them from behind the
discriminator; what follows is left unread. The claim about the copies is
that they agree with the types they copy: the parsers invert the layout
of the kamiyo program on every value it can store, and refuse a foreign
discriminator and a truncated account.
-/
import KamiyoProtocol.Kamiyo.Layout
import KamiyoProtocol.Solana.Concrete

namespace KamiyoProtocol.Meishi

open Solana Borsh

-- ==== the copies

inductive KamiyoAgentType where
  | trading
  | service
  | oracle
  | custom

structure KamiyoAgentIdentityPrefix where
  owner : Pubkey
  name : Bytes
  agentType : KamiyoAgentType
  reputation : Nat
  stakeAmount : Nat
  isActive : Bool

inductive KamiyoOracleType where
  | ed25519
  | switchboard
  | custom

structure KamiyoOracleConfig where
  pubkey : Pubkey
  oracleType : KamiyoOracleType
  weight : Nat
  stakeAmount : Nat
  violationCount : Nat
  totalRewards : Nat
  disputesParticipated : Nat
  consensusVotes : Nat
  registeredAt : Int
  withdrawalRequestedAt : Int
  status : Nat

structure KamiyoOracleRegistryPrefix where
  admin : Pubkey
  oracles : List KamiyoOracleConfig
  minConsensus : Nat

def agentIdentityDiscriminator : Bytes :=
  [11, 149, 31, 27, 186, 76, 241, 72]

def oracleRegistryDiscriminator : Bytes :=
  [94, 153, 19, 250, 94, 0, 12, 172]

def maxOraclesInRegistry : Nat := 50
def oracleStatusActive : Nat := 0

-- ==== readers

def readPubkey : Reader Pubkey := do
  let bytes ← fixed 32
  return ⟨bytes⟩

def readAgentIdentityPrefix : Reader KamiyoAgentIdentityPrefix := do
  let owner ← readPubkey
  let name ← string
  let agentType ← variant [KamiyoAgentType.trading, .service, .oracle, .custom]
  let reputation ← word 8
  let stakeAmount ← word 8
  let isActive ← bool
  return ⟨owner, name, agentType, reputation, stakeAmount, isActive⟩

def readOracleConfig : Reader KamiyoOracleConfig := do
  let pubkey ← readPubkey
  let oracleType ← variant [KamiyoOracleType.ed25519, .switchboard, .custom]
  let weight ← word 2
  let stakeAmount ← word 8
  let violationCount ← word 1
  let totalRewards ← word 8
  let disputesParticipated ← word 4
  let consensusVotes ← word 4
  let registeredAt ← signed 8
  let withdrawalRequestedAt ← signed 8
  let status ← word 1
  return ⟨pubkey, oracleType, weight, stakeAmount, violationCount,
    totalRewards, disputesParticipated, consensusVotes, registeredAt,
    withdrawalRequestedAt, status⟩

def readOracleRegistryPrefix : Reader KamiyoOracleRegistryPrefix := do
  let admin ← readPubkey
  let oracles ← vec readOracleConfig
  let minConsensus ← word 1
  return ⟨admin, oracles, minConsensus⟩

/-- Deserialise from behind a discriminator, leaving the rest unread. -/
def readAfter {α : Type} (discriminator : Bytes) (r : Reader α)
    (data : Bytes) : Option α :=
  if data.length < 8 ∨ data.take 8 ≠ discriminator then none
  else (r (data.drop 8)).map Prod.fst

def parseAgentIdentityOwnerAndActive (data : Bytes) :
    Option (Pubkey × Bool) := do
  let identity ← readAfter agentIdentityDiscriminator
    readAgentIdentityPrefix data
  return (identity.owner, identity.isActive)

def parseKamiyoOracleRegistry (data : Bytes) :
    Option (Nat × List Pubkey) := do
  let registry ← readAfter oracleRegistryDiscriminator
    readOracleRegistryPrefix data
  if maxOraclesInRegistry < registry.oracles.length then none
  else
    let activeOracles := (registry.oracles.filter fun oracle =>
      oracle.status = oracleStatusActive).map (·.pubkey)
    return (max registry.minConsensus 1, activeOracles)

-- ==== read and layout

section ReadAfter

variable {α : Type} {d data : Bytes} {r : Reader α}

theorem readAfter_append {x t : Bytes} {a : α}
    (hd : d.length = 8) (hr : Reads r x a) :
    readAfter d r (d ++ (x ++ t)) = some a := by
  have hlen : ¬ (d ++ (x ++ t)).length < 8 := by
    rw [List.length_append, hd]
    omega
  have htake : (d ++ (x ++ t)).take 8 = d := by
    rw [← hd, List.take_left]
  have hdrop : (d ++ (x ++ t)).drop 8 = x ++ t := by
    rw [← hd, List.drop_left]
  unfold readAfter
  rw [if_neg (not_or.mpr ⟨hlen, not_not.mpr htake⟩), hdrop, hr t]
  rfl

theorem readAfter_foreign (h : data.take 8 ≠ d) :
    readAfter d r data = none := by
  unfold readAfter
  rw [if_pos (.inr h)]

theorem readAfter_truncated {x more : Bytes} {a : α}
    (hd : d.length = 8) (hs : Streaming r) (hr : Reads r x a)
    (hx : d ++ x = data ++ more) (hm : more ≠ []) :
    readAfter d r data = none := by
  unfold readAfter
  split
  · rfl
  · next hhead =>
      rw [not_or] at hhead
      have hlen : 8 ≤ data.length := Nat.le_of_not_lt hhead.1
      have hbody : x = data.drop 8 ++ more := by
        have h := congrArg (List.drop 8) hx
        rw [List.drop_append_of_le_length hlen, List.drop_left' hd] at h
        exact h
      rw [hs.truncated hr hbody hm]
      rfl

end ReadAfter

theorem reads_pubkey {k : Pubkey} (h : Kamiyo.FitsKey k) :
    Reads readPubkey k.bytes k :=
  (reads_fixed h).map rfl

theorem streaming_pubkey : Streaming readPubkey :=
  (streaming_fixed 32).bind fun _ => streaming_pure _

-- ==== agent identities

/-- The copy of a kamiyo agent type. -/
def KamiyoAgentType.of : Kamiyo.AgentType → KamiyoAgentType
  | .trading => .trading
  | .service => .service
  | .oracle => .oracle
  | .custom => .custom

/-- The first fields of an identity. -/
def KamiyoAgentIdentityPrefix.of (a : Kamiyo.AgentIdentity) :
    KamiyoAgentIdentityPrefix :=
  ⟨a.owner, a.name, .of a.agentType, a.reputation, a.stakeAmount, a.isActive⟩

theorem reads_agentType (t : Kamiyo.AgentType) :
    Reads (variant [KamiyoAgentType.trading, .service, .oracle, .custom])
      (Bytes.le 1 t.index) (.of t) := by
  cases t with
  | trading | service | oracle | custom => exact reads_variant (by decide) rfl

theorem reads_agentIdentity {a : Kamiyo.AgentIdentity} (h : a.Fits) :
    Reads readAgentIdentityPrefix a.head (.of a) :=
  (reads_pubkey h.owner).bind <|
  (reads_string h.nameLength h.nameUtf8).bind <|
  (reads_agentType a.agentType).bind <|
  (reads_word h.reputation).bind <|
  (reads_word h.stakeAmount).bind <|
  (reads_bool a.isActive).map rfl

theorem streaming_agentIdentity : Streaming readAgentIdentityPrefix :=
  streaming_pubkey.bind fun _ =>
  streaming_string.bind fun _ =>
  (streaming_variant _).bind fun _ =>
  (streaming_word 8).bind fun _ =>
  (streaming_word 8).bind fun _ =>
  streaming_bool.bind fun _ => streaming_pure _

-- ==== oracle registries

/-- The copy of a kamiyo oracle type. -/
def KamiyoOracleType.of : Kamiyo.OracleType → KamiyoOracleType
  | .ed25519 => .ed25519
  | .switchboard => .switchboard
  | .custom => .custom

/-- The copy of a kamiyo oracle entry. -/
def KamiyoOracleConfig.of (o : Kamiyo.OracleConfig) :
    KamiyoOracleConfig :=
  ⟨o.pubkey, .of o.oracleType, o.weight, o.stakeAmount, o.violationCount,
    o.totalRewards, o.disputesParticipated, o.consensusVotes,
    o.registeredAt, o.withdrawalRequestedAt, o.status⟩

/-- The first fields of a registry. -/
def KamiyoOracleRegistryPrefix.of (r : Kamiyo.OracleRegistry) :
    KamiyoOracleRegistryPrefix :=
  ⟨r.admin, r.oracles.map .of, r.minConsensus⟩

theorem reads_oracleType (t : Kamiyo.OracleType) :
    Reads (variant [KamiyoOracleType.ed25519, .switchboard, .custom])
      (Bytes.le 1 t.index) (.of t) := by
  cases t with
  | ed25519 | switchboard | custom => exact reads_variant (by decide) rfl

theorem reads_oracleConfig {o : Kamiyo.OracleConfig} (h : o.Fits) :
    Reads readOracleConfig o.data (.of o) :=
  (reads_pubkey h.pubkey).bind <|
  (reads_oracleType o.oracleType).bind <|
  (reads_word h.weight).bind <|
  (reads_word h.stakeAmount).bind <|
  (reads_word h.violationCount).bind <|
  (reads_word h.totalRewards).bind <|
  (reads_word h.disputesParticipated).bind <|
  (reads_word h.consensusVotes).bind <|
  (reads_signed h.registeredAt.1 h.registeredAt.2).bind <|
  (reads_signed h.withdrawalRequestedAt.1 h.withdrawalRequestedAt.2).bind <|
  (reads_word h.status).map rfl

theorem streaming_oracleConfig : Streaming readOracleConfig :=
  streaming_pubkey.bind fun _ =>
  (streaming_variant _).bind fun _ =>
  (streaming_word 2).bind fun _ =>
  (streaming_word 8).bind fun _ =>
  (streaming_word 1).bind fun _ =>
  (streaming_word 8).bind fun _ =>
  (streaming_word 4).bind fun _ =>
  (streaming_word 4).bind fun _ =>
  (streaming_signed 8).bind fun _ =>
  (streaming_signed 8).bind fun _ =>
  (streaming_word 1).bind fun _ => streaming_pure _

theorem reads_oracleRegistry {r : Kamiyo.OracleRegistry} (h : r.Fits) :
    Reads readOracleRegistryPrefix r.head (.of r) := by
  have hlen : r.oracles.length < 256 ^ 4 := by
    have := h.maxLen
    omega
  exact (reads_pubkey h.admin).bind <|
    (reads_vec hlen fun o ho => reads_oracleConfig (h.oracles o ho)).bind <|
    (reads_word h.minConsensus).map rfl

theorem streaming_oracleRegistry : Streaming readOracleRegistryPrefix :=
  streaming_pubkey.bind fun _ =>
  (streaming_vec streaming_oracleConfig).bind fun _ =>
  (streaming_word 1).bind fun _ => streaming_pure _

/-- The keys of the active oracles, in order. -/
def activeKeys (r : Kamiyo.OracleRegistry) : List Pubkey :=
  (r.oracles.filter fun o => o.status = 0).map (·.pubkey)

theorem parse_oracleRegistry_of {data : Bytes} {r : Kamiyo.OracleRegistry}
    (hmax : r.oracles.length ≤ 50)
    (h : readAfter oracleRegistryDiscriminator readOracleRegistryPrefix data
      = some (.of r)) :
    parseKamiyoOracleRegistry data
      = some (max r.minConsensus 1, activeKeys r) := by
  have hlen : ¬ maxOraclesInRegistry
      < (KamiyoOracleRegistryPrefix.of r).oracles.length := by
    show ¬ 50 < (r.oracles.map KamiyoOracleConfig.of).length
    rw [List.length_map]
    omega
  have hkeys : ((KamiyoOracleRegistryPrefix.of r).oracles.filter
        fun oracle => oracle.status = oracleStatusActive).map (·.pubkey)
      = activeKeys r := by
    show ((r.oracles.map KamiyoOracleConfig.of).filter _).map _ = _
    rw [List.filter_map, List.map_map]
    rfl
  unfold parseKamiyoOracleRegistry
  rw [h]
  show (if _ then _ else _) = _
  rw [if_neg hlen, hkeys]
  rfl

-- ==== the parsers

/-- The parsers invert kamiyo's layout and refuse everything short of it:
a registry reads as its consensus threshold, at least one, and the keys
of its active oracles in order, an identity as its owner and activity,
whatever follows the fields; a foreign discriminator and a strict
beginning of the fields read as nothing. -/
theorem parsers_faithful :
    (∀ (r : Kamiyo.OracleRegistry) bump padding, r.Fits →
      parseKamiyoOracleRegistry (r.data bump ++ padding)
        = some (max r.minConsensus 1, activeKeys r))
    ∧ (∀ (a : Kamiyo.AgentIdentity) bump padding, a.Fits →
      parseAgentIdentityOwnerAndActive (a.data bump ++ padding)
        = some (a.owner, a.isActive))
    ∧ (∀ data : Bytes,
      (data.take 8 ≠ Kamiyo.oracleRegistryDiscriminator →
        parseKamiyoOracleRegistry data = none)
      ∧ (data.take 8 ≠ Kamiyo.agentIdentityDiscriminator →
        parseAgentIdentityOwnerAndActive data = none))
    ∧ (∀ (r : Kamiyo.OracleRegistry) data more, r.Fits → more ≠ [] →
      Kamiyo.oracleRegistryDiscriminator ++ r.head = data ++ more →
      parseKamiyoOracleRegistry data = none)
    ∧ ∀ (a : Kamiyo.AgentIdentity) data more, a.Fits → more ≠ [] →
      Kamiyo.agentIdentityDiscriminator ++ a.head = data ++ more →
      parseAgentIdentityOwnerAndActive data = none := by
  refine ⟨?_, ?_, ?_, ?_, ?_⟩
  · intro r bump padding h
    refine parse_oracleRegistry_of h.maxLen ?_
    have hread := readAfter_append (t := r.tail bump ++ padding)
      (d := oracleRegistryDiscriminator) rfl
      (reads_oracleRegistry h)
    rw [← hread, Kamiyo.OracleRegistry.data]
    simp only [List.append_assoc]
    rfl
  · intro a bump padding h
    have hread := readAfter_append (t := a.tail bump ++ padding)
      (d := agentIdentityDiscriminator) rfl
      (reads_agentIdentity h)
    have hdata : a.data bump ++ padding
        = agentIdentityDiscriminator
          ++ (a.head ++ (a.tail bump ++ padding)) := by
      rw [Kamiyo.AgentIdentity.data]
      simp only [List.append_assoc]
      rfl
    unfold parseAgentIdentityOwnerAndActive
    rw [hdata, hread]
    rfl
  · intro data
    constructor
    · intro h
      have hnone := readAfter_foreign (r := readOracleRegistryPrefix)
        (d := oracleRegistryDiscriminator) h
      unfold parseKamiyoOracleRegistry
      rw [hnone]
      rfl
    · intro h
      have hnone := readAfter_foreign (r := readAgentIdentityPrefix)
        (d := agentIdentityDiscriminator) h
      unfold parseAgentIdentityOwnerAndActive
      rw [hnone]
      rfl
  · intro r data more h hm hx
    have hnone := readAfter_truncated (d := oracleRegistryDiscriminator)
      rfl streaming_oracleRegistry (reads_oracleRegistry h) hx hm
    unfold parseKamiyoOracleRegistry
    rw [hnone]
    rfl
  · intro a data more h hm hx
    have hnone := readAfter_truncated (d := agentIdentityDiscriminator)
      rfl streaming_agentIdentity (reads_agentIdentity h) hx hm
    unfold parseAgentIdentityOwnerAndActive
    rw [hnone]
    rfl

namespace Concrete

open Solana.Concrete (wallet)

/-- An oracle entry of the given key and status. -/
def oracle (i : UInt8) (status : Nat) : Kamiyo.OracleConfig :=
  ⟨wallet i, .switchboard, 100, 10 ^ 9, 0, 0, 3, 2, 1700000000, 0, status⟩

theorem oracle_fits (i : UInt8) {status : Nat} (h : status < 256) :
    (oracle i status).Fits where
  pubkey := by
    show (255 :: List.replicate 31 i).length = 32
    simp
  weight := (by decide : Kamiyo.FitsU 2 100)
  stakeAmount := (by decide : Kamiyo.FitsU 8 (10 ^ 9))
  violationCount := (by decide : Kamiyo.FitsU 1 0)
  totalRewards := (by decide : Kamiyo.FitsU 8 0)
  disputesParticipated := (by decide : Kamiyo.FitsU 4 3)
  consensusVotes := (by decide : Kamiyo.FitsU 4 2)
  registeredAt := (by decide : Kamiyo.FitsI 8 1700000000)
  withdrawalRequestedAt := (by decide : Kamiyo.FitsI 8 0)
  status := h

/-- Three oracles, the second of them suspended. -/
def registry : Kamiyo.OracleRegistry :=
  ⟨wallet 1, [oracle 2 0, oracle 3 2, oracle 4 0], 0, 20, 0, 0, false, 0⟩

theorem registry_fits : registry.Fits where
  admin := rfl
  oracles := by
    intro o ho
    rcases List.mem_cons.mp ho with rfl | ho
    · exact oracle_fits 2 (by decide)
    · rcases List.mem_cons.mp ho with rfl | ho
      · exact oracle_fits 3 (by decide)
      · rw [List.mem_singleton] at ho
        subst ho
        exact oracle_fits 4 (by decide)
  minConsensus := by decide
  maxLen := by decide

def identity : Kamiyo.AgentIdentity :=
  ⟨wallet 1, [97, 103], .custom, 500, 10 ^ 8, true, 0, 0, 0, 0, 0⟩

theorem identity_fits : identity.Fits where
  owner := rfl
  nameLength := by decide
  nameUtf8 := by decide
  reputation := by decide
  stakeAmount := by decide

theorem parsers_faithful_registry :
    parseKamiyoOracleRegistry (registry.data 254 ++ [0, 0, 0])
        = some (1, [wallet 2, wallet 4])
      ∧ parseAgentIdentityOwnerAndActive (identity.data 254 ++ [0, 0])
        = some (wallet 1, true)
      ∧ parseKamiyoOracleRegistry [] = none
      ∧ parseAgentIdentityOwnerAndActive
          Kamiyo.agentIdentityDiscriminator = none :=
  ⟨parsers_faithful.1 registry 254 [0, 0, 0] registry_fits,
    parsers_faithful.2.1 identity 254 [0, 0] identity_fits,
    (parsers_faithful.2.2.1 []).1 (by decide),
    parsers_faithful.2.2.2.2 identity _ identity.head identity_fits
      (by decide) rfl⟩

end Concrete

end KamiyoProtocol.Meishi
