/-
`ZKReputationV2.sol`: reputation tiers proved in zero knowledge, which
decay by one for every decay period without a proof.

The verifier is a contract of its own and any function here. The state
also keeps, for the statements only, the proofs that were accepted for
each agent since it registered.
-/
import KamiyoProtocol.Lib.Evm

namespace KamiyoProtocol.ZkReputation

open Exec Evm Function

-- ==== tiers

inductive Tier
  | unverified
  | bronze
  | silver
  | gold
  | platinum
  deriving DecidableEq

/-- `uint256(tier)`. -/
def Tier.toNat : Tier → Nat
  | .unverified => 0
  | .bronze => 1
  | .silver => 2
  | .gold => 3
  | .platinum => 4

/-- `Tier(value)`; the contract casts no value above 4. -/
def Tier.cast : Nat → Tier
  | 0 => .unverified
  | 1 => .bronze
  | 2 => .silver
  | 3 => .gold
  | _ => .platinum

theorem Tier.toNat_le (t : Tier) : t.toNat ≤ 4 := by
  cases t with
  | _ => decide

theorem Tier.toNat_cast {n : Nat} (h : n ≤ 4) : (Tier.cast n).toNat = n := by
  match n, h with
  | 0, _ => rfl
  | 1, _ => rfl
  | 2, _ => rfl
  | 3, _ => rfl
  | 4, _ => rfl

theorem Tier.toNat_eq_zero {t : Tier} : t.toNat = 0 ↔ t = .unverified := by
  cases t with
  | _ => decide

def tierBronze : Nat := 25
def tierSilver : Nat := 50
def tierGold : Nat := 75
def tierPlatinum : Nat := 90

def thresholdToTier (threshold : Nat) : Tier :=
  if tierPlatinum ≤ threshold then .platinum
  else if tierGold ≤ threshold then .gold
  else if tierSilver ≤ threshold then .silver
  else if tierBronze ≤ threshold then .bronze
  else .unverified

def tierToThreshold : Tier → Nat
  | .platinum => tierPlatinum
  | .gold => tierGold
  | .silver => tierSilver
  | .bronze => tierBronze
  | .unverified => 0

theorem thresholdToTier_tierToThreshold (t : Tier) :
    thresholdToTier (tierToThreshold t) = t := by
  cases t with
  | _ => rfl

-- ==== storage

structure Agent where
  commitment : Nat
  verifiedTier : Tier
  lastProofBlock : Nat
  registered : Bool
  deriving DecidableEq

/-- An entry that was never written, or deleted. -/
def Agent.empty : Agent := ⟨0, .unverified, 0, false⟩

/-- A Groth16 proof. -/
structure Proof where
  pA : Nat × Nat
  pB : (Nat × Nat) × (Nat × Nat)
  pC : Nat × Nat

/-- A proof that was accepted, by its threshold and its block. -/
structure Accepted where
  threshold : Nat
  block : Nat
  deriving DecidableEq

/-- The agents with their tiers, and the proofs they were given for. -/
structure Reputation where
  owner : Address
  verifier : Address
  decayPeriod : Nat
  paused : Bool
  agents : Address → Agent
  commitmentUsed : Nat → Bool
  /-- `block.number`. -/
  number : Nat
  /-- The proofs accepted for an agent since it registered. -/
  accepted : Address → List Accepted

/-- `verifyProof` of the verifier at an address, on a threshold and a
commitment. -/
structure Env where
  verifyProof : Address → Proof → (threshold commitment : Nat) → Bool

namespace Reputation

variable (env : Env) (s : Reputation)

def setAgent (a : Address) (agent : Agent) : Reputation :=
  { s with agents := update s.agents a agent }

/-- A proof is accepted for an agent in this block. -/
def accept (a : Address) (threshold : Nat) : Reputation :=
  { s with
    accepted := update s.accepted a (⟨threshold, s.number⟩ :: s.accepted a) }

/-- Whether the verifier takes a proof for the agent's commitment. -/
def verifies (a : Address) (proof : Proof) (threshold : Nat) : Bool :=
  env.verifyProof s.verifier proof threshold (s.agents a).commitment

-- ==== agent functions

def register (sender : Address) (commitment : Nat) :
    Except String Reputation := do
  require (s.paused = false) "EnforcedPause"
  require ((s.agents sender).registered = false) "AgentAlreadyRegistered"
  require (commitment ≠ 0) "ZeroCommitment"
  require (s.commitmentUsed commitment = false) "CommitmentAlreadyUsed"
  return { s.setAgent sender ⟨commitment, .unverified, 0, true⟩ with
    commitmentUsed := update s.commitmentUsed commitment true
    accepted := update s.accepted sender [] }

def unregister (sender : Address) : Except String Reputation := do
  require ((s.agents sender).registered = true) "AgentNotRegistered"
  return { s.setAgent sender Agent.empty with
    commitmentUsed := update s.commitmentUsed (s.agents sender).commitment false
    accepted := update s.accepted sender [] }

def updateCommitment (sender : Address) (newCommitment : Nat)
    (proof : Proof) : Except String Reputation := do
  require (s.paused = false) "EnforcedPause"
  let agent := s.agents sender
  require (agent.registered = true) "AgentNotRegistered"
  require (newCommitment ≠ 0) "ZeroCommitment"
  require (s.commitmentUsed newCommitment = false) "CommitmentAlreadyUsed"
  let threshold := tierToThreshold agent.verifiedTier
  require (s.verifies env sender proof threshold = true) "InvalidProof"
  let s := s.accept sender threshold
  return { s.setAgent sender { agent with
      commitment := newCommitment
      lastProofBlock := s.number } with
    commitmentUsed := update (update s.commitmentUsed agent.commitment false)
      newCommitment true }

/-- What an accepted proof does to its agent: the tier is raised if the
proof is of a higher one, and the decay starts anew. -/
def prove (a : Address) (threshold : Nat) : Reputation :=
  let agent := s.agents a
  let newTier := thresholdToTier threshold
  (s.accept a threshold).setAgent a { agent with
    verifiedTier := if agent.verifiedTier.toNat < newTier.toNat then newTier
      else agent.verifiedTier
    lastProofBlock := s.number }

def verifyTier (sender : Address) (proof : Proof) (threshold : Nat) :
    Except String Reputation := do
  require (s.paused = false) "EnforcedPause"
  require ((s.agents sender).registered = true) "AgentNotRegistered"
  require (s.verifies env sender proof threshold = true) "InvalidProof"
  return s.prove sender threshold

-- ==== batch verification

/-- `_verifySingle`, and whether it verified. -/
def verifySingle (a : Address) (proof : Proof) (threshold : Nat) :
    Reputation × Bool :=
  if (s.agents a).registered = false then (s, false)
  else if s.verifies env a proof threshold = false then (s, false)
  else (s.prove a threshold, true)

/-- The loop of `batchVerify`. -/
def verifyEach : Reputation → List (Address × Proof × Nat) →
    Reputation × List Bool
  | s, [] => (s, [])
  | s, (a, proof, threshold) :: rest =>
    let (s, result) := s.verifySingle env a proof threshold
    let (s, results) := verifyEach s rest
    (s, result :: results)

def batchVerify (agentAddrs : List Address) (pAs : List (Nat × Nat))
    (pBs : List ((Nat × Nat) × (Nat × Nat))) (pCs : List (Nat × Nat))
    (thresholds : List Nat) : Except String (Reputation × List Bool) := do
  require (s.paused = false) "EnforcedPause"
  require (pAs.length = agentAddrs.length ∧ pBs.length = agentAddrs.length
    ∧ pCs.length = agentAddrs.length ∧ thresholds.length = agentAddrs.length)
    "BatchLengthMismatch"
  let proofs := List.zipWith (fun pA (pBC : _ × _) => Proof.mk pA pBC.1 pBC.2)
    pAs (pBs.zip pCs)
  return verifyEach env s (agentAddrs.zip (proofs.zip thresholds))

-- ==== decay

/-- A tier after so many steps of decay. -/
def decayed (tier : Tier) (decaySteps : Nat) : Tier :=
  Tier.cast (if decaySteps < tier.toNat then tier.toNat - decaySteps else 0)

def applyDecay (a : Address) : Reputation :=
  if s.decayPeriod = 0 then s
  else
    let agent := s.agents a
    if agent.registered = false ∨ agent.verifiedTier = .unverified then s
    else
      let blocksSinceProof := s.number - agent.lastProofBlock
      if blocksSinceProof < s.decayPeriod then s
      else s.setAgent a { agent with
        verifiedTier := decayed agent.verifiedTier
          (blocksSinceProof / s.decayPeriod) }

def refreshTier (sender : Address) (proof : Proof) :
    Except String Reputation := do
  require (s.paused = false) "EnforcedPause"
  let agent := s.agents sender
  require (agent.registered = true) "AgentNotRegistered"
  let threshold := tierToThreshold agent.verifiedTier
  require (s.verifies env sender proof threshold = true) "InvalidProof"
  return (s.accept sender threshold).setAgent sender
    { agent with lastProofBlock := s.number }

/-- `_getEffectiveTier`. -/
def getAgentTier (a : Address) : Tier :=
  let agent := s.agents a
  if agent.registered = false then .unverified
  else if s.decayPeriod = 0 then agent.verifiedTier
  else
    let decaySteps := (s.number - agent.lastProofBlock) / s.decayPeriod
    if decaySteps = 0 then agent.verifiedTier
    else decayed agent.verifiedTier decaySteps

end Reputation

-- ==== calls

inductive Call
  | register (commitment : Nat)
  | unregister
  | updateCommitment (newCommitment : Nat) (proof : Proof)
  | verifyTier (proof : Proof) (threshold : Nat)
  | batchVerify (agentAddrs : List Address) (pAs : List (Nat × Nat))
      (pBs : List ((Nat × Nat) × (Nat × Nat))) (pCs : List (Nat × Nat))
      (thresholds : List Nat)
  | applyDecay (a : Address)
  | refreshTier (proof : Proof)
  | setVerifier (verifier : Address)
  | setPaused (paused : Bool)

/-- A call of the contract, or blocks that pass. -/
inductive Action
  | call (sender : Address) (c : Call)
  | mine (blocks : Nat)

def step (env : Env) (a : Action) (s : Reputation) :
    Except String Reputation :=
  match a with
  | .mine blocks => .ok { s with number := s.number + blocks }
  | .call sender c =>
    match c with
    | .register commitment => s.register sender commitment
    | .unregister => s.unregister sender
    | .updateCommitment newCommitment proof =>
      s.updateCommitment env sender newCommitment proof
    | .verifyTier proof threshold => s.verifyTier env sender proof threshold
    | .batchVerify agentAddrs pAs pBs pCs thresholds =>
      (s.batchVerify env agentAddrs pAs pBs pCs thresholds).map Prod.fst
    | .applyDecay a => .ok (s.applyDecay a)
    | .refreshTier proof => s.refreshTier env sender proof
    | .setVerifier verifier => do
        require (sender = s.owner) "OwnableUnauthorizedAccount"
        require (verifier ≠ zeroAddress) "ZeroAddress"
        return { s with verifier := verifier }
    | .setPaused paused => do
        require (sender = s.owner) "OwnableUnauthorizedAccount"
        require (s.paused ≠ paused)
          (if paused then "EnforcedPause" else "ExpectedPause")
        return { s with paused := paused }

/-- No agent is registered yet, and tiers decay. -/
structure Started (s : Reputation) : Prop where
  agents : ∀ a, s.agents a = Agent.empty
  accepted : ∀ a, s.accepted a = []
  decays : 0 < s.decayPeriod

end KamiyoProtocol.ZkReputation
