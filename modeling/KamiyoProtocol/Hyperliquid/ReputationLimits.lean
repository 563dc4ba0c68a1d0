/-
`ReputationLimits.sol`: what an agent may take from copiers, by the tier
it has proved.

The pairing on BN254 that decides a proof is the virtual machine's own
and any function here.
-/
import KamiyoProtocol.Lib.Evm

namespace KamiyoProtocol.Hyperliquid

open Exec Evm Function

-- ==== storage

structure Tier where
  threshold : Nat
  maxCopyLimit : Nat
  maxCopiers : Nat

structure AgentTier where
  tier : Nat
  verifiedAt : Nat
  commitment : Nat

abbrev Point := Nat × Nat

structure VerificationKey where
  vkAlpha : Point
  vkBeta : Point × Point
  vkGamma : Point × Point
  vkDelta : Point × Point
  vkIC : List Point

/-- A Groth16 proof. -/
structure Proof where
  proofA : Point
  proofB : Point × Point
  proofC : Point

structure ReputationLimits where
  vk : VerificationKey
  tiers : List Tier
  agentTiers : Address → AgentTier
  admin : Address
  pendingAdmin : Address
  paused : Bool

def tierValidityPeriod : Nat := 31536000

def ether : Nat := 1000000000000000000

/-- The tiers as the constructor leaves them. -/
def defaultTiers : List Tier :=
  [⟨0, 100 * ether, 5⟩, ⟨25, 500 * ether, 20⟩, ⟨50, 2000 * ether, 50⟩,
    ⟨75, 10000 * ether, 200⟩, ⟨90, 2 ^ 256 - 1, 2 ^ 256 - 1⟩]

/-- `_pairingCheck` on the sum of `vkIC` at the public inputs. It reverts
where a point is not on its curve. -/
structure Curve where
  pairing : VerificationKey → Proof → List Nat → Except String Bool

namespace ReputationLimits

variable (l : ReputationLimits)

def onlyAdmin (sender : Address) : Except String Unit :=
  require (sender = l.admin) "NotAdmin"

def verifyProof (curve : Curve) (proof : Proof) (pubInputs : List Nat) :
    Except String Bool := do
  require (l.vk.vkIC.length ≠ 0) "VKNotInitialized"
  require (pubInputs.length + 1 ≤ l.vk.vkIC.length) "BadInputs"
  curve.pairing l.vk proof pubInputs

/-- `tiers[tier]`. -/
def tierAt (tier : Nat) : Except String Tier :=
  okOr l.tiers[tier]? "Panic"

def getEffectiveTier (timestamp : Nat) (agent : Address) :
    Except String Nat := do
  let t := l.agentTiers agent
  if t.tier = 0 then return 0
  else
    let validUntil ← checked 64 (t.verifiedAt + tierValidityPeriod)
    return if validUntil < timestamp then 0 else t.tier

/-- `proveReputation`; `registered` is the registry's answer. -/
def proveReputation (curve : Curve) (tx : Tx) (registered : Bool)
    (tier commitment : Nat) (proof : Proof) (pubInputs : List Nat) :
    Except String ReputationLimits := do
  require (l.paused = false) "IsPaused"
  require (registered = true) "NotRegistered"
  require (tier ≠ 0 ∧ tier < l.tiers.length) "InvalidTier"
  require ((l.agentTiers tx.sender).tier < tier) "AlreadyHigherTier"
  let verified ← l.verifyProof curve proof pubInputs
  require (verified = true) "InvalidProof"
  let t ← l.tierAt tier
  require (pubInputs = [t.threshold, commitment]) "BadInputs"
  return { l with
    agentTiers := update l.agentTiers tx.sender
      ⟨tier, uint 64 tx.timestamp, commitment⟩ }

def canAcceptDeposit (timestamp : Nat) (agent : Address)
    (currentAUM currentCopiers newDeposit : Nat) : Except String Bool := do
  let tier ← l.getEffectiveTier timestamp agent
  let t ← l.tierAt tier
  let aum ← checked 256 (currentAUM + newDeposit)
  if t.maxCopyLimit < aum then return false
  else
    let copiers ← checked 256 (currentCopiers + 1)
    return if t.maxCopiers < copiers then false else true

end ReputationLimits

-- ==== calls

inductive LimitsCall
  | proveReputation (tier commitment : Nat) (proof : Proof)
      (pubInputs : List Nat)
  | configureTier (tier threshold maxCopyLimit maxCopiers : Nat)
  | setVerificationKey (vk : VerificationKey)
  | transferAdmin (newAdmin : Address)
  | acceptAdmin
  | setPaused (paused : Bool)

/-- A call of the contract from outside. -/
def ReputationLimits.call (l : ReputationLimits) (curve : Curve)
    (isRegistered : Address → Bool) (tx : Tx) (c : LimitsCall) :
    Except String ReputationLimits := do
  require (tx.value = 0) "not payable"
  match c with
  | .proveReputation tier commitment proof pubInputs =>
    l.proveReputation curve tx (isRegistered tx.sender) tier commitment
      proof pubInputs
  | .configureTier tier threshold maxCopyLimit maxCopiers => do
      l.onlyAdmin tx.sender
      require (tier < l.tiers.length) "InvalidTier"
      return { l with
        tiers := l.tiers.set tier ⟨threshold, maxCopyLimit, maxCopiers⟩ }
  | .setVerificationKey vk => do
      l.onlyAdmin tx.sender
      return { l with vk := vk }
  | .transferAdmin newAdmin => do
      l.onlyAdmin tx.sender
      require (newAdmin ≠ zeroAddress) "ZeroAddress"
      return { l with pendingAdmin := newAdmin }
  | .acceptAdmin => do
      require (tx.sender = l.pendingAdmin) "NotPendingAdmin"
      return { l with admin := tx.sender, pendingAdmin := zeroAddress }
  | .setPaused paused => do
      l.onlyAdmin tx.sender
      return { l with paused := paused }

end KamiyoProtocol.Hyperliquid
