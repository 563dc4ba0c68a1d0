/-
`ERC8004IdentityRegistry.sol`: agents as ERC-721 tokens, their metadata and
their wallets.

A registration mints a token with `_safeMint`, which calls the new owner
before the metadata is written. So it is two steps: `register` mints and
remembers the entries to be written, any calls may follow from the owner's
code, and `registered` writes the entries of the innermost registration.
Token URIs and registration times are read by no function here and left
out.
-/
import KamiyoProtocol.Lib.Bytes
import KamiyoProtocol.Lib.Evm

namespace KamiyoProtocol.ZkReputation

open Exec Evm Function

-- ==== storage

structure MetadataEntry where
  key : String
  value : List UInt8

/-- A registration whose metadata is still to be written. -/
structure Registration where
  agentId : Nat
  metadata : List MetadataEntry

/-- The agents, their owners and their wallets. -/
structure Identities where
  owner : Address
  paused : Bool
  nextTokenId : Nat
  owners : Nat → Address
  tokenApprovals : Nat → Address
  operatorApprovals : Address → Address → Bool
  metadata : Nat → Nat → List UInt8
  agentWallets : Nat → Address
  entered : List Registration

/-- What the contract calls on: `keccak256`, the digest that a wallet signs,
and `ECDSA.recover`. -/
structure IdentityEnv where
  keccak : String → Nat
  digest : (agentId : Nat) → (newWallet : Address) → (deadline : Nat) → Nat
  recover : (hash : Nat) → (signature : List UInt8) → Except String Address

def IdentityEnv.agentWalletKey (env : IdentityEnv) : Nat :=
  env.keccak "agentWallet"

/-- `abi.encodePacked` of an address. -/
def encodeAddress (a : Address) : List UInt8 := (Bytes.le 20 a).reverse

namespace Identities

variable (env : IdentityEnv) (s : Identities)

-- ==== ERC-721

def requireOwned (agentId : Nat) : Except String Address := do
  require (s.owners agentId ≠ zeroAddress) "ERC721NonexistentToken"
  return s.owners agentId

/-- `_requireOwned`, and that the sender is the owner. -/
def requireOwner (sender : Address) (agentId : Nat) :
    Except String Unit := do
  let owner ← s.requireOwned agentId
  require (owner = sender) "NotAgentOwner"

def IsAuthorized (owner spender : Address) (agentId : Nat) : Prop :=
  owner = spender ∨ s.operatorApprovals owner spender = true
    ∨ s.tokenApprovals agentId = spender
  deriving Decidable

def transferFrom (sender src dst : Address) (agentId : Nat) :
    Except String Identities := do
  require (dst ≠ zeroAddress) "ERC721InvalidReceiver"
  let previousOwner ← s.requireOwned agentId
  require (s.IsAuthorized previousOwner sender agentId)
    "ERC721InsufficientApproval"
  require (previousOwner = src) "ERC721IncorrectOwner"
  return { s with
    owners := update s.owners agentId dst
    tokenApprovals := update s.tokenApprovals agentId zeroAddress }

def approve (sender spender : Address) (agentId : Nat) :
    Except String Identities := do
  let owner ← s.requireOwned agentId
  require (owner = sender ∨ s.operatorApprovals owner sender = true)
    "ERC721InvalidApprover"
  return { s with tokenApprovals := update s.tokenApprovals agentId spender }

def setApprovalForAll (sender operator : Address) (approved : Bool) :
    Except String Identities := do
  require (operator ≠ zeroAddress) "ERC721InvalidOperator"
  return { s with
    operatorApprovals := update s.operatorApprovals sender
      (update (s.operatorApprovals sender) operator approved) }

-- ==== registration

/-- `_mintAgent`, up to the call of the new owner. -/
def register (sender : Address) (metadata : List MetadataEntry) :
    Except String Identities := do
  require (s.paused = false) "EnforcedPause"
  require (sender ≠ zeroAddress) "ERC721InvalidReceiver"
  let next ← checked 256 (s.nextTokenId + 1)
  return { s with
    nextTokenId := next
    owners := update s.owners s.nextTokenId sender
    entered := ⟨s.nextTokenId, metadata⟩ :: s.entered }

/-- The loop over the metadata of `register`. -/
def writeMetadata (agentId : Nat) (entries : List MetadataEntry) :
    Identities :=
  { s with
    metadata := update s.metadata agentId (entries.foldl
      (fun m x => update m (env.keccak x.key) x.value) (s.metadata agentId)) }

/-- The new owner has returned. -/
def registered : Except String Identities :=
  match s.entered with
  | [] => .error "NotEntered"
  | r :: rest =>
    .ok ({ s with entered := rest }.writeMetadata env r.agentId r.metadata)

-- ==== metadata

def setMetadata (sender : Address) (agentId : Nat) (key : String)
    (value : List UInt8) : Except String Identities := do
  s.requireOwner sender agentId
  require (env.keccak key ≠ env.agentWalletKey) "Use setAgentWallet"
  return { s with
    metadata := update s.metadata agentId
      (update (s.metadata agentId) (env.keccak key) value) }

def getMetadata (agentId : Nat) (key : String) :
    Except String (List UInt8) := do
  let _ ← s.requireOwned agentId
  return s.metadata agentId (env.keccak key)

-- ==== wallet

def setAgentWallet (sender : Address) (timestamp agentId : Nat)
    (newWallet : Address) (deadline : Nat) (signature : List UInt8) :
    Except String Identities := do
  s.requireOwner sender agentId
  require (newWallet ≠ zeroAddress) "ZeroAddress"
  require (timestamp ≤ deadline) "SignatureExpired"
  let signer ← env.recover (env.digest agentId newWallet deadline) signature
  require (signer = newWallet) "InvalidSignature"
  return { s with
    agentWallets := update s.agentWallets agentId newWallet
    metadata := update s.metadata agentId (update (s.metadata agentId)
      env.agentWalletKey (encodeAddress newWallet)) }

def getAgentWallet (agentId : Nat) : Except String Address := do
  let owner ← s.requireOwned agentId
  return if s.agentWallets agentId = zeroAddress then owner
    else s.agentWallets agentId

def unsetAgentWallet (sender : Address) (agentId : Nat) :
    Except String Identities := do
  s.requireOwner sender agentId
  return { s with
    agentWallets := update s.agentWallets agentId zeroAddress
    metadata := update s.metadata agentId
      (update (s.metadata agentId) env.agentWalletKey []) }

end Identities

-- ==== calls

inductive IdentityCall
  | register (metadata : List MetadataEntry)
  | registered
  | setMetadata (agentId : Nat) (key : String) (value : List UInt8)
  | setAgentWallet (agentId : Nat) (newWallet : Address) (deadline : Nat)
      (signature : List UInt8)
  | unsetAgentWallet (agentId : Nat)
  | transferFrom (src dst : Address) (agentId : Nat)
  | approve (spender : Address) (agentId : Nat)
  | setApprovalForAll (operator : Address) (approved : Bool)
  | setPaused (paused : Bool)

structure IdentityAction where
  sender : Address
  timestamp : Nat
  call : IdentityCall

def identityStep (env : IdentityEnv) (a : IdentityAction) (s : Identities) :
    Except String Identities :=
  match a.call with
  | .register metadata => s.register a.sender metadata
  | .registered => s.registered env
  | .setMetadata agentId key value =>
    s.setMetadata env a.sender agentId key value
  | .setAgentWallet agentId newWallet deadline signature =>
    s.setAgentWallet env a.sender a.timestamp agentId newWallet deadline
      signature
  | .unsetAgentWallet agentId => s.unsetAgentWallet env a.sender agentId
  | .transferFrom src dst agentId => s.transferFrom a.sender src dst agentId
  | .approve spender agentId => s.approve a.sender spender agentId
  | .setApprovalForAll operator approved =>
    s.setApprovalForAll a.sender operator approved
  | .setPaused paused => do
      require (a.sender = s.owner) "OwnableUnauthorizedAccount"
      require (s.paused ≠ paused)
        (if paused then "EnforcedPause" else "ExpectedPause")
      return { s with paused := paused }

/-- No agent is registered yet. -/
structure Identities.Blank (s : Identities) : Prop where
  next : s.nextTokenId = 0
  owners : ∀ i, s.owners i = zeroAddress
  wallets : ∀ i, s.agentWallets i = zeroAddress
  metadata : ∀ i k, s.metadata i k = []
  entered : s.entered = []

end KamiyoProtocol.ZkReputation
