/-
`VaultCore.sol`, `PositionModule.sol` and `DisputeModule.sol`: the vault in
three contracts.

The core holds the storage, and the modules write it. What users deposit
the modules pass on to the core; what users are due they send from their
own ether, of which they have what was forced on them, for neither can
receive any.
-/
import KamiyoProtocol.Hyperliquid.KamiyoVault

namespace KamiyoProtocol.Hyperliquid

open Exec Evm

-- ==== storage

/-- `VaultStorage` is the storage of `KamiyoVault` and the modules. -/
structure VaultCore extends KamiyoVault where
  positionModule : Address
  disputeModule : Address

/-- The addresses of the modules. -/
structure Modules where
  position : Address
  dispute : Address

/-- The core, its registry, and the ether of the modules. -/
structure ModularVault where
  core : VaultCore
  registry : AgentRegistry
  positionEther : Nat
  disputeEther : Nat

/-- What only the modules may call. -/
def VaultCore.onlyModule (v : VaultCore) (sender : Address) :
    Except String Unit :=
  require (sender = v.positionModule ∨ sender = v.disputeModule) "NotModule"

-- ==== functions

namespace ModularVault

variable (modules : Modules) (m : ModularVault)

/-- The core with other books. -/
def book (b : VaultBook) : ModularVault :=
  { m with core := { m.core with toVaultBook := b } }

def openPosition (tx : Tx) (agent : Address) (minReturnBps : Int)
    (lockPeriod : Nat) : Except String ModularVault := do
  require (minDeposit ≤ tx.value) "InsufficientDeposit"
  require (tx.value ≤ maxDeposit) "ExcessiveDeposit"
  require (minReturnBpsAllowed ≤ minReturnBps
    ∧ minReturnBps ≤ maxReturnBpsAllowed) "InvalidReturnBps"
  require (minLockPeriod ≤ lockPeriod ∧ lockPeriod ≤ maxLockPeriod)
    "InvalidLockPeriod"
  require ((m.registry.agents agent).active = true) "AgentNotActive"
  m.core.onlyModule modules.position
  let registry ← m.registry.updateCopiers modules.position agent true
  let book :=
    m.core.push (World.newPosition tx agent minReturnBps lockPeriod)
  -- the module passes the deposit on, and the core takes any ether
  return { m.book (book.receive tx.value) with registry := registry }

def closePosition (tx : Tx) (id : Nat) : Except String ModularVault := do
  let pos := m.core.positions id
  require (pos.active = true) "PositionNotActive"
  require (tx.sender = pos.user) "NotAuthorized"
  let unlocked ← checked 64 (pos.startTime + pos.lockPeriod)
  require (unlocked ≤ tx.timestamp) "PositionLocked"
  let returnBps ← calculateReturnBps pos.deposit pos.currentValue
  let fee ← closingFee pos.deposit pos.currentValue
  m.core.onlyModule modules.position
  require (fee = 0 ∨ m.core.totalFees + fee < 2 ^ 256) "Panic"
  let book ← (m.core.addFees fee).endPosition tx id
  let registry ← m.registry.updateCopiers modules.position pos.agent false
  let registry ← registry.recordTrade modules.position pos.agent returnBps
    (pos.minReturnBps ≤ returnBps)
  let payout := pos.currentValue - fee
  -- `pos.user.call` of the module, with ether of the module
  let left ← sendEther tx m.positionEther pos.user payout
  return { m.book (book.notePayment id pos.user payout) with
    registry := registry
    positionEther := left }

def fileDispute (tx : Tx) (id : Nat) : Except String ModularVault := do
  let pos := m.core.positions id
  require (tx.sender = pos.user) "NotAuthorized"
  require (pos.disputed = false) "AlreadyDisputed"
  World.withinWindow tx pos
  require (m.core.disputeFee ≤ tx.value) "InsufficientFee"
  m.core.onlyModule modules.dispute
  let actualReturnBps ← calculateReturnBps pos.deposit pos.currentValue
  let book := m.core.file id {
    positionId := id
    user := pos.user
    agent := pos.agent
    filedAt := uint 64 tx.timestamp
    actualReturnBps := actualReturnBps
    expectedReturnBps := pos.minReturnBps
    resolved := false
    userWon := false }
  return m.book ((book.addFees tx.value).receive tx.value)

def resolveDispute (tx : Tx) (disputeId : Nat) (userWins : Bool) :
    Except String ModularVault := do
  m.core.onlyDisputeResolver tx.sender
  let dispute := m.core.disputes disputeId
  let id := dispute.positionId
  let pos := m.core.positions id
  require (dispute.resolved = false) "AlreadyResolved"
  m.core.onlyModule modules.dispute
  let book := m.core.setDispute disputeId
    { dispute with resolved := true, userWon := userWins }
  let payout := if userWins then pos.deposit else pos.currentValue
  let registry ← World.noteDispute modules.dispute m.registry tx pos.agent
    dispute.actualReturnBps userWins
  if pos.active then
    let book ← book.endPosition tx id
    let registry ← registry.updateCopiers modules.dispute pos.agent false
    let left ← sendEther tx m.disputeEther dispute.user payout
    return { m.book (book.notePayment id dispute.user payout) with
      registry := registry
      disputeEther := left }
  else
    let left ← sendEther tx m.disputeEther dispute.user payout
    return { m.book (book.notePayment id dispute.user payout) with
      registry := registry
      disputeEther := left }

def withdrawFees (tx : Tx) : Except String ModularVault := do
  m.core.onlyAdmin tx.sender
  let amount := m.core.totalFees
  if amount = 0 then return m
  else
    let left ← sendEther tx m.core.balance m.core.feeRecipient amount
    return m.book
      { m.core.toVaultBook with totalFees := 0, balance := left }

/-- A call of the core or a module from outside. Values are updated and
positions withdrawn by no module that is installed. -/
def call (tx : Tx) (c : VaultCall) : Except String ModularVault := do
  require (tx.value = 0 ∨ c.payable = true) "not payable"
  match c with
  | .openPosition agent minReturnBps lockPeriod =>
    m.openPosition modules tx agent minReturnBps lockPeriod
  | .closePosition id => m.closePosition modules tx id
  | .fileDispute id => m.fileDispute modules tx id
  | .resolveDispute disputeId userWins =>
    m.resolveDispute modules tx disputeId userWins
  | .withdrawFees => m.withdrawFees tx
  | c => do
      let vault ← m.core.configure tx c
      return { m with core := { m.core with toKamiyoVault := vault } }

end ModularVault

end KamiyoProtocol.Hyperliquid
