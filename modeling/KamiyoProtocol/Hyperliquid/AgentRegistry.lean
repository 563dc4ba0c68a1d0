/-
`AgentRegistry.sol`: agents, their stake, and what the vault notes about
them.
-/
import KamiyoProtocol.Lib.Evm

namespace KamiyoProtocol.Hyperliquid

open Exec Evm Function

-- ==== storage

structure Agent where
  owner : Address
  name : List Nat
  stake : Nat
  registeredAt : Nat
  totalTrades : Nat
  totalPnl : Int
  copiers : Nat
  successfulTrades : Nat
  active : Bool

/-- An entry that was never written. -/
def Agent.empty : Agent := ⟨zeroAddress, [], 0, 0, 0, 0, 0, 0, false⟩

/-- The stakes of the agents and the contract's ether. -/
structure AgentRegistry where
  agents : Address → Agent
  isRegistered : Address → Bool
  withdrawalRequestTime : Address → Nat
  withdrawalRequestAmount : Address → Nat
  admin : Address
  pendingAdmin : Address
  disputeResolver : Address
  vault : Address
  totalStaked : Nat
  totalSlashed : Nat
  paused : Bool
  /-- `address(this).balance`. -/
  balance : Nat

/-- `MIN_STAKE`. -/
def minStake : Nat := 100000000000000000

def slashPercent : Nat := 10

def maxNameLength : Nat := 32

def minNameLength : Nat := 3

def withdrawalDelay : Nat := 604800

def maxCopiers : Nat := 1000

/-- A digit, a letter or an underscore. -/
def validNameChar (char : Nat) : Bool :=
  (0x30 ≤ char ∧ char ≤ 0x39) ∨ (0x41 ≤ char ∧ char ≤ 0x5A)
    ∨ (0x61 ≤ char ∧ char ≤ 0x7A) ∨ char = 0x5F

def validateName (name : List Nat) : Except String Unit := do
  require (minNameLength ≤ name.length ∧ name.length ≤ maxNameLength)
    "InvalidName"
  require (name.all validNameChar = true) "InvalidName"

namespace AgentRegistry

variable (r : AgentRegistry)

def setAgent (a : Address) (agent : Agent) : AgentRegistry :=
  { r with agents := update r.agents a agent }

/-- `delete withdrawalRequestTime[a]` and of the amount. -/
def clearRequest (a : Address) : AgentRegistry :=
  { r with
    withdrawalRequestTime := update r.withdrawalRequestTime a 0
    withdrawalRequestAmount := update r.withdrawalRequestAmount a 0 }

-- ==== modifiers

def onlyAdmin (sender : Address) : Except String Unit :=
  require (sender = r.admin) "NotAuthorized"

def onlyVaultOrAdmin (sender : Address) : Except String Unit :=
  require (sender = r.vault ∨ sender = r.admin) "NotAuthorized"

def onlyRegistered (a : Address) : Except String Unit :=
  require (r.isRegistered a = true) "NotRegistered"

def whenNotPaused : Except String Unit :=
  require (r.paused = false) "EnforcedPause"

-- ==== agent functions

def register (tx : Tx) (name : List Nat) : Except String AgentRegistry := do
  r.whenNotPaused
  require (r.isRegistered tx.sender = false) "AlreadyRegistered"
  require (minStake ≤ tx.value) "InsufficientStake"
  validateName name
  return { r.setAgent tx.sender {
      owner := tx.sender
      name := name
      stake := tx.value
      registeredAt := uint 64 tx.timestamp
      totalTrades := 0
      totalPnl := 0
      copiers := 0
      successfulTrades := 0
      active := true } with
    isRegistered := update r.isRegistered tx.sender true
    totalStaked := r.totalStaked + tx.value
    balance := r.balance + tx.value }

def addStake (tx : Tx) : Except String AgentRegistry := do
  r.whenNotPaused
  r.onlyRegistered tx.sender
  require (tx.value ≠ 0) "InsufficientStake"
  let agent := r.agents tx.sender
  let r := if 0 < r.withdrawalRequestAmount tx.sender then
    r.clearRequest tx.sender else r
  return { r.setAgent tx.sender
      { agent with stake := agent.stake + tx.value } with
    totalStaked := r.totalStaked + tx.value
    balance := r.balance + tx.value }

def requestWithdrawal (tx : Tx) (amount : Nat) :
    Except String AgentRegistry := do
  r.onlyRegistered tx.sender
  let agent := r.agents tx.sender
  require (agent.copiers = 0) "NotAuthorized"
  require (amount ≠ 0 ∧ amount ≤ agent.stake) "InsufficientStake"
  require (agent.active = false ∨ minStake ≤ agent.stake - amount)
    "InsufficientStake"
  require (r.withdrawalRequestAmount tx.sender = 0) "WithdrawalPending"
  -- the event says when the stake will be available
  let _ ← checked 64 (uint 64 tx.timestamp + withdrawalDelay)
  return { r with
    withdrawalRequestTime :=
      update r.withdrawalRequestTime tx.sender (uint 64 tx.timestamp)
    withdrawalRequestAmount :=
      update r.withdrawalRequestAmount tx.sender amount }

def executeWithdrawal (tx : Tx) : Except String AgentRegistry := do
  r.onlyRegistered tx.sender
  let amount := r.withdrawalRequestAmount tx.sender
  require (amount ≠ 0) "WithdrawalNotRequested"
  let available ←
    checked 64 (r.withdrawalRequestTime tx.sender + withdrawalDelay)
  require (available ≤ tx.timestamp) "WithdrawalDelayNotMet"
  let agent := r.agents tx.sender
  require (agent.copiers = 0) "NotAuthorized"
  require (amount ≤ agent.stake) "InsufficientStake"
  require (amount ≤ r.totalStaked) "Panic"
  let left ← sendEther tx r.balance tx.sender amount
  return { (r.clearRequest tx.sender).setAgent tx.sender
      { agent with stake := agent.stake - amount } with
    totalStaked := r.totalStaked - amount
    balance := left }

def cancelWithdrawal (tx : Tx) : Except String AgentRegistry := do
  r.onlyRegistered tx.sender
  require (r.withdrawalRequestAmount tx.sender ≠ 0) "WithdrawalNotRequested"
  return r.clearRequest tx.sender

def deactivate (tx : Tx) : Except String AgentRegistry := do
  r.onlyRegistered tx.sender
  require ((r.agents tx.sender).active = true) "AgentNotActive"
  return r.setAgent tx.sender { r.agents tx.sender with active := false }

def reactivate (tx : Tx) : Except String AgentRegistry := do
  r.onlyRegistered tx.sender
  let agent := r.agents tx.sender
  require (agent.active = false) "NotAuthorized"
  require (minStake ≤ agent.stake) "InsufficientStake"
  return r.setAgent tx.sender { agent with active := true }

-- ==== vault functions

/-- `n` and one more trade, if it counts. -/
def countTrade (n : Nat) (counts : Bool) : Except String Nat :=
  if counts then checked 64 (n + 1) else .ok n

def recordTrade (sender a : Address) (pnl : Int) (successful : Bool) :
    Except String AgentRegistry := do
  r.onlyVaultOrAdmin sender
  r.onlyRegistered a
  let agent := r.agents a
  let totalTrades ← checked 64 (agent.totalTrades + 1)
  let totalPnl ← checkedInt 64 (agent.totalPnl + pnl)
  let successfulTrades ← countTrade agent.successfulTrades successful
  return r.setAgent a { agent with
    totalTrades := totalTrades
    totalPnl := totalPnl
    successfulTrades := successfulTrades }

/-- What `slash` takes of a stake. -/
def slashAmount (stake : Nat) : Nat :=
  min (stake * slashPercent / 100) stake

def slash (tx : Tx) (sender a : Address) : Except String AgentRegistry := do
  r.onlyVaultOrAdmin sender
  r.onlyRegistered a
  let agent := r.agents a
  let slashed := slashAmount agent.stake
  require (slashed ≤ r.totalStaked) "Panic"
  let left ← sendEther tx r.balance r.disputeResolver slashed
  return { r.setAgent a { agent with stake := agent.stake - slashed } with
    totalStaked := r.totalStaked - slashed
    totalSlashed := r.totalSlashed + slashed
    balance := left }

def updateCopiers (sender a : Address) (increment : Bool) :
    Except String AgentRegistry := do
  r.onlyVaultOrAdmin sender
  r.onlyRegistered a
  let agent := r.agents a
  if increment then
    require (agent.copiers < maxCopiers) "MaxCopiersReached"
    return r.setAgent a { agent with copiers := agent.copiers + 1 }
  else if 0 < agent.copiers then
    return r.setAgent a { agent with copiers := agent.copiers - 1 }
  else return r

end AgentRegistry

-- ==== calls

inductive RegistryCall
  | register (name : List Nat)
  | addStake
  | requestWithdrawal (amount : Nat)
  | executeWithdrawal
  | cancelWithdrawal
  | deactivate
  | reactivate
  | recordTrade (agent : Address) (pnl : Int) (successful : Bool)
  | slash (agent : Address)
  | updateCopiers (agent : Address) (increment : Bool)
  | transferAdmin (newAdmin : Address)
  | acceptAdmin
  | setDisputeResolver (resolver : Address)
  | setVault (vault : Address)
  | setPaused (paused : Bool)
  /-- Ether that is sent with no call. -/
  | receive
  deriving DecidableEq

def RegistryCall.payable : RegistryCall → Bool
  | .register _ | .addStake | .receive => true
  | _ => false

/-- A call of the registry from outside. -/
def AgentRegistry.call (r : AgentRegistry) (tx : Tx) (c : RegistryCall) :
    Except String AgentRegistry := do
  require (tx.value = 0 ∨ c.payable = true) "not payable"
  match c with
  | .register name => r.register tx name
  | .addStake => r.addStake tx
  | .requestWithdrawal amount => r.requestWithdrawal tx amount
  | .executeWithdrawal => r.executeWithdrawal tx
  | .cancelWithdrawal => r.cancelWithdrawal tx
  | .deactivate => r.deactivate tx
  | .reactivate => r.reactivate tx
  | .recordTrade agent pnl successful =>
    r.recordTrade tx.sender agent pnl successful
  | .slash agent => r.slash tx tx.sender agent
  | .updateCopiers agent increment =>
    r.updateCopiers tx.sender agent increment
  | .transferAdmin newAdmin => do
      r.onlyAdmin tx.sender
      require (newAdmin ≠ zeroAddress) "ZeroAddress"
      return { r with pendingAdmin := newAdmin }
  | .acceptAdmin => do
      require (tx.sender = r.pendingAdmin) "NotAuthorized"
      return { r with admin := tx.sender, pendingAdmin := zeroAddress }
  | .setDisputeResolver resolver => do
      r.onlyAdmin tx.sender
      require (resolver ≠ zeroAddress) "ZeroAddress"
      return { r with disputeResolver := resolver }
  | .setVault vault => do
      r.onlyAdmin tx.sender
      require (vault ≠ zeroAddress) "ZeroAddress"
      return { r with vault := vault }
  | .setPaused paused => do
      r.onlyAdmin tx.sender
      require (r.paused ≠ paused) "EnforcedPause"
      return { r with paused := paused }
  | .receive => return { r with balance := r.balance + tx.value }

end KamiyoProtocol.Hyperliquid
