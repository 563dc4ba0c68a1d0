/-
`KamiyoVault.sol`: positions that copy an agent, their disputes, and the
ether they are paid in.

The vault calls the registry it was made with and the limits contract at
an address of its choice; all three are one world here. The registry sends
ether in the middle of `resolveDispute`: what its payee can call then could
as well be called before or after it.
-/
import KamiyoProtocol.Hyperliquid.AgentRegistry
import KamiyoProtocol.Hyperliquid.ReputationLimits

namespace KamiyoProtocol.Hyperliquid

open Exec Evm Function

-- ==== storage

structure CopyPosition where
  user : Address
  agent : Address
  deposit : Nat
  currentValue : Nat
  minReturnBps : Int
  startTime : Nat
  lockPeriod : Nat
  endTime : Nat
  active : Bool
  disputed : Bool
  deriving DecidableEq

/-- An entry that was never written. -/
def CopyPosition.empty : CopyPosition :=
  ⟨zeroAddress, zeroAddress, 0, 0, 0, 0, 0, 0, false, false⟩

structure DisputeInfo where
  positionId : Nat
  user : Address
  agent : Address
  filedAt : Nat
  actualReturnBps : Int
  expectedReturnBps : Int
  resolved : Bool
  userWon : Bool

/-- An entry that was never written. -/
def DisputeInfo.empty : DisputeInfo :=
  ⟨0, zeroAddress, zeroAddress, 0, 0, 0, false, false⟩

/-- Ether sent for a position. -/
structure Payment where
  positionId : Nat
  payee : Address
  amount : Nat
  deriving DecidableEq

/-- What a vault notes of its positions, and its ether. -/
structure VaultBook where
  positionCount : Nat
  disputeCount : Nat
  totalDeposits : Nat
  totalFees : Nat
  positions : Nat → CopyPosition
  disputes : Nat → DisputeInfo
  agentPositions : Address → List Nat
  /-- `address(this).balance`. -/
  balance : Nat
  /-- The payments so far, for the statements only. -/
  payments : List Payment

structure KamiyoVault extends VaultBook where
  reputationLimits : Address
  admin : Address
  pendingAdmin : Address
  disputeResolver : Address
  feeRecipient : Address
  disputeFee : Nat
  paused : Bool

/-- `MIN_DEPOSIT`. -/
def minDeposit : Nat := 10000000000000000

def maxDeposit : Nat := 1000 * ether

def minLockPeriod : Nat := 86400

def maxLockPeriod : Nat := 31536000

def disputeWindow : Nat := 604800

/-- `MIN_RETURN_BPS`. -/
def minReturnBpsAllowed : Int := -5000

/-- `MAX_RETURN_BPS`. -/
def maxReturnBpsAllowed : Int := 10000

def protocolFeeBps : Nat := 100

def maxValueChangeBps : Nat := 2000

/-- `30 days`. -/
def emergencyDelay : Nat := 2592000

/-- The vault's address, and the curve that limits contracts check proofs
on. -/
structure Env where
  this : Address
  curve : Curve

/-- The vault and the contracts it calls. -/
structure World where
  vault : KamiyoVault
  registry : AgentRegistry
  limits : Address → Option ReputationLimits

-- ==== pure helpers

def calculateReturnBps (start last : Nat) : Except String Int := do
  if start = 0 then return 0
  else
    let diff ← checkedInt 256 (int 256 last - int 256 start)
    let scaled ← checkedInt 256 (diff * 10000)
    let quotient ← checkedInt 256 (scaled.tdiv (int 256 start))
    return int 64 quotient

def validateValueChange (oldValue newValue : Nat) : Except String Unit := do
  if oldValue = 0 then return ()
  else
    let scaled ← checked 256 (oldValue * maxValueChangeBps)
    let maxChange := scaled / 10000
    let diff := if oldValue < newValue then newValue - oldValue
      else oldValue - newValue
    require (diff ≤ maxChange) "ExcessiveValueChange"

/-- What a close takes of a profit. -/
def closingFee (deposit currentValue : Nat) : Except String Nat := do
  if deposit < currentValue then
    let scaled ← checked 256 ((currentValue - deposit) * protocolFeeBps)
    return scaled / 10000
  else return 0

namespace VaultBook

/-- What is noted of a payment. -/
def payment (id : Nat) (payee : Address) (amount : Nat) : List Payment :=
  if amount = 0 then [] else [⟨id, payee, amount⟩]

variable (b : VaultBook)

def setPosition (id : Nat) (pos : CopyPosition) : VaultBook :=
  { b with positions := update b.positions id pos }

/-- A payment that was made from elsewhere. -/
def notePayment (id : Nat) (payee : Address) (amount : Nat) : VaultBook :=
  { b with payments := b.payments ++ payment id payee amount }

/-- A payment for a position; nothing is sent where nothing is due. -/
def safeTransfer (tx : Tx) (positionId : Nat) (payee : Address)
    (amount : Nat) : Except String VaultBook := do
  if amount = 0 then return b
  else
    let left ← sendEther tx b.balance payee amount
    return { b with
      balance := left
      payments := b.payments ++ [⟨positionId, payee, amount⟩] }

def getAgentAUM (agent : Address) : Nat :=
  ((b.agentPositions agent).map fun id =>
    if (b.positions id).active then (b.positions id).currentValue else 0).sum

/-- A new position. -/
def push (pos : CopyPosition) : VaultBook :=
  { b.setPosition b.positionCount pos with
    positionCount := b.positionCount + 1
    agentPositions := update b.agentPositions pos.agent
      (b.agentPositions pos.agent ++ [b.positionCount])
    totalDeposits := b.totalDeposits + pos.deposit }

/-- A position ends: it is no longer active, and no deposit. -/
def endPosition (tx : Tx) (id : Nat) : Except String VaultBook := do
  let pos := b.positions id
  require (pos.deposit ≤ b.totalDeposits) "Panic"
  return { b.setPosition id { pos with
      active := false
      endTime := uint 64 tx.timestamp } with
    totalDeposits := b.totalDeposits - pos.deposit }

/-- A dispute about a position. -/
def file (id : Nat) (dispute : DisputeInfo) : VaultBook :=
  { b.setPosition id { b.positions id with disputed := true } with
    disputeCount := b.disputeCount + 1
    disputes := update b.disputes b.disputeCount dispute }

def setDispute (id : Nat) (dispute : DisputeInfo) : VaultBook :=
  { b with disputes := update b.disputes id dispute }

def addFees (amount : Nat) : VaultBook :=
  { b with totalFees := b.totalFees + amount }

def receive (amount : Nat) : VaultBook :=
  { b with balance := b.balance + amount }

end VaultBook

namespace KamiyoVault

variable (v : KamiyoVault)

def onlyAdmin (sender : Address) : Except String Unit :=
  require (sender = v.admin) "NotAuthorized"

def onlyDisputeResolver (sender : Address) : Except String Unit :=
  require (sender = v.disputeResolver) "NotAuthorized"

end KamiyoVault

-- ==== functions

namespace World

variable (env : Env) (w : World)

/-- The world with other books. -/
def book (b : VaultBook) : World :=
  { w with vault := { w.vault with toVaultBook := b } }

/-- The tier check of `openPosition`. -/
def withinTier (tx : Tx) (agent : Address) : Except String Unit := do
  if w.vault.reputationLimits = zeroAddress then return ()
  else
    let limits ← okOr (w.limits w.vault.reputationLimits) "no contract"
    let allowed ← limits.canAcceptDeposit tx.timestamp agent
      (w.vault.getAgentAUM agent) (w.registry.agents agent).copiers tx.value
    require (allowed = true) "ExceedsTierLimit"

/-- The position that is opened. -/
def newPosition (tx : Tx) (agent : Address) (minReturnBps : Int)
    (lockPeriod : Nat) : CopyPosition where
  user := tx.sender
  agent := agent
  deposit := tx.value
  currentValue := tx.value
  minReturnBps := minReturnBps
  startTime := uint 64 tx.timestamp
  lockPeriod := lockPeriod
  endTime := 0
  active := true
  disputed := false

def openPosition (tx : Tx) (agent : Address) (minReturnBps : Int)
    (lockPeriod : Nat) : Except String World := do
  require (w.vault.paused = false) "EnforcedPause"
  require (minDeposit ≤ tx.value) "InsufficientDeposit"
  require (tx.value ≤ maxDeposit) "ExcessiveDeposit"
  require (minReturnBpsAllowed ≤ minReturnBps
    ∧ minReturnBps ≤ maxReturnBpsAllowed) "InvalidReturnBps"
  require (minLockPeriod ≤ lockPeriod ∧ lockPeriod ≤ maxLockPeriod)
    "InvalidLockPeriod"
  require ((w.registry.agents agent).active = true) "AgentNotActive"
  w.withinTier tx agent
  let registry ← w.registry.updateCopiers env.this agent true
  let book := w.vault.push (newPosition tx agent minReturnBps lockPeriod)
  return { w.book (book.receive tx.value) with registry := registry }

def closePosition (tx : Tx) (id : Nat) : Except String World := do
  let pos := w.vault.positions id
  require (pos.active = true) "PositionNotActive"
  require (tx.sender = pos.user) "NotAuthorized"
  let unlocked ← checked 64 (pos.startTime + pos.lockPeriod)
  require (unlocked ≤ tx.timestamp) "PositionLocked"
  -- `_closePosition`
  let returnBps ← calculateReturnBps pos.deposit pos.currentValue
  let fee ← closingFee pos.deposit pos.currentValue
  require (fee = 0 ∨ w.vault.totalFees + fee < 2 ^ 256) "Panic"
  let book ← (w.vault.addFees fee).endPosition tx id
  let registry ← w.registry.updateCopiers env.this pos.agent false
  let registry ← registry.recordTrade env.this pos.agent returnBps
    (pos.minReturnBps ≤ returnBps)
  let book ← book.safeTransfer tx id pos.user (pos.currentValue - fee)
  return { w.book book with registry := registry }

/-- A position that has left can be disputed for a while. -/
def withinWindow (tx : Tx) (pos : CopyPosition) : Except String Unit := do
  if pos.active then return ()
  else
    let closes ← checked 64 (pos.endTime + disputeWindow)
    require (tx.timestamp ≤ closes) "DisputeWindowClosed"

def fileDispute (tx : Tx) (id : Nat) : Except String World := do
  let pos := w.vault.positions id
  require (tx.sender = pos.user) "NotAuthorized"
  require (pos.disputed = false) "AlreadyDisputed"
  withinWindow tx pos
  require (w.vault.disputeFee ≤ tx.value) "InsufficientFee"
  let actualReturnBps ← calculateReturnBps pos.deposit pos.currentValue
  let book := w.vault.file id {
    positionId := id
    user := pos.user
    agent := pos.agent
    filedAt := uint 64 tx.timestamp
    actualReturnBps := actualReturnBps
    expectedReturnBps := pos.minReturnBps
    resolved := false
    userWon := false }
  return w.book ((book.addFees tx.value).receive tx.value)

/-- What the registry notes of a dispute that is resolved. -/
def noteDispute (caller : Address) (registry : AgentRegistry) (tx : Tx)
    (agent : Address) (actualReturnBps : Int) (userWins : Bool) :
    Except String AgentRegistry := do
  if userWins then
    let registry ← registry.slash tx caller agent
    registry.recordTrade caller agent actualReturnBps false
  else registry.recordTrade caller agent actualReturnBps true

def resolveDispute (tx : Tx) (disputeId : Nat) (userWins : Bool) :
    Except String World := do
  w.vault.onlyDisputeResolver tx.sender
  let dispute := w.vault.disputes disputeId
  let id := dispute.positionId
  let pos := w.vault.positions id
  require (dispute.resolved = false) "DisputeNotResolved"
  let book := w.vault.setDispute disputeId
    { dispute with resolved := true, userWon := userWins }
  let payout := if userWins then pos.deposit else pos.currentValue
  let registry ← noteDispute env.this w.registry tx pos.agent
    dispute.actualReturnBps userWins
  if pos.active then
    let book ← book.endPosition tx id
    let registry ← registry.updateCopiers env.this pos.agent false
    let book ← book.safeTransfer tx id dispute.user payout
    return { w.book book with registry := registry }
  else
    let book ← book.safeTransfer tx id dispute.user payout
    return { w.book book with registry := registry }

def updatePositionValue (tx : Tx) (id newValue : Nat) :
    Except String World := do
  w.vault.onlyDisputeResolver tx.sender
  let pos := w.vault.positions id
  require (pos.active = true) "PositionNotActive"
  validateValueChange pos.currentValue newValue
  return w.book
    (w.vault.setPosition id { pos with currentValue := newValue })

/-- The loop of `batchUpdatePositionValues`. -/
def updateEach (b : VaultBook) : List (Nat × Nat) → Except String VaultBook
  | [] => return b
  | (id, newValue) :: rest => do
      let pos := b.positions id
      if pos.active then
        validateValueChange pos.currentValue newValue
        updateEach (b.setPosition id { pos with currentValue := newValue })
          rest
      else updateEach b rest

def batchUpdatePositionValues (tx : Tx) (positionIds newValues : List Nat) :
    Except String World := do
  w.vault.onlyDisputeResolver tx.sender
  require (positionIds.length = newValues.length) "LengthMismatch"
  let book ← updateEach w.vault.toVaultBook (positionIds.zip newValues)
  return w.book book

def withdrawFees (tx : Tx) : Except String World := do
  w.vault.onlyAdmin tx.sender
  let amount := w.vault.totalFees
  if amount = 0 then return w
  else
    let left ← sendEther tx w.vault.balance w.vault.feeRecipient amount
    return w.book
      { w.vault.toVaultBook with totalFees := 0, balance := left }

def emergencyWithdraw (tx : Tx) (id : Nat) : Except String World := do
  w.vault.onlyAdmin tx.sender
  let pos := w.vault.positions id
  require (pos.active = true) "PositionNotActive"
  let unlocked ← checked 64 (pos.startTime + pos.lockPeriod)
  let allowed ← checked 64 (unlocked + emergencyDelay)
  require (allowed ≤ tx.timestamp) "PositionLocked"
  let book ← w.vault.endPosition tx id
  let registry ← w.registry.updateCopiers env.this pos.agent false
  let book ← book.safeTransfer tx id pos.user pos.currentValue
  return { w.book book with registry := registry }

end World

-- ==== calls

inductive VaultCall
  | openPosition (agent : Address) (minReturnBps : Int) (lockPeriod : Nat)
  | closePosition (id : Nat)
  | fileDispute (id : Nat)
  | resolveDispute (disputeId : Nat) (userWins : Bool)
  | updatePositionValue (id newValue : Nat)
  | batchUpdatePositionValues (positionIds newValues : List Nat)
  | withdrawFees
  | emergencyWithdraw (id : Nat)
  | transferAdmin (newAdmin : Address)
  | acceptAdmin
  | setDisputeFee (fee : Nat)
  | setDisputeResolver (resolver : Address)
  | setFeeRecipient (recipient : Address)
  | setReputationLimits (limits : Address)
  | setPaused (paused : Bool)
  /-- Ether that is sent with no call. -/
  | receive

def VaultCall.payable : VaultCall → Bool
  | .openPosition _ _ _ | .fileDispute _ | .receive => true
  | _ => false

/-- The calls that write the vault's own settings. -/
def KamiyoVault.configure (v : KamiyoVault) (tx : Tx) :
    VaultCall → Except String KamiyoVault
  | .transferAdmin newAdmin => do
      v.onlyAdmin tx.sender
      require (newAdmin ≠ zeroAddress) "ZeroAddress"
      return { v with pendingAdmin := newAdmin }
  | .acceptAdmin => do
      require (tx.sender = v.pendingAdmin) "NotAuthorized"
      return { v with admin := tx.sender, pendingAdmin := zeroAddress }
  | .setDisputeFee fee => do
      v.onlyAdmin tx.sender
      return { v with disputeFee := fee }
  | .setDisputeResolver resolver => do
      v.onlyAdmin tx.sender
      require (resolver ≠ zeroAddress) "ZeroAddress"
      return { v with disputeResolver := resolver }
  | .setFeeRecipient recipient => do
      v.onlyAdmin tx.sender
      require (recipient ≠ zeroAddress) "ZeroAddress"
      return { v with feeRecipient := recipient }
  | .setReputationLimits limits => do
      v.onlyAdmin tx.sender
      return { v with reputationLimits := limits }
  | .setPaused paused => do
      v.onlyAdmin tx.sender
      require (v.paused ≠ paused) "EnforcedPause"
      return { v with paused := paused }
  | .receive =>
    return { v with toVaultBook := v.toVaultBook.receive tx.value }
  | _ => throw "not a setting"

/-- A call of the vault from outside. -/
def World.call (env : Env) (w : World) (tx : Tx) (c : VaultCall) :
    Except String World := do
  require (tx.value = 0 ∨ c.payable = true) "not payable"
  match c with
  | .openPosition agent minReturnBps lockPeriod =>
    w.openPosition env tx agent minReturnBps lockPeriod
  | .closePosition id => w.closePosition env tx id
  | .fileDispute id => w.fileDispute tx id
  | .resolveDispute disputeId userWins =>
    w.resolveDispute env tx disputeId userWins
  | .updatePositionValue id newValue =>
    w.updatePositionValue tx id newValue
  | .batchUpdatePositionValues positionIds newValues =>
    w.batchUpdatePositionValues tx positionIds newValues
  | .withdrawFees => w.withdrawFees tx
  | .emergencyWithdraw id => w.emergencyWithdraw env tx id
  | c => do
      let vault ← w.vault.configure tx c
      return { w with vault := vault }

/-- Anyone calls one of the contracts. -/
inductive WorldAction
  | vault (tx : Tx) (c : VaultCall)
  | registry (tx : Tx) (c : RegistryCall)
  | limits (tx : Tx) (contract : Address) (c : LimitsCall)

def WorldAction.tx : WorldAction → Tx
  | .vault tx _ => tx
  | .registry tx _ => tx
  | .limits tx _ _ => tx

def World.step (env : Env) (a : WorldAction) (w : World) :
    Except String World := do
  -- the vault calls the registry in its own functions only
  require (a.tx.sender ≠ zeroAddress ∧ a.tx.sender ≠ env.this) "no caller"
  match a with
  | .vault tx c => w.call env tx c
  | .registry tx c => do
      let registry ← w.registry.call tx c
      return { w with registry := registry }
  | .limits tx contract c => do
      let limits ← okOr (w.limits contract) "no contract"
      let limits ← limits.call env.curve w.registry.isRegistered tx c
      return { w with limits := update w.limits contract (some limits) }

end KamiyoProtocol.Hyperliquid
