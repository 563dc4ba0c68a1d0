/-
The kamiyo-transfer-hook program: its configuration, the list of
platforms it lets through, the list of addresses it burns nothing of, and
the state it keeps for each wallet.

`execute` judges one transfer by the state of the wallet that owns the
source token account. It reads of the accounts it is handed what they
are; that a transfer is under way, or that anyone signed, it does not
ask. An instruction that fails leaves every account as it was.

Rents, bumps, events and log lines are left out. The token programs
appear as instructions that put any token account and any mint in place.
-/
import KamiyoProtocol.Solana.Token

namespace KamiyoProtocol.TransferHook

open Solana Exec Function

-- ==== accounts

/-- The seeds of the program's derived addresses. -/
inductive Seed where
  | hookConfig
  | whitelist
  | burnExempt
  | transferState (owner : Pubkey)

variable {env : Env Seed}

inductive TransferHookError where
  | transferCooldown
  | suspectedSandwichAttack
  | rateLimitExceeded
  | volumeLimitExceeded
  | accountFlagged
deriving DecidableEq

abbrev Outcome (α : Type) := Result TransferHookError α

def transferCooldownSeconds : Int := 1
def sandwichDetectionWindow : Int := 5
def maxTransfersPerWindow : Nat := 10
def rateLimitWindow : Int := 60
def maxVolumePerWindow : Nat := 10000000000000000
def transferBurnRateBps : Nat := 25
def minBurnThreshold : Nat := 10000000
def maxPlatforms : Nat := 50
def maxExempt : Nat := 100

/-- The transfer history of a wallet. -/
structure TransferState where
  owner : Pubkey
  lastTransferTime : Int
  lastTransferOutbound : Bool
  lastTransferAmount : Nat
  transfersInWindow : Nat
  volumeInWindow : Nat
  windowStart : Int
  rapidReversals : Nat
  isFlagged : Bool
deriving DecidableEq

structure PlatformWhitelist where
  admin : Pubkey
  platforms : List Pubkey

structure HookConfig where
  admin : Pubkey
  enabled : Bool
  cooldownSeconds : Int
  rateLimitWindow : Int
  maxTransfersPerWindow : Nat
  maxVolumePerWindow : Nat
  burnEnabled : Bool
  burnRateBps : Nat
  totalBurned : Nat

structure BurnExemptList where
  admin : Pubkey
  exemptAddresses : List Pubkey

/-- Accounts of one kind are stored under their addresses. -/
structure World where
  config : Option HookConfig
  whitelist : Option PlatformWhitelist
  burnExempt : Option BurnExemptList
  transferStates : Pubkey → Option TransferState
  tokenAccounts : Pubkey → Option TokenAccount
  mints : List Pubkey

def World.withTransferState (w : World) (k : Pubkey) (s : TransferState) :
    World :=
  { w with transferStates := update w.transferStates k (some s) }

-- ==== checks

/-- The transfer cooldown. -/
def checkCooldown (config : HookConfig) (clock : Int)
    (state : TransferState) : Outcome Unit :=
  if 0 < state.lastTransferTime then do
    let timeSinceLast ← subI64 clock state.lastTransferTime
    ensure (config.cooldownSeconds ≤ timeSinceLast) .transferCooldown
  else .ok ()

/-- Reset the rate limit window if it has expired. -/
def resetWindow (config : HookConfig) (clock : Int)
    (state : TransferState) : Outcome TransferState := do
  let elapsed ← subI64 clock state.windowStart
  if config.rateLimitWindow < elapsed then
    .ok { state with
      windowStart := clock
      transfersInWindow := 0
      volumeInWindow := 0 }
  else .ok state

/-- The checks before the sandwich detection: the flag, the cooldown, and
the limits of the window. -/
def checkLimits (config : HookConfig) (clock : Int) (amount : Nat)
    (state : TransferState) : Outcome TransferState := do
  ensure (state.isFlagged = false) .accountFlagged
  checkCooldown config clock state
  let state ← resetWindow config clock state
  ensure (state.transfersInWindow < config.maxTransfersPerWindow)
    .rateLimitExceeded
  ensure (Fixed.saturatingAdd 64 state.volumeInWindow amount
    ≤ config.maxVolumePerWindow) .volumeLimitExceeded
  .ok state

/-- The direction of every transfer the hook is called for. -/
def isOutbound : Bool := true

/-- A transfer the other way within the detection window. -/
def Reverses (clock : Int) (state : TransferState) : Prop :=
  0 < state.lastTransferTime
    ∧ clock - state.lastTransferTime < sandwichDetectionWindow
    ∧ state.lastTransferOutbound ≠ isOutbound
  deriving Decidable

/-- The sandwich detection: the state as the handler leaves it, and the
error it returns. -/
def detectSandwich (clock : Int) (state : TransferState) :
    Outcome (TransferState × Option TransferHookError) := do
  let timeSinceLast ← subI64 clock state.lastTransferTime
  if Reverses clock state then
    let state := { state with
      rapidReversals := Fixed.saturatingAdd 8 state.rapidReversals 1 }
    if 3 ≤ state.rapidReversals then
      .ok ({ state with isFlagged := true }, some .suspectedSandwichAttack)
    else .ok (state, none)
  else if sandwichDetectionWindow < timeSinceLast then
    .ok ({ state with rapidReversals := 0 }, none)
  else .ok (state, none)

/-- The burn of a transfer between two accounts. -/
def burnAmount (config : HookConfig) (exempt : List Pubkey)
    (source destination : Pubkey) (amount : Nat) : Nat :=
  if config.burnEnabled = true ∧ minBurnThreshold ≤ amount
      ∧ source ∉ exempt ∧ destination ∉ exempt then
    (Fixed.checkedMul 64 amount config.burnRateBps).getD 0 / 10000
  else 0

/-- Count a transfer. -/
def TransferState.update (state : TransferState) (clock : Int)
    (amount : Nat) : TransferState :=
  { state with
    lastTransferTime := clock
    lastTransferOutbound := isOutbound
    lastTransferAmount := amount
    transfersInWindow := Fixed.saturatingAdd 16 state.transfersInWindow 1
    volumeInWindow := Fixed.saturatingAdd 64 state.volumeInWindow amount }

-- ==== instructions

/-- `initialize`. -/
def initializeHook (tx : Tx env) (admin : Pubkey) (w : World) :
    Outcome World := do
  requireFresh w.config
  requireSigner tx admin
  let config : HookConfig :=
    { admin := admin
      enabled := true
      cooldownSeconds := transferCooldownSeconds
      rateLimitWindow := rateLimitWindow
      maxTransfersPerWindow := maxTransfersPerWindow
      maxVolumePerWindow := maxVolumePerWindow
      burnEnabled := true
      burnRateBps := transferBurnRateBps
      totalBurned := 0 }
  .ok { w with config := some config }

def initializeBurnExempt (tx : Tx env) (admin : Pubkey) (w : World) :
    Outcome World := do
  requireFresh w.burnExempt
  requireSigner tx admin
  .ok { w with burnExempt := some ⟨admin, []⟩ }

/-- The exemption list, for its admin. -/
def loadExempt (tx : Tx env) (admin : Pubkey) (w : World) :
    Outcome BurnExemptList := do
  let exempt ← load w.burnExempt
  require (exempt.admin = admin) .constraintRaw
  requireSigner tx admin
  .ok exempt

/-- Push an address that is not there yet. -/
def pushNew (l : List Pubkey) (k : Pubkey) : List Pubkey :=
  if k ∈ l then l else l ++ [k]

def addBurnExempt (tx : Tx env) (admin address : Pubkey) (w : World) :
    Outcome World := do
  let exempt ← loadExempt tx admin w
  ensure (exempt.exemptAddresses.length < maxExempt) .rateLimitExceeded
  .ok { w with burnExempt := some { exempt with
    exemptAddresses := pushNew exempt.exemptAddresses address } }

def removeBurnExempt (tx : Tx env) (admin address : Pubkey) (w : World) :
    Outcome World := do
  let exempt ← loadExempt tx admin w
  .ok { w with burnExempt := some { exempt with
    exemptAddresses := exempt.exemptAddresses.filter (· ≠ address) } }

def initializeWhitelist (tx : Tx env) (admin : Pubkey) (w : World) :
    Outcome World := do
  requireFresh w.whitelist
  requireSigner tx admin
  .ok { w with whitelist := some ⟨admin, []⟩ }

/-- The whitelist, for its admin. -/
def loadWhitelist (tx : Tx env) (admin : Pubkey) (w : World) :
    Outcome PlatformWhitelist := do
  let whitelist ← load w.whitelist
  require (whitelist.admin = admin) .constraintRaw
  requireSigner tx admin
  .ok whitelist

def addPlatform (tx : Tx env) (admin platform : Pubkey) (w : World) :
    Outcome World := do
  let whitelist ← loadWhitelist tx admin w
  ensure (whitelist.platforms.length < maxPlatforms) .rateLimitExceeded
  .ok { w with whitelist := some { whitelist with
    platforms := pushNew whitelist.platforms platform } }

def removePlatform (tx : Tx env) (admin platform : Pubkey) (w : World) :
    Outcome World := do
  let whitelist ← loadWhitelist tx admin w
  .ok { w with whitelist := some { whitelist with
    platforms := whitelist.platforms.filter (· ≠ platform) } }

/-- The state a wallet starts with. -/
def TransferState.initial (owner : Pubkey) : TransferState :=
  { owner := owner
    lastTransferTime := 0
    lastTransferOutbound := false
    lastTransferAmount := 0
    transfersInWindow := 0
    volumeInWindow := 0
    windowStart := 0
    rapidReversals := 0
    isFlagged := false }

def initializeTransferState (env : Env Seed) (tx : Tx env)
    (owner payer : Pubkey) (w : World) : Outcome World := do
  let key := env.pda (.transferState owner)
  requireFresh (w.transferStates key)
  requireSigner tx payer
  .ok (w.withTransferState key (.initial owner))

structure ExecuteAccounts where
  sourceState : Pubkey
  sourceAccount : Pubkey
  destinationAccount : Pubkey
  mint : Pubkey

/-- What is left to do once a transfer is judged: burn and count it. -/
def settleTransfer (acc : ExecuteAccounts) (config : HookConfig)
    (exempt : List Pubkey) (clock : Int) (amount : Nat)
    (state : TransferState) (w : World) : World :=
  let burned := burnAmount config exempt acc.sourceAccount
    acc.destinationAccount amount
  let config := { config with
    totalBurned := Fixed.saturatingAdd 64 config.totalBurned burned }
  { w.withTransferState acc.sourceState (state.update clock amount) with
    config := some config }

/-- Judge a transfer of a wallet that does not bypass the checks. -/
def judgeTransfer (acc : ExecuteAccounts) (config : HookConfig)
    (exempt : List Pubkey) (clock : Int) (amount : Nat)
    (state : TransferState) (w : World) : Outcome World := do
  let state ← checkLimits config clock amount state
  let (state, err) ← detectSandwich clock state
  match err with
  -- the flag is set on a copy that is not written back
  | some e => .error (.custom e)
  | none => .ok (settleTransfer acc config exempt clock amount state w)

def execute (env : Env Seed) (tx : Tx env) (acc : ExecuteAccounts)
    (amount : Nat) (w : World) : Outcome World := do
  require (amount < 2 ^ 64) .instructionDidNotDeserialize
  let config ← load w.config
  let whitelist ← load w.whitelist
  let exempt ← load w.burnExempt
  let state ← load (w.transferStates acc.sourceState)
  let source ← load (w.tokenAccounts acc.sourceAccount)
  let _ ← load (w.tokenAccounts acc.destinationAccount)
  require (acc.mint ∈ w.mints) .accountNotInitialized
  requireSeeds env (.transferState source.owner) acc.sourceState
  if config.enabled = false then .ok w
  else if source.owner ∈ whitelist.platforms then .ok w
  else
    judgeTransfer acc config exempt.exemptAddresses tx.clock amount state w

structure AdminActionAccounts where
  transferState : Pubkey
  admin : Pubkey

def unflagAccount (env : Env Seed) (tx : Tx env)
    (acc : AdminActionAccounts) (w : World) : Outcome World := do
  let config ← load w.config
  let state ← load (w.transferStates acc.transferState)
  requireSeeds env (.transferState state.owner) acc.transferState
  require (acc.admin = config.admin) .constraintRaw
  requireSigner tx acc.admin
  .ok (w.withTransferState acc.transferState
    { state with isFlagged := false, rapidReversals := 0 })

/-- The parameters of `update_config`. -/
structure ConfigUpdate where
  enabled : Option Bool
  cooldownSeconds : Option Int
  rateLimitWindow : Option Int
  maxTransfersPerWindow : Option Nat
  maxVolumePerWindow : Option Nat
  burnEnabled : Option Bool
  burnRateBps : Option Nat

def HookConfig.apply (config : HookConfig) (u : ConfigUpdate) :
    HookConfig :=
  { config with
    enabled := u.enabled.getD config.enabled
    cooldownSeconds := u.cooldownSeconds.getD config.cooldownSeconds
    rateLimitWindow := u.rateLimitWindow.getD config.rateLimitWindow
    maxTransfersPerWindow :=
      u.maxTransfersPerWindow.getD config.maxTransfersPerWindow
    maxVolumePerWindow := u.maxVolumePerWindow.getD config.maxVolumePerWindow
    burnEnabled := u.burnEnabled.getD config.burnEnabled
    burnRateBps := (u.burnRateBps.map (min · 100)).getD config.burnRateBps }

def updateConfig (tx : Tx env) (admin : Pubkey) (u : ConfigUpdate)
    (w : World) : Outcome World := do
  let config ← load w.config
  require (config.admin = admin) .constraintRaw
  requireSigner tx admin
  .ok { w with config := some (config.apply u) }

-- ==== machine

/-- The instructions of the program, and what the token programs do to
their accounts. -/
inductive Op where
  | initializeHook (admin : Pubkey)
  | initializeBurnExempt (admin : Pubkey)
  | addBurnExempt (admin address : Pubkey)
  | removeBurnExempt (admin address : Pubkey)
  | initializeWhitelist (admin : Pubkey)
  | addPlatform (admin platform : Pubkey)
  | removePlatform (admin platform : Pubkey)
  | initializeTransferState (owner payer : Pubkey)
  | execute (acc : ExecuteAccounts) (amount : Nat)
  | unflagAccount (acc : AdminActionAccounts)
  | updateConfig (admin : Pubkey) (u : ConfigUpdate)
  | setTokenAccount (k : Pubkey) (account : Option TokenAccount)
  | createMint (k : Pubkey)

/-- One instruction in its transaction. -/
structure Action (env : Env Seed) where
  tx : Tx env
  op : Op

/-- The transition function. -/
def step (env : Env Seed) (a : Action env) (w : World) : Outcome World :=
  match a.op with
  | .initializeHook admin => initializeHook a.tx admin w
  | .initializeBurnExempt admin => initializeBurnExempt a.tx admin w
  | .addBurnExempt admin address => addBurnExempt a.tx admin address w
  | .removeBurnExempt admin address => removeBurnExempt a.tx admin address w
  | .initializeWhitelist admin => initializeWhitelist a.tx admin w
  | .addPlatform admin platform => addPlatform a.tx admin platform w
  | .removePlatform admin platform => removePlatform a.tx admin platform w
  | .initializeTransferState owner payer =>
    initializeTransferState env a.tx owner payer w
  | .execute acc amount => execute env a.tx acc amount w
  | .unflagAccount acc => unflagAccount env a.tx acc w
  | .updateConfig admin u => updateConfig a.tx admin u w
  | .setTokenAccount k account =>
    .ok { w with tokenAccounts := update w.tokenAccounts k account }
  | .createMint k => .ok { w with mints := k :: w.mints }

/-- What is on chain after an instruction: one that fails leaves every
account as it was. -/
def committed (env : Env Seed) (a : Action env) (w : World) : World :=
  match step env a w with
  | .ok w' => w'
  | .error _ => w

/-- Nothing of the program is there yet. -/
structure Deployed (w : World) : Prop where
  config : w.config = none
  whitelist : w.whitelist = none
  burnExempt : w.burnExempt = none
  transferStates : ∀ k, w.transferStates k = none

end KamiyoProtocol.TransferHook
