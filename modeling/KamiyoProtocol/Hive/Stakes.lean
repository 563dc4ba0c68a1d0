/-
Agents of the hive program: their stake in lamports, which all of them
keep in one vault, and their collateral in tokens, each in a vault of its
own.

An owner withdraws stake by a request that copies the amount, and a claim
a day later; the authority of the registry returns it at once. Collateral
is withdrawn the same way, in any part, and may be slashed meanwhile.

The vault of the stakes is a bare derived address: no instruction creates
an account there. Whether the program may debit it is therefore up to the
runtime, and a parameter (`DebitRule`). The rent of new accounts is left
out.
-/
import KamiyoProtocol.Hive.Registry

namespace KamiyoProtocol.Hive.Stakes

open Solana Exec Function

variable {env : Env Seed}

-- ==== accounts

structure Agent where
  registry : Pubkey
  identityCommitment : Bytes
  stake : Nat
  registeredSlot : Nat
  signalCount : Nat
  swarmVotes : Nat
  active : Bool
  collateralAmount : Nat
  collateralLockedAt : Int
  slashedAmount : Nat
  violationCount : Nat
  owner : Pubkey

structure WithdrawalRequest where
  agent : Pubkey
  requester : Pubkey
  amount : Nat
  requestSlot : Nat
  unlockSlot : Nat
  claimed : Bool

structure CollateralWithdrawal where
  agent : Pubkey
  requester : Pubkey
  amount : Nat
  requestTime : Int
  unlockTime : Int
  claimed : Bool

/-- The accounts of the stakes, the tokens and the lamports. -/
structure World where
  slot : Nat
  now : Int
  lamports : Lamports
  tokens : Tokens
  registry : Option AgentRegistry
  agents : List (Pubkey × Agent)
  withdrawals : Pubkey → Option WithdrawalRequest
  collateralWithdrawals : Pubkey → Option CollateralWithdrawal

/-- The account of an agent, and where it is listed. -/
def World.agent (w : World) (k : Pubkey) : Outcome (Nat × Pubkey × Agent) :=
  load (Keyed.locate Prod.fst w.agents k)

def World.setAgent (w : World) (i : Nat) (k : Pubkey) (a : Agent) : World :=
  { w with agents := w.agents.set i (k, a) }

/-- The vault of the stakes. -/
def stakeVault (env : Env Seed) : Pubkey :=
  env.pda (.stakeVault (env.pda .registry))

def treasuryVault (env : Env Seed) : Pubkey :=
  env.pda (.treasury (env.pda .registry))

/-- The vault of an agent's collateral. -/
def collateralVault (env : Env Seed) (k : Pubkey) : Pubkey :=
  env.pda (.collateralVault k)

/-- `STAKE_WITHDRAWAL_TIMELOCK`, in slots. -/
def stakeWithdrawalTimelock : Nat := 86400

/-- `COLLATERAL_WITHDRAWAL_TIMELOCK`, in seconds. -/
def collateralWithdrawalTimelock : Int := 7 * 24 * 60 * 60

def baseSlashRateBps : Nat := 1000
def slashEscalationBps : Nat := 500
def maxSlashRateBps : Nat := 5000

-- ==== lamports

/-- How the runtime treats a debit of an account the program does not own:
as the code is written it goes through; on the network it is refused. -/
inductive DebitRule where
  | asWritten
  | ownedOnly
deriving DecidableEq

/-- The accounts of this world the program created. -/
def programOwns (env : Env Seed) (w : World) (k : Pubkey) : Bool :=
  (w.registry.isSome && decide (k = env.pda .registry))
    || (Keyed.locate Prod.fst w.agents k).isSome
    || (w.withdrawals k).isSome || (w.collateralWithdrawals k).isSome

/-- Pay out of the vault by writing both balances. -/
def debitVault (env : Env Seed) (rule : DebitRule) (w : World)
    (dst : Pubkey) (n : Nat) : Outcome Lamports := do
  require (rule = .asWritten ∨ n = 0
    ∨ programOwns env w (stakeVault env) = true)
    .externalAccountLamportSpend
  moveLamports w.lamports (stakeVault env) dst n .arithmeticPanic

-- ==== registry

structure RegistryConfig where
  minStake : Nat
  minSignalConfidence : Nat
  maxTotalStake : Nat
  maxStakePerAgent : Nat
  minSignalCollateral : Nat

/-- `init` of a token account at a derived address. -/
def openTokens (b : Tokens) (k mint owner : Pubkey) : Outcome Tokens :=
  okOr (b.openAccount k mint owner) .accountAlreadyInUse

def initializeRegistry (env : Env Seed) (tx : Tx env)
    (authority kamiyoMint : Pubkey) (config : RegistryConfig)
    (bump treasuryBump : Nat) (w : World) : Outcome World := do
  requireFresh w.registry
  requireSigner tx authority
  let b ← openTokens w.tokens (treasuryVault env) kamiyoMint
    (treasuryVault env)
  .ok { w with
    tokens := b
    registry := some
      { authority := authority
        agentsRoot := zeroHash
        agentCount := 0
        signalCount := 0
        swarmActionCount := 0
        epoch := 0
        minStake := config.minStake
        minSignalConfidence := config.minSignalConfidence
        bump := bump
        paused := false
        maxTotalStake := config.maxTotalStake
        maxStakePerAgent := config.maxStakePerAgent
        totalStake := 0
        kamiyoMint := kamiyoMint
        treasuryBump := treasuryBump
        totalBurned := 0
        totalFeesCollected := 0
        minSignalCollateral := config.minSignalCollateral } }

/-- The changes the authority makes to the registry alone. -/
inductive Setting where
  | updateAgentsRoot (newRoot : Bytes) (agentCount : Nat)
  | pauseProtocol
  | unpauseProtocol
  | updateCaps (newMaxTotalStake newMaxStakePerAgent : Nat)
  | updateMinSignalCollateral (newMinSignalCollateral : Nat)

def Setting.apply (s : Setting) (registry : AgentRegistry) :
    Outcome AgentRegistry :=
  match s with
  | .updateAgentsRoot root count => do
      let epoch ← addU64 registry.epoch 1
      .ok { registry with
        agentsRoot := root, agentCount := count, epoch := epoch }
  | .pauseProtocol => .ok { registry with paused := true }
  | .unpauseProtocol => .ok { registry with paused := false }
  | .updateCaps total perAgent =>
    .ok { registry with
      maxTotalStake := total, maxStakePerAgent := perAgent }
  | .updateMinSignalCollateral n =>
    .ok { registry with minSignalCollateral := n }

/-- `update_agents_root`, `pause_protocol`, `unpause_protocol`,
`update_caps` and `update_min_signal_collateral`. -/
def changeSetting (tx : Tx env) (authority : Pubkey) (s : Setting)
    (w : World) : Outcome World := do
  let registry ← load w.registry
  requireSigner tx authority
  ensure (authority = registry.authority) .unauthorized
  let registry ← s.apply registry
  .ok { w with registry := some registry }

/-- The fee of an instruction on accounts of other modules. -/
def chargeOther (env : Env Seed) (tx : Tx env) (acc : FeeAccounts)
    (totalFee : Nat) (w : World) : Outcome World := do
  let registry ← load w.registry
  checkFeeAccounts env tx w.tokens registry acc
  ensure (registry.paused = false) .protocolPaused
  let paid ← payFee env w.tokens registry acc totalFee
  .ok { w with tokens := paid.1, registry := some paid.2 }

structure AuthorityAccounts where
  kamiyoMint : Pubkey
  authority : Pubkey

def burnFromTreasury (env : Env Seed) (tx : Tx env)
    (acc : AuthorityAccounts) (amount : Nat) (w : World) :
    Outcome World := do
  let registry ← load w.registry
  let treasury ← load (w.tokens.accounts (treasuryVault env))
  require (acc.kamiyoMint = registry.kamiyoMint) .constraintRaw
  ensure (acc.authority = registry.authority) .unauthorized
  requireSigner tx acc.authority
  ensure (0 < amount) .invalidAmount
  ensure (amount ≤ treasury.amount) .insufficientTreasuryBalance
  let b ← burnTokens w.tokens (treasuryVault env) acc.kamiyoMint
    (treasuryVault env) amount
  let burned ← okOr (Fixed.checkedAdd 64 registry.totalBurned amount)
    (.custom .stakeOverflow)
  .ok { w with
    tokens := b
    registry := some { registry with totalBurned := burned } }

-- ==== stake

/-- The caps on the stake of one agent and of all; 0 is no cap. -/
def checkCaps (registry : AgentRegistry) (stakeAmount : Nat) :
    Outcome Nat := do
  ensure (0 < registry.maxStakePerAgent →
    stakeAmount ≤ registry.maxStakePerAgent) .exceedsAgentStakeCap
  let newTotalStake ← okOr
    (Fixed.checkedAdd 64 registry.totalStake stakeAmount)
    (.custom .stakeOverflow)
  ensure (0 < registry.maxTotalStake →
    newTotalStake ≤ registry.maxTotalStake) .exceedsTvlCap
  .ok newTotalStake

def registerAgent (env : Env Seed) (tx : Tx env) (acc : FeeAccounts)
    (identityCommitment : Bytes) (stakeAmount : Nat) (w : World) :
    Outcome World := do
  let registry ← load w.registry
  let k := env.pda (.agent identityCommitment)
  requireFresh (Keyed.locate Prod.fst w.agents k)
  checkFeeAccounts env tx w.tokens registry acc
  ensure (registry.paused = false) .protocolPaused
  ensure (registry.minStake ≤ stakeAmount) .insufficientStake
  let newTotalStake ← checkCaps registry stakeAmount
  let paid ← payFee env w.tokens registry acc feeRegisterAgent
  let count ← okOr (Fixed.checkedAdd 32 paid.2.agentCount 1)
    (.custom .agentCountOverflow)
  let l ← systemTransfer w.lamports acc.payer (stakeVault env) stakeAmount
  let agent : Agent :=
    { registry := env.pda .registry
      identityCommitment := identityCommitment
      stake := stakeAmount
      registeredSlot := w.slot
      signalCount := 0
      swarmVotes := 0
      active := true
      collateralAmount := 0
      collateralLockedAt := 0
      slashedAmount := 0
      violationCount := 0
      owner := acc.payer }
  .ok { w with
    lamports := l
    tokens := paid.1
    registry := some { paid.2 with
      agentCount := count, totalStake := newTotalStake }
    agents := w.agents ++ [(k, agent)] }

/-- An agent, and the signer its owner is compared with. -/
structure OwnerAccounts where
  agent : Pubkey
  payer : Pubkey

def requestWithdrawal (env : Env Seed) (tx : Tx env) (acc : OwnerAccounts)
    (w : World) : Outcome World := do
  let _ ← load w.registry
  let r ← w.agent acc.agent
  let agent := r.2.2
  let k := env.pda (.withdrawal acc.agent)
  requireFresh (w.withdrawals k)
  requireSigner tx acc.payer
  ensure (agent.active = true) .agentNotActive
  ensure (acc.payer = agent.owner) .notAgentOwner
  let unlock ← addU64 w.slot stakeWithdrawalTimelock
  let request : WithdrawalRequest :=
    { agent := acc.agent
      requester := acc.payer
      amount := agent.stake
      requestSlot := w.slot
      unlockSlot := unlock
      claimed := false }
  .ok { w with withdrawals := update w.withdrawals k (some request) }

structure PayoutAccounts where
  agent : Pubkey
  recipient : Pubkey
  authority : Pubkey

def claimWithdrawal (env : Env Seed) (rule : DebitRule) (tx : Tx env)
    (acc : PayoutAccounts) (w : World) : Outcome World := do
  let registry ← load w.registry
  let r ← w.agent acc.agent
  let agent := r.2.2
  require (agent.registry = env.pda .registry) .constraintRaw
  let k := env.pda (.withdrawal acc.agent)
  let withdrawal ← load (w.withdrawals k)
  require (withdrawal.agent = acc.agent) .constraintRaw
  requireSigner tx acc.authority
  ensure (withdrawal.claimed = false) .withdrawalAlreadyClaimed
  ensure (withdrawal.unlockSlot ≤ w.slot) .timelockNotExpired
  ensure (acc.authority = withdrawal.requester) .unauthorizedWithdrawal
  -- the amount as requested, whatever became of the agent since
  let stakeAmount := withdrawal.amount
  let l ← debitVault env rule w acc.recipient stakeAmount
  let w := { w with
    lamports := l
    registry := some { registry with
      totalStake := registry.totalStake - stakeAmount }
    withdrawals := update w.withdrawals k
      (some { withdrawal with claimed := true }) }
  .ok (w.setAgent r.1 acc.agent { agent with active := false, stake := 0 })

structure CancelAccounts where
  withdrawal : Pubkey
  payer : Pubkey

def cancelWithdrawal (tx : Tx env) (acc : CancelAccounts) (w : World) :
    Outcome World := do
  let withdrawal ← load (w.withdrawals acc.withdrawal)
  requireSigner tx acc.payer
  ensure (withdrawal.claimed = false) .withdrawalAlreadyClaimed
  ensure (acc.payer = withdrawal.requester) .unauthorizedWithdrawal
  -- `close = payer`
  .ok { w with withdrawals := update w.withdrawals acc.withdrawal none }

def deactivateAgent (env : Env Seed) (rule : DebitRule) (tx : Tx env)
    (acc : PayoutAccounts) (w : World) : Outcome World := do
  let registry ← load w.registry
  let r ← w.agent acc.agent
  let agent := r.2.2
  require (agent.registry = env.pda .registry) .constraintRaw
  ensure (acc.authority = registry.authority) .unauthorized
  requireSigner tx acc.authority
  ensure (agent.active = true) .agentNotActive
  let stakeAmount := agent.stake
  let l ← debitVault env rule w acc.recipient stakeAmount
  let w := { w with
    lamports := l
    registry := some { registry with
      totalStake := registry.totalStake - stakeAmount } }
  .ok (w.setAgent r.1 acc.agent { agent with active := false, stake := 0 })

-- ==== collateral

structure DepositAccounts where
  agent : Pubkey
  depositorTokenAccount : Pubkey
  kamiyoMint : Pubkey
  depositor : Pubkey

/-- `init_if_needed` of a token account whose authority it is itself. -/
def openVault (b : Tokens) (k mint : Pubkey) : Outcome Tokens :=
  match b.accounts k with
  | none => openTokens b k mint k
  | some v => do
      require (v.mint = mint) .constraintTokenMint
      require (v.owner = k) .constraintTokenOwner
      .ok b

def depositCollateral (env : Env Seed) (tx : Tx env)
    (acc : DepositAccounts) (amount : Nat) (w : World) :
    Outcome World := do
  let registry ← load w.registry
  ensure (registry.paused = false) .protocolPaused
  let r ← w.agent acc.agent
  let agent := r.2.2
  require (agent.registry = env.pda .registry) .constraintRaw
  let source ← load (w.tokens.accounts acc.depositorTokenAccount)
  require (source.mint = kamiyoMintId) .constraintRaw
  require (source.owner = acc.depositor) .constraintRaw
  ensure (acc.kamiyoMint = kamiyoMintId) .invalidKamiyoMint
  requireSigner tx acc.depositor
  let b ← openVault w.tokens (collateralVault env acc.agent) acc.kamiyoMint
  ensure (0 < amount) .invalidAmount
  ensure (agent.active = true) .agentNotActive
  let b ← transferTokens b acc.depositorTokenAccount
    (collateralVault env acc.agent) acc.depositor amount
  let total ← okOr
    (Fixed.checkedAdd 64 agent.collateralAmount amount)
    (.custom .stakeOverflow)
  .ok ({ w with tokens := b }.setAgent r.1 acc.agent
    { agent with collateralAmount := total, collateralLockedAt := w.now })

def requestCollateralWithdrawal (env : Env Seed) (tx : Tx env)
    (acc : OwnerAccounts) (amount : Nat) (w : World) :
    Outcome World := do
  let r ← w.agent acc.agent
  let agent := r.2.2
  let k := env.pda (.collateralWithdrawal acc.agent)
  requireFresh (w.collateralWithdrawals k)
  requireSigner tx acc.payer
  ensure (agent.active = true) .agentNotActive
  ensure (acc.payer = agent.owner) .notAgentOwner
  ensure (amount ≤ agent.collateralAmount) .exceedsCollateral
  let unlock ← addI64 w.now collateralWithdrawalTimelock
  let request : CollateralWithdrawal :=
    { agent := acc.agent
      requester := acc.payer
      amount := amount
      requestTime := w.now
      unlockTime := unlock
      claimed := false }
  .ok { w with
    collateralWithdrawals :=
      update w.collateralWithdrawals k (some request) }

structure ClaimCollateralAccounts where
  agent : Pubkey
  claimerTokenAccount : Pubkey
  claimer : Pubkey

def claimCollateralWithdrawal (env : Env Seed) (tx : Tx env)
    (acc : ClaimCollateralAccounts) (w : World) : Outcome World := do
  let r ← w.agent acc.agent
  let agent := r.2.2
  let k := env.pda (.collateralWithdrawal acc.agent)
  let withdrawal ← load (w.collateralWithdrawals k)
  require (withdrawal.agent = acc.agent) .constraintRaw
  let _ ← load (w.tokens.accounts (collateralVault env acc.agent))
  let target ← load (w.tokens.accounts acc.claimerTokenAccount)
  require (target.mint = kamiyoMintId) .constraintRaw
  require (target.owner = acc.claimer) .constraintRaw
  requireSigner tx acc.claimer
  ensure (withdrawal.claimed = false) .collateralAlreadyClaimed
  ensure (withdrawal.unlockTime ≤ w.now) .collateralTimelockActive
  ensure (acc.claimer = withdrawal.requester) .unauthorizedWithdrawal
  ensure (withdrawal.amount ≤ agent.collateralAmount) .exceedsCollateral
  let b ← transferTokens w.tokens (collateralVault env acc.agent)
    acc.claimerTokenAccount (collateralVault env acc.agent)
    withdrawal.amount
  let w := { w with
    tokens := b
    collateralWithdrawals := update w.collateralWithdrawals k
      (some { withdrawal with claimed := true }) }
  .ok (w.setAgent r.1 acc.agent { agent with
    collateralAmount := agent.collateralAmount - withdrawal.amount })

structure SlashAccounts where
  agent : Pubkey
  authority : Pubkey

/-- What a slash takes: the amount asked for, or a part that grows with
the violations if none is. -/
def slashOf (agent : Agent) (slashAmount : Nat) : Outcome Nat :=
  let effectiveRate := baseSlashRateBps
    + agent.violationCount * slashEscalationBps
  let cappedRate := min effectiveRate maxSlashRateBps
  if slashAmount = 0 then do
    let scaled ← okOr
      (Fixed.checkedMul 64 agent.collateralAmount cappedRate)
      .arithmeticPanic
    .ok (scaled / 10000)
  else .ok slashAmount

def slashAgent (env : Env Seed) (tx : Tx env) (acc : SlashAccounts)
    (slashAmount : Nat) (w : World) : Outcome World := do
  let registry ← load w.registry
  let r ← w.agent acc.agent
  let agent := r.2.2
  require (agent.registry = env.pda .registry) .constraintRaw
  ensure (acc.authority = registry.authority) .unauthorized
  requireSigner tx acc.authority
  ensure (agent.active = true) .agentNotActive
  ensure (slashAmount ≤ agent.collateralAmount) .exceedsCollateral
  let actualSlash ← slashOf agent slashAmount
  let slashed ← okOr
    (Fixed.checkedAdd 64 agent.slashedAmount actualSlash)
    (.custom .stakeOverflow)
  let b ← transferTokens w.tokens (collateralVault env acc.agent)
    (treasuryVault env) (collateralVault env acc.agent) actualSlash
  .ok ({ w with tokens := b }.setAgent r.1 acc.agent
    { agent with
      collateralAmount := agent.collateralAmount - actualSlash
      slashedAmount := slashed
      violationCount := Fixed.saturatingAdd 8 agent.violationCount 1 })

-- ==== machine

/-- The instructions, the passing of slots and seconds, and what happens
to lamports and token accounts meanwhile. -/
inductive Op where
  | initializeRegistry (authority kamiyoMint : Pubkey)
      (config : RegistryConfig) (bump treasuryBump : Nat)
  | changeSetting (authority : Pubkey) (s : Setting)
  | chargeOther (acc : FeeAccounts) (totalFee : Nat)
  | burnFromTreasury (acc : AuthorityAccounts) (amount : Nat)
  | registerAgent (acc : FeeAccounts) (identityCommitment : Bytes)
      (stakeAmount : Nat)
  | requestWithdrawal (acc : OwnerAccounts)
  | claimWithdrawal (acc : PayoutAccounts)
  | cancelWithdrawal (acc : CancelAccounts)
  | deactivateAgent (acc : PayoutAccounts)
  | depositCollateral (acc : DepositAccounts) (amount : Nat)
  | requestCollateralWithdrawal (acc : OwnerAccounts) (amount : Nat)
  | claimCollateralWithdrawal (acc : ClaimCollateralAccounts)
  | slashAgent (acc : SlashAccounts) (slashAmount : Nat)
  | advanceClock (slot : Nat) (now : Int)
  | transferLamports (src dst : Pubkey) (amount : Nat)
  | viaTokens (op : TokenOp)

/-- One instruction in its transaction. -/
structure Action (env : Env Seed) where
  tx : Tx env
  op : Op

/-- Run an instruction. -/
def step (env : Env Seed) (rule : DebitRule) (a : Action env) (w : World) :
    Outcome World :=
  match a.op with
  | .initializeRegistry authority mint config bump treasuryBump =>
    initializeRegistry env a.tx authority mint config bump treasuryBump w
  | .changeSetting authority s => changeSetting a.tx authority s w
  | .chargeOther acc fee => chargeOther env a.tx acc fee w
  | .burnFromTreasury acc n => burnFromTreasury env a.tx acc n w
  | .registerAgent acc c n => registerAgent env a.tx acc c n w
  | .requestWithdrawal acc => requestWithdrawal env a.tx acc w
  | .claimWithdrawal acc => claimWithdrawal env rule a.tx acc w
  | .cancelWithdrawal acc => cancelWithdrawal a.tx acc w
  | .deactivateAgent acc => deactivateAgent env rule a.tx acc w
  | .depositCollateral acc n => depositCollateral env a.tx acc n w
  | .requestCollateralWithdrawal acc n =>
    requestCollateralWithdrawal env a.tx acc n w
  | .claimCollateralWithdrawal acc =>
    claimCollateralWithdrawal env a.tx acc w
  | .slashAgent acc n => slashAgent env a.tx acc n w
  | .advanceClock slot now => do
      require (w.slot ≤ slot ∧ w.now ≤ now ∧ Fixed.InRange 64 now)
        .constraintRaw
      .ok { w with slot := slot, now := now }
  | .transferLamports src dst n => do
      requireSigner a.tx src
      let l ← systemTransfer w.lamports src dst n
      .ok { w with lamports := l }
  | .viaTokens op => do
      let b ← okOr (op.apply a.tx w.tokens) .tokenProgramError
      .ok { w with tokens := b }

/-- Before the registry is initialized. -/
structure Genesis (w : World) : Prop where
  clock : Fixed.InRange 64 w.now
  registry : w.registry = none
  agents : w.agents = []
  withdrawals : ∀ k, w.withdrawals k = none
  collateralWithdrawals : ∀ k, w.collateralWithdrawals k = none

end KamiyoProtocol.Hive.Stakes
