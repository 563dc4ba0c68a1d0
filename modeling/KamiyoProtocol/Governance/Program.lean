/-
The kamiyo-governance program: its configuration, proposals and vote
records, and every instruction on them.

Votes are weighed by what the voter's token account and stake position
hold at the time, so the world contains the staking program's; the two
share the tokens and the clock. An instruction is handed the position's
account as bytes. What the runtime loads for it is what the staking
program wrote at its address, zeros if it wrote nothing, and anything at
all if another program owns it.

Rents, bumps and events are left out, and so are the texts of a proposal,
whose lengths only are read.
-/
import KamiyoProtocol.Lib.Borsh
import KamiyoProtocol.Staking.Layout

namespace KamiyoProtocol.Governance

open Solana Exec Function

-- ==== accounts

/-- The seeds of the program's derived addresses. -/
inductive Seed where
  | governance
  | proposal (id : Nat)
  | vote (proposal voter : Pubkey)
  | depositVault

/-- The seeds of this program and of the staking program. -/
abbrev Seeds := Seed ⊕ Staking.Seed

variable {env : Env Seeds}

/-- `GovernanceError`, the codes the program raises. -/
inductive GovernanceError where
  | insufficientTokensForProposal
  | notInVotingState
  | votingPeriodEnded
  | votingPeriodNotEnded
  | notQueued
  | timelockNotEnded
  | executionExpired
  | titleTooLong
  | descriptionTooLong
  | invalidAuthority
  | governancePaused
  | depositAlreadyReturned
  | quorumNotReachedForRefund

abbrev Outcome (α : Type) := Result GovernanceError α

def proposalThreshold : Nat := 1000000000000
def quorumThreshold : Nat := 5000000000000
def proposalDeposit : Nat := 100000000000
def approvalThresholdBps : Nat := 6600
def votingPeriod : Int := 3 * 24 * 60 * 60
def timelockDuration : Int := 24 * 60 * 60
def executionGracePeriod : Int := 7 * 24 * 60 * 60
def maxTitleLength : Nat := 128
def maxDescriptionLength : Nat := 1024

inductive ProposalState where
  | voting
  | queued
  | executed
  | defeated
  | expired
  | cancelled
deriving DecidableEq

structure GovernanceConfig where
  admin : Pubkey
  tokenMint : Pubkey
  proposalCount : Nat
  proposalThreshold : Nat
  quorumThreshold : Nat
  approvalThresholdBps : Nat
  votingPeriod : Int
  timelockDuration : Int
  isPaused : Bool
  proposalDeposit : Nat

structure Proposal where
  id : Nat
  proposer : Pubkey
  state : ProposalState
  createdAt : Int
  votingEndsAt : Int
  executionEta : Int
  votesFor : Nat
  votesAgainst : Nat
  voterCount : Nat
  executed : Bool
  depositAmount : Nat
  depositReturned : Bool

structure VoteRecord where
  proposal : Pubkey
  voter : Pubkey
  weight : Nat
  support : Bool
  votedAt : Int

/-- An account handed to an instruction that checks it itself. -/
structure AccountInfo where
  key : Pubkey
  owner : Pubkey
  data : Bytes

/-- Accounts of one kind are stored under their addresses. -/
structure World where
  staking : Staking.World
  config : Option GovernanceConfig
  proposals : Pubkey → Option Proposal
  voteRecords : List (Pubkey × VoteRecord)

def World.now (w : World) : Int := w.staking.now

def World.tokens (w : World) : Tokens := w.staking.tokens

def World.withTokens (w : World) (b : Tokens) : World :=
  { w with staking := { w.staking with tokens := b } }

def World.withProposal (w : World) (k : Pubkey) (p : Proposal) : World :=
  { w with proposals := update w.proposals k (some p) }

/-- The environment and the transactions of the staking program. -/
def stakingEnv (env : Env Seeds) : Env Staking.Seed :=
  env.comap Sum.inr Sum.inr_injective

def stakingTx (tx : Tx env) : Tx (stakingEnv env) :=
  tx.comap Sum.inr Sum.inr_injective

/-- The data is what the staking program keeps at the address; its last
byte is the bump. An address is 32 bytes. -/
def Stored (env : Env Seeds) (w : Staking.World) (info : AccountInfo) :
    Prop :=
  (∃ e ∈ w.positions, info.key = (stakingEnv env).pda (.position e.1)
      ∧ e.2.owner.bytes.length = 32
      ∧ info.data = Staking.positionData e.2 (info.data.getLastD 0))
    ∨ (∃ pool ∈ w.pool, info.key = (stakingEnv env).pda .pool
      ∧ info.data = Staking.poolData pool (info.data.getLastD 0))
    ∨ ∀ b ∈ info.data, b = 0

/-- What the runtime loads for an account. -/
def Loads (env : Env Seeds) (w : Staking.World) (info : AccountInfo) :
    Prop :=
  info.owner = Staking.programId → Stored env w info

instance (w : Staking.World) (info : AccountInfo) :
    Decidable (Stored env w info) :=
  inferInstanceAs (Decidable (_ ∨ _))

instance (w : Staking.World) (info : AccountInfo) :
    Decidable (Loads env w info) :=
  inferInstanceAs (Decidable (_ → _))

-- ==== weights

def getStakingMultiplier (stakeStartTime currentTime : Int) : Nat :=
  let duration := Fixed.saturatingSubI 64 currentTime stakeStartTime
  if Staking.oneEightyDays ≤ duration then Staking.multiplier180d
  else if Staking.ninetyDays ≤ duration then Staking.multiplier90d
  else if Staking.thirtyDays ≤ duration then Staking.multiplier30d
  else Staking.multiplierBase

/-- `staked_amount.checked_mul(multiplier).unwrap_or(0) / 10000`. -/
def stakingWeight (stakedAmount : Nat) (stakeStartTime currentTime : Int) :
    Nat :=
  (Fixed.checkedMul 64 stakedAmount
    (getStakingMultiplier stakeStartTime currentTime)).getD 0 / 10000

/-- `wallet_weight.checked_add(staking_weight).unwrap_or(wallet_weight)`. -/
def addWeights (walletWeight stakingWeight : Nat) : Nat :=
  (Fixed.checkedAdd 64 walletWeight stakingWeight).getD walletWeight

structure StakePositionPrefix where
  owner : Pubkey
  stakedAmount : Nat
  stakeStartTime : Int

/-- `StakePositionPrefix::deserialize`. -/
def readPrefix : Borsh.Reader StakePositionPrefix := do
  let owner ← Borsh.fixed 32
  let stakedAmount ← Borsh.word 8
  let stakeStartTime ← Borsh.signed 8
  return ⟨⟨owner⟩, stakedAmount, stakeStartTime⟩

/-- The weight of a stake position, as `cast_vote` reads it. -/
def positionWeight (voter : Pubkey) (clock : Int) (info : AccountInfo) :
    Outcome Nat :=
  if info.owner ≠ Staking.programId then
    .error (.custom .invalidAuthority)
  else if info.data.length < 8
      ∨ info.data.take 8 ≠ Staking.positionDiscriminator then .ok 0
  else do
    let (position, _) ← okOr (readPrefix (info.data.drop 8))
      (.custom .invalidAuthority)
    ensure (position.owner = voter) .invalidAuthority
    .ok (stakingWeight position.stakedAmount position.stakeStartTime clock)

-- ==== instructions

structure InitializeAccounts where
  tokenMint : Pubkey
  admin : Pubkey

/-- `initialize`. -/
def initializeGovernance (tx : Tx env) (acc : InitializeAccounts)
    (w : World) : Outcome World := do
  requireSigner tx acc.admin
  requireFresh w.config
  let config : GovernanceConfig :=
    { admin := acc.admin
      tokenMint := acc.tokenMint
      proposalCount := 0
      proposalThreshold := proposalThreshold
      quorumThreshold := quorumThreshold
      approvalThresholdBps := approvalThresholdBps
      votingPeriod := votingPeriod
      timelockDuration := timelockDuration
      isPaused := false
      proposalDeposit := proposalDeposit }
  .ok { w with config := some config }

structure CreateProposalAccounts where
  proposerTokenAccount : Pubkey
  tokenMint : Pubkey
  proposer : Pubkey

/-- `if amount > 0 { transfer_checked(..)? }`. -/
def payDeposit (b : Tokens) (src dst mint authority : Pubkey)
    (amount : Nat) : Outcome Tokens :=
  if 0 < amount then transferChecked b src dst mint authority amount
  else .ok b

def createProposal (env : Env Seeds) (tx : Tx env)
    (acc : CreateProposalAccounts) (title description : Bytes) (w : World) :
    Outcome World := do
  let config ← load w.config
  let key := env.pda (.inl (.proposal config.proposalCount))
  requireFresh (w.proposals key)
  requireAta env w.tokens acc.proposerTokenAccount acc.proposer
    config.tokenMint
  let source ← load (w.tokens.accounts acc.proposerTokenAccount)
  let _ ← load (w.tokens.accounts (env.pda (.inl .depositVault)))
  require (acc.tokenMint = config.tokenMint) .constraintRaw
  requireSigner tx acc.proposer
  ensure (config.isPaused = false) .governancePaused
  ensure (title.length ≤ maxTitleLength) .titleTooLong
  ensure (description.length ≤ maxDescriptionLength) .descriptionTooLong
  ensure (config.proposalThreshold ≤ source.amount)
    .insufficientTokensForProposal
  let b ← payDeposit w.tokens acc.proposerTokenAccount
    (env.pda (.inl .depositVault)) acc.tokenMint acc.proposer
    config.proposalDeposit
  let proposalCount ← addU64 config.proposalCount 1
  let votingEndsAt ← addI64 tx.clock config.votingPeriod
  let proposal : Proposal :=
    { id := config.proposalCount
      proposer := acc.proposer
      state := .voting
      createdAt := tx.clock
      votingEndsAt := votingEndsAt
      executionEta := 0
      votesFor := 0
      votesAgainst := 0
      voterCount := 0
      executed := false
      depositAmount := config.proposalDeposit
      depositReturned := false }
  .ok { (w.withTokens b).withProposal key proposal with
    config := some { config with proposalCount := proposalCount } }

/-- The constraints on a proposal's account. -/
def loadProposal (env : Env Seeds) (w : World) (k : Pubkey) :
    Outcome Proposal := do
  let proposal ← load (w.proposals k)
  requireSeeds env (.inl (.proposal proposal.id)) k
  .ok proposal

structure CastVoteAccounts where
  proposal : Pubkey
  voterTokenAccount : Pubkey
  stakePosition : Option AccountInfo
  voter : Pubkey

/-- The weight of a stake position, if one is given. -/
def optionalWeight (voter : Pubkey) (clock : Int) :
    Option AccountInfo → Outcome Nat
  | some info => positionWeight voter clock info
  | none => .ok 0

/-- What the runtime hands to `cast_vote`: the stake position's account as
it is stored, and at an associated address a token account of the mint the
address is derived from. -/
def CastVoteAccounts.Loaded (env : Env Seeds) (acc : CastVoteAccounts)
    (w : World) : Prop :=
  (∀ info ∈ acc.stakePosition, Loads env w.staking info)
    ∧ ∀ config ∈ w.config, ∀ t ∈ w.tokens.accounts acc.voterTokenAccount,
      acc.voterTokenAccount = env.ata acc.voter config.tokenMint →
        t.mint = config.tokenMint
  deriving Decidable

/-- Count a vote. -/
def Proposal.count (p : Proposal) (support : Bool) (weight : Nat) :
    Outcome Proposal := do
  let votes ← addU64 (if support then p.votesFor else p.votesAgainst) weight
  let voterCount ← okOr (Fixed.checkedAdd 32 p.voterCount 1)
    .arithmeticPanic
  .ok { p with
    votesFor := if support then votes else p.votesFor
    votesAgainst := if support then p.votesAgainst else votes
    voterCount := voterCount }

def castVote (env : Env Seeds) (tx : Tx env) (acc : CastVoteAccounts)
    (support : Bool) (w : World) : Outcome World := do
  require (acc.Loaded env w) .constraintRaw
  let config ← load w.config
  let proposal ← loadProposal env w acc.proposal
  let record := env.pda (.inl (.vote acc.proposal acc.voter))
  requireFresh (Keyed.locate Prod.fst w.voteRecords record)
  requireAta env w.tokens acc.voterTokenAccount acc.voter config.tokenMint
  let wallet ← load (w.tokens.accounts acc.voterTokenAccount)
  requireSigner tx acc.voter
  ensure (config.isPaused = false) .governancePaused
  ensure (proposal.state = .voting) .notInVotingState
  ensure (tx.clock < proposal.votingEndsAt) .votingPeriodEnded
  let staked ← optionalWeight acc.voter tx.clock acc.stakePosition
  let weight := addWeights wallet.amount staked
  let proposal ← proposal.count support weight
  .ok { w.withProposal acc.proposal proposal with
    voteRecords := w.voteRecords
      ++ [(record, ⟨acc.proposal, acc.voter, weight, support, tx.clock⟩)] }

/-- What a proposal of these tallies comes to under a configuration. -/
def decideState (config : GovernanceConfig)
    (votesFor votesAgainst : Nat) : Outcome ProposalState := do
  let totalVotes ← addU64 votesFor votesAgainst
  if totalVotes < config.quorumThreshold then .ok .defeated
  else do
    let approvalPct ← okOr (Fixed.checkedDiv (votesFor * 10000)
      totalVotes) .arithmeticPanic
    if config.approvalThresholdBps ≤ approvalPct then .ok .queued
    else .ok .defeated

def finalizeProposal (env : Env Seeds) (tx : Tx env) (k : Pubkey)
    (w : World) : Outcome World := do
  let config ← load w.config
  let proposal ← loadProposal env w k
  ensure (proposal.state = .voting) .notInVotingState
  ensure (proposal.votingEndsAt ≤ tx.clock) .votingPeriodNotEnded
  let state ← decideState config proposal.votesFor proposal.votesAgainst
  if state = .queued then do
    let executionEta ← addI64 tx.clock config.timelockDuration
    .ok (w.withProposal k
      { proposal with state := .queued, executionEta := executionEta })
  else .ok (w.withProposal k { proposal with state := state })

structure ExecuteProposalAccounts where
  proposal : Pubkey
  executor : Pubkey

def executeProposal (env : Env Seeds) (tx : Tx env)
    (acc : ExecuteProposalAccounts) (w : World) : Outcome World := do
  let _ ← load w.config
  let proposal ← loadProposal env w acc.proposal
  requireSigner tx acc.executor
  ensure (proposal.state = .queued) .notQueued
  ensure (proposal.executionEta ≤ tx.clock) .timelockNotEnded
  let expiry ← addI64 proposal.executionEta executionGracePeriod
  ensure (tx.clock < expiry) .executionExpired
  .ok (w.withProposal acc.proposal
    { proposal with state := .executed, executed := true })

structure CancelProposalAccounts where
  proposal : Pubkey
  proposer : Pubkey

/-- `cancel_proposal`, which reads the clock and makes no use of it. -/
def cancelProposal (env : Env Seeds) (tx : Tx env)
    (acc : CancelProposalAccounts) (w : World) : Outcome World := do
  let proposal ← loadProposal env w acc.proposal
  ensure (proposal.proposer = acc.proposer) .invalidAuthority
  requireSigner tx acc.proposer
  ensure (proposal.state = .voting) .notInVotingState
  .ok (w.withProposal acc.proposal { proposal with state := .cancelled })

structure InitializeDepositVaultAccounts where
  tokenMint : Pubkey
  admin : Pubkey

def initializeDepositVault (env : Env Seeds) (tx : Tx env)
    (acc : InitializeDepositVaultAccounts) (w : World) : Outcome World := do
  let config ← load w.config
  let vault := env.pda (.inl .depositVault)
  let b ← okOr (w.tokens.openAccount vault acc.tokenMint vault)
    .accountAlreadyInUse
  require (acc.tokenMint = config.tokenMint) .constraintRaw
  requireSigner tx acc.admin
  .ok (w.withTokens b)

/-- The configuration, for its admin. -/
def loadAsAdmin (tx : Tx env) (admin : Pubkey) (w : World) :
    Outcome GovernanceConfig := do
  let config ← load w.config
  ensure (config.admin = admin) .invalidAuthority
  requireSigner tx admin
  .ok config

/-- `pause_governance` and `unpause_governance`. -/
def setPaused (tx : Tx env) (admin : Pubkey) (isPaused : Bool)
    (w : World) : Outcome World := do
  let config ← loadAsAdmin tx admin w
  .ok { w with config := some { config with isPaused := isPaused } }

/-- The parameters of `update_config`. -/
structure ConfigUpdate where
  proposalThreshold : Option Nat
  quorumThreshold : Option Nat
  approvalThresholdBps : Option Nat
  votingPeriod : Option Int
  timelockDuration : Option Int
  proposalDeposit : Option Nat

def updateConfig (tx : Tx env) (admin : Pubkey) (u : ConfigUpdate)
    (w : World) : Outcome World := do
  let config ← loadAsAdmin tx admin w
  .ok { w with config := some { config with
    proposalThreshold := u.proposalThreshold.getD config.proposalThreshold
    quorumThreshold := u.quorumThreshold.getD config.quorumThreshold
    approvalThresholdBps :=
      u.approvalThresholdBps.getD config.approvalThresholdBps
    votingPeriod := u.votingPeriod.getD config.votingPeriod
    timelockDuration := u.timelockDuration.getD config.timelockDuration
    proposalDeposit := u.proposalDeposit.getD config.proposalDeposit } }

structure ClaimDepositAccounts where
  proposal : Pubkey
  proposerTokenAccount : Pubkey
  tokenMint : Pubkey
  proposer : Pubkey

def claimDeposit (env : Env Seeds) (tx : Tx env)
    (acc : ClaimDepositAccounts) (w : World) : Outcome World := do
  let config ← load w.config
  let proposal ← loadProposal env w acc.proposal
  ensure (proposal.proposer = acc.proposer) .invalidAuthority
  let _ ← load (w.tokens.accounts (env.pda (.inl .depositVault)))
  requireAta env w.tokens acc.proposerTokenAccount acc.proposer
    config.tokenMint
  require (acc.tokenMint = config.tokenMint) .constraintRaw
  requireSigner tx acc.proposer
  ensure (proposal.state ≠ .voting) .notInVotingState
  ensure (proposal.depositReturned = false) .depositAlreadyReturned
  let totalVotes := (Fixed.checkedAdd 64 proposal.votesFor
    proposal.votesAgainst).getD 0
  ensure (config.quorumThreshold ≤ totalVotes) .quorumNotReachedForRefund
  let b ← payDeposit w.tokens (env.pda (.inl .depositVault))
    acc.proposerTokenAccount acc.tokenMint (env.pda (.inl .depositVault))
    proposal.depositAmount
  .ok ((w.withTokens b).withProposal acc.proposal
    { proposal with depositReturned := true })

-- ==== machine

/-- The instructions of the program, and those of the staking program,
the clock and token accounts among them. -/
inductive Op where
  | initializeGovernance (acc : InitializeAccounts)
  | createProposal (acc : CreateProposalAccounts) (title description : Bytes)
  | castVote (acc : CastVoteAccounts) (support : Bool)
  | finalizeProposal (proposal : Pubkey)
  | executeProposal (acc : ExecuteProposalAccounts)
  | cancelProposal (acc : CancelProposalAccounts)
  | initializeDepositVault (acc : InitializeDepositVaultAccounts)
  | pauseGovernance (admin : Pubkey)
  | unpauseGovernance (admin : Pubkey)
  | updateConfig (admin : Pubkey) (u : ConfigUpdate)
  | claimDeposit (acc : ClaimDepositAccounts)
  | viaStaking (op : Staking.Op)

/-- One instruction in its transaction. -/
structure Action (env : Env Seeds) where
  tx : Tx env
  op : Op

/-- An instruction of the staking program. -/
def viaStaking (env : Env Seeds) (tx : Tx env) (op : Staking.Op)
    (w : World) : Outcome World := do
  let staking ← okOr (Staking.step (stakingEnv env)
    ⟨stakingTx tx, op⟩ w.staking).toOption .constraintRaw
  .ok { w with staking := staking }

/-- Run an instruction. -/
def perform (env : Env Seeds) (a : Action env) (w : World) :
    Outcome World :=
  match a.op with
  | .initializeGovernance acc => initializeGovernance a.tx acc w
  | .createProposal acc title description =>
    createProposal env a.tx acc title description w
  | .castVote acc support => castVote env a.tx acc support w
  | .finalizeProposal k => finalizeProposal env a.tx k w
  | .executeProposal acc => executeProposal env a.tx acc w
  | .cancelProposal acc => cancelProposal env a.tx acc w
  | .initializeDepositVault acc => initializeDepositVault env a.tx acc w
  | .pauseGovernance admin => setPaused a.tx admin true w
  | .unpauseGovernance admin => setPaused a.tx admin false w
  | .updateConfig admin u => updateConfig a.tx admin u w
  | .claimDeposit acc => claimDeposit env a.tx acc w
  | .viaStaking op => viaStaking env a.tx op w

/-- The transition function: the transaction shows the world's clock. -/
def step (env : Env Seeds) (a : Action env) (w : World) :
    Outcome World := do
  require (a.tx.clock = w.now) .constraintRaw
  perform env a w

end KamiyoProtocol.Governance
