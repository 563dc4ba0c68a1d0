/-
The kamiyo-escrow program: escrows of companion sessions, their oracle
disputes, and the four ways out of them.

The structures follow the program's accounts without the bumps. An
escrow is stored under its address; the oracle configuration is one
derived account, created once and never changed but for its list of
oracles. The vectors of an escrow cannot outgrow the space reserved for
them: the handlers stop at five commitments, and only a commitment can
be revealed.

The clock is part of the world and only moves forward; an instruction
runs in a transaction that shows its present value.
-/
import Mathlib.Data.List.Sort
import KamiyoProtocol.Lib.Bytes
import KamiyoProtocol.Solana.Token

namespace KamiyoProtocol.CompanionEscrow

open Solana Exec Function

-- ==== accounts

/-- The seeds of the derived addresses the program computes; the stake
position's is derived at the staking program's id. -/
inductive Seed where
  | oracleConfig
  | tokenTreasury
  | escrow (user : Pubkey) (sessionId : Bytes)
  | stakePosition (oracle : Pubkey)

variable {env : Env Seed}

/-- `EscrowError`, the codes the instructions raise. -/
inductive EscrowError where
  | invalidRating
  | invalidStatus
  | notTimedOut
  | escrowTimedOut
  | unauthorized
  | invalidTreasury
  | invalidUser
  | invalidKamiyoMint
  | invalidConsensusConfig
  | invalidTimingConfig
  | oracleNotRegistered
  | oracleAlreadyRegistered
  | tooManyOracles
  | oracleAlreadyCommitted
  | tooManyOracleCommitments
  | commitPhaseEnded
  | commitPhaseNotEnded
  | noCommitments
  | noCommitmentFound
  | alreadyRevealed
  | invalidCommitmentHash
  | oracleAlreadySubmitted
  | invalidQualityScore
  | revealPhaseExpired
  | revealPhaseNotEnded
  | insufficientOracleConsensus
  | arithmeticOverflow
  | notDisputed
  | disputeNotTimedOut
  | disputeHasConsensus
  | suspiciousOracleConsensus
  | stakePositionRequired
  | insufficientOracleStake
  | invalidStakePosition

abbrev Outcome (α : Type) := Result EscrowError α

def feeCreateEscrow : Nat := 50000000
def burnRateBps : Nat := 100
def escrowTimeout : Int := 7 * 24 * 60 * 60
def disputeTimeout : Int := 3 * 24 * 60 * 60
def maxOraclesPerEscrow : Nat := 5
def minOracleStake : Nat := 100000000000
def qualityFullRefundThreshold : Nat := 50
def qualityHighRefundThreshold : Nat := 65
def qualityLowRefundThreshold : Nat := 80

def kamiyoStakingProgramId : Pubkey :=
  ⟨[124, 230, 87, 84, 194, 8, 76, 154, 18, 52, 243, 98, 115, 19, 143,
    155, 158, 117, 28, 240, 105, 204, 140, 188, 107, 179, 210, 224, 64,
    192, 131, 91]⟩

def stakePositionDiscriminator : Bytes :=
  [78, 165, 30, 111, 171, 125, 11, 220]

/-- `b"kamiyo-escrow-v1:commit"`. -/
def commitmentDomain : Bytes :=
  [107, 97, 109, 105, 121, 111, 45, 101, 115, 99, 114, 111, 119, 45, 118,
    49, 58, 99, 111, 109, 109, 105, 116]

structure OracleConfig where
  admin : Pubkey
  minConsensus : Nat
  maxScoreDeviation : Nat
  commitDuration : Int
  revealDuration : Int
  requireStake : Bool
  registeredOracles : List Pubkey

inductive EscrowStatus where
  | active
  | disputed
  | resolved
  | released
  | refunded
deriving DecidableEq

structure OracleCommitment where
  oracle : Pubkey
  commitmentHash : Bytes
  committedAt : Int
  revealed : Bool

structure OracleSubmission where
  oracle : Pubkey
  qualityScore : Nat
  submittedAt : Int

/-- One account, with its vote once disputed. -/
structure Escrow where
  user : Pubkey
  treasury : Pubkey
  sessionId : Bytes
  amount : Nat
  createdAt : Int
  status : EscrowStatus
  rating : Option Nat
  disputedAt : Option Int
  commitPhaseEndsAt : Option Int
  oracleCommitments : List OracleCommitment
  oracleSubmissions : List OracleSubmission
  qualityScore : Option Nat
  refundPercentage : Option Nat

/-- Funds still locked. -/
def Escrow.Open (e : Escrow) : Prop :=
  e.status = .active ∨ e.status = .disputed

instance (e : Escrow) : Decidable e.Open :=
  inferInstanceAs (Decidable (_ ∨ _))

/-- `8 + Escrow::INIT_SPACE`. -/
def escrowSpace : Nat :=
  8 + (32 + 32 + 32 + 8 + 8 + 1 + 1 + (1 + 1) + (1 + 8) + (1 + 8)
    + (4 + 5 * (32 + 32 + 8 + 1)) + (4 + 5 * (32 + 1 + 8))
    + (1 + 1) + (1 + 1))

/-- An account of another program, as passed to an instruction. -/
structure AccountInfo where
  key : Pubkey
  owner : Pubkey
  data : Bytes

/-- The escrows, what pays them, and the clock. -/
structure World where
  now : Int
  lamports : Lamports
  tokens : Tokens
  config : Option OracleConfig
  escrows : Pubkey → Option Escrow

def World.setEscrow (w : World) (k : Pubkey) (e : Escrow) : World :=
  { w with escrows := update w.escrows k (some e) }

@[simp] theorem setEscrow_self (w : World) (k : Pubkey) (e : Escrow) :
    (w.setEscrow k e).escrows k = some e :=
  update_self ..

-- ==== helpers

/-- The burned and the kept part of a fee. -/
def calculateFeeSplit (totalFee : Nat) : Nat × Nat :=
  let burnAmount := totalFee * burnRateBps / 10000
  (burnAmount, totalFee - burnAmount)

def calculateRefundPercentage (qualityScore : Nat) : Nat :=
  if qualityScore < qualityFullRefundThreshold then 100
  else if qualityScore < qualityHighRefundThreshold then 75
  else if qualityScore < qualityLowRefundThreshold then 35
  else 0

theorem refund_le (q : Nat) : calculateRefundPercentage q ≤ 100 := by
  unfold calculateRefundPercentage
  split
  · decide
  · split
    · decide
    · split
      · decide
      · decide

/-- Whether the account is the oracle's stake position with the minimum
stake; malformed data fails. -/
def verifyOracleStake (env : Env Seed) (info : AccountInfo)
    (oracle : Pubkey) : Outcome Bool :=
  if info.key ≠ env.pda (.stakePosition oracle) then .ok false
  else if info.owner ≠ kamiyoStakingProgramId then .ok false
  else if info.data.length < 8
      ∨ info.data.take 8 ≠ stakePositionDiscriminator then .ok false
  else do
    let owner ← okOr (Bytes.window info.data 8 32)
      (.custom .invalidStakePosition)
    let staked ← okOr (Bytes.window info.data 40 8)
      (.custom .invalidStakePosition)
    if owner ≠ oracle.bytes then .ok false
    else .ok (decide (minOracleStake ≤ Bytes.leNat staked))

def computeCommitmentHash (env : Env Seed) (sessionId : Bytes)
    (oracle : Pubkey) (score : Nat) (salt : Bytes) : Bytes :=
  env.hash (commitmentDomain ++ 32 :: sessionId ++ 32 :: oracle.bytes
    ++ UInt8.ofNat score :: 32 :: salt)

/-- Median of the scores; the floor of the middle mean for even counts. -/
def medianScore (scores : List Nat) : Nat :=
  let scores := scores.insertionSort (· ≤ ·)
  if scores.length % 2 = 0 then
    let mid := scores.length / 2
    ((scores[mid - 1]?.getD 0) + (scores[mid]?.getD 0)) / 2
  else scores[scores.length / 2]?.getD 0

/-- How many scores are further from the median than allowed. -/
def outlierCount (scores : List Nat) (maxDeviation : Nat) : Nat :=
  let median := medianScore scores
  (scores.filter fun score =>
    maxDeviation
      < (if median < score then score - median else median - score)).length

def Escrow.scores (e : Escrow) : List Nat :=
  e.oracleSubmissions.map OracleSubmission.qualityScore

-- ==== configuration

def initializeOracleConfig (tx : Tx env) (admin : Pubkey)
    (minConsensus maxScoreDeviation : Nat)
    (commitDuration revealDuration : Int) (requireStake : Bool)
    (w : World) : Outcome World := do
  requireSigner tx admin
  requireFresh w.config
  ensure (3 ≤ minConsensus) .invalidConsensusConfig
  ensure (maxScoreDeviation ≤ 50) .invalidConsensusConfig
  ensure (60 ≤ commitDuration) .invalidTimingConfig
  ensure (300 ≤ revealDuration) .invalidTimingConfig
  .ok { w with
    config := some
      { admin := admin
        minConsensus := minConsensus
        maxScoreDeviation := maxScoreDeviation
        commitDuration := commitDuration
        revealDuration := revealDuration
        requireStake := requireStake
        registeredOracles := [] } }

def registerOracle (tx : Tx env) (admin oraclePubkey : Pubkey)
    (w : World) : Outcome World := do
  requireSigner tx admin
  let config ← load w.config
  ensure (admin = config.admin) .unauthorized
  ensure (oraclePubkey ∉ config.registeredOracles) .oracleAlreadyRegistered
  ensure (config.registeredOracles.length < 50) .tooManyOracles
  .ok { w with
    config := some { config with
      registeredOracles := config.registeredOracles ++ [oraclePubkey] } }

def removeOracle (tx : Tx env) (admin oraclePubkey : Pubkey)
    (w : World) : Outcome World := do
  requireSigner tx admin
  let config ← load w.config
  ensure (admin = config.admin) .unauthorized
  let r ← okOr (Keyed.locate id config.registeredOracles oraclePubkey)
    (.custom .oracleNotRegistered)
  .ok { w with
    config := some { config with
      registeredOracles := config.registeredOracles.eraseIdx r.1 } }

def initializeTreasury (env : Env Seed) (tx : Tx env)
    (admin kamiyoMint : Pubkey) (w : World) : Outcome World := do
  requireSigner tx admin
  let b ← okOr (w.tokens.openAccount (env.pda .tokenTreasury)
    kamiyoMint (env.pda .tokenTreasury)) .accountAlreadyInUse
  .ok { w with tokens := b }

-- ==== escrows

structure CreateEscrowAccounts where
  user : Pubkey
  treasury : Pubkey
  kamiyoMint : Pubkey
  userTokenAccount : Pubkey

def createEscrow (env : Env Seed) (tx : Tx env)
    (acc : CreateEscrowAccounts) (sessionId : Bytes) (amount : Nat)
    (w : World) : Outcome World := do
  requireSigner tx acc.user
  let k := env.pda (.escrow acc.user sessionId)
  requireFresh (w.escrows k)
  let l ← fundRent env w.lamports acc.user k escrowSpace
  let source ← load (w.tokens.accounts acc.userTokenAccount)
  require (source.mint = acc.kamiyoMint) .constraintRaw
  require (source.owner = acc.user) .constraintRaw
  let treasury ← load (w.tokens.accounts (env.pda .tokenTreasury))
  ensure (treasury.mint = acc.kamiyoMint) .invalidKamiyoMint
  let fee := calculateFeeSplit feeCreateEscrow
  let b ← burnTokens w.tokens acc.userTokenAccount acc.kamiyoMint acc.user
    fee.1
  let b ← transferChecked b acc.userTokenAccount (env.pda .tokenTreasury)
    acc.kamiyoMint acc.user fee.2
  let l ← systemTransfer l acc.user k amount
  let w := { w with lamports := l, tokens := b }
  .ok (w.setEscrow k
    { user := acc.user
      treasury := acc.treasury
      sessionId := sessionId
      amount := amount
      createdAt := tx.clock
      status := .active
      rating := none
      disputedAt := none
      commitPhaseEndsAt := none
      oracleCommitments := []
      oracleSubmissions := []
      qualityScore := none
      refundPercentage := none })

/-- Debit the escrow and credit `dst`, unguarded. -/
def payOut (w : World) (k dst : Pubkey) (n : Nat) : Outcome World := do
  let l ← moveLamports w.lamports k dst n .arithmeticPanic
  .ok { w with lamports := l }

structure RateAndReleaseAccounts where
  user : Pubkey
  treasury : Pubkey
  escrow : Pubkey

def rateAndRelease (tx : Tx env) (acc : RateAndReleaseAccounts)
    (rating : Nat) (w : World) : Outcome World := do
  requireSigner tx acc.user
  let e ← load (w.escrows acc.escrow)
  ensure (e.user = acc.user) .unauthorized
  ensure (e.treasury = acc.treasury) .invalidTreasury
  ensure (1 ≤ rating ∧ rating ≤ 5) .invalidRating
  ensure (e.status = .active) .invalidStatus
  if 3 ≤ rating then do
    let w ← payOut w acc.escrow acc.treasury e.amount
    .ok (w.setEscrow acc.escrow
      { e with rating := some rating, status := .released })
  else do
    let w ← payOut w acc.escrow acc.user e.amount
    .ok (w.setEscrow acc.escrow
      { e with rating := some rating, status := .refunded })

structure MarkDisputedAccounts where
  user : Pubkey
  escrow : Pubkey

def markDisputed (tx : Tx env) (acc : MarkDisputedAccounts) (w : World) :
    Outcome World := do
  requireSigner tx acc.user
  let e ← load (w.escrows acc.escrow)
  ensure (acc.user = e.user) .unauthorized
  ensure (e.status = .active) .invalidStatus
  let deadline ← addI64 e.createdAt escrowTimeout
  ensure (tx.clock ≤ deadline) .escrowTimedOut
  .ok (w.setEscrow acc.escrow
    { e with status := .disputed, disputedAt := some tx.clock })

structure CommitVoteAccounts where
  oracle : Pubkey
  escrow : Pubkey
  oracleStakePosition : Option AccountInfo

/-- The stake check of `commit_vote`. -/
def checkStake (env : Env Seed) (config : OracleConfig)
    (acc : CommitVoteAccounts) : Outcome Unit :=
  if config.requireStake = true then do
    let info ← okOr acc.oracleStakePosition
      (.custom .stakePositionRequired)
    let staked ← verifyOracleStake env info acc.oracle
    ensure (staked = true) .insufficientOracleStake
  else .ok ()

/-- The end of the commit phase: as recorded, or starting now. -/
def commitPhaseEnd (tx : Tx env) (config : OracleConfig) (e : Escrow) :
    Outcome Int :=
  match e.commitPhaseEndsAt with
  | some t => .ok t
  | none => addI64 tx.clock config.commitDuration

def commitVote (env : Env Seed) (tx : Tx env) (acc : CommitVoteAccounts)
    (commitmentHash : Bytes) (w : World) : Outcome World := do
  requireSigner tx acc.oracle
  let e ← load (w.escrows acc.escrow)
  let config ← load w.config
  ensure (e.status = .disputed) .invalidStatus
  ensure (acc.oracle ∈ config.registeredOracles) .oracleNotRegistered
  checkStake env config acc
  ensure (∀ c ∈ e.oracleCommitments, c.oracle ≠ acc.oracle)
    .oracleAlreadyCommitted
  ensure (e.oracleCommitments.length < maxOraclesPerEscrow)
    .tooManyOracleCommitments
  let ends ← commitPhaseEnd tx config e
  ensure (tx.clock < ends) .commitPhaseEnded
  .ok (w.setEscrow acc.escrow
    { e with
      commitPhaseEndsAt := some ends
      oracleCommitments := e.oracleCommitments ++
        [⟨acc.oracle, commitmentHash, tx.clock, false⟩] })

structure RevealVoteAccounts where
  oracle : Pubkey
  escrow : Pubkey

def revealVote (env : Env Seed) (tx : Tx env) (acc : RevealVoteAccounts)
    (qualityScore : Nat) (salt : Bytes) (w : World) : Outcome World := do
  requireSigner tx acc.oracle
  let e ← load (w.escrows acc.escrow)
  let config ← load w.config
  ensure (e.status = .disputed) .invalidStatus
  ensure (qualityScore ≤ 100) .invalidQualityScore
  let commitEnds ← okOr e.commitPhaseEndsAt (.custom .noCommitments)
  ensure (commitEnds ≤ tx.clock) .commitPhaseNotEnded
  let revealEnds ← addI64 commitEnds config.revealDuration
  ensure (tx.clock < revealEnds) .revealPhaseExpired
  let r ← okOr (Keyed.locate OracleCommitment.oracle
    e.oracleCommitments acc.oracle) (.custom .noCommitmentFound)
  ensure (r.2.revealed = false) .alreadyRevealed
  ensure (r.2.commitmentHash = computeCommitmentHash env e.sessionId
    acc.oracle qualityScore salt) .invalidCommitmentHash
  ensure (∀ s ∈ e.oracleSubmissions, s.oracle ≠ acc.oracle)
    .oracleAlreadySubmitted
  .ok (w.setEscrow acc.escrow
    { e with
      oracleCommitments :=
        e.oracleCommitments.set r.1 { r.2 with revealed := true }
      oracleSubmissions := e.oracleSubmissions ++
        [⟨acc.oracle, qualityScore, tx.clock⟩] })

structure FinalizeDisputeAccounts where
  user : Pubkey
  treasury : Pubkey
  escrow : Pubkey

/-- Refund and payment of a resolved escrow. -/
def splitAmount (amount refundPct : Nat) : Outcome (Nat × Nat) := do
  let x ← okOr (Fixed.checkedMul 128 amount refundPct)
    (.custom .arithmeticOverflow)
  let x ← okOr (Fixed.checkedDiv x 100) (.custom .arithmeticOverflow)
  let refundAmount := Fixed.wrap 64 x
  .ok (refundAmount, amount - refundAmount)

def finalizeDispute (tx : Tx env) (acc : FinalizeDisputeAccounts)
    (w : World) : Outcome World := do
  let e ← load (w.escrows acc.escrow)
  ensure (acc.user = e.user) .invalidUser
  ensure (acc.treasury = e.treasury) .invalidTreasury
  let config ← load w.config
  ensure (e.status = .disputed) .invalidStatus
  ensure (config.minConsensus ≤ e.oracleSubmissions.length)
    .insufficientOracleConsensus
  let commitEnds ← okOr e.commitPhaseEndsAt (.custom .noCommitments)
  let revealEnds ← addI64 commitEnds config.revealDuration
  ensure (revealEnds ≤ tx.clock ∨ ∀ c ∈ e.oracleCommitments, c.revealed = true)
    .revealPhaseNotEnded
  let median := medianScore e.scores
  ensure (outlierCount e.scores config.maxScoreDeviation * 2
    < e.scores.length) .suspiciousOracleConsensus
  let refundPct := calculateRefundPercentage median
  let split ← splitAmount e.amount refundPct
  let l ← payLamports w.lamports acc.escrow acc.user split.1
  let l ← payLamports l acc.escrow acc.treasury split.2
  let w := { w with lamports := l }
  .ok (w.setEscrow acc.escrow
    { e with
      qualityScore := some median
      refundPercentage := some refundPct
      status := .resolved })

structure TimeoutReleaseAccounts where
  treasury : Pubkey
  escrow : Pubkey

def timeoutRelease (tx : Tx env) (acc : TimeoutReleaseAccounts)
    (w : World) : Outcome World := do
  let e ← load (w.escrows acc.escrow)
  ensure (e.treasury = acc.treasury) .invalidTreasury
  ensure (e.status = .active) .invalidStatus
  let deadline ← addI64 e.createdAt escrowTimeout
  ensure (deadline < tx.clock) .notTimedOut
  let w ← payOut w acc.escrow acc.treasury e.amount
  .ok (w.setEscrow acc.escrow { e with status := .released })

structure DisputedTimeoutReleaseAccounts where
  user : Pubkey
  escrow : Pubkey

def disputedTimeoutRelease (tx : Tx env)
    (acc : DisputedTimeoutReleaseAccounts) (w : World) :
    Outcome World := do
  let e ← load (w.escrows acc.escrow)
  ensure (acc.user = e.user) .invalidUser
  let config ← load w.config
  ensure (e.status = .disputed) .invalidStatus
  let disputedAt ← okOr e.disputedAt (.custom .notDisputed)
  let deadline ← addI64 disputedAt disputeTimeout
  ensure (deadline < tx.clock) .disputeNotTimedOut
  ensure (¬ config.minConsensus ≤ e.oracleSubmissions.length)
    .disputeHasConsensus
  let w ← payOut w acc.escrow acc.user e.amount
  .ok (w.setEscrow acc.escrow
    { e with status := .refunded, refundPercentage := some 100 })

-- ==== machine

/-- The instructions of the program, the clock, and what anyone can do
with lamports and tokens. -/
inductive Op where
  | initializeOracleConfig (admin : Pubkey)
      (minConsensus maxScoreDeviation : Nat)
      (commitDuration revealDuration : Int) (requireStake : Bool)
  | registerOracle (admin oraclePubkey : Pubkey)
  | removeOracle (admin oraclePubkey : Pubkey)
  | initializeTreasury (admin kamiyoMint : Pubkey)
  | createEscrow (acc : CreateEscrowAccounts) (sessionId : Bytes)
      (amount : Nat)
  | rateAndRelease (acc : RateAndReleaseAccounts) (rating : Nat)
  | markDisputed (acc : MarkDisputedAccounts)
  | commitVote (acc : CommitVoteAccounts) (commitmentHash : Bytes)
  | revealVote (acc : RevealVoteAccounts) (qualityScore : Nat)
      (salt : Bytes)
  | finalizeDispute (acc : FinalizeDisputeAccounts)
  | timeoutRelease (acc : TimeoutReleaseAccounts)
  | disputedTimeoutRelease (acc : DisputedTimeoutReleaseAccounts)
  | advanceClock (t : Int)
  | systemTransfer (src dst : Pubkey) (amount : Nat)
  | viaTokens (op : TokenOp)

/-- One instruction in its transaction. -/
structure Action (env : Env Seed) where
  tx : Tx env
  op : Op

/-- Run an instruction. -/
def perform (env : Env Seed) (a : Action env) (w : World) :
    Outcome World :=
  match a.op with
  | .initializeOracleConfig admin c d commit reveal stake =>
    initializeOracleConfig a.tx admin c d commit reveal stake w
  | .registerOracle admin o => registerOracle a.tx admin o w
  | .removeOracle admin o => removeOracle a.tx admin o w
  | .initializeTreasury admin mint =>
    initializeTreasury env a.tx admin mint w
  | .createEscrow acc id n => createEscrow env a.tx acc id n w
  | .rateAndRelease acc rating => rateAndRelease a.tx acc rating w
  | .markDisputed acc => markDisputed a.tx acc w
  | .commitVote acc hash => commitVote env a.tx acc hash w
  | .revealVote acc score salt => revealVote env a.tx acc score salt w
  | .finalizeDispute acc => finalizeDispute a.tx acc w
  | .timeoutRelease acc => timeoutRelease a.tx acc w
  | .disputedTimeoutRelease acc => disputedTimeoutRelease a.tx acc w
  | .advanceClock t => do
      require (w.now ≤ t ∧ Fixed.InRange 64 t) .constraintRaw
      .ok { w with now := t }
  | .systemTransfer src dst n => do
      requireSigner a.tx src
      let l ← systemTransfer w.lamports src dst n
      .ok { w with lamports := l }
  | .viaTokens op => do
      let b ← okOr (op.apply a.tx w.tokens) .tokenProgramError
      .ok { w with tokens := b }

/-- The transition function: a transaction shows the world's clock, which
only `advanceClock` moves, any distance and never back, as the chain's. -/
def step (env : Env Seed) (a : Action env) (w : World) : Outcome World := do
  require (a.tx.clock = w.now) .constraintRaw
  perform env a w

end KamiyoProtocol.CompanionEscrow
