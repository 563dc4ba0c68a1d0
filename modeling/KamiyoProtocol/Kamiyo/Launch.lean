/-
Trusted launches: an agent's owner escrows lamports for the launch of a
token, at a limited rate. They go back to the owner some days after the
launch graduated, or a dispute of it is resolved and splits them.

Of the accounts other instructions keep (configuration, treasury and
agents) only what is read here matters; they change at will (`others`).
-/
import KamiyoProtocol.Kamiyo.Protocol
import KamiyoProtocol.Solana.Concrete
import KamiyoProtocol.Solana.Vaults

namespace KamiyoProtocol.Kamiyo.Launch

open Solana Exec Function

inductive Seed where
  | treasury
  | agent (owner : Pubkey)
  | launch (agent mint : Pubkey)
  | launchRate (agent : Pubkey)
deriving DecidableEq

/-- The codes of `KamiyoError` these instructions raise. -/
inductive LaunchError where
  | protocolPaused
  | agentNotActive
  | unauthorized
  | invalidFundryCoinId
  | invalidConfigType
  | invalidAmount
  | invalidCreatorAllocationBps
  | launchRateLimitExceeded
  | launchNotActive
  | launchAlreadyGraduated
  | launchReleaseDelayNotMet
  | launchAlreadyDisputed
  | launchNotDisputed
  | invalidEvidenceHash
  | arithmeticOverflow
  | invalidQualityScore
  | invalidMultiSigSigner
  | insufficientLaunchEscrow

abbrev Outcome (α : Type) := Result LaunchError α

def secondsPerDay : Int := 86400
def maxLaunchesPerDay : Nat := 3
def maxLaunchesPerWeek : Nat := 10
def launchReleaseDelay : Int := 604800
def maxFundryCoinIdLength : Nat := 36
def maxConfigTypeLength : Nat := 16

-- ==== accounts

inductive LaunchStatus where
  | active
  | released
  | disputed
  | resolved
  | graduated
  | abandoned
deriving DecidableEq

/-- `LaunchRecord`, less the fields that keep their first value. -/
structure LaunchRecord where
  agent : Pubkey
  owner : Pubkey
  mint : Pubkey
  fundryCoinId : Bytes
  configType : Bytes
  escrowAmount : Nat
  status : LaunchStatus
  migrationTargetSol : Nat
  creatorAllocationBps : Nat
  qualityScore : Option Nat
  refundPercentage : Option Nat
  graduationPool : Option Pubkey
  disputeReporter : Option Pubkey
  disputeEvidenceHash : Bytes
  commitPhaseEndsAt : Option Int
  createdAt : Int
  updatedAt : Int
  disputedAt : Option Int
  resolvedAt : Option Int
  releasedAt : Option Int
  graduatedAt : Option Int

structure LaunchRateLimit where
  agent : Pubkey
  launchesToday : Nat
  launchesThisWeek : Nat
  lastDayReset : Int
  lastWeekReset : Int
  totalLaunches : Nat
  totalGraduated : Nat
  totalDisputed : Nat

def launchRecordSpace : Nat :=
  8 + (3 * 32 + (4 + 36) + (4 + 16) + 8 + 1 + 8 + 2 + 2 + 2 + 1 + 33 + 33
    + (4 + 64) + (4 + 5 * 32) + (4 + 5 * (32 + 1 + 8)) + 9 + 2 * 8 + 4 * 9
    + 1)

def launchRateLimitSpace : Nat := 8 + (32 + 1 + 1 + 2 * 8 + 4 * 8 + 1)

structure World where
  lamports : Lamports
  config : Option ProtocolConfig
  treasury : Option Treasury
  agents : Pubkey → Option AgentIdentity
  launches : Pubkey → Option LaunchRecord
  rates : Pubkey → Option LaunchRateLimit

def World.setLaunch (w : World) (k : Pubkey) (r : LaunchRecord) : World :=
  { w with launches := update w.launches k (some r) }

def World.setRate (w : World) (k : Pubkey) (r : LaunchRateLimit) : World :=
  { w with rates := update w.rates k (some r) }

-- ==== the rate limit

/-- A counter with the time it counts from, begun anew when `span` has
passed. -/
def renewed (span now : Int) (count : Nat) (since : Int) :
    Outcome (Nat × Int) := do
  let elapsed ← subI64 now since
  .ok (if span ≤ elapsed then (0, now) else (count, since))

/-- The account as `init_if_needed` makes it. -/
def LaunchRateLimit.zeroed : LaunchRateLimit :=
  ⟨defaultPubkey, 0, 0, 0, 0, 0, 0, 0⟩

/-- The rate limit of an agent for one more launch at `now`. -/
def LaunchRateLimit.allow (agent : Pubkey) (now : Int)
    (r : LaunchRateLimit) : Outcome LaunchRateLimit := do
  let r := if r.agent = defaultPubkey then
      { r with
        agent := agent
        lastDayReset := now
        lastWeekReset := now }
    else r
  let day ← renewed secondsPerDay now r.launchesToday r.lastDayReset
  let week ← renewed (7 * secondsPerDay) now r.launchesThisWeek
    r.lastWeekReset
  ensure (day.1 < maxLaunchesPerDay) .launchRateLimitExceeded
  ensure (week.1 < maxLaunchesPerWeek) .launchRateLimitExceeded
  .ok { r with
    launchesToday := Fixed.saturatingAdd 8 day.1 1
    lastDayReset := day.2
    launchesThisWeek := Fixed.saturatingAdd 8 week.1 1
    lastWeekReset := week.2
    totalLaunches := Fixed.saturatingAdd 64 r.totalLaunches 1 }

-- ==== instructions

/-- One character of a UUID. -/
def uuidByte (idx : Nat) (b : UInt8) : Bool :=
  if idx ∈ [8, 13, 18, 23] then b = 45
  else (48 ≤ b ∧ b ≤ 57) ∨ (97 ≤ b ∧ b ≤ 102) ∨ (65 ≤ b ∧ b ≤ 70)

/-- `is_uuid_36`. -/
def isUuid36 (value : Bytes) : Bool :=
  value.length = maxFundryCoinIdLength
    ∧ value.zipIdx.all fun x => uuidByte x.2 x.1

/-- `init_if_needed` of the rate limit. -/
def initRateLimit (env : Env Seed) (l : Lamports) (payer k : Pubkey)
    (o : Option LaunchRateLimit) : Outcome Lamports :=
  match o with
  | some _ => .ok l
  | none => fundRent env l payer k launchRateLimitSpace

/-- `create_trusted_launch`. -/
def createTrustedLaunch (env : Env Seed) (tx : Tx env) (owner mint : Pubkey)
    (fundryCoinId configType : Bytes)
    (escrowAmount migrationTargetSol creatorAllocationBps : Nat)
    (w : World) : Outcome World := do
  let config ← load w.config
  let treasury ← load w.treasury
  let agent := env.pda (.agent owner)
  let identity ← load (w.agents agent)
  ensure (identity.owner = owner) .unauthorized
  requireSigner tx owner
  let k := env.pda (.launch agent mint)
  requireFresh (w.launches k)
  let l₁ ← fundRent env w.lamports owner k launchRecordSpace
  let j := env.pda (.launchRate agent)
  let l₂ ← initRateLimit env l₁ owner j (w.rates j)
  ensure (config.paused = false) .protocolPaused
  ensure (identity.isActive = true) .agentNotActive
  ensure (isUuid36 fundryCoinId = true) .invalidFundryCoinId
  ensure (configType ≠ [] ∧ configType.length ≤ maxConfigTypeLength)
    .invalidConfigType
  ensure (minEscrowAmount ≤ escrowAmount ∧ escrowAmount ≤ maxEscrowAmount)
    .invalidAmount
  ensure (0 < migrationTargetSol) .invalidAmount
  ensure (creatorAllocationBps ≤ 10000) .invalidCreatorAllocationBps
  let rate ← ((w.rates j).getD .zeroed).allow agent tx.clock
  let fee := creationFee escrowAmount false
  let l₃ ← systemTransfer l₂ owner (env.pda .treasury) fee
  let l₄ ← systemTransfer l₃ owner k escrowAmount
  .ok (({ w with
      lamports := l₄
      treasury := some { treasury with
        totalFeesCollected :=
          Fixed.saturatingAdd 64 treasury.totalFeesCollected fee
        updatedAt := tx.clock } }.setLaunch k
    { agent := agent
      owner := owner
      mint := mint
      fundryCoinId := fundryCoinId
      configType := configType
      escrowAmount := escrowAmount
      status := .active
      migrationTargetSol := migrationTargetSol
      creatorAllocationBps := creatorAllocationBps
      qualityScore := none
      refundPercentage := none
      graduationPool := none
      disputeReporter := none
      disputeEvidenceHash := []
      commitPhaseEndsAt := none
      createdAt := tx.clock
      updatedAt := tx.clock
      disputedAt := none
      resolvedAt := none
      releasedAt := none
      graduatedAt := none }).setRate j rate)

/-- Load a record and validate its address. -/
def loadLaunch (env : Env Seed) (w : World) (k : Pubkey) :
    Outcome LaunchRecord := do
  let r ← load (w.launches k)
  requireSeeds env (.launch r.agent r.mint) k
  .ok r

/-- `record_graduation`. -/
def recordGraduation (env : Env Seed) (tx : Tx env)
    (launch owner graduationPool : Pubkey) (w : World) : Outcome World := do
  let r ← loadLaunch env w launch
  ensure (r.owner = owner) .unauthorized
  let j := env.pda (.launchRate r.agent)
  let rate ← load (w.rates j)
  requireSigner tx owner
  ensure (r.status = .active) .launchNotActive
  ensure (r.graduatedAt = none) .launchAlreadyGraduated
  .ok ((w.setLaunch launch
    { r with
      status := .graduated
      graduationPool := some graduationPool
      graduatedAt := some tx.clock
      updatedAt := tx.clock }).setRate j
    { rate with
      totalGraduated := Fixed.saturatingAdd 64 rate.totalGraduated 1 })

/-- `release_launch`. -/
def releaseLaunch (env : Env Seed) (tx : Tx env) (launch owner : Pubkey)
    (w : World) : Outcome World := do
  let r ← loadLaunch env w launch
  ensure (r.owner = owner) .unauthorized
  requireSigner tx owner
  ensure (r.status = .graduated) .launchNotActive
  let graduatedAt ← okOr r.graduatedAt
    (Fault.custom LaunchError.launchNotActive)
  let elapsed ← subI64 tx.clock graduatedAt
  ensure (launchReleaseDelay ≤ elapsed) .launchReleaseDelayNotMet
  let l ← moveLamports w.lamports launch owner r.escrowAmount
    .arithmeticPanic
  .ok ({ w with lamports := l }.setLaunch launch
    { r with
      status := .released
      releasedAt := some tx.clock
      updatedAt := tx.clock })

/-- `dispute_launch`; anyone may report. -/
def disputeLaunch (env : Env Seed) (tx : Tx env) (launch reporter : Pubkey)
    (evidenceHash : Bytes) (w : World) : Outcome World := do
  let r ← loadLaunch env w launch
  let j := env.pda (.launchRate r.agent)
  let rate ← load (w.rates j)
  requireSigner tx reporter
  ensure (r.status = .active ∨ r.status = .graduated) .launchNotActive
  ensure (r.disputedAt = none) .launchAlreadyDisputed
  ensure (evidenceHash ≠ [] ∧ evidenceHash.length ≤ 64) .invalidEvidenceHash
  let commitPhaseEndsAt ← okOr
    (Fixed.checkedAddI 64 tx.clock commitPhaseDuration)
    (Fault.custom LaunchError.arithmeticOverflow)
  .ok ((w.setLaunch launch
    { r with
      status := .disputed
      disputeReporter := some reporter
      disputeEvidenceHash := evidenceHash
      disputedAt := some tx.clock
      commitPhaseEndsAt := some commitPhaseEndsAt
      updatedAt := tx.clock }).setRate j
    { rate with
      totalDisputed := Fixed.saturatingAdd 64 rate.totalDisputed 1 })

/-- `resolve_launch_dispute`. -/
def resolveLaunchDispute (env : Env Seed) (tx : Tx env)
    (launch owner reporter signerOne signerTwo : Pubkey) (qualityScore : Nat)
    (w : World) : Outcome World := do
  let config ← load w.config
  let r ← loadLaunch env w launch
  require (tx.systemOwned owner = true ∧ tx.systemOwned reporter = true)
    .constraintSystemAccount
  requireSigner tx signerOne
  requireSigner tx signerTwo
  ensure (config.paused = false) .protocolPaused
  ensure (qualityScore ≤ 100) .invalidQualityScore
  ensure (if signerOne = signerTwo then signerOne = config.authority
    else signerOne ∈ config.validSigners ∧ signerTwo ∈ config.validSigners)
    .invalidMultiSigSigner
  ensure (r.status = .disputed) .launchNotDisputed
  ensure (owner = r.owner) .unauthorized
  let recorded ← okOr r.disputeReporter
    (Fault.custom LaunchError.launchNotDisputed)
  ensure (reporter = recorded) .unauthorized
  let refundPercentage := calculateRefundFromQuality qualityScore
  let refundAmount := percentOf r.escrowAmount refundPercentage
  let ownerAmount := r.escrowAmount - refundAmount
  ensure (r.escrowAmount ≤ w.lamports.bal launch
    - env.minimumBalance launchRecordSpace) .insufficientLaunchEscrow
  let l₁ ← payLamports w.lamports launch reporter refundAmount
  let l₂ ← payLamports l₁ launch owner ownerAmount
  .ok ({ w with lamports := l₂ }.setLaunch launch
    { r with
      status := .resolved
      qualityScore := some qualityScore
      refundPercentage := some refundPercentage
      resolvedAt := some tx.clock
      releasedAt := some tx.clock
      updatedAt := tx.clock })

-- ==== system

inductive Op where
  | createTrustedLaunch (owner mint : Pubkey) (fundryCoinId configType : Bytes)
      (escrowAmount migrationTargetSol creatorAllocationBps : Nat)
  | recordGraduation (launch owner graduationPool : Pubkey)
  | releaseLaunch (launch owner : Pubkey)
  | disputeLaunch (launch reporter : Pubkey) (evidenceHash : Bytes)
  | resolveLaunchDispute
      (launch owner reporter signerOne signerTwo : Pubkey)
      (qualityScore : Nat)
  | others (config : Option ProtocolConfig) (treasury : Option Treasury)
      (agents : Pubkey → Option AgentIdentity)
  | systemTransfer (src dst : Pubkey) (amount : Nat)

structure Action (env : Env Seed) where
  tx : Tx env
  op : Op

/-- The transition function. -/
def step (env : Env Seed) (a : Action env) (w : World) : Outcome World :=
  match a.op with
  | .createTrustedLaunch owner mint coin config amount target bps =>
    createTrustedLaunch env a.tx owner mint coin config amount target bps w
  | .recordGraduation launch owner pool =>
    recordGraduation env a.tx launch owner pool w
  | .releaseLaunch launch owner => releaseLaunch env a.tx launch owner w
  | .disputeLaunch launch reporter evidence =>
    disputeLaunch env a.tx launch reporter evidence w
  | .resolveLaunchDispute launch owner reporter one two score =>
    resolveLaunchDispute env a.tx launch owner reporter one two score w
  | .others config treasury agents =>
    .ok { w with config := config, treasury := treasury, agents := agents }
  | .systemTransfer src dst n => do
    requireSigner a.tx src
    let l ← Solana.systemTransfer w.lamports src dst n
    .ok { w with lamports := l }

/-- Before any launch. -/
structure Genesis (w : World) : Prop where
  launches : ∀ k, w.launches k = none
  rates : ∀ k, w.rates k = none
  journal : w.lamports.journal = []

-- ==== some launches

namespace Concrete

open Solana.Concrete

/-- The kind of a seed, and what follows it. -/
def coding : Coding Seed where
  code
    | .treasury => (0, ⟨[]⟩, [])
    | .agent owner => (1, owner, [])
    | .launch agent mint => (2, agent, mint.bytes)
    | .launchRate agent => (3, agent, [])
  code_inj {s t} h := by
    cases s <;> cases t <;> simp_all
    next u v => exact congrArg Pubkey.mk h.2

def env : Env Seed := coding.env

/-- An instruction signed by wallets at a time. -/
def act (signers : List UInt8) (clock : UInt32) (op : Op) : Action env :=
  ⟨txOf env coding.wallet_ne_pda signers clock [], op⟩

def balances : List (Pubkey × Nat) := [(wallet 10, 10000000000)]

theorem balances_lt : (balances.map Prod.snd).sum < supplyCap := by
  decide

/-- Wallets 1 to 3 govern, 10 owns the agent. -/
def start : World where
  lamports := Ledger.ofList balances balances_lt
  config := some ⟨wallet 1, wallet 2, wallet 3, false, 0, 0⟩
  treasury := some ⟨wallet 1, 0, 0, 0, 0, 0⟩
  agents := update (fun _ => none) (env.pda (.agent (wallet 10)))
    (some ⟨wallet 10, [97], .trading, 500, 0, true, 0, 0, 0, 0, 0⟩)
  launches _ := none
  rates _ := none

theorem start_genesis : Genesis start :=
  ⟨fun _ => rfl, fun _ => rfl, rfl⟩

def coinId : Bytes :=
  (List.range 36).map fun i => if i ∈ [8, 13, 18, 23] then 45 else 48

/-- The launch of mint `i`. -/
def launchKey (i : UInt8) : Pubkey :=
  env.pda (.launch (env.pda (.agent (wallet 10))) (wallet i))

def create (i : UInt8) (clock : UInt32) : Action env :=
  act [10] clock (.createTrustedLaunch (wallet 10) (wallet i) coinId [97]
    1000000 1 0)

end Concrete

end KamiyoProtocol.Kamiyo.Launch
