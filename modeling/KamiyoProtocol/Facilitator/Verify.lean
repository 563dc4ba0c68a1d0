/-
`routes/verify.ts`: `POST /verify` with a Kizuna requirement.

The route reads the agent's figures, asks the kernel, records the
decision and reserves what was approved. The four reads the source
starts together are awaited here in the order it lists them.
-/
import KamiyoProtocol.Facilitator.Checks

namespace KamiyoProtocol.Facilitator

open Exec

/-- The request once its body and payment are accepted. -/
structure AcceptedVerify where
  payment : Payment
  network : String
  poolId : String
  requestedMicro : Nat

/-- The checks before the first await. -/
def acceptVerify (env : Env) (q : VerifyRequest) (now : Nat) :
    Except Failure AcceptedVerify := do
  let (scheme, network) ← acceptScheme env q.paymentHeader
    q.requirementNetwork
  require env.config.kizunaEnabled
    ⟨400, "kizuna_disabled", "Kizuna credit mode is disabled"⟩
  require (scheme.scheme ≠ "session")
    ⟨400, "invalid_request", "Kizuna does not support session payment headers"⟩
  let payment ← acceptPayment env q.paymentHeader network now
  let raw ← okOr q.requirementAmountRaw
    ⟨400, "invalid_amount", "Missing payment requirement amount"⟩
  require (¬ (env.config.kizunaSecuredOnly = true
      ∧ q.kizuna.lane ≠ .cryptoFast))
    ⟨403, "kizuna_lane_disabled",
      "Enterprise lane is disabled in secured-only mode"⟩
  let requestedMicro ← okOr (env.parseUsdcMicroAmountBigint raw)
    ⟨400, "invalid_amount", "Invalid payment requirement amount"⟩
  require (∀ maxAmount ∈ q.maxAmount, requestedMicro ≤ maxAmount)
    ⟨400, "amount_exceeds_maximum", "Amount exceeds maximum"⟩
  require (requestedMicro ≤ env.config.maxSettlementAmount)
    ⟨400, "amount_exceeds_limit", "Amount exceeds facilitator limit"⟩
  return ⟨payment, network, env.config.poolId q.kizuna, requestedMicro⟩

def accountMissing : Failure :=
  ⟨404, "kizuna_account_not_found", "Kizuna account not found"⟩

/-- The account found, if it is active. -/
def checkActive (account : Option Account) : Except Failure Account := do
  let account ← okOr account accountMissing
  require (account.status = "active") accountMissing
  return account

/-- The checks on the account and its registry identity. -/
def checkVerifyAccount (env : Env) (q : VerifyRequest) (a : AcceptedVerify)
    (account : Account) (identity : Option Bool) : Except Failure Unit := do
  let isLegacy := decide (account.registrySyncSource = some "legacy")
  require (identity = some true
      ∨ (env.config.kizunaAllowLegacyAgentIds && isLegacy) = true)
    ⟨409, "kizuna_identity_unsynced",
      "Kizuna identity is not synced with Agent Registry"⟩
  if !isLegacy then
    require (account.registryActive = some true)
      ⟨409, "kizuna_identity_inactive", "Agent Registry identity is inactive"⟩
    require (Db.getAuthorizedRegistryWallet account = some a.payment.payer)
      ⟨400, "kizuna_identity_wallet_mismatch",
        "Payment payer does not match the registered agent wallet"⟩
  require (account.payerWallet = a.payment.payer)
    ⟨400, "payer_mismatch", "Kizuna payer mismatch"⟩
  require (account.repayWallet = q.kizuna.repayWallet)
    ⟨400, "repay_wallet_mismatch", "Kizuna repay wallet mismatch"⟩

/-- A nonce seen before is answered from its reservation. -/
def replayVerify (env : Env) (q : VerifyRequest) (a : AcceptedVerify)
    (now : Nat) (r : ReservationView) : Handler :=
  if r.row.lane ≠ q.kizuna.lane ∨ r.row.poolId ≠ a.poolId then
    fail ⟨409, "kizuna_cross_lane_replay",
      "Reservation exists for different lane or pool"⟩
  else
    let stillReserved :=
      decide (r.row.status = .reserved ∧ now < r.row.expiresAt)
    let settled := decide (r.row.status = .consumed)
    let effective := settled || stillReserved || env.config.kizunaShadowMode
    .done (.verified {
      isValid := effective
      payer := a.payment.payer
      amount := a.requestedMicro
      approved := r.decision.approved
      approvedMicro := r.decision.approvedMicro
      availableMicro := r.decision.availableMicro
      lockedMicro := r.row.lockedMicro
      outstandingMicro := r.decision.outstandingMicro
      lane := r.row.lane
      poolId := r.row.poolId
      fundingMode := r.row.fundingMode
      decisionEnvelope := none
      replayed := true
      invalidReason :=
        if effective then none else some "kizuna_reservation_inactive" })

-- ==== figures

/-- The agent's figures once read. -/
structure Figures where
  outstandingMicro : Nat
  pool : Option FastpathPool
  balance : Option EnterpriseBalance

/-- Whether the enterprise lane is to be prefunded for this request. -/
def requiresPrefund (env : Env) (q : VerifyRequest) : Bool :=
  decide (q.kizuna.lane = .enterprise)
    && env.config.kizunaEnterpriseRequirePrefund

def Figures.prefundAvailable (f : Figures) : Nat :=
  (f.balance.map EnterpriseBalance.availableMicro).getD 0

/-- The checks on the figures. -/
def checkFigures (env : Env) (q : VerifyRequest) (a : AcceptedVerify)
    (snapshot : Option Unit) (f : Figures) : Except Failure Unit := do
  require (snapshot = some ()) accountMissing
  require (q.kizuna.lane = .cryptoFast
      → ∃ pool ∈ f.pool, pool.status = "active")
    ⟨409, "kizuna_pool_unavailable", "Fast path pool is unavailable"⟩
  require (requiresPrefund env q = true → a.requestedMicro ≤ f.prefundAvailable)
    ⟨409, "kizuna_prefund_insufficient",
      "Insufficient prefunded balance for enterprise lane"⟩

/-- The kernel's collateral figures: those of the account named, at the
pool's cap or, for a cap of zero, the configured one. -/
def kernelCollateral (env : Env) (collateralAccount : String) (f : Figures)
    (position : Option PositionView) (summary : Option CollateralSummary) :
    Option KernelCollateral :=
  match position, summary with
  | some x, some s =>
    let ltvCapBps := (f.pool.map FastpathPool.ltvCapBps).getD 0
    some {
      collateralAccount := collateralAccount
      assetId := x.assetId
      availableMicro := x.totalAvailableMicro
      effectiveCollateralMicro := x.effectiveCollateralMicro
      ltvCapBps := if ltvCapBps = 0 then env.config.kizunaFastpathLtvCapBps
        else ltvCapBps
      healthFactor := s.healthFactor }
  | _, _ => none

/-- What the kernel is sent. -/
def kernelInput (env : Env) (q : VerifyRequest) (a : AcceptedVerify)
    (account : Account) (f : Figures) (mandate : Option Nat)
    (collateral : Option KernelCollateral) : KernelEvaluateInput :=
  let single := mandate.getD (account.mandateSingleLimitMicro.getD 0)
  { agentId := q.kizuna.agentId
    payerWallet := a.payment.payer
    repayWallet := q.kizuna.repayWallet
    requestNonce := a.payment.nonce
    network := a.network
    requestedMicro := a.requestedMicro
    resource := if a.payment.resource = "" then q.resource
      else some a.payment.resource
    payTo := q.requirementPayTo
    maxSingleMicro := match q.kizuna.lane, f.pool with
      | .cryptoFast, some pool => pool.maxSingleMicro
      | _, _ => env.config.kizunaMaxSingleMicro
    outstandingMicro := f.outstandingMicro
    prefundAvailableMicro := if q.kizuna.lane = .enterprise then
        f.balance.map EnterpriseBalance.availableMicro
      else none
    lane := q.kizuna.lane
    poolId := a.poolId
    mandateSingleLimitMicro := if 0 < single then some single else none
    accountStatus := account.status
    collateral := collateral }

-- ==== reservation

/-- What the decision leaves to be approved. -/
def approvedMicro (env : Env) (q : VerifyRequest) (f : Figures)
    (decision : KernelEvaluateResult) : Nat :=
  min decision.approvedMicro
    (if requiresPrefund env q then
      min decision.availableMicro f.prefundAvailable
    else decision.availableMicro)

def fundingMode (env : Env) (q : VerifyRequest) : FundingMode :=
  if requiresPrefund env q then .prefunded
  else if q.kizuna.lane = .cryptoFast then .collateralized
  else .none

/-- The answer once the credit is reserved, or there is none. -/
def answerVerify (env : Env) (q : VerifyRequest) (a : AcceptedVerify)
    (f : Figures) (decision : KernelEvaluateResult) (lockedMicro : Nat)
    (mode : FundingMode) : Handler :=
  let approved := approvedMicro env q f decision
  let effective := decision.approved && decide (0 < approved)
  .done (.verified {
    isValid := effective
    payer := a.payment.payer
    amount := a.requestedMicro
    approved := effective
    approvedMicro := approved
    availableMicro := if requiresPrefund env q then
        min decision.availableMicro f.prefundAvailable
      else decision.availableMicro
    lockedMicro := lockedMicro
    outstandingMicro := decision.outstandingMicro
    lane := decision.lane
    poolId := decision.poolId
    fundingMode := mode
    decisionEnvelope := decision.decisionEnvelope
    replayed := false
    invalidReason := if effective then none else some "kizuna_credit_denied" })

/-- The decision as it is recorded. -/
def decisionRow (env : Env) (q : VerifyRequest) (a : AcceptedVerify)
    (decision : KernelEvaluateResult) : Decision where
  agentId := q.kizuna.agentId
  payerWallet := a.payment.payer
  repayWallet := q.kizuna.repayWallet
  requestNonce := a.payment.nonce
  network := a.network
  lane := decision.lane
  poolId := decision.poolId
  requestedMicro := a.requestedMicro
  approved := decision.approved
  approvedMicro := decision.approvedMicro
  availableMicro := decision.availableMicro
  outstandingMicro := decision.outstandingMicro
  decisionEnvelopeHash :=
    decision.decisionEnvelope.map env.hashKizunaDecisionEnvelope

/-- The reservation asked for on a decision. -/
def reservationFor (env : Env) (q : VerifyRequest) (a : AcceptedVerify)
    (f : Figures) (decision : KernelEvaluateResult) (decisionId : Nat) :
    CreateReservation where
  decisionId := decisionId
  agentId := q.kizuna.agentId
  payerWallet := a.payment.payer
  requestNonce := a.payment.nonce
  network := a.network
  lane := decision.lane
  poolId := decision.poolId
  amountMicro := approvedMicro env q f decision
  ttlMs := env.config.kizunaReservationTtlMs
  fundingMode := some (fundingMode env q)
  lockedMicro := if fundingMode env q = .prefunded then
      approvedMicro env q f decision
    else 0

/-- From the kernel's answer on. -/
def reserve (env : Env) (q : VerifyRequest) (a : AcceptedVerify)
    (f : Figures) (input : KernelEvaluateInput)
    (decision : KernelEvaluateResult) : Handler :=
  call (.insertKizunaUnderwriteDecision (decisionRow env q a decision))
    fun _ (stored : Stored Decision) =>
  let p := reservationFor env q a f decision stored.id
  if 0 < p.amountMicro then
    attempt (.createKizunaReservation p (some input))
      (fun e =>
        if e = "kizuna_prefund_insufficient" then
          fail ⟨409, "kizuna_prefund_insufficient",
            "Insufficient prefunded balance for enterprise lane"⟩
        else
          call (.getKizunaReservationByNonce a.payment.payer a.payment.nonce)
            fun _ (view : Option ReservationView) =>
          match view with
          | none =>
            fail ⟨500, "server_error", "Failed to reserve Kizuna credit"⟩
          | some r =>
            answerVerify env q a f decision r.row.lockedMicro
              r.row.fundingMode)
      fun _ (r : Stored Reservation) =>
      answerVerify env q a f decision r.row.lockedMicro r.row.fundingMode
  else answerVerify env q a f decision p.lockedMicro (fundingMode env q)

/-- Ask the kernel, then reserve. -/
def evaluate (env : Env) (q : VerifyRequest) (a : AcceptedVerify)
    (f : Figures) (input : KernelEvaluateInput) : Handler :=
  attempt (.evaluateKizunaKernelDecision input)
    (fun e => fail ⟨503, "kizuna_kernel_unavailable",
      "Kizuna kernel evaluate failed: " ++ e⟩)
    fun _ (decision : KernelEvaluateResult) => reserve env q a f input decision

/-- From the mandate to the kernel. The collateral is read in the
crypto-fast lane only. -/
def proceed (env : Env) (q : VerifyRequest) (a : AcceptedVerify)
    (account : Account) (f : Figures) (mandate : Option Nat) : Handler :=
  if h : q.kizuna.lane = .cryptoFast then
    let collateralAccount :=
      q.kizuna.collateralAccount.get (q.kizuna.collateralized h)
    call (.getKizunaCollateralPosition q.kizuna.agentId a.poolId
      collateralAccount) fun _ (position : Option PositionView) =>
    call (.getKizunaCollateralSummary q.kizuna.agentId a.poolId)
      fun _ (summary : Option CollateralSummary) =>
    evaluate env q a f (kernelInput env q a account f mandate
      (kernelCollateral env collateralAccount f position summary))
  else evaluate env q a f (kernelInput env q a account f mandate none)

/-- From the figures to the kernel. A failed lookup of the mandate leaves
the cached limit. -/
def underwrite (env : Env) (q : VerifyRequest) (a : AcceptedVerify)
    (account : Account) (f : Figures) : Handler :=
  attempt (.getKizunaMandateLimits q.kizuna.agentId)
    (fun _ => proceed env q a account f none)
    fun _ (mandate : Option Nat) => proceed env q a account f mandate

/-- Check the figures, then go on. -/
def gathered (env : Env) (q : VerifyRequest) (a : AcceptedVerify)
    (account : Account) (snapshot : Option Unit) (f : Figures) : Handler :=
  check (checkFigures env q a snapshot f) fun _ =>
  underwrite env q a account f

/-- `POST /verify` with a Kizuna requirement. -/
def verifyKizuna (env : Env) (q : VerifyRequest) (now : Nat) : Handler :=
  check (acceptVerify env q now) fun a =>
  call (.getKizunaAccount q.kizuna.agentId) fun _ (found : Option Account) =>
  check (checkActive found) fun account =>
  call (.buildKizunaIdentityPayload account) fun _ (identity : Option Bool) =>
  check (checkVerifyAccount env q a account identity) fun _ =>
  call (.getKizunaReservationByNonce a.payment.payer a.payment.nonce)
    fun now (view : Option ReservationView) =>
  match view with
  | some r => replayVerify env q a now r
  | none =>
    call (.getKizunaUnderwriteSnapshot q.kizuna.agentId a.payment.payer)
      fun _ (snapshot : Option Unit) =>
    call (.getKizunaOutstandingMicro q.kizuna.agentId q.kizuna.lane
      a.poolId) fun _ (outstandingMicro : Nat) =>
    if q.kizuna.lane = .cryptoFast then
      call (.getKizunaFastpathPool a.poolId)
        fun _ (pool : Option FastpathPool) =>
      gathered env q a account snapshot ⟨outstandingMicro, pool, none⟩
    else if env.config.kizunaEnterpriseRequirePrefund then
      call (.getKizunaEnterpriseBalance q.kizuna.agentId a.poolId)
        fun _ (balance : Option EnterpriseBalance) =>
      gathered env q a account snapshot ⟨outstandingMicro, none, balance⟩
    else gathered env q a account snapshot ⟨outstandingMicro, none, none⟩

end KamiyoProtocol.Facilitator
