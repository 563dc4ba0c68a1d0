/-
`routes/kizuna.ts`: repayments, collateral, prefunding and the internal
job routes.

The withdrawal of collateral predicts the health of the pool before it
asks for the event; the repayment reads what is owed, debits the credits
service and then applies what was debited. Reads the source starts
together are awaited here in the order it lists them.
-/
import KamiyoProtocol.Facilitator.Checks

namespace KamiyoProtocol.Facilitator

open Exec

def sendError (status : Nat) (error : String) : Failure := ⟨status, "", error⟩

def kizunaDisabled : Failure := sendError 404 "Kizuna is disabled"

-- ==== repayments

/-- The checks of a repayment, its amount and its lane. -/
def acceptRepay (env : Env) (q : RepayRequest) :
    Except Failure (Nat × Lane) := do
  require env.config.kizunaEnabled kizunaDisabled
  let lane ← okOr q.lane
    (sendError 400 "lane must be enterprise or crypto-fast")
  let missing :=
    sendError 400 "agentId, amountMicro, and referenceId are required"
  require (q.agentId ≠ "" ∧ q.referenceId ≠ "") missing
  let requestedMicro ← okOr q.amountMicro missing
  require (requestedMicro ≠ 0) missing
  require (q.source = "credits")
    (sendError 400 "Only source=credits is supported")
  return (requestedMicro, lane)

/-- What a repayment answers when its debit or its booking throws. -/
def repaymentFailed (message : String) : Failure :=
  if "INSUFFICIENT_BALANCE".toList <:+: message.toList
      ∨ "insufficient".toList <:+: message.toList then
    sendError 409 message
  else sendError 502 message

/-- `POST /accounts/:agentId/repay`. -/
def repayKizuna (env : Env) (q : RepayRequest) : Handler :=
  check (acceptRepay env q) fun (requestedMicro, lane) =>
  call (.getKizunaAccount q.agentId) fun _ (found : Option Account) =>
  match found with
  | none => fail (sendError 404 "Kizuna account not found")
  | some account =>
    let poolId := env.config.resolvePoolId lane q.poolId
    call (.getKizunaOutstandingMicro q.agentId lane poolId)
      fun _ (outstandingMicro : Nat) =>
    if outstandingMicro = 0 then .done (.repaid ⟨false, 0, 0, 0⟩)
    else
      let failed (message : String) : Handler := fail (repaymentFailed message)
      attempt (.debitKizunaCredits {
          wallet := account.repayWallet
          amountMicro := min requestedMicro outstandingMicro
          referenceId := q.referenceId }) failed
        fun _ (debited : DebitResult) =>
      attempt (.applyKizunaRepayment {
          agentId := q.agentId
          amountMicro := debited.debitedMicro
          referenceId := q.referenceId
          lane := some lane
          poolId := some poolId }) failed
        fun _ (result : RepaymentResult) =>
      ignore (.ingestKizunaKernel q.referenceId) <|
      .done (.repaid {
        idempotent := debited.idempotent || result.idempotent
        debitedMicro := debited.debitedMicro
        appliedMicro := result.repayment.appliedMicro
        outstandingMicro := result.outstandingMicro })

-- ==== collateral

/-- The checks of a collateral event, its amount and its lane. -/
def acceptCollateral (env : Env) (q : TransferRequest) :
    Except Failure (Nat × Lane) := do
  require env.config.kizunaEnabled kizunaDisabled
  let missing := sendError 400 ("agentId, lane, collateralAccount, "
    ++ "amountMicro, and referenceId are required")
  require (q.agentId ≠ "") missing
  let lane ← okOr q.lane missing
  require (q.collateralAccount ≠ "" ∧ q.referenceId ≠ "") missing
  let amountMicro ← okOr q.amountMicro missing
  require (amountMicro ≠ 0) missing
  require (¬ (env.config.kizunaSecuredOnly = true ∧ lane ≠ .cryptoFast))
    (sendError 403 "Enterprise lane is disabled in secured-only mode")
  require (q.assetId = "usdc")
    (sendError 400 "Only USDC collateral is supported")
  return (amountMicro, lane)

/-- The pool of a request whose account and pool are known. -/
def withPool (q : TransferRequest) (poolId : String)
    (k : PoolView → Handler) : Handler :=
  call (.getKizunaAccount q.agentId) fun _ (account : Option Account) =>
  call (.getKizunaPool poolId) fun _ (pool : Option PoolView) =>
  match account, pool with
  | none, _ => fail (sendError 404 "Kizuna account not found")
  | some _, none => fail (sendError 404 "Kizuna pool not found")
  | some _, some pool => k pool

/-- The event itself. -/
def applyCollateral (q : TransferRequest) (lane : Lane) (poolId : String)
    (amountMicro : Nat) (eventType : CollateralEventType) : Handler :=
  attempt (.applyKizunaCollateralEvent {
      agentId := q.agentId
      lane := lane
      poolId := poolId
      collateralAccount := q.collateralAccount
      assetId := q.assetId
      amountMicro := amountMicro
      eventType := eventType
      referenceId := q.referenceId })
    (fun e => fail (sendError 409 e)) fun _ (_ : CollateralResult) =>
  ignore (.ingestKizunaKernel q.referenceId) (.done .applied)

/-- `POST /collateral/:agentId/confirm`. -/
def depositCollateral (env : Env) (q : TransferRequest) : Handler :=
  check (acceptCollateral env q) fun (amountMicro, lane) =>
  let poolId := env.config.resolvePoolId lane q.poolId
  withPool q poolId fun _ =>
  applyCollateral q lane poolId amountMicro .deposit

/-- The health the pool is predicted to have after a withdrawal. -/
def predictedHealth (env : Env) (pool : PoolView) (asset : AssetView)
    (effectiveAvailable : Nat) (summary : CollateralSummary)
    (amountMicro : Nat) : ℚ :=
  let effectiveWithdraw :=
    if 0 < asset.availableMicro then
      amountMicro * effectiveAvailable / asset.availableMicro
    else
      amountMicro * (10000 - env.config.kizunaFastpathAssetHaircutBps) / 10000
  let nextEffective := summary.effectiveCollateralMicro - effectiveWithdraw
  let ltvCapBps := match pool.ltvCapBps with
    | some bps => if bps = 0 then env.config.kizunaFastpathLtvCapBps else bps
    | none => env.config.kizunaFastpathLtvCapBps
  if 0 < summary.outstandingMicro then
    healthFactor nextEffective ltvCapBps summary.outstandingMicro
  else 9999

/-- The checks of a crypto-fast withdrawal. What `BigInt` does not take is
thrown. -/
def checkWithdrawal (env : Env) (q : TransferRequest) (pool : PoolView)
    (summary : Option CollateralSummary) (position : Option PositionView)
    (amountMicro : Nat) : Except (Failure ⊕ String) Unit := do
  let missing : Failure ⊕ String :=
    .inl (sendError 409 "kizuna_collateral_position_missing")
  let summary ← okOr summary missing
  let position ← okOr position missing
  let asset ← okOr (position.assets.find? fun x => x.assetId = q.assetId)
    (.inl (sendError 409 "kizuna_collateral_asset_missing"))
  require (amountMicro ≤ asset.availableMicro)
    (.inl (sendError 409
      "kizuna_collateral_withdraw_insufficient_available"))
  let effectiveAvailable ← okOr asset.effectiveCollateral.toBigInt
    (.inr "SyntaxError")
  let minHealthFactor :=
    pool.minHealthFactor.getD env.config.kizunaFastpathMinHealthFactor
  require (minHealthFactor ≤ predictedHealth env pool asset
    effectiveAvailable summary amountMicro)
    (.inl (sendError 409 "kizuna_health_factor_unsafe"))

/-- `POST /collateral/:agentId/withdraw`. -/
def withdrawCollateral (env : Env) (q : TransferRequest) : Handler :=
  check (acceptCollateral env q) fun (amountMicro, lane) =>
  let poolId := env.config.resolvePoolId lane q.poolId
  withPool q poolId fun pool =>
  if lane = .cryptoFast then
    call (.getKizunaCollateralSummary q.agentId poolId)
      fun _ (summary : Option CollateralSummary) =>
    call (.getKizunaCollateralPosition q.agentId poolId q.collateralAccount)
      fun _ (position : Option PositionView) =>
    match checkWithdrawal env q pool summary position amountMicro with
    | .error (.inl f) => fail f
    | .error (.inr e) => .done (.thrown e)
    | .ok _ => applyCollateral q lane poolId amountMicro .withdraw
  else applyCollateral q lane poolId amountMicro .withdraw

-- ==== funding

/-- The checks of a funding event and its amount; the lane is the
enterprise lane. -/
def acceptFunding (env : Env) (q : TransferRequest) :
    Except Failure Nat := do
  require env.config.kizunaEnabled kizunaDisabled
  let missing :=
    sendError 400 "agentId, amountMicro, and referenceId are required"
  require (q.agentId ≠ "" ∧ q.referenceId ≠ "") missing
  let amountMicro ← okOr q.amountMicro missing
  require (amountMicro ≠ 0) missing
  require (q.lane.getD .enterprise = .enterprise)
    (sendError 400 "Funding APIs are enterprise lane only")
  return amountMicro

/-- `POST /funding/:agentId/confirm` and `.../withdraw`. -/
def fundKizuna (env : Env) (q : TransferRequest)
    (eventType : FundingEventType) : Handler :=
  check (acceptFunding env q) fun amountMicro =>
  let poolId := env.config.resolvePoolId .enterprise q.poolId
  call (.getKizunaAccount q.agentId) fun _ (account : Option Account) =>
  call (.getKizunaPool poolId) fun _ (pool : Option PoolView) =>
  if account = none then fail (sendError 404 "Kizuna account not found")
  else if ∀ view ∈ pool, view.lane ≠ .enterprise then
    fail (sendError 404 "Enterprise pool not found")
  else
    attempt (.applyKizunaFundingEvent {
        agentId := q.agentId
        lane := .enterprise
        poolId := poolId
        referenceId := q.referenceId
        eventType := eventType
        amountMicro := amountMicro })
      (fun e => fail (sendError 409 e)) fun _ (_ : FundingResult) =>
    .done .applied

-- ==== jobs

/-- The checks of a job's reservation, its amount and its lane. -/
def acceptJob (env : Env) (q : JobRequest) : Except Failure (Nat × Lane) := do
  require env.config.kizunaEnabled kizunaDisabled
  let missing := sendError 400
    "agentId, payerWallet, requestNonce, lane, and amountMicro are required"
  require (q.agentId ≠ "" ∧ q.payerWallet ≠ "" ∧ q.requestNonce ≠ "") missing
  let lane ← okOr q.lane missing
  let amountMicro ← okOr q.amountMicro missing
  require (amountMicro ≠ 0) missing
  return (amountMicro, lane)

/-- Decision and reservation of a job, which asks no kernel. -/
def reserveCredit (env : Env) (q : JobRequest) (account : Account)
    (lane : Lane) (poolId : String) (amountMicro outstandingMicro
    approvedMicro : Nat) (mode : FundingMode) : Handler :=
  let failed (message : String) : Handler := fail (sendError 500 message)
  let network := if q.network = "" then "solana" else q.network
  attempt (.insertKizunaUnderwriteDecision {
      agentId := q.agentId
      payerWallet := q.payerWallet
      repayWallet := account.repayWallet
      requestNonce := q.requestNonce
      network := network
      lane := lane
      poolId := poolId
      requestedMicro := amountMicro
      approved := decide (0 < approvedMicro)
      approvedMicro := approvedMicro
      availableMicro := approvedMicro
      outstandingMicro := outstandingMicro
      decisionEnvelopeHash := none })
    failed fun _ (decision : Stored Decision) =>
  if approvedMicro = 0 then
    fail (sendError 409 "Kizuna reservation rejected")
  else
    attempt (.createKizunaReservation {
        decisionId := decision.id
        agentId := q.agentId
        payerWallet := q.payerWallet
        requestNonce := q.requestNonce
        network := network
        lane := lane
        poolId := poolId
        amountMicro := approvedMicro
        ttlMs := env.config.kizunaReservationTtlMs
        fundingMode := some mode
        lockedMicro := if mode = .prefunded then approvedMicro else 0 }
      none) failed fun _ (r : Stored Reservation) =>
    .done (.reserved r.id)

/-- `POST /internal/jobs/reservations`. -/
def reserveJob (env : Env) (q : JobRequest) : Handler :=
  let failed (message : String) : Handler := fail (sendError 500 message)
  check (acceptJob env q) fun (amountMicro, lane) =>
  attempt (.getKizunaReservationByNonce q.payerWallet q.requestNonce) failed
    fun _ (replay : Option ReservationView) =>
  match replay with
  | some r => .done (.reserved r.id)
  | none =>
    attempt (.getKizunaAccount q.agentId) failed
      fun _ (found : Option Account) =>
    let checked : Except Failure Account := do
      let account ← okOr found (sendError 404 "Kizuna account not found")
      require (account.status = "active")
        (sendError 409 "Kizuna account is not active")
      require (account.payerWallet = q.payerWallet)
        (sendError 400 "payerWallet does not match the Kizuna account")
      return account
    check checked fun account =>
    let poolId := env.config.resolvePoolId lane q.poolId
    attempt (.getKizunaOutstandingMicro q.agentId lane poolId) failed
      fun _ (outstandingMicro : Nat) =>
    let maxSingleMicro := env.config.kizunaMaxSingleMicro
    let availableMicro := min (min amountMicro maxSingleMicro)
      (account.mandateSingleLimitMicro.getD maxSingleMicro)
    if lane = .enterprise ∧ env.config.kizunaEnterpriseRequirePrefund then
      attempt (.getKizunaEnterpriseBalance q.agentId poolId) failed
        fun _ (balance : Option EnterpriseBalance) =>
      let prefundAvailable :=
        (balance.map EnterpriseBalance.availableMicro).getD 0
      reserveCredit env q account lane poolId amountMicro outstandingMicro
        (min availableMicro prefundAvailable) .prefunded
    else
      reserveCredit env q account lane poolId amountMicro outstandingMicro
        availableMicro
        (if lane = .cryptoFast then .collateralized else .none)

/-- `POST /internal/jobs/reservations/settle`. -/
def settleJob (env : Env) (q : JobSettleRequest) : Handler :=
  let failed (message : String) : Handler := fail (sendError 500 message)
  if ¬ env.config.kizunaEnabled then fail kizunaDisabled
  else if q.merchantWallet = "" ∨ q.auditRef = "" ∨ q.amount = 0 then
    fail (sendError 400
      "reservationId, merchantWallet, amount, and auditRef are required")
  else
    attempt (.getKizunaDebtByReservationId q.reservationId) failed
      fun _ (debt : Option (Stored Debt)) =>
    match debt with
    | some d =>
      attempt (.getKizunaBillableSettlementEvent q.reservationId
        (some d.row.settlementId)) failed
        fun _ (_ : Option (Stored BillableEvent)) => .done .applied
    | none =>
      attempt (.getKizunaReservationById q.reservationId) failed
        fun _ (view : Option ReservationView) =>
      match view with
      | none => fail (sendError 404 "Reservation not found")
      | some r =>
        if r.row.status ≠ .reserved then
          fail (sendError 409 ("Reservation is " ++ r.row.status.text))
        else
          attempt (.insertSettlement {
              merchantWallet := q.merchantWallet
              payerWallet := r.row.payerWallet
              amount := q.amount
              feeAmount := q.feeAmount
              txHash := q.auditRef
              status := .confirmed
              network := r.row.network }) failed
            fun _ (settlement : Stored Settlement) =>
          attempt (.finalizeKizunaSettlement {
              reservationId := q.reservationId
              settlementId := settlement.id
              txHash := q.auditRef
              feeAmount := q.feeAmount
              lane := some r.row.lane
              poolId := some r.row.poolId
              decisionEnvelopeHash := none }) failed
            fun _ (_ : FinalizeResult) =>
          attempt (.getKizunaBillableSettlementEvent q.reservationId
            (some settlement.id)) failed
            fun _ (_ : Option (Stored BillableEvent)) => .done .applied

end KamiyoProtocol.Facilitator
