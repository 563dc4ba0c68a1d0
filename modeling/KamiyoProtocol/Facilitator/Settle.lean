/-
`routes/settle.ts`: `POST /settle` with a Kizuna requirement.

The stretches between two awaits are checks that pass or answer a
failure; the route strings them together in the source's order. Past the
checks it inserts a settlement, transfers, and finalizes, all inside one
`try`. Its `catch` marks the settlement failed and, when no transfer was
reported, releases the reservation.
-/
import KamiyoProtocol.Facilitator.Checks

namespace KamiyoProtocol.Facilitator

open Exec

/-- The request once its body and payment are accepted. -/
structure Accepted where
  payment : Payment
  network : String
  poolId : String
  amount : Nat
  amountMicro : Nat

/-- The checks before the first await. -/
def acceptSettle (env : Env) (q : SettleRequest) (now : Nat) :
    Except Failure Accepted := do
  require (q.asset = "USDC")
    ⟨400, "unsupported_asset", "Only USDC supported"⟩
  let (scheme, network) ← acceptScheme env q.paymentHeader
    q.requirementNetwork
  require env.config.kizunaEnabled
    ⟨400, "kizuna_disabled", "Kizuna credit mode is disabled"⟩
  require (q.mode = .x402)
    ⟨400, "invalid_request", "Kizuna requires x402 paymentRequirements"⟩
  require (scheme.scheme ≠ "session")
    ⟨400, "invalid_request", "Kizuna does not support session payment headers"⟩
  let payment ← acceptPayment env q.paymentHeader network now
  let raw ← okOr q.requirementAmountRaw
    ⟨400, "invalid_amount", "Missing paymentRequirements.amount"⟩
  require (¬ (env.config.kizunaSecuredOnly = true
      ∧ q.kizuna.lane ≠ .cryptoFast))
    ⟨403, "kizuna_lane_disabled",
      "Enterprise lane is disabled in secured-only mode"⟩
  let amount ← okOr (env.parseSignedUsdcAmount payment.amount (some raw))
    ⟨400, "amount_mismatch", "Amount mismatch with payment requirements"⟩
  let amountMicro ← okOr (env.parseUsdcMicroAmountBigint raw)
    ⟨400, "invalid_amount", "Invalid paymentRequirements.amount"⟩
  require (∀ required ∈ q.requirementResource,
    payment.resource = "" ∨ required = payment.resource)
    ⟨400, "resource_mismatch", "Resource mismatch with payment requirements"⟩
  require (amount ≤ env.config.maxSettlementAmount)
    ⟨400, "amount_exceeds_limit", "Amount exceeds limit"⟩
  checkMerchant env network q.apiMerchantWallet q.merchantWallet
  return {
    payment := payment
    network := network
    poolId := env.config.poolId q.kizuna
    amount := amount
    amountMicro := amountMicro }

/-- The checks on the account. -/
def checkSettleAccount (q : SettleRequest) (a : Accepted)
    (account : Option Account) : Except Failure Unit := do
  let missing : Failure :=
    ⟨404, "kizuna_account_not_found", "Kizuna account not found"⟩
  let account ← okOr account missing
  require (account.status = "active") missing
  require (account.payerWallet = a.payment.payer)
    ⟨400, "payer_mismatch", "Kizuna payer mismatch"⟩
  require (account.repayWallet = q.kizuna.repayWallet)
    ⟨400, "repay_wallet_mismatch", "Kizuna repay wallet mismatch"⟩

/-- The checks on the reservation that come before its status. -/
def checkReservation (q : SettleRequest) (a : Accepted)
    (view : Option ReservationView) : Except Failure ReservationView := do
  let r ← okOr view
    ⟨409, "kizuna_reservation_missing", "No active Kizuna reservation"⟩
  require (r.row.lane = q.kizuna.lane ∧ r.row.poolId = a.poolId)
    ⟨409, "kizuna_cross_lane_replay",
      "Reservation lane or pool does not match request"⟩
  require (r.row.agentId = q.kizuna.agentId)
    ⟨400, "kizuna_agent_mismatch", "Kizuna reservation agent mismatch"⟩
  require (r.row.network = a.network)
    ⟨400, "network_mismatch", "Kizuna reservation network mismatch"⟩
  return r

/-- The checks on the decision envelope. -/
def checkEnvelope (env : Env) (q : SettleRequest) (a : Accepted)
    (hash : String) (envelope : Envelope) : Except Failure Unit := do
  require (env.hashKizunaDecisionEnvelope envelope = hash)
    ⟨400, "kizuna_envelope_mismatch",
      "Decision envelope does not match reservation"⟩
  require (envelope.agentId = q.kizuna.agentId)
    ⟨400, "kizuna_agent_mismatch", "Envelope agent mismatch"⟩
  require (envelope.payerWallet = a.payment.payer)
    ⟨400, "payer_mismatch", "Envelope payer mismatch"⟩
  require (∀ wallet ∈ envelope.repayWallet, wallet = q.kizuna.repayWallet)
    ⟨400, "repay_wallet_mismatch", "Envelope repay wallet mismatch"⟩
  require (envelope.requestNonce = a.payment.nonce)
    ⟨400, "replayed_payment", "Envelope nonce mismatch"⟩
  require (envelope.network = a.network)
    ⟨400, "network_mismatch", "Envelope network mismatch"⟩
  require (envelope.lane = q.kizuna.lane ∧ envelope.poolId = a.poolId)
    ⟨400, "kizuna_cross_lane_replay", "Envelope lane/pool mismatch"⟩
  let approved ← match envelope.approvedMicro with
    | .ok approved => pure approved
    | .error e => throw ⟨400, "kizuna_envelope_invalid",
        "Invalid decision envelope: " ++ e⟩
  require (a.amountMicro ≤ approved)
    ⟨400, "kizuna_amount_exceeds_reservation",
      "Amount exceeds envelope-approved credit"⟩
  if envelope.v2 then
    let requestHash := env.hashKizunaRequest {
      agentId := q.kizuna.agentId
      repayWallet := q.kizuna.repayWallet
      payerWallet := a.payment.payer
      requestNonce := a.payment.nonce
      network := a.network
      requestedMicro := a.amountMicro
      resource := if a.payment.resource = "" then q.requirementResource
        else some a.payment.resource
      payTo := q.merchantWallet
      lane := q.kizuna.lane
      poolId := a.poolId
      collateralAccount := q.kizuna.collateralAccount }
    require (envelope.requestHash = some requestHash)
      ⟨400, "kizuna_envelope_mismatch",
        "Decision envelope request hash mismatch"⟩

/-- The checks on amount and envelope, and the envelope's hash for a
decision that has one. -/
def checkCredit (env : Env) (q : SettleRequest) (a : Accepted)
    (r : ReservationView) (now : Nat) : Except Failure (Option String) := do
  require (a.amountMicro ≤ r.row.amountMicro)
    ⟨400, "kizuna_amount_exceeds_reservation",
      "Requested amount exceeds reserved credit"⟩
  match r.decision.decisionEnvelopeHash with
  | none => return none
  | some hash =>
    let raw ← okOr q.kizuna.decisionEnvelope
      ⟨400, "kizuna_envelope_missing",
        "Kizuna decisionEnvelope is required for settlement"⟩
    match env.verifyKizunaDecisionEnvelope raw now with
    | .error e =>
      throw ⟨400, "kizuna_envelope_invalid", "Invalid decision envelope: " ++ e⟩
    | .ok envelope =>
      checkEnvelope env q a hash envelope
      return some hash

-- ==== replay

/-- The answer to a repeated request. -/
def answerReplay (a : Accepted) (r : ReservationView)
    (debt : Option (Stored Debt)) (settlementId : Option Nat)
    (txHash : String) (kernelCommitted : Bool) : Handler :=
  call (.getKizunaBillableSettlementEvent r.id settlementId)
    fun _ (event : Option (Stored BillableEvent)) =>
  call (.getSettlementById settlementId)
    fun _ (settlement : Option Settlement) =>
  .done (.settled {
    settlementId := none
    txHash := txHash
    payer := a.payment.payer
    amount := a.amount
    fee := (settlement.map Settlement.feeAmount).getD 0
    network := a.network
    idempotent := true
    credit := some {
      debtId := debt.map Stored.id
      outstandingMicro := (debt.map fun d => d.row.outstandingMicro).getD 0
      fundingConsumedMicro :=
        if r.row.fundingMode = .prefunded then r.row.lockedMicro else 0
      lane := r.row.lane
      poolId := r.row.poolId
      billableEventId := event.map Stored.id
      kernelCommitted := kernelCommitted } })

/-- A commit the kernel did not take: an error where the kernel is
required, and otherwise said in the answer. -/
def uncommitted (env : Env) (answer : Bool → Handler) (e : String) :
    Handler :=
  if env.config.kizunaKernelFailClosed && !env.config.kizunaShadowMode then
    fail ⟨503, "kizuna_kernel_unavailable",
      "Kizuna kernel commit failed after settlement; "
        ++ "retry settle to finalize: " ++ e⟩
  else answer false

/-- A debt, or for a prefunded enterprise reservation its lock, answers a
repeated request. -/
def replaySettle (env : Env) (a : Accepted) (r : ReservationView) : Handler :=
  let consumed : Failure :=
    ⟨409, "kizuna_reservation_consumed", "Kizuna reservation already consumed"⟩
  call (.getKizunaDebtByReservationId r.id)
    fun _ (debt : Option (Stored Debt)) =>
  match r.row.txHash with
  | none => fail consumed
  | some txHash =>
    if debt = none ∧ ¬ r.row.isPrefundedEnterprise then fail consumed
    else
      let settlementId := match debt with
        | some d => some d.row.settlementId
        | none => r.row.settlementId
      let answer := answerReplay a r debt settlementId txHash
      attempt (.commitKizunaKernelDecision {
          decisionId := r.row.decisionId
          debtId := debt.map Stored.id
          settlementId := settlementId
          txHash := txHash
          lane := r.row.lane
          poolId := r.row.poolId })
        (uncommitted env answer) fun _ _ => answer true

-- ==== payment

/-- The `catch` of the payment. `settlementId` and `paid` are how far it
got. -/
def abandon (reservationId : Nat) (settlementId : Option Nat) (paid : Bool)
    (message : String) : Handler :=
  let failed : Handler :=
    fail ⟨500, "settlement_failed", "Settlement failed: " ++ message⟩
  let released : Handler :=
    if paid then failed
    else ignore (.releaseKizunaReservation reservationId .released) failed
  match settlementId with
  | none => released
  | some id => ignore (.updateSettlementStatus id .failed) released

/-- The answer to a settlement. -/
def answerSettle (a : Accepted) (onchain : Onchain) (settlementId : Nat)
    (result : FinalizeResult) (billableEventId : Option Nat)
    (kernelCommitted : Bool) : Handler :=
  .done (.settled {
    settlementId := some settlementId
    txHash := onchain.txHash
    payer := a.payment.payer
    amount := a.amount
    fee := onchain.fee
    network := a.network
    idempotent := false
    credit := some {
      debtId := result.debt.map Stored.id
      outstandingMicro :=
        (result.debt.map fun d => d.row.outstandingMicro).getD 0
      fundingConsumedMicro := result.fundingConsumedMicro
      lane := result.lane
      poolId := result.poolId
      billableEventId := billableEventId
      kernelCommitted := kernelCommitted } })

/-- From the fee to the response. -/
def paySettle (env : Env) (q : SettleRequest) (a : Accepted)
    (r : ReservationView) (envelopeHash : Option String) : Handler :=
  attempt (.effectiveFeeBps q.merchantWallet) (abandon r.id none false)
    fun _ (feeBps : Nat) =>
  attempt (.insertSettlement {
      merchantWallet := q.merchantWallet
      payerWallet := a.payment.payer
      amount := a.amount
      feeAmount := 0
      txHash := ""
      status := .pending
      network := a.network })
    (abandon r.id none false) fun _ (settlement : Stored Settlement) =>
  attempt (.settlePayment {
      purpose := .credit r.id
      payerWallet := a.payment.payer
      nonce := a.payment.nonce
      settlementId := some settlement.id
      network := a.network
      merchantWallet := q.merchantWallet
      amount := a.amount
      feeBps := feeBps })
    (abandon r.id (some settlement.id) false) fun _ (onchain : Onchain) =>
  attempt (.finalizeKizunaSettlement {
      reservationId := r.id
      settlementId := settlement.id
      txHash := onchain.txHash
      feeAmount := onchain.fee
      lane := some q.kizuna.lane
      poolId := some a.poolId
      decisionEnvelopeHash := envelopeHash })
    (abandon r.id (some settlement.id) true) fun _ (result : FinalizeResult) =>
  attempt (.getKizunaBillableSettlementEvent r.id (some settlement.id))
    (abandon r.id (some settlement.id) true)
    fun _ (event : Option (Stored BillableEvent)) =>
  let answer :=
    answerSettle a onchain settlement.id result (event.map Stored.id)
  attempt (.commitKizunaKernelDecision {
      decisionId := r.row.decisionId
      debtId := result.debt.map Stored.id
      settlementId := some settlement.id
      txHash := onchain.txHash
      lane := q.kizuna.lane
      poolId := a.poolId })
    (uncommitted env answer) fun _ _ => answer true

/-- What the status of the reservation found decides. -/
def settleReservation (env : Env) (q : SettleRequest) (a : Accepted)
    (now : Nat) (r : ReservationView) : Handler :=
  if r.row.status = .consumed then replaySettle env a r
  else if r.row.status ≠ .reserved then
    fail ⟨409, "kizuna_reservation_inactive",
      "Kizuna reservation is " ++ r.row.status.text⟩
  else if r.row.expiresAt ≤ now then
    ignore (.releaseKizunaReservation r.id .expired)
      (fail ⟨409, "kizuna_reservation_expired", "Kizuna reservation expired"⟩)
  else
    check (checkCredit env q a r now) fun envelopeHash =>
    paySettle env q a r envelopeHash

/-- `POST /settle` with a Kizuna requirement. -/
def settleKizuna (env : Env) (q : SettleRequest) (now : Nat) : Handler :=
  check (acceptSettle env q now) fun a =>
  call (.getKizunaAccount q.kizuna.agentId) fun _ (account : Option Account) =>
  check (checkSettleAccount q a account) fun _ =>
  call (.getKizunaReservationByNonce a.payment.payer a.payment.nonce)
    fun now (view : Option ReservationView) =>
  check (checkReservation q a view) fun r =>
  settleReservation env q a now r

end KamiyoProtocol.Facilitator
