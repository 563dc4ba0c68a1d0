/-
`routes/settle.ts`: `POST /settle` without a Kizuna requirement, and
`POST /escrow/create`.

A signed payment is settled once its nonce is guarded. On Base the payer
may have authorized the transfer; otherwise the facilitator pays. A
session pays with the payer's allowance, within the session's budget. An
escrow is opened with the payer's money.
-/
import KamiyoProtocol.Facilitator.Checks

namespace KamiyoProtocol.Facilitator

open Exec

-- ==== replay

/-- The answer to a nonce that is guarded already: the settlement it was
used for, if a hash is known. -/
def replayPayment (payer nonce network : String) (amount : Nat) : Handler :=
  let replayed : Handler :=
    fail ⟨409, "replayed_payment", "Payment nonce already used"⟩
  let answer (txHash : String) (settlement : Option Settlement) : Handler :=
    .done (.settled {
      settlementId := none
      txHash := txHash
      payer := payer
      amount := (settlement.map Settlement.amount).getD amount
      fee := (settlement.map Settlement.feeAmount).getD 0
      network := network
      idempotent := true
      credit := none })
  attempt (.getPaymentNonceGuard payer nonce) (fun _ => replayed)
    fun _ (guard : Option NonceGuard) =>
  match guard.bind NonceGuard.txHash with
  | none => replayed
  | some txHash =>
    match guard.bind NonceGuard.settlementId with
    | none => answer txHash none
    | some id =>
      attempt (.getSettlementById (some id)) (fun _ => answer txHash none)
        fun _ (settlement : Option Settlement) => answer txHash settlement

/-- Record a payment that was executed, and answer. A failure here is
answered all the same. -/
def recordPayment (payer nonce network : String) (amount settlementId : Nat)
    (onchain : Onchain) : Handler :=
  let answer : Handler :=
    .done (.settled {
      settlementId := some settlementId
      txHash := onchain.txHash
      payer := payer
      amount := amount
      fee := onchain.fee
      network := network
      idempotent := false
      credit := none })
  let rescue (_ : String) : Handler :=
    ignore (.setPaymentNonceTxHash payer nonce onchain.txHash) answer
  attempt (.updateSettlementConfirmed settlementId onchain.txHash onchain.fee)
    rescue fun _ (_ : Unit) =>
  attempt (.insertFeeLedger onchain.fee onchain.txHash) rescue
    fun _ (_ : Unit) =>
  attempt (.setPaymentNonceTxHash payer nonce onchain.txHash) rescue
    fun _ (_ : Unit) => answer

def settlementFailed (message : String) : Handler :=
  fail ⟨500, "settlement_failed", "Settlement failed: " ++ message⟩

-- ==== sessions

/-- Token hash and nonce of a session's header. -/
def acceptSession (env : Env) (q : PaymentRequest) (network : String) :
    Except Failure (String × String) := do
  let malformed : Failure :=
    ⟨400, "invalid_session_header", "Malformed session payment header"⟩
  let header ← okOr (env.parseSessionPaymentHeader q.paymentHeader) malformed
  require (env.canonicalizeNetwork header.network = some network) malformed
  let nonce ← okOr header.nonce
    ⟨400, "missing_nonce", "Session payment header must include a nonce"⟩
  require (q.mode = .x402)
    ⟨400, "invalid_request",
      "Session payments require x402 paymentRequirements"⟩
  return (env.hashSessionToken header.token, nonce)

/-- The checks on the session found, and the amount asked for. -/
def checkSession (env : Env) (q : PaymentRequest) (network : String)
    (found : Option PaymentSession) (now : Nat) :
    Except Failure (PaymentSession × Nat) := do
  let session ← okOr found
    ⟨401, "invalid_session", "Invalid or unknown session token"⟩
  require (session.revokedAt = none)
    ⟨401, "session_revoked", "Session token revoked"⟩
  require (now < session.expiresAt)
    ⟨401, "session_expired", "Session token expired"⟩
  require (env.canonicalizeNetwork session.network = some network)
    ⟨400, "network_mismatch",
      "Session network does not match payment payload network"⟩
  require (session.merchantWallet = q.merchantWallet)
    ⟨400, "merchant_mismatch", "Session token not valid for this merchant"⟩
  let raw ← okOr q.requirementAmountRaw
    ⟨400, "invalid_amount", "Missing paymentRequirements.amount"⟩
  let amountMicro ← okOr (env.parseUsdcMicroAmountBigint raw)
    ⟨400, "invalid_amount", "Invalid paymentRequirements.amount"⟩
  require (session.spentMicro ≤ session.maxTotalMicro)
    ⟨500, "server_error", "Invalid session limits"⟩
  require (amountMicro ≤ session.maxTotalMicro - session.spentMicro)
    ⟨400, "amount_exceeds_limit", "Amount exceeds remaining session cap"⟩
  require (∀ maxSingleMicro ∈ session.maxSingleMicro,
    amountMicro ≤ maxSingleMicro)
    ⟨400, "amount_exceeds_limit", "Amount exceeds session per-request limit"⟩
  require (amountMicro ≤ env.config.maxSettlementAmount)
    ⟨400, "amount_exceeds_limit", "Amount exceeds limit"⟩
  checkMerchant env network q.apiMerchantWallet q.merchantWallet
  return (session, amountMicro)

/-- The `catch` of a session's payment, which took nothing if `paid` is
not set: nonce and budget are given back. -/
def abandonSession (tokenHash payer nonce : String) (amountMicro : Nat)
    (settlementId : Option Nat) (message : String) : Handler :=
  let released : Handler :=
    call (.releasePaymentSessionSpend tokenHash amountMicro)
      fun _ (_ : Unit) =>
    ignore (.deletePaymentNonceGuard payer nonce) (settlementFailed message)
  match settlementId with
  | none => released
  | some id =>
    call (.updateSettlementStatus id .failed) fun _ (_ : Unit) => released

/-- From the budget to the response. -/
def paySession (q : PaymentRequest) (network tokenHash nonce : String)
    (session : PaymentSession) (amountMicro : Nat) : Handler :=
  let payer := session.payerWallet
  let abandon := abandonSession tokenHash payer nonce amountMicro
  attempt (.insertSettlement {
      merchantWallet := q.merchantWallet
      payerWallet := payer
      amount := amountMicro
      feeAmount := 0
      txHash := ""
      status := .pending
      network := network })
    (abandon none) fun _ (settlement : Stored Settlement) =>
  ignore (.setPaymentNonceSettlementId payer nonce settlement.id) <|
  attempt (.effectiveFeeBps q.merchantWallet) (abandon (some settlement.id))
    fun _ (feeBps : Nat) =>
  attempt (.settleDelegatedPayment {
      purpose := .session tokenHash
      payerWallet := payer
      nonce := nonce
      settlementId := some settlement.id
      network := network
      merchantWallet := q.merchantWallet
      amount := amountMicro
      feeBps := feeBps })
    (abandon (some settlement.id)) fun _ (onchain : Onchain) =>
  recordPayment payer nonce network amountMicro settlement.id onchain

/-- The session branch. -/
def settleSession (env : Env) (q : PaymentRequest) (network : String) :
    Handler :=
  check (acceptSession env q network) fun (tokenHash, nonce) =>
  call (.getPaymentSessionByTokenHash tokenHash)
    fun now (found : Option PaymentSession) =>
  check (checkSession env q network found now) fun (session, amountMicro) =>
  attempt (.reservePaymentNonce session.payerWallet nonce)
    (fun _ => fail ⟨500, "server_error", "Failed to reserve payment nonce"⟩)
    fun _ (nonceReserved : Bool) =>
  if nonceReserved then
    call (.reservePaymentSessionSpend tokenHash amountMicro)
      fun _ (budgetReserved : Bool) =>
    if budgetReserved then
      paySession q network tokenHash nonce session amountMicro
    else
      ignore (.deletePaymentNonceGuard session.payerWallet nonce)
        (fail ⟨400, "amount_exceeds_limit",
          "Amount exceeds remaining session cap"⟩)
  else replayPayment session.payerWallet nonce network amountMicro

-- ==== signed payments

/-- The checks on a signed payment. -/
def acceptExact (env : Env) (q : PaymentRequest) (network : String)
    (now : Nat) : Except Failure (Payment × Nat) := do
  let payment ← acceptPayment env q.paymentHeader network now
  require (env.isPositiveNumber payment.amount)
    ⟨400, "invalid_amount", "Invalid amount"⟩
  let expected := match q.mode with
    | .x402 => q.requirementAmountRaw
    | .legacy => q.amount.map toString
  let signedAmount ← okOr (env.parseSignedUsdcAmount payment.amount expected)
    ⟨400, "amount_mismatch", match q.mode with
      | .x402 => "Amount mismatch with payment requirements"
      | .legacy => "Amount mismatch with signed payload"⟩
  require (∀ required ∈ q.requirementResource,
    payment.resource = "" ∨ required = payment.resource)
    ⟨400, "resource_mismatch", "Resource mismatch with payment requirements"⟩
  let amount := match q.mode with
    | .x402 => signedAmount
    | .legacy => q.amount.getD 0
  require (amount ≤ env.config.maxSettlementAmount)
    ⟨400, "amount_exceeds_limit", "Amount exceeds limit"⟩
  require (q.mode = .legacy → signedAmount = amount)
    ⟨400, "amount_mismatch", "Amount mismatch with signed payload"⟩
  checkMerchant env network q.apiMerchantWallet q.merchantWallet
  return (payment, amount)

/-- The window of an authorization, in seconds. -/
def checkWindow (label : String) (auth : TransferAuth) (now : Nat) :
    Except String Unit := do
  require (auth.validAfter ≤ now / 1000)
    (label ++ ".validAfter is in the future")
  require (now / 1000 < auth.validBefore)
    (label ++ ".validBefore already expired")

/-- The amount that is to be authorized. -/
def authorizedMicro (env : Env) (q : PaymentRequest) (order : Order) :
    Except String Nat :=
  match q.requirementAmountRaw with
  | some raw => okOr (env.parseUsdcMicroAmountBigint raw) "Invalid amount"
  | none => .ok order.amount

/-- The checks on the authorizations before the domain is known, and the
order they stand for. -/
def checkAuthorization (env : Env) (q : PaymentRequest) (payment : Payment)
    (order : Order) (auth : TransferAuth) (hasCode : Bool) (now : Nat) :
    Except String Order := do
  require (hasCode = false)
    "Payer must be an EOA for transferWithAuthorization"
  let totalMicro ← authorizedMicro env q order
  let order := { order with amount := totalMicro }
  require (order.net ≠ 0) "Net amount after fees is zero or negative"
  checkWindow "usdcAuthorization" auth now
  require (env.isBytes32 payment.nonce = true
    → auth.nonce.toLower = payment.nonce.toLower)
    "usdcAuthorization.nonce does not match payment nonce"
  return order

/-- The signatures, once the domain is known. -/
def checkSignatures (env : Env) (order : Order) (auth : TransferAuth)
    (feeAuth : Option TransferAuth) (verifyingContract : String)
    (now : Nat) : Except String Unit := do
  require (verifyingContract.toLower = baseUsdc.toLower)
    "Unexpected USDC verifyingContract"
  let signed ← env.verifyTransferWithAuthorization verifyingContract
    order.payerWallet order.merchantWallet order.net auth
  require signed "Invalid usdcAuthorization signature"
  match env.config.baseTreasuryAddress with
  | none => pure ()
  | some treasury =>
    if order.fee = 0 then pure ()
    else
      let feeAuth ← okOr feeAuth "Missing usdcFeeAuthorization"
      require (feeAuth.nonce.toLower ≠ auth.nonce.toLower)
        ("usdcFeeAuthorization.nonce must be different from "
          ++ "usdcAuthorization.nonce")
      checkWindow "usdcFeeAuthorization" feeAuth now
      let signed ← env.verifyTransferWithAuthorization verifyingContract
        order.payerWallet treasury order.fee feeAuth
      require signed "Invalid usdcFeeAuthorization signature"

/-- The outer `catch`, which keeps the guard. -/
def failExact (settlementId : Nat) (message : String) : Handler :=
  call (.updateSettlementStatus settlementId .failed) fun _ (_ : Unit) =>
  settlementFailed message

/-- An authorization refused: the guard is given back. -/
def refuseAuthorization (payment : Payment) (settlementId : Nat)
    (f : Failure) : Handler :=
  attempt (.updateSettlementStatus settlementId .failed)
    (failExact settlementId) fun _ (_ : Unit) =>
  ignore (.deletePaymentNonceGuard payment.payer payment.nonce) (fail f)

/-- What the error of an authorized payment is answered with. -/
def authorizationFailure (env : Env) (message : String) : Failure :=
  if env.isUpstreamError message then
    ⟨502, "upstream_error", "Upstream error: " ++ message⟩
  else ⟨400, "invalid_usdc_authorization",
    "Invalid USDC authorization: " ++ message⟩

/-- The payer's authorized transfer. -/
def payAuthorized (env : Env) (q : PaymentRequest) (payment : Payment)
    (order : Order) (settlementId : Nat) (auth : TransferAuth)
    (feeAuth : Option TransferAuth) (record : Onchain → Handler) : Handler :=
  let refuse (message : String) : Handler :=
    refuseAuthorization payment settlementId (authorizationFailure env message)
  attempt (.getCode payment.payer) refuse fun now (hasCode : Bool) =>
  match checkAuthorization env q payment order auth hasCode now with
  | .error e => refuse e
  | .ok order =>
    attempt .getBaseUsdcEip712Domain refuse
      fun _ (verifyingContract : String) =>
    match checkSignatures env order auth feeAuth verifyingContract now with
    | .error e => refuse e
    | .ok _ =>
      attempt (.settleAuthorizedPaymentBase order) refuse
        fun _ (onchain : Onchain) => record onchain

/-- From the fee to the response. -/
def payExact (env : Env) (q : PaymentRequest) (network : String)
    (payment : Payment) (amount settlementId : Nat) : Handler :=
  let record :=
    recordPayment payment.payer payment.nonce network amount settlementId
  attempt (.effectiveFeeBps q.merchantWallet) (failExact settlementId)
    fun _ (feeBps : Nat) =>
  let order : Order := {
    purpose := .exact
    payerWallet := payment.payer
    nonce := payment.nonce
    settlementId := some settlementId
    network := network
    merchantWallet := q.merchantWallet
    amount := amount
    feeBps := feeBps }
  let front : Handler :=
    attempt (.settlePayment order) (failExact settlementId)
      fun _ (onchain : Onchain) => record onchain
  if network = baseMainnetCaip2 then
    let parsed : Except String (Option TransferAuth × Option TransferAuth) :=
      do return (← q.usdcAuthorization, ← q.usdcFeeAuthorization)
    match parsed with
    | .error e =>
      refuseAuthorization payment settlementId
        ⟨400, "invalid_usdc_authorization", "Invalid USDC authorization: " ++ e⟩
    | .ok (none, _) => front
    | .ok (some auth, feeAuth) =>
      payAuthorized env q payment order settlementId auth feeAuth record
  else front

/-- The branch of signed payments. -/
def settleExact (env : Env) (q : PaymentRequest) (network : String)
    (now : Nat) : Handler :=
  check (acceptExact env q network now) fun (payment, amount) =>
  call (.reservePaymentNonce payment.payer payment.nonce)
    fun _ (nonceReserved : Bool) =>
  if nonceReserved then
    call (.insertSettlement {
        merchantWallet := q.merchantWallet
        payerWallet := payment.payer
        amount := amount
        feeAmount := 0
        txHash := ""
        status := .pending
        network := network }) fun _ (settlement : Stored Settlement) =>
    ignore (.setPaymentNonceSettlementId payment.payer payment.nonce
      settlement.id) <|
    payExact env q network payment amount settlement.id
  else replayPayment payment.payer payment.nonce network amount

/-- `POST /settle` without a Kizuna requirement. -/
def settlePlain (env : Env) (q : PaymentRequest) (now : Nat) : Handler :=
  let accepted : Except Failure (Scheme × String) := do
    require (q.asset = "USDC")
      ⟨400, "unsupported_asset", "Only USDC supported"⟩
    let (scheme, network) ← acceptScheme env q.paymentHeader
      q.requirementNetwork
    require (q.mode = .legacy → ∃ amount ∈ q.amount, amount ≠ 0)
      ⟨400, "invalid_amount", "Invalid amount"⟩
    return (scheme, network)
  check accepted fun (scheme, network) =>
  if scheme.scheme = "session" then settleSession env q network
  else settleExact env q network now

-- ==== escrows

/-- The checks of `POST /escrow/create` before its first await. -/
def acceptEscrow (env : Env) (q : EscrowRequest) (now : Nat) :
    Except Failure (Payment × Nat) := do
  require (q.paymentHeader ≠ "" ∧ q.merchantWallet ≠ "" ∧ q.sessionId ≠ "")
    ⟨400, "", "Missing required fields"⟩
  require (env.isPublicKey q.merchantWallet)
    ⟨400, "", "Invalid merchant wallet"⟩
  require (q.apiMerchantWallet = q.merchantWallet)
    ⟨403, "", "Merchant wallet does not match API key"⟩
  require (q.asset = "USDC") ⟨400, "", "Only USDC supported"⟩
  require (q.paymentHeader.length ≤ 4096)
    ⟨400, "", "Invalid payment header"⟩
  let unsupported : Failure := ⟨400, "", "Unsupported network"⟩
  let scheme ← okOr (env.parsePaymentScheme q.paymentHeader) unsupported
  require (env.canonicalizeNetwork scheme.network = some solanaMainnetCaip2)
    unsupported
  let payment ← okOr (env.decodePaymentHeader q.paymentHeader)
    ⟨400, "", "Malformed payment header"⟩
  require (isPaymentFresh payment env.config.maxPaymentAgeMs now)
    ⟨400, "", "Payment expired"⟩
  require (env.verifyPaymentAuth payment) ⟨400, "", "Invalid signature"⟩
  let amount ← okOr q.amount ⟨400, "", "Invalid amount"⟩
  require (env.isPositiveNumber payment.amount)
    ⟨400, "", "Invalid signed amount"⟩
  require (env.parseSignedUsdcAmount payment.amount (some (toString amount))
    = some amount)
    ⟨400, "", "Amount mismatch with signed payload"⟩
  return (payment, amount)

/-- `POST /escrow/create`. -/
def createEscrowRoute (env : Env) (q : EscrowRequest) (now : Nat) :
    Handler :=
  check (acceptEscrow env q now) fun (payment, amount) =>
  call (.reservePaymentNonce payment.payer payment.nonce)
    fun _ (nonceReserved : Bool) =>
  if ¬ nonceReserved then fail ⟨409, "", "Payment nonce already used"⟩
  else if 256 < q.sessionId.length then
    fail ⟨400, "", "Invalid sessionId"⟩
  else if ¬ env.isPublicKey payment.payer then
    fail ⟨400, "", "Invalid payer wallet"⟩
  else
    let order : Order := {
      purpose := .escrow q.sessionId
      payerWallet := payment.payer
      nonce := payment.nonce
      settlementId := none
      network := solanaMainnetCaip2
      merchantWallet := q.merchantWallet
      amount := amount
      feeBps := 0 }
    let failed (message : String) : Handler := fail ⟨500, "", message⟩
    attempt (.createEscrow order) failed fun _ (created : Onchain) =>
    attempt (.insertEscrowRecord order) failed fun _ (_ : Unit) =>
    attempt (.insertFeeLedger 0 created.txHash) failed fun _ (_ : Unit) =>
    .done (.escrowed created.txHash)

end KamiyoProtocol.Facilitator
