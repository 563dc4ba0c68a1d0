/-
What the Kizuna routes are given: the parsed request bodies, the payment
header, the kernel's figures and envelope, and the pure functions of
other modules that read them.

The readers are fields of `Env` and may be any functions; nothing here
depends on how a header is decoded or a signature checked. Amounts that
the code carries as decimal strings or as USDC numbers are the micro-USDC
they stand for.
-/
import KamiyoProtocol.Facilitator.Collateral

namespace KamiyoProtocol.Facilitator

inductive Mode
  | legacy
  | x402
  deriving DecidableEq

/-- `ParsedKizunaRequirement`: the parser has refused a crypto-fast one
without a collateral account. -/
structure KizunaRequirement where
  agentId : String
  repayWallet : String
  lane : Lane
  collateralAccount : Option String
  poolId : Option String
  decisionEnvelope : Option String
  collateralized : lane = .cryptoFast → collateralAccount.isSome = true

/-- `ParsedSettleInput` with a Kizuna requirement, and the merchant of the
request's API key. The parser has refused an empty merchant wallet. -/
structure SettleRequest where
  mode : Mode
  paymentHeader : String
  merchantWallet : String
  asset : String
  requirementAmountRaw : Option String
  requirementNetwork : Option String
  requirementResource : Option String
  kizuna : KizunaRequirement
  apiMerchantWallet : String
  merchant_ne : merchantWallet ≠ ""

/-- `ParsedVerifyInput` with a Kizuna requirement. -/
structure VerifyRequest where
  mode : Mode
  paymentHeader : String
  resource : Option String
  maxAmount : Option Nat
  requirementAmountRaw : Option String
  requirementNetwork : Option String
  requirementPayTo : Option String
  kizuna : KizunaRequirement

/-- `TransferWithAuthorization`. -/
structure TransferAuth where
  validAfter : Nat
  validBefore : Nat
  nonce : String
  signature : String

/-- `ParsedSettleInput` without a Kizuna requirement, the merchant of the
request's API key, and what `parseTransferWithAuthorization` makes of the
two authorizations in the body. A legacy amount that is no number or not
positive is `some 0`. -/
structure PaymentRequest where
  mode : Mode
  paymentHeader : String
  merchantWallet : String
  amount : Option Nat
  asset : String
  requirementAmountRaw : Option String
  requirementNetwork : Option String
  requirementResource : Option String
  apiMerchantWallet : String
  usdcAuthorization : Except String (Option TransferAuth)
  usdcFeeAuthorization : Except String (Option TransferAuth)

/-- `EscrowCreateRequest`; the body's amount is `none` where it is no
number, not positive or over the limit. -/
structure EscrowRequest where
  paymentHeader : String
  merchantWallet : String
  amount : Option Nat
  sessionId : String
  asset : String
  apiMerchantWallet : String

/-- The body of `POST /accounts/:agentId/repay`. -/
structure RepayRequest where
  agentId : String
  source : String
  referenceId : String
  amountMicro : Option Nat
  lane : Option Lane
  poolId : Option String

/-- The body of the collateral and funding routes that move money. -/
structure TransferRequest where
  agentId : String
  lane : Option Lane
  poolId : Option String
  collateralAccount : String
  assetId : String
  referenceId : String
  amountMicro : Option Nat

/-- The body of `POST /internal/jobs/reservations`. -/
structure JobRequest where
  agentId : String
  payerWallet : String
  requestNonce : String
  network : String
  lane : Option Lane
  poolId : Option String
  amountMicro : Option Nat

/-- The body of `POST /internal/jobs/reservations/settle`. -/
structure JobSettleRequest where
  reservationId : Nat
  merchantWallet : String
  amount : Nat
  feeAmount : Nat
  auditRef : String

structure Scheme where
  scheme : String
  network : String

/-- `DecodedPayment`. -/
structure Payment where
  payer : String
  nonce : String
  amount : String
  resource : String
  timestamp : Nat
  signature : String
  authSignature : String

/-- `SessionPaymentHeader`. -/
structure SessionHeader where
  network : String
  token : String
  nonce : Option String

/-- The collateral figures an evaluation is sent. -/
structure KernelCollateral where
  collateralAccount : String
  assetId : String
  availableMicro : Nat
  effectiveCollateralMicro : Nat
  ltvCapBps : Nat
  healthFactor : ℚ

structure KernelEvaluateInput where
  agentId : String
  payerWallet : String
  repayWallet : String
  requestNonce : String
  network : String
  requestedMicro : Nat
  resource : Option String
  payTo : Option String
  maxSingleMicro : Nat
  outstandingMicro : Nat
  prefundAvailableMicro : Option Nat
  lane : Lane
  poolId : String
  mandateSingleLimitMicro : Option Nat
  accountStatus : String
  collateral : Option KernelCollateral

/-- A decision envelope, its signature and validity checked. Its approved
amount is what `BigInt` makes of it, or the error. -/
structure Envelope where
  v2 : Bool
  agentId : String
  payerWallet : String
  repayWallet : Option String
  requestNonce : String
  network : String
  lane : Lane
  poolId : String
  approvedMicro : Except String Nat
  requestHash : Option String

structure KernelEvaluateResult where
  approved : Bool
  approvedMicro : Nat
  availableMicro : Nat
  outstandingMicro : Nat
  lane : Lane
  poolId : String
  decisionEnvelope : Option Envelope

/-- What `hashKizunaRequest` hashes. -/
structure RequestHashInput where
  agentId : String
  repayWallet : String
  payerWallet : String
  requestNonce : String
  network : String
  requestedMicro : Nat
  resource : Option String
  payTo : String
  lane : Lane
  poolId : String
  collateralAccount : Option String

structure Config where
  kizunaEnabled : Bool
  kizunaShadowMode : Bool
  kizunaMaxSingleMicro : Nat
  kizunaReservationTtlMs : Nat
  kizunaKernelFailClosed : Bool
  kizunaEnterprisePoolId : String
  kizunaFastpathPoolId : String
  kizunaEnterpriseRequirePrefund : Bool
  kizunaSecuredOnly : Bool
  kizunaFastpathLtvCapBps : Nat
  kizunaFastpathMinHealthFactor : ℚ
  kizunaFastpathAssetHaircutBps : Nat
  kizunaAllowLegacyAgentIds : Bool
  maxPaymentAgeMs : Nat
  maxSettlementAmount : Nat
  /-- `BASE_TREASURY_ADDRESS`, if it is an address. -/
  baseTreasuryAddress : Option String

/-- The configuration and the readers. What is proved of the routes holds
whatever a reader returns; `Amounts` models the two that read amounts, in
micro-units here. -/
structure Env where
  config : Config
  parsePaymentScheme : String → Option Scheme
  canonicalizeNetwork : String → Option String
  isSupportedNetwork : String → Bool
  decodePaymentHeader : String → Option Payment
  verifyPaymentAuth : Payment → Bool
  isValidPayerForNetwork : String → String → Bool
  parseSignedUsdcAmount : String → Option String → Option Nat
  parseUsdcMicroAmountBigint : String → Option Nat
  isAddress : String → Bool
  isPublicKey : String → Bool
  verifyKizunaDecisionEnvelope : String → Nat → Except String Envelope
  hashKizunaDecisionEnvelope : Envelope → String
  hashKizunaRequest : RequestHashInput → String
  parseSessionPaymentHeader : String → Option SessionHeader
  hashSessionToken : String → String
  /-- `Number` makes a positive number of it. -/
  isPositiveNumber : String → Bool
  /-- `/^0x[0-9a-fA-F]\x7b64\x7d$/`. -/
  isBytes32 : String → Bool
  verifyTransferWithAuthorization : (verifyingContract sender recipient : String)
    → (value : Nat) → TransferAuth → Except String Bool
  /-- The error comes from the network and not from the authorization. -/
  isUpstreamError : String → Bool

def baseMainnetCaip2 : String := "eip155:8453"

def solanaMainnetCaip2 : String := "solana:5eykt4UsFv8P8NJdTREpY1vzqKqZKvdp"

/-- `BASE_USDC`. -/
def baseUsdc : String := "0x833589fCD6eDb6E08f4c7C32D4f71b54bdA02913"

/-- A timestamp below 10^12 is in seconds. -/
def isPaymentFresh (payment : Payment) (maxAgeMs now : Nat) : Bool :=
  let ts := if payment.timestamp < 1000000000000 then payment.timestamp * 1000
    else payment.timestamp
  decide (ts ≤ now ∧ now ≤ ts + maxAgeMs)

/-- `resolvePoolId`: the pool named, or the lane's. -/
def Config.resolvePoolId (config : Config) (lane : Lane)
    (poolId : Option String) : String :=
  poolId.getD
    (if lane = .cryptoFast then config.kizunaFastpathPoolId
      else config.kizunaEnterprisePoolId)

/-- The pool a request is for: its own, or its lane's. -/
def Config.poolId (config : Config) (k : KizunaRequirement) : String :=
  config.resolvePoolId k.lane k.poolId

-- ==== responses

/-- `sendSettleFailure` and `sendVerifyFailure`. -/
structure Failure where
  status : Nat
  reason : String
  message : String

/-- `extensions.kizuna` of a settlement's response. -/
structure SettledCredit where
  debtId : Option Nat
  outstandingMicro : Nat
  fundingConsumedMicro : Nat
  lane : Lane
  poolId : String
  billableEventId : Option Nat
  kernelCommitted : Bool

/-- A settlement answered with `success: true`. `settlementId`, which the
response leaves out, is the settlement a new payment was made for. -/
structure Settled where
  settlementId : Option Nat
  txHash : String
  payer : String
  amount : Nat
  fee : Nat
  network : String
  idempotent : Bool
  credit : Option SettledCredit

/-- An answer of the verify route. -/
structure Verified where
  isValid : Bool
  payer : String
  amount : Nat
  approved : Bool
  approvedMicro : Nat
  availableMicro : Nat
  lockedMicro : Nat
  outstandingMicro : Nat
  lane : Lane
  poolId : String
  fundingMode : FundingMode
  decisionEnvelope : Option Envelope
  replayed : Bool
  invalidReason : Option String

/-- A repayment answered with `ok: true`. -/
structure RepayAnswer where
  idempotent : Bool
  debitedMicro : Nat
  appliedMicro : Nat
  outstandingMicro : Nat

/-- What a request is answered; `thrown` is left to the error handler. -/
inductive Response
  | failed (f : Failure)
  | thrown (message : String)
  | settled (s : Settled)
  | verified (v : Verified)
  | escrowed (txHash : String)
  | repaid (r : RepayAnswer)
  | reserved (reservationId : Nat)
  | applied

end KamiyoProtocol.Facilitator
