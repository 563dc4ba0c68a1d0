/-
A facilitator to run: one agent with a prefunded balance and a collateral
position, one payer, one merchant, the two pools. The readers accept
headers that are the nonce of the payment they carry.
-/
import KamiyoProtocol.Facilitator.Service

namespace KamiyoProtocol.Facilitator.Concrete

def solana : String := solanaMainnetCaip2

def config : Config where
  kizunaEnabled := true
  kizunaShadowMode := false
  kizunaMaxSingleMicro := 2000000
  kizunaReservationTtlMs := 120000
  kizunaKernelFailClosed := true
  kizunaEnterprisePoolId := "enterprise-main"
  kizunaFastpathPoolId := "fastpath-main"
  kizunaEnterpriseRequirePrefund := true
  kizunaSecuredOnly := false
  kizunaFastpathLtvCapBps := 4000
  kizunaFastpathMinHealthFactor := 9 / 5
  kizunaFastpathAssetHaircutBps := 0
  kizunaAllowLegacyAgentIds := false
  maxPaymentAgeMs := 300000
  maxSettlementAmount := 10000000000000
  baseTreasuryAddress := some "treasury"

/-- Amounts that occur in the runs. -/
def micro (raw : String) : Option Nat :=
  if raw = "1000000" then some 1000000
  else if raw = "2000000000000" then some 2000000000000
  else none

def env : Env where
  config := config
  parsePaymentScheme _ := some ⟨"exact", solana⟩
  canonicalizeNetwork network := some network
  isSupportedNetwork network := decide (network = solana)
  decodePaymentHeader header := some ⟨"payer", header, "1000000",
    "/resource", 1700000000000, "signature", "authSignature"⟩
  verifyPaymentAuth _ := true
  isValidPayerForNetwork _ _ := true
  parseSignedUsdcAmount _ raw := raw.bind micro
  parseUsdcMicroAmountBigint := micro
  isAddress _ := false
  isPublicKey _ := true
  verifyKizunaDecisionEnvelope _ _ := .error "kizuna_kernel_invalid_envelope"
  hashKizunaDecisionEnvelope _ := ""
  hashKizunaRequest _ := ""
  parseSessionPaymentHeader header :=
    if header = "" then none else some ⟨solana, "token", some header⟩
  hashSessionToken token := token
  isPositiveNumber _ := true
  isBytes32 _ := false
  verifyTransferWithAuthorization _ _ _ _ _ := .ok true
  isUpstreamError _ := false

/-- The requirement of the enterprise lane. -/
def enterprise : KizunaRequirement where
  agentId := "agent"
  repayWallet := "repay"
  lane := .enterprise
  collateralAccount := none
  poolId := none
  decisionEnvelope := none
  collateralized := by decide

/-- The requirement of the crypto-fast lane. -/
def fastpath : KizunaRequirement where
  agentId := "agent"
  repayWallet := "repay"
  lane := .cryptoFast
  collateralAccount := some "collateral"
  poolId := none
  decisionEnvelope := none
  collateralized := by decide

def verify (k : KizunaRequirement) (nonce amount : String) : Action :=
  .arrive (.verify {
    mode := .x402
    paymentHeader := nonce
    resource := none
    maxAmount := none
    requirementAmountRaw := some amount
    requirementNetwork := some solana
    requirementPayTo := some "merchant"
    kizuna := k }) 1700000000000

def settle (k : KizunaRequirement) (nonce amount : String) : Action :=
  .arrive (.settle {
    mode := .x402
    paymentHeader := nonce
    merchantWallet := "merchant"
    asset := "USDC"
    requirementAmountRaw := some amount
    requirementNetwork := some solana
    requirementResource := none
    kizuna := k
    apiMerchantWallet := "merchant"
    merchant_ne := by decide }) 1700000001000

/-- A signed payment, settled without credit. -/
def pay (nonce amount : String) : Action :=
  .arrive (.pay {
    mode := .x402
    paymentHeader := nonce
    merchantWallet := "merchant"
    amount := none
    asset := "USDC"
    requirementAmountRaw := some amount
    requirementNetwork := some solana
    requirementResource := none
    apiMerchantWallet := "merchant"
    usdcAuthorization := .ok none
    usdcFeeAuthorization := .ok none }) 1700000001000

/-- Everything goes well, in the second minute, and the kernel approves
`approved` in the lane asked for. -/
def well (lane : Lane) (approved : Nat) : Choice where
  outcome := .succeeds
  clock := 1700000001000
  now := 1700000001000
  txHash := "tx"
  feeBps := 100
  mandateSingleMicro := none
  feePaid := true
  hasCode := false
  verifyingContract := baseUsdc
  kernel :=
    { approved := true
      approvedMicro := approved
      availableMicro := approved
      outstandingMicro := 0
      lane := lane
      poolId := if lane = .cryptoFast then "fastpath-main"
        else "enterprise-main"
      decisionEnvelope := none }

/-- Request `i` gets the next `n` answers. -/
def advance (c : Choice) (i n : Nat) : List Action :=
  List.replicate n (.resume i c)

def account : Account where
  status := "active"
  payerWallet := "payer"
  repayWallet := "repay"
  mandateSingleLimitMicro := none
  registrySyncSource := some "registry"
  registryGlobalId := some "global"
  registryActive := some true
  registryOwnerWallet := some "payer"
  registryOperationalWallet := none

def start : World where
  store :=
    { db :=
        { accounts := fun id => if id = "agent" then some account else none
          decisions := []
          reservations := []
          debts := []
          settlements := []
          billableEvents := []
          repayments := []
          poolReserves := fun id =>
            if id = "fastpath-main" then some ⟨.cryptoFast, 0, 0, 0⟩
            else if id = "enterprise-main" then some ⟨.enterprise, 0, 0, 0⟩
            else none
          enterpriseBalances := fun key =>
            if key = ("agent", "enterprise-main") then some ⟨5000000, 0, 0⟩
            else none
          fastpathPools := fun id =>
            if id = "fastpath-main" then some ⟨"active", 1, 11 / 10, 5000000000000⟩
            else none
          collateralAssets := fun id =>
            if id = "usdc" then some ⟨0, "active"⟩ else none
          collateralPositions := [⟨"agent", "fastpath-main", "collateral",
            "usdc", 20000000000000000, 0, 0, "active"⟩]
          collateralEvents := []
          fundingEvents := []
          nonceGuards := fun _ => none
          paymentSessions := fun _ => none }
      payouts := []
      debits := [] }
  progs := []

theorem start_genesis : Genesis start :=
  ⟨rfl, rfl, rfl, rfl, rfl, rfl, rfl, rfl, fun _ => rfl, fun _ => rfl, rfl,
    rfl, rfl⟩

/-- The key of the agent's prefunded balance. -/
def key : String × String := ("agent", "enterprise-main")

/-- The start with nothing prefunded. -/
def unfunded : World :=
  { start with
    store := { start.store with
      db := { start.store.db with enterpriseBalances := fun _ => none } } }

theorem unfunded_genesis : Genesis unfunded :=
  ⟨rfl, rfl, rfl, rfl, rfl, rfl, rfl, rfl, fun _ => rfl, fun _ => rfl, rfl,
    rfl, rfl⟩

def fund (amountMicro : Nat) (referenceId : String) : Action :=
  .arrive (.fund {
    agentId := "agent"
    lane := none
    poolId := none
    collateralAccount := ""
    assetId := ""
    referenceId := referenceId
    amountMicro := some amountMicro } .deposit) 1700000000000

/-- A verification and its settlement. -/
def settledRun : List Action :=
  [verify enterprise "n1" "1000000"] ++ advance (well .enterprise 1000000) 0 10
    ++ [settle enterprise "n1" "1000000"]
    ++ advance (well .enterprise 1000000) 1 8

/-- A verification, and two settlements that run side by side up to the
payment; the second pays once the first is done. -/
def concurrentRun : List Action :=
  [verify enterprise "n1" "1000000"] ++ advance (well .enterprise 1000000) 0 10
    ++ [settle enterprise "n1" "1000000", settle enterprise "n1" "1000000"]
    ++ advance (well .enterprise 1000000) 1 4
    ++ advance (well .enterprise 1000000) 2 4
    ++ advance (well .enterprise 1000000) 1 4
    ++ advance (well .enterprise 1000000) 2 3

/-- A deposit, then a verification and its settlement. -/
def prefundedRun : List Action :=
  [fund 5000000 "deposit"] ++ advance (well .enterprise 1000000) 0 3
    ++ [verify enterprise "n1" "1000000"]
    ++ advance (well .enterprise 1000000) 1 10
    ++ [settle enterprise "n1" "1000000"]
    ++ advance (well .enterprise 1000000) 2 8

/-- A signed payment. -/
def exactRun : List Action :=
  [pay "n1" "1000000"] ++ advance (well .enterprise 1000000) 0 8

/-- A verification and its settlement, then the same header without a
Kizuna requirement. -/
def bothRun : List Action :=
  settledRun ++ [pay "n1" "1000000"] ++ advance (well .enterprise 1000000) 2 8

/-- The environment for session headers. -/
def sessionEnv : Env :=
  { env with parsePaymentScheme := fun _ => some ⟨"session", solana⟩ }

/-- A session with a budget for one payment. -/
def authorize : Action :=
  .arrive (.authorize "token" {
    payerWallet := "payer"
    network := solana
    merchantWallet := "merchant"
    maxTotalMicro := 1000000
    maxSingleMicro := some 1000000
    spentMicro := 0
    expiresAt := 1800000000000
    revokedAt := none }) 1700000000000

/-- A session and its payment. -/
def sessionRun : List Action :=
  [authorize] ++ advance (well .enterprise 1000000) 0 1
    ++ [pay "n1" "1000000"] ++ advance (well .enterprise 1000000) 1 10

/-- The transfer of the first payment is confirmed too late, and the
payment made again. -/
def lostRun : List Action :=
  [authorize] ++ advance (well .enterprise 1000000) 0 1
    ++ [pay "n1" "1000000"] ++ advance (well .enterprise 1000000) 1 6
    ++ [.resume 1 { well .enterprise 1000000 with outcome := .lost }]
    ++ advance (well .enterprise 1000000) 1 3
    ++ [pay "n1" "1000000"] ++ advance (well .enterprise 1000000) 2 10

/-- What the agent's collateral is good for at the pool's cap, in full. -/
def fullCap : Choice := well .cryptoFast 2000000000000

/-- A verification in the crypto-fast lane. -/
def fastRun : List Action :=
  [verify fastpath "n1" "2000000000000"] ++ advance fullCap 0 12

/-- Another one, before the first is settled. -/
def stackedRun : List Action :=
  fastRun ++ [verify fastpath "n2" "2000000000000"] ++ advance fullCap 1 12

end KamiyoProtocol.Facilitator.Concrete
