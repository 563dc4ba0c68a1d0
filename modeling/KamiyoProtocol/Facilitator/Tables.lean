/-
The facilitator's database as far as its Kizuna credit routes use it.

A table with generated ids is the list of its rows, and a row's id is
its position; rows are never deleted. A table with a natural key is a
map from keys. Micro-USDC columns are `NUMERIC(30, 0) CHECK (.. >= 0)`
and are naturals here; an overflow is one of the ways a statement fails.
-/
import KamiyoProtocol.Lib.Keyed
import Mathlib.Data.Rat.Defs

namespace KamiyoProtocol.Facilitator

inductive Lane
  | enterprise
  | cryptoFast
  deriving DecidableEq

inductive FundingMode
  | none
  | prefunded
  | collateralized
  deriving DecidableEq

inductive ReservationStatus
  | reserved
  | consumed
  | released
  | expired
  deriving DecidableEq

def ReservationStatus.text : ReservationStatus → String
  | .reserved => "reserved"
  | .consumed => "consumed"
  | .released => "released"
  | .expired => "expired"

/-- The two ways a reservation ends other than by consumption. -/
inductive ReleaseStatus
  | released
  | expired

def ReleaseStatus.toReservation : ReleaseStatus → ReservationStatus
  | .released => .released
  | .expired => .expired

inductive DebtStatus
  | opened
  | closed
  | writtenOff
  deriving DecidableEq

inductive SettlementStatus
  | pending
  | confirmed
  | failed

/-- `kizuna_accounts`. -/
structure Account where
  status : String
  payerWallet : String
  repayWallet : String
  mandateSingleLimitMicro : Option Nat
  registrySyncSource : Option String
  registryGlobalId : Option String
  registryActive : Option Bool
  registryOwnerWallet : Option String
  registryOperationalWallet : Option String

/-- `kizuna_underwrite_decisions`. -/
structure Decision where
  agentId : String
  payerWallet : String
  repayWallet : String
  requestNonce : String
  network : String
  lane : Lane
  poolId : String
  requestedMicro : Nat
  approved : Bool
  approvedMicro : Nat
  availableMicro : Nat
  outstandingMicro : Nat
  decisionEnvelopeHash : Option String

/-- `kizuna_credit_reservations`. -/
structure Reservation where
  decisionId : Nat
  agentId : String
  payerWallet : String
  requestNonce : String
  network : String
  lane : Lane
  poolId : String
  amountMicro : Nat
  fundingMode : FundingMode
  lockedMicro : Nat
  status : ReservationStatus
  expiresAt : Nat
  settlementId : Option Nat
  txHash : Option String

/-- `kizuna_debts`. -/
structure Debt where
  agentId : String
  payerWallet : String
  repayWallet : String
  network : String
  lane : Lane
  poolId : String
  settlementId : Nat
  decisionId : Nat
  reservationId : Nat
  decisionEnvelopeHash : Option String
  principalMicro : Nat
  outstandingMicro : Nat
  status : DebtStatus
  txHash : String
  deriving DecidableEq

/-- `settlements`. Amounts are held in micro-USDC. -/
structure Settlement where
  merchantWallet : String
  payerWallet : String
  amount : Nat
  feeAmount : Nat
  txHash : String
  status : SettlementStatus
  network : String

/-- `kizuna_billable_settlement_events`. -/
structure BillableEvent where
  reservationId : Nat
  settlementId : Nat
  debtId : Option Nat
  agentId : String
  payerWallet : String
  merchantWallet : String
  network : String
  lane : Lane
  poolId : String
  amountMicro : Nat

/-- `kizuna_repayments`. -/
structure Repayment where
  agentId : String
  debtId : Option Nat
  referenceId : String
  amountMicro : Nat
  appliedMicro : Nat

/-- `kizuna_pool_reserves`, keyed by pool. -/
structure PoolReserve where
  lane : Lane
  reservedMicro : Nat
  outstandingMicro : Nat
  collateralValueMicro : Nat

/-- `kizuna_enterprise_balances`, keyed by agent and pool. -/
structure EnterpriseBalance where
  availableMicro : Nat
  reservedMicro : Nat
  spentMicro : Nat
  deriving DecidableEq

/-- `kizuna_fastpath_pools`, keyed by pool. -/
structure FastpathPool where
  status : String
  ltvCapBps : Nat
  minHealthFactor : ℚ
  maxSingleMicro : Nat
  deriving DecidableEq

/-- `kizuna_collateral_assets`, keyed by asset. -/
structure CollateralAsset where
  haircutBps : Nat
  status : String

/-- `kizuna_collateral_positions`. -/
structure CollateralPosition where
  agentId : String
  poolId : String
  collateralAccount : String
  assetId : String
  depositedMicro : Nat
  withdrawnMicro : Nat
  lockedMicro : Nat
  status : String
  deriving DecidableEq

inductive CollateralEventType
  | deposit
  | withdraw
  deriving DecidableEq

/-- `kizuna_collateral_events`. -/
structure CollateralEvent where
  agentId : String
  poolId : String
  lane : Lane
  collateralAccount : String
  assetId : String
  referenceId : String
  eventType : CollateralEventType
  amountMicro : Nat
  deriving DecidableEq

inductive FundingEventType
  | deposit
  | withdraw
  deriving DecidableEq

/-- `kizuna_funding_events`. -/
structure FundingEvent where
  agentId : String
  lane : Lane
  poolId : String
  referenceId : String
  eventType : FundingEventType
  amountMicro : Nat
  deriving DecidableEq

/-- `payment_nonce_guard`, keyed by payer and nonce. -/
structure NonceGuard where
  settlementId : Option Nat
  txHash : Option String

/-- `payment_sessions`, keyed by token hash. -/
structure PaymentSession where
  payerWallet : String
  network : String
  merchantWallet : String
  maxTotalMicro : Nat
  maxSingleMicro : Option Nat
  spentMicro : Nat
  expiresAt : Nat
  revokedAt : Option Nat
  deriving DecidableEq

/-- The tables the routes read and write. -/
structure Db where
  accounts : String → Option Account
  decisions : List Decision
  reservations : List Reservation
  debts : List Debt
  settlements : List Settlement
  billableEvents : List BillableEvent
  repayments : List Repayment
  poolReserves : String → Option PoolReserve
  enterpriseBalances : String × String → Option EnterpriseBalance
  fastpathPools : String → Option FastpathPool
  collateralAssets : String → Option CollateralAsset
  collateralPositions : List CollateralPosition
  collateralEvents : List CollateralEvent
  fundingEvents : List FundingEvent
  nonceGuards : String × String → Option NonceGuard
  paymentSessions : String → Option PaymentSession

/-- A row with its generated id. -/
structure Stored (α : Type) where
  id : Nat
  row : α
  deriving DecidableEq

end KamiyoProtocol.Facilitator
