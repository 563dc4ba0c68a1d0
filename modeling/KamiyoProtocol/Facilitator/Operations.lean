/-
The operations a route awaits, and what each does to the database and
the chain.

An operation may go well, fail without effect, or take effect and then
report failure: a commit whose acknowledgement is lost, a transfer whose
confirmation times out. What a service outside answers, and every clock
reading, is the environment's choice.
-/
import KamiyoProtocol.Lib.Await
import KamiyoProtocol.Facilitator.Requests

namespace KamiyoProtocol.Facilitator

-- ==== operations

/-- What a payment on chain is made for. -/
inductive Purpose
  | credit (reservationId : Nat)
  | exact
  | session (tokenHash : String)
  | escrow (sessionId : String)
  deriving DecidableEq

/-- The reservation a payment is made on. -/
def Purpose.reservation : Purpose → Option Nat
  | .credit id => some id
  | _ => none

def Purpose.isEscrow : Purpose → Bool
  | .escrow _ => true
  | _ => false

/-- A payment on chain as a route orders it. Payer and nonce of the signed
payment, purpose and settlement are no parameters of the call: they say
what the route makes it for. -/
structure Order where
  purpose : Purpose
  payerWallet : String
  nonce : String
  settlementId : Option Nat
  network : String
  merchantWallet : String
  amount : Nat
  feeBps : Nat

def Order.fee (o : Order) : Nat := o.amount * o.feeBps / 10000

def Order.net (o : Order) : Nat := o.amount - o.fee

/-- Whose account a payment is taken from. -/
inductive Source
  | facilitator
  | payer
  deriving DecidableEq

/-- A payment that was executed. On Base the fee is a transfer of its own,
which may fail by itself. -/
structure Payout where
  order : Order
  source : Source
  feePaid : Bool

/-- What the payment took from its source. -/
def Payout.moved (o : Payout) : Nat :=
  o.order.net + if o.feePaid then o.order.fee else 0

/-- What the payment services answer. -/
structure Onchain where
  txHash : String
  fee : Nat
  net : Nat

/-- Parameters of `debitKizunaCredits`. -/
structure Debit where
  wallet : String
  amountMicro : Nat
  referenceId : String

/-- `KizunaCreditsDebitResult`. -/
structure DebitResult where
  debitedMicro : Nat
  idempotent : Bool

structure CommitDecision where
  decisionId : Nat
  debtId : Option Nat
  settlementId : Option Nat
  txHash : String
  lane : Lane
  poolId : String

inductive Op
  | getKizunaAccount (agentId : String)
  | buildKizunaIdentityPayload (account : Account)
  | getKizunaReservationByNonce (payerWallet requestNonce : String)
  | getKizunaDebtByReservationId (reservationId : Nat)
  | commitKizunaKernelDecision (p : CommitDecision)
  | getKizunaBillableSettlementEvent (reservationId : Nat)
      (settlementId : Option Nat)
  | getSettlementById (id : Option Nat)
  | releaseKizunaReservation (reservationId : Nat) (status : ReleaseStatus)
  /-- The four reads the merchant's fee is computed from. -/
  | effectiveFeeBps (merchantWallet : String)
  | insertSettlement (row : Settlement)
  /-- `settlePayment` and `settlePaymentBase`. -/
  | settlePayment (o : Order)
  | finalizeKizunaSettlement (p : FinalizeSettlement)
  | updateSettlementStatus (id : Nat) (status : SettlementStatus)
  | getKizunaUnderwriteSnapshot (agentId payerWallet : String)
  | getKizunaOutstandingMicro (agentId : String) (lane : Lane)
      (poolId : String)
  | getKizunaFastpathPool (poolId : String)
  | getKizunaEnterpriseBalance (agentId poolId : String)
  | getKizunaMandateLimits (agentId : String)
  | getKizunaCollateralPosition (agentId poolId collateralAccount : String)
  | getKizunaCollateralSummary (agentId poolId : String)
  | evaluateKizunaKernelDecision (input : KernelEvaluateInput)
  | insertKizunaUnderwriteDecision (row : Decision)
  /-- `sent` is no parameter of the query: it is the evaluation, if any,
  whose answer the reservation is made on, which the route still holds. -/
  | createKizunaReservation (p : CreateReservation)
      (sent : Option KernelEvaluateInput)
  | applyKizunaRepayment (p : ApplyRepayment)
  | applyKizunaCollateralEvent (p : ApplyCollateral)
  | applyKizunaFundingEvent (p : ApplyFunding)
  | getKizunaPool (poolId : String)
  | getKizunaReservationById (reservationId : Nat)
  | debitKizunaCredits (p : Debit)
  /-- `ingestKizunaKernelRepayment` and `ingestKizunaKernelCollateral`. -/
  | ingestKizunaKernel (referenceId : String)
  | reservePaymentNonce (payerWallet nonce : String)
  | getPaymentNonceGuard (payerWallet nonce : String)
  | setPaymentNonceSettlementId (payerWallet nonce : String)
      (settlementId : Nat)
  | setPaymentNonceTxHash (payerWallet nonce txHash : String)
  | deletePaymentNonceGuard (payerWallet nonce : String)
  | updateSettlementConfirmed (id : Nat) (txHash : String) (feeAmount : Nat)
  | insertFeeLedger (feeAmount : Nat) (txHash : String)
  | getCode (address : String)
  | getBaseUsdcEip712Domain
  | settleAuthorizedPaymentBase (o : Order)
  | getPaymentSessionByTokenHash (tokenHash : String)
  | reservePaymentSessionSpend (tokenHash : String) (deltaMicro : Nat)
  | releasePaymentSessionSpend (tokenHash : String) (deltaMicro : Nat)
  /-- `settleDelegatedPaymentBase` and `settleDelegatedUsdcTransfer`. -/
  | settleDelegatedPayment (o : Order)
  | insertPaymentSession (tokenHash : String) (row : PaymentSession)
  | revokePaymentSession (tokenHash : String)
  | createEscrow (o : Order)
  | insertEscrowRecord (o : Order)

/-- The payment an operation makes, and from where. -/
def Op.order : Op → Option (Source × Order)
  | .settlePayment o => some (.facilitator, o)
  | .settleAuthorizedPaymentBase o => some (.payer, o)
  | .settleDelegatedPayment o => some (.payer, o)
  | .createEscrow o => some (.payer, o)
  | _ => none

/-- What an operation answers when it goes well. -/
def Op.Value : Op → Type
  | .getKizunaAccount _ => Option Account
  | .buildKizunaIdentityPayload _ => Option Bool
  | .getKizunaReservationByNonce _ _ => Option ReservationView
  | .getKizunaDebtByReservationId _ => Option (Stored Debt)
  | .commitKizunaKernelDecision _ => Unit
  | .getKizunaBillableSettlementEvent _ _ => Option (Stored BillableEvent)
  | .getSettlementById _ => Option Settlement
  | .releaseKizunaReservation _ _ => Unit
  | .effectiveFeeBps _ => Nat
  | .insertSettlement _ => Stored Settlement
  | .settlePayment _ => Onchain
  | .finalizeKizunaSettlement _ => FinalizeResult
  | .updateSettlementStatus _ _ => Unit
  | .getKizunaUnderwriteSnapshot _ _ => Option Unit
  | .getKizunaOutstandingMicro _ _ _ => Nat
  | .getKizunaFastpathPool _ => Option FastpathPool
  | .getKizunaEnterpriseBalance _ _ => Option EnterpriseBalance
  | .getKizunaMandateLimits _ => Option Nat
  | .getKizunaCollateralPosition _ _ _ => Option PositionView
  | .getKizunaCollateralSummary _ _ => Option CollateralSummary
  | .evaluateKizunaKernelDecision _ => KernelEvaluateResult
  | .insertKizunaUnderwriteDecision _ => Stored Decision
  | .createKizunaReservation _ _ => Stored Reservation
  | .applyKizunaRepayment _ => RepaymentResult
  | .applyKizunaCollateralEvent _ => CollateralResult
  | .applyKizunaFundingEvent _ => FundingResult
  | .getKizunaPool _ => Option PoolView
  | .getKizunaReservationById _ => Option ReservationView
  | .debitKizunaCredits _ => DebitResult
  | .ingestKizunaKernel _ => Unit
  | .reservePaymentNonce _ _ => Bool
  | .getPaymentNonceGuard _ _ => Option NonceGuard
  | .setPaymentNonceSettlementId _ _ _ | .setPaymentNonceTxHash _ _ _
  | .deletePaymentNonceGuard _ _ | .updateSettlementConfirmed _ _ _
  | .insertFeeLedger _ _ => Unit
  | .getCode _ => Bool
  | .getBaseUsdcEip712Domain => String
  | .settleAuthorizedPaymentBase _ => Onchain
  | .getPaymentSessionByTokenHash _ => Option PaymentSession
  | .reservePaymentSessionSpend _ _ => Bool
  | .releasePaymentSessionSpend _ _ => Unit
  | .settleDelegatedPayment _ => Onchain
  | .insertPaymentSession _ _ => Unit
  | .revokePaymentSession _ => Bool
  | .createEscrow _ => Onchain
  | .insertEscrowRecord _ => Unit

/-- An answer, with the clock the route reads when it goes on. -/
structure Answer (α : Type) where
  now : Nat
  value : Except String α

abbrev Op.Res (op : Op) : Type := Answer op.Value

/-- A route between two awaits, or its response. -/
abbrev Handler := Await.Prog Op Op.Res Response

-- ==== environment

inductive Outcome
  | succeeds
  | fails
  /-- Takes effect and reports failure. -/
  | lost
  deriving DecidableEq

/-- What the environment decides about one operation. -/
structure Choice where
  outcome : Outcome
  /-- The clock inside the operation. -/
  clock : Nat
  /-- The clock when the route goes on. -/
  now : Nat
  txHash : String
  feeBps : Nat
  mandateSingleMicro : Option Nat
  kernel : KernelEvaluateResult
  /-- The fee transfer on Base goes well. -/
  feePaid : Bool
  /-- The payer's address holds code. -/
  hasCode : Bool
  verifyingContract : String

/-- The database, the payments executed so far and the debits the credits
service has made. -/
structure Store where
  db : Db
  payouts : List Payout
  debits : List Debit

/-- An operation without effect. -/
def inquire {α : Type} (c : Choice) (s : Store) (v : α) : Store × Answer α :=
  (s, ⟨c.now, if c.outcome = .succeeds then .ok v else .error "unavailable"⟩)

/-- A statement or a transaction. -/
def commit {α : Type} (c : Choice) (s : Store)
    (x : Except String (Db × α)) : Store × Answer α :=
  match c.outcome, x with
  | .fails, _ => (s, ⟨c.now, .error "unavailable"⟩)
  | _, .error e => (s, ⟨c.now, .error e⟩)
  | .succeeds, .ok (db, v) => ({ s with db := db }, ⟨c.now, .ok v⟩)
  | .lost, .ok (db, _) => ({ s with db := db }, ⟨c.now, .error "unavailable"⟩)

/-- The payment takes effect. No service transfers a negative amount, and
those that pay on Base, or take the payer's money, refuse a payment of
which the fee leaves nothing. -/
def Choice.pays (c : Choice) (source : Source) (o : Order) : Prop :=
  c.outcome ≠ .fails ∧ o.fee ≤ o.amount
    ∧ ¬ ((source = .payer ∨ o.network = baseMainnetCaip2) ∧ o.net = 0)
  deriving Decidable

/-- The payment as it is executed. -/
def Choice.payout (c : Choice) (source : Source) (o : Order) : Payout :=
  ⟨o, source, decide (o.network ≠ baseMainnetCaip2) || c.feePaid⟩

/-- A payment on chain. -/
def transfer (c : Choice) (s : Store) (source : Source) (o : Order) :
    Store × Answer Onchain :=
  if c.pays source o then
    ({ s with payouts := s.payouts ++ [c.payout source o] },
      ⟨c.now, if c.outcome = .succeeds then .ok ⟨c.txHash, o.fee, o.net⟩
        else .error "transfer failed"⟩)
  else (s, ⟨c.now, .error "transfer failed"⟩)

/-- The credits service debits a wallet once per reference, and answers a
repeated request with what it debited then. -/
def debit (c : Choice) (s : Store) (p : Debit) : Store × Answer DebitResult :=
  match c.outcome, Keyed.locate (fun d => (d.wallet, d.referenceId)) s.debits
      (p.wallet, p.referenceId) with
  | .fails, _ => (s, ⟨c.now, .error "credits_debit_failed"⟩)
  | .succeeds, some (_, d) => (s, ⟨c.now, .ok ⟨d.amountMicro, true⟩⟩)
  | .lost, some _ => (s, ⟨c.now, .error "credits_debit_failed"⟩)
  | .succeeds, none =>
    ({ s with debits := s.debits ++ [p] }, ⟨c.now, .ok ⟨p.amountMicro, false⟩⟩)
  | .lost, none =>
    ({ s with debits := s.debits ++ [p] },
      ⟨c.now, .error "credits_debit_failed"⟩)

/-- One operation. -/
def perform (op : Op) (c : Choice) (s : Store) : Store × op.Res :=
  match op with
  | .getKizunaAccount agentId => inquire c s (s.db.getKizunaAccount agentId)
  | .buildKizunaIdentityPayload account =>
    inquire c s (Db.kizunaIdentitySynced account)
  | .getKizunaReservationByNonce payer nonce =>
    inquire c s (s.db.getKizunaReservationByNonce payer nonce)
  | .getKizunaDebtByReservationId id =>
    inquire c s (s.db.getKizunaDebtByReservationId id)
  | .commitKizunaKernelDecision _ => inquire c s ()
  | .getKizunaBillableSettlementEvent reservationId settlementId =>
    inquire c s (settlementId.bind fun id =>
      s.db.getKizunaBillableSettlementEvent reservationId id)
  | .getSettlementById id =>
    inquire c s (id.bind fun id => s.db.getSettlementById id)
  | .releaseKizunaReservation id status =>
    commit c s (s.db.releaseKizunaReservation id status)
  | .effectiveFeeBps _ => inquire c s c.feeBps
  | .insertSettlement row => commit c s (.ok (s.db.insertSettlement row))
  | .settlePayment o => transfer c s .facilitator o
  | .finalizeKizunaSettlement p =>
    commit c s (s.db.finalizeKizunaSettlement p c.clock)
  | .updateSettlementStatus id status =>
    commit c s (.ok (s.db.updateSettlementStatus id status, ()))
  | .getKizunaUnderwriteSnapshot agentId _ =>
    inquire c s ((s.db.getKizunaAccount agentId).map fun _ => ())
  | .getKizunaOutstandingMicro agentId lane poolId =>
    inquire c s (s.db.getKizunaOutstandingMicro agentId lane poolId)
  | .getKizunaFastpathPool poolId =>
    inquire c s (s.db.getKizunaFastpathPool poolId)
  | .getKizunaEnterpriseBalance agentId poolId =>
    inquire c s (s.db.getKizunaEnterpriseBalance agentId poolId)
  | .getKizunaMandateLimits _ => inquire c s c.mandateSingleMicro
  | .getKizunaCollateralPosition agentId poolId account =>
    inquire c s (s.db.getKizunaCollateralPosition agentId poolId account)
  | .getKizunaCollateralSummary agentId poolId =>
    inquire c s (s.db.getKizunaCollateralSummary agentId poolId)
  | .evaluateKizunaKernelDecision _ => inquire c s c.kernel
  | .insertKizunaUnderwriteDecision row =>
    commit c s (s.db.insertKizunaUnderwriteDecision row)
  | .createKizunaReservation p _ =>
    commit c s (s.db.createKizunaReservation p c.clock)
  | .applyKizunaRepayment p =>
    commit c s (.ok (s.db.applyKizunaRepayment p))
  | .applyKizunaCollateralEvent p =>
    commit c s (s.db.applyKizunaCollateralEvent p)
  | .applyKizunaFundingEvent p =>
    commit c s (s.db.applyKizunaFundingEvent p)
  | .getKizunaPool poolId => inquire c s (s.db.getKizunaPool poolId)
  | .getKizunaReservationById id =>
    inquire c s (s.db.getKizunaReservationById id)
  | .debitKizunaCredits p => debit c s p
  | .ingestKizunaKernel _ => inquire c s ()
  | .reservePaymentNonce payer nonce =>
    commit c s (.ok (s.db.reservePaymentNonce payer nonce))
  | .getPaymentNonceGuard payer nonce =>
    inquire c s (s.db.getPaymentNonceGuard payer nonce)
  | .setPaymentNonceSettlementId payer nonce id =>
    commit c s (.ok (s.db.setPaymentNonceSettlementId payer nonce id, ()))
  | .setPaymentNonceTxHash payer nonce txHash =>
    commit c s (.ok (s.db.setPaymentNonceTxHash payer nonce txHash, ()))
  | .deletePaymentNonceGuard payer nonce =>
    commit c s (.ok (s.db.deletePaymentNonceGuard payer nonce, ()))
  | .updateSettlementConfirmed id txHash fee =>
    commit c s (.ok (s.db.updateSettlementConfirmed id txHash fee, ()))
  | .insertFeeLedger _ _ => inquire c s ()
  | .getCode _ => inquire c s c.hasCode
  | .getBaseUsdcEip712Domain => inquire c s c.verifyingContract
  | .settleAuthorizedPaymentBase o => transfer c s .payer o
  | .getPaymentSessionByTokenHash hash =>
    inquire c s (s.db.getPaymentSessionByTokenHash hash)
  | .reservePaymentSessionSpend hash micro =>
    commit c s (.ok (s.db.reservePaymentSessionSpend hash micro c.clock))
  | .releasePaymentSessionSpend hash micro =>
    commit c s (.ok (s.db.releasePaymentSessionSpend hash micro, ()))
  | .settleDelegatedPayment o => transfer c s .payer o
  | .insertPaymentSession hash row =>
    commit c s (s.db.insertPaymentSession hash row)
  | .revokePaymentSession hash =>
    commit c s (.ok (s.db.revokePaymentSession hash c.clock))
  | .createEscrow o => transfer c s .payer o
  | .insertEscrowRecord _ => inquire c s ()

-- ==== combinators

/-- The route answers a failure. -/
def fail (f : Failure) : Handler := .done (.failed f)

/-- Checks between two awaits: the first that does not hold is answered. -/
def check {α : Type} (x : Except Failure α) (k : α → Handler) : Handler :=
  match x with
  | .ok a => k a
  | .error f => fail f

/-- How a route goes on after an await. -/
def onAnswer {α : Type} (onError : String → Handler) (k : Nat → α → Handler)
    (r : Answer α) : Handler :=
  match r.value with
  | .ok v => k r.now v
  | .error e => onError e

/-- An await inside a `try`, with what its `catch` does. -/
def attempt (op : Op) (onError : String → Handler)
    (k : Nat → op.Value → Handler) : Handler :=
  .await op (onAnswer onError k)

/-- An await outside any `try`. -/
def call (op : Op) (k : Nat → op.Value → Handler) : Handler :=
  attempt op (fun e => .done (.thrown e)) k

/-- An await followed by `.catch(() => {})`. -/
def ignore (op : Op) (k : Handler) : Handler := .await op fun _ => k

end KamiyoProtocol.Facilitator
