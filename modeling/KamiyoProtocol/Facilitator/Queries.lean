/-
`db/queries.ts`: the queries and transactions of the Kizuna routes.

A transaction is a function from the database it starts in to the
database it commits, or the error it throws, which rolls everything
back. It runs as one step: each of them takes the lock of the row it
decides on (`FOR UPDATE`, or the guarded `UPDATE` itself) before it reads
what it decides by, and writes other rows by single guarded statements.

Clock readings are arguments. `now` is `Date.now()` in the process,
`dbNow` is `NOW()` in the database.
-/
import KamiyoProtocol.Lib.Exec
import KamiyoProtocol.Lib.Numeric
import KamiyoProtocol.Facilitator.Tables

namespace KamiyoProtocol.Facilitator

open Exec Keyed Function

-- ==== parameters, results

/-- Parameters of `createKizunaReservation`. -/
structure CreateReservation where
  decisionId : Nat
  agentId : String
  payerWallet : String
  requestNonce : String
  network : String
  lane : Lane
  poolId : String
  amountMicro : Nat
  ttlMs : Nat
  fundingMode : Option FundingMode
  lockedMicro : Nat

/-- The funding mode of a reservation request that names none. -/
def CreateReservation.mode (p : CreateReservation) : FundingMode :=
  p.fundingMode.getD
    (if p.lane = .cryptoFast then .collateralized else .none)

/-- The row the request asks for. -/
def CreateReservation.row (p : CreateReservation) (dbNow : Nat) :
    Reservation where
  decisionId := p.decisionId
  agentId := p.agentId
  payerWallet := p.payerWallet
  requestNonce := p.requestNonce
  network := p.network
  lane := p.lane
  poolId := p.poolId
  amountMicro := p.amountMicro
  fundingMode := p.mode
  lockedMicro := p.lockedMicro
  status := .reserved
  expiresAt := dbNow + p.ttlMs
  settlementId := none
  txHash := none

/-- A reservation joined with its decision. -/
structure ReservationView where
  id : Nat
  row : Reservation
  decision : Decision

/-- Parameters of `finalizeKizunaSettlement`. -/
structure FinalizeSettlement where
  reservationId : Nat
  settlementId : Nat
  txHash : String
  feeAmount : Nat
  lane : Option Lane
  poolId : Option String
  decisionEnvelopeHash : Option String

/-- What it answers. -/
structure FinalizeResult where
  lane : Lane
  poolId : String
  fundingConsumedMicro : Nat
  debt : Option (Stored Debt)

/-- Parameters of `applyKizunaFundingEvent`. -/
structure ApplyFunding where
  agentId : String
  lane : Lane
  poolId : String
  referenceId : String
  eventType : FundingEventType
  amountMicro : Nat

def ApplyFunding.row (p : ApplyFunding) : FundingEvent :=
  ⟨p.agentId, p.lane, p.poolId, p.referenceId, p.eventType, p.amountMicro⟩

/-- What an event adds to the available balance. -/
def FundingEvent.delta (e : FundingEvent) : Int :=
  match e.eventType with
  | .deposit => e.amountMicro
  | .withdraw => -(e.amountMicro : Int)

structure FundingResult where
  idempotent : Bool
  event : FundingEvent
  balance : EnterpriseBalance

/-- A reservation whose settlement spends its lock instead of opening a
debt. -/
def Reservation.isPrefundedEnterprise (r : Reservation) : Prop :=
  r.lane = .enterprise ∧ r.fundingMode = .prefunded

instance (r : Reservation) : Decidable r.isPrefundedEnterprise :=
  inferInstanceAs (Decidable (_ ∧ _))

namespace Db

variable (db : Db)

-- ==== accounts

def getKizunaAccount (agentId : String) : Option Account :=
  db.accounts agentId

/-- `synced` of `buildKizunaIdentityPayload`; no payload for an account
without a registry identity. -/
def kizunaIdentitySynced (account : Account) : Option Bool :=
  if account.registrySyncSource = none ∧ account.registryGlobalId = none then
    none
  else
    some (account.registryGlobalId.isSome && account.registrySyncSource.isSome
      && decide (account.registrySyncSource ≠ some "legacy"))

def getAuthorizedRegistryWallet (account : Account) : Option String :=
  account.registryOperationalWallet.or account.registryOwnerWallet

-- ==== reserves and balances

/-- `bumpKizunaPoolReserve`: the row is made if the pool has none, and
moved if it is of the lane. -/
def bumpKizunaPoolReserve (poolId : String) (lane : Lane)
    (reservedDelta outstandingDelta collateralDelta : Int) : Db :=
  let row := (db.poolReserves poolId).getD ⟨lane, 0, 0, 0⟩
  let moved : PoolReserve :=
    if row.lane = lane then
      { row with
        reservedMicro := (row.reservedMicro + reservedDelta).toNat
        outstandingMicro := (row.outstandingMicro + outstandingDelta).toNat
        collateralValueMicro :=
          (row.collateralValueMicro + collateralDelta).toNat }
    else row
  { db with poolReserves := update db.poolReserves poolId (some moved) }

/-- `mutateKizunaEnterpriseBalance`, which answers no row when a column
would turn negative or a minimum is not met. -/
def mutateKizunaEnterpriseBalance (agentId poolId : String)
    (availableDelta reservedDelta spentDelta : Int)
    (minAvailable minReserved : Nat) : Option Db :=
  let row := (db.enterpriseBalances (agentId, poolId)).getD ⟨0, 0, 0⟩
  if 0 ≤ row.availableMicro + availableDelta
      ∧ 0 ≤ row.reservedMicro + reservedDelta
      ∧ 0 ≤ row.spentMicro + spentDelta
      ∧ minAvailable ≤ row.availableMicro ∧ minReserved ≤ row.reservedMicro then
    some { db with
      enterpriseBalances := update db.enterpriseBalances (agentId, poolId)
        (some ⟨(row.availableMicro + availableDelta).toNat,
          (row.reservedMicro + reservedDelta).toNat,
          (row.spentMicro + spentDelta).toNat⟩) }
  else none

def getKizunaEnterpriseBalance (agentId poolId : String) :
    Option EnterpriseBalance :=
  db.enterpriseBalances (agentId, poolId)

def applyKizunaFundingEvent (p : ApplyFunding) :
    Except String (Db × FundingResult) := do
  require (p.amountMicro ≠ 0) "kizuna_funding_amount_invalid"
  match locate (fun e => (e.agentId, e.poolId, e.referenceId))
      db.fundingEvents (p.agentId, p.poolId, p.referenceId) with
  | some (_, e) =>
    require (e.eventType = p.eventType ∧ e.amountMicro = p.amountMicro)
      "kizuna_funding_reference_conflict"
    let balance ← okOr (db.getKizunaEnterpriseBalance p.agentId p.poolId)
      "kizuna_enterprise_balance_missing"
    return (db, ⟨true, e, balance⟩)
  | none =>
    let db' ← okOr (db.mutateKizunaEnterpriseBalance p.agentId p.poolId
      p.row.delta 0 0
      (if p.eventType = .withdraw then p.amountMicro else 0) 0)
      "kizuna_funding_insufficient_available"
    let balance ← okOr (db'.getKizunaEnterpriseBalance p.agentId p.poolId)
      "kizuna_funding_insufficient_available"
    return ({ db' with fundingEvents := db'.fundingEvents ++ [p.row] },
      ⟨false, p.row, balance⟩)

-- ==== signed payments

/-- `reservePaymentNonce`: whether the guard is new. -/
def reservePaymentNonce (payerWallet nonce : String) : Db × Bool :=
  match db.nonceGuards (payerWallet, nonce) with
  | none =>
    ({ db with
        nonceGuards := update db.nonceGuards (payerWallet, nonce)
          (some ⟨none, none⟩) }, true)
  | some _ => (db, false)

def getPaymentNonceGuard (payerWallet nonce : String) : Option NonceGuard :=
  db.nonceGuards (payerWallet, nonce)

/-- `UPDATE payment_nonce_guard SET .. WHERE payer_wallet = $1 AND
nonce = $2`. -/
def updateNonceGuard (payerWallet nonce : String)
    (f : NonceGuard → NonceGuard) : Db :=
  { db with
    nonceGuards := update db.nonceGuards (payerWallet, nonce)
      ((db.nonceGuards (payerWallet, nonce)).map f) }

def setPaymentNonceSettlementId (payerWallet nonce : String)
    (settlementId : Nat) : Db :=
  db.updateNonceGuard payerWallet nonce fun g =>
    { g with settlementId := some settlementId }

def setPaymentNonceTxHash (payerWallet nonce txHash : String) : Db :=
  db.updateNonceGuard payerWallet nonce fun g => { g with txHash := some txHash }

/-- `deletePaymentNonceGuard`, which spares a guard with a hash. -/
def deletePaymentNonceGuard (payerWallet nonce : String) : Db :=
  { db with
    nonceGuards := update db.nonceGuards (payerWallet, nonce)
      ((db.nonceGuards (payerWallet, nonce)).filter fun g =>
        g.txHash.isSome) }

-- ==== sessions

def getPaymentSessionByTokenHash (tokenHash : String) :
    Option PaymentSession :=
  db.paymentSessions tokenHash

/-- `insertPaymentSession`, under the unique constraint on the hash. -/
def insertPaymentSession (tokenHash : String) (row : PaymentSession) :
    Except String (Db × Unit) := do
  require (db.paymentSessions tokenHash = none)
    "payment_sessions_token_hash_key"
  return ({ db with
    paymentSessions := update db.paymentSessions tokenHash
      (some { row with spentMicro := 0, revokedAt := none }) }, ())

def revokePaymentSession (tokenHash : String) (dbNow : Nat) : Db × Bool :=
  match db.paymentSessions tokenHash with
  | some s =>
    if s.revokedAt = none then
      ({ db with
        paymentSessions := update db.paymentSessions tokenHash
          (some { s with revokedAt := some dbNow }) }, true)
    else (db, false)
  | none => (db, false)

/-- `reservePaymentSessionSpend`: whether the budget had room. -/
def reservePaymentSessionSpend (tokenHash : String) (deltaMicro dbNow : Nat) :
    Db × Bool :=
  match db.paymentSessions tokenHash with
  | some s =>
    if s.revokedAt = none ∧ dbNow < s.expiresAt
        ∧ s.spentMicro + deltaMicro ≤ s.maxTotalMicro then
      ({ db with
        paymentSessions := update db.paymentSessions tokenHash
          (some { s with spentMicro := s.spentMicro + deltaMicro }) }, true)
    else (db, false)
  | none => (db, false)

def releasePaymentSessionSpend (tokenHash : String) (deltaMicro : Nat) : Db :=
  { db with
    paymentSessions := update db.paymentSessions tokenHash
      ((db.paymentSessions tokenHash).map fun s =>
        { s with spentMicro := s.spentMicro - deltaMicro }) }

-- ==== decisions

/-- `insertKizunaUnderwriteDecision`, under the unique constraint on payer
and nonce. -/
def insertKizunaUnderwriteDecision (row : Decision) :
    Except String (Db × Stored Decision) := do
  require (∀ d ∈ db.decisions,
    (d.payerWallet, d.requestNonce) ≠ (row.payerWallet, row.requestNonce))
    "uq_kizuna_decision_nonce"
  return ({ db with decisions := db.decisions ++ [row] },
    ⟨db.decisions.length, row⟩)

-- ==== reservations

def createKizunaReservation (p : CreateReservation) (dbNow : Nat) :
    Except String (Db × Stored Reservation) := do
  require (¬ (p.mode = .prefunded ∧ p.lockedMicro = 0))
    "kizuna_prefund_lock_invalid"
  require (p.decisionId < db.decisions.length)
    "kizuna_credit_reservations_decision_id_fkey"
  require (∀ r ∈ db.reservations,
    (r.payerWallet, r.requestNonce) ≠ (p.payerWallet, p.requestNonce))
    "uq_kizuna_reservation_nonce"
  let row := p.row dbNow
  let db' := { db with reservations := db.reservations ++ [row] }
  let db' := db'.bumpKizunaPoolReserve row.poolId row.lane row.amountMicro 0 0
  let stored : Stored Reservation := ⟨db.reservations.length, row⟩
  if row.fundingMode = .prefunded then
    let db' ← okOr (db'.mutateKizunaEnterpriseBalance row.agentId row.poolId
      (-(row.lockedMicro : Int)) row.lockedMicro 0 row.lockedMicro 0)
      "kizuna_prefund_insufficient"
    return (db', stored)
  else
    return (db', stored)

def getKizunaReservationById (id : Nat) : Option ReservationView :=
  db.reservations[id]?.bind fun r =>
    db.decisions[r.decisionId]?.map fun d => ⟨id, r, d⟩

def getKizunaReservationByNonce (payerWallet requestNonce : String) :
    Option ReservationView :=
  (locate (fun r => (r.payerWallet, r.requestNonce)) db.reservations
    (payerWallet, requestNonce)).bind fun (i, r) =>
      db.decisions[r.decisionId]?.map fun d => ⟨i, r, d⟩

/-- What an end of a reservation other than consumption gives back: the
pool's reserve and, for a prefunded one, the lock. -/
def giveBack (r : Reservation) : Except String Db := do
  let db' := db.bumpKizunaPoolReserve r.poolId r.lane (-(r.amountMicro : Int))
    0 0
  if r.fundingMode = .prefunded then
    okOr (db'.mutateKizunaEnterpriseBalance r.agentId r.poolId r.lockedMicro
      (-(r.lockedMicro : Int)) 0 0 r.lockedMicro)
      "kizuna_prefund_release_failed"
  else
    return db'

/-- `releaseKizunaReservation`: nothing happens to a reservation that is
not there or no longer `reserved`. -/
def releaseKizunaReservation (reservationId : Nat)
    (status : ReleaseStatus) : Except String (Db × Unit) :=
  match db.reservations[reservationId]? with
  | none => return (db, ())
  | some r =>
    if r.status = .reserved then do
      let row := { r with status := status.toReservation }
      let db' := { db with
        reservations := db.reservations.set reservationId row }
      let db' ← db'.giveBack r
      return (db', ())
    else return (db, ())

-- ==== debts

def getKizunaDebtByReservationId (reservationId : Nat) :
    Option (Stored Debt) :=
  (locate Debt.reservationId db.debts reservationId).map fun (i, d) => ⟨i, d⟩

/-- `getKizunaOutstandingMicro`, scoped by lane and pool as the routes
call it. -/
def getKizunaOutstandingMicro (agentId : String) (lane : Lane)
    (poolId : String) : Nat :=
  (db.debts.map fun d =>
    if d.agentId = agentId ∧ d.status = .opened ∧ d.lane = lane
        ∧ d.poolId = poolId then d.outstandingMicro else 0).sum

/-- `INSERT INTO kizuna_debts .. ON CONFLICT (settlement_id) DO UPDATE`. -/
def upsertDebt (row : Debt) : Db × Stored Debt :=
  match locate Debt.settlementId db.debts row.settlementId with
  | none =>
    ({ db with debts := db.debts ++ [row] }, ⟨db.debts.length, row⟩)
  | some (i, old) =>
    let merged := { old with
      txHash := row.txHash
      decisionEnvelopeHash :=
        row.decisionEnvelopeHash.or old.decisionEnvelopeHash }
    ({ db with debts := db.debts.set i merged }, ⟨i, merged⟩)

-- ==== settlements

def insertSettlement (row : Settlement) : Db × Stored Settlement :=
  ({ db with settlements := db.settlements ++ [row] },
    ⟨db.settlements.length, row⟩)

/-- `UPDATE settlements SET .. WHERE id = $1`. -/
def updateSettlement (id : Nat) (f : Settlement → Settlement) : Db :=
  { db with settlements := db.settlements.modify id f }

def updateSettlementConfirmed (id : Nat) (txHash : String)
    (feeAmount : Nat) : Db :=
  db.updateSettlement id fun s =>
    { s with status := .confirmed, txHash := txHash, feeAmount := feeAmount }

def updateSettlementStatus (id : Nat) (status : SettlementStatus) : Db :=
  db.updateSettlement id fun s => { s with status := status }

def getSettlementById (id : Nat) : Option Settlement :=
  db.settlements[id]?

def getKizunaBillableSettlementEvent (reservationId settlementId : Nat) :
    Option (Stored BillableEvent) :=
  (locate (fun e => (e.reservationId, e.settlementId)) db.billableEvents
    (reservationId, settlementId)).map fun (i, e) => ⟨i, e⟩

/-- `INSERT .. ON CONFLICT (reservation_id, settlement_id) DO NOTHING`. -/
def insertBillableEvent (row : BillableEvent) : Db :=
  match db.getKizunaBillableSettlementEvent row.reservationId
      row.settlementId with
  | none => { db with billableEvents := db.billableEvents ++ [row] }
  | some _ => db

/-- The debt a settlement opens. -/
def debtRow (r : Reservation) (repayWallet : String)
    (envelopeHash : Option String) (p : FinalizeSettlement) : Debt where
  agentId := r.agentId
  payerWallet := r.payerWallet
  repayWallet := repayWallet
  network := r.network
  lane := r.lane
  poolId := r.poolId
  settlementId := p.settlementId
  decisionId := r.decisionId
  reservationId := p.reservationId
  decisionEnvelopeHash := p.decisionEnvelopeHash.or envelopeHash
  principalMicro := r.amountMicro
  outstandingMicro := r.amountMicro
  status := .opened
  txHash := p.txHash

/-- Where a settlement's money comes from: the lock, moved from reserved
to spent, or a debt. -/
def fundSettlement (r : Reservation) (d : Decision)
    (p : FinalizeSettlement) : Except String (Db × Option (Stored Debt)) :=
  if r.isPrefundedEnterprise then do
    require (r.lockedMicro ≠ 0) "kizuna_prefund_lock_invalid"
    let db' ← okOr (db.mutateKizunaEnterpriseBalance r.agentId r.poolId 0
      (-(r.lockedMicro : Int)) r.lockedMicro 0 r.lockedMicro)
      "kizuna_prefund_consume_failed"
    return (db', none)
  else
    let (db', debt) := db.upsertDebt
      (debtRow r d.repayWallet d.decisionEnvelopeHash p)
    return (db', some debt)

def finalizeKizunaSettlement (p : FinalizeSettlement) (now : Nat) :
    Except String (Db × FinalizeResult) := do
  let r ← okOr db.reservations[p.reservationId]? "kizuna_reservation_not_found"
  let d ← okOr db.decisions[r.decisionId]? "kizuna_reservation_not_found"
  require (r.status = .reserved) ("kizuna_reservation_" ++ r.status.text)
  require (∀ lane ∈ p.lane, lane = r.lane) "kizuna_lane_mismatch"
  require (∀ poolId ∈ p.poolId, poolId = r.poolId) "kizuna_pool_mismatch"
  if r.expiresAt ≤ now then
    -- the row is set to `expired` and given back, and then the throw
    -- rolls both back
    let _ ← db.giveBack r
    throw "kizuna_reservation_expired"
  let db' := db.updateSettlement p.settlementId fun s =>
    { s with
      status := .confirmed, txHash := p.txHash, feeAmount := p.feeAmount }
  let (db', debt) ← db'.fundSettlement r d p
  let consumed := { r with
    status := .consumed
    settlementId := some p.settlementId
    txHash := some p.txHash }
  let db' := { db' with
    reservations := db'.reservations.set p.reservationId consumed }
  let s ← okOr db'.settlements[p.settlementId]? "kizuna_settlement_not_found"
  require (s.merchantWallet ≠ "") "kizuna_settlement_not_found"
  let db' := db'.insertBillableEvent
    { reservationId := p.reservationId
      settlementId := p.settlementId
      debtId := debt.map Stored.id
      agentId := r.agentId
      payerWallet := r.payerWallet
      merchantWallet := s.merchantWallet
      network := r.network
      lane := r.lane
      poolId := r.poolId
      amountMicro := r.amountMicro }
  let db' := db'.bumpKizunaPoolReserve r.poolId r.lane
    (-(r.amountMicro : Int))
    (if r.isPrefundedEnterprise then 0 else r.amountMicro) 0
  return (db', {
    lane := r.lane
    poolId := r.poolId
    fundingConsumedMicro :=
      if r.isPrefundedEnterprise then r.lockedMicro else 0
    debt := debt })

end Db

end KamiyoProtocol.Facilitator
