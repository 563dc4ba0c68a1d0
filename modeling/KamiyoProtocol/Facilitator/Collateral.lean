/-
`db/queries.ts`, continued: repayments and collateral.

The value of a position is a NUMERIC quotient, haircut applied. The
queries that add positions up read each value, or their sum, back as an
integer through `parseMicro`, which takes what has a decimal point for
zero. A health factor is computed in JavaScript numbers.
-/
import KamiyoProtocol.Facilitator.Queries
import KamiyoProtocol.Lib.Double

namespace KamiyoProtocol.Facilitator

open Exec Keyed

-- ==== repayments

/-- Parameters of `applyKizunaRepayment`. -/
structure ApplyRepayment where
  agentId : String
  amountMicro : Nat
  referenceId : String
  lane : Option Lane
  poolId : Option String
  deriving DecidableEq

/-- The open debts a repayment may touch. -/
def ApplyRepayment.covers (p : ApplyRepayment) (d : Debt) : Prop :=
  d.agentId = p.agentId ∧ d.status = .opened ∧ (∀ lane ∈ p.lane, d.lane = lane)
    ∧ (∀ poolId ∈ p.poolId, d.poolId = poolId)
  deriving Decidable

/-- What a walk over the debts did: the debts after it, what was applied,
the first debt touched, and the parts of the payment in order. -/
structure Repaid where
  debts : List Debt
  applied : Nat
  appliedDebtId : Option Nat
  payments : List ((Lane × String) × Nat)

/-- The loop over the open debts, oldest first. `i` is the id of the head
of the list. -/
def repayDebts (p : ApplyRepayment) : Nat → Nat → List Debt → Repaid
  | _, _, [] => ⟨[], 0, none, []⟩
  | i, remaining, d :: rest =>
    if p.covers d ∧ 0 < remaining ∧ 0 < d.outstandingMicro then
      let payment := min d.outstandingMicro remaining
      let next := d.outstandingMicro - payment
      let r := repayDebts p (i + 1) (remaining - payment) rest
      { debts := { d with
          outstandingMicro := next
          status := if next = 0 then .closed else .opened } :: r.debts
        applied := payment + r.applied
        appliedDebtId := some i
        payments := ((d.lane, d.poolId), payment) :: r.payments }
    else
      let r := repayDebts p (i + 1) remaining rest
      { r with debts := d :: r.debts }

/-- The payments of one lane and pool added up, in order of the first. -/
def outstandingDeltas :
    List ((Lane × String) × Nat) → List ((Lane × String) × Nat)
  | [] => []
  | (key, amount) :: rest =>
    let deltas := outstandingDeltas rest
    (key, amount + ((deltas.filter fun x => x.1 = key).map Prod.snd).sum)
      :: deltas.filter fun x => x.1 ≠ key

structure RepaymentResult where
  repayment : Repayment
  idempotent : Bool
  outstandingMicro : Nat

namespace Db

variable (db : Db)

/-- What the agent still owes in the repayment's scope. -/
def outstandingIn (p : ApplyRepayment) : Nat :=
  (db.debts.map fun d => if p.covers d then d.outstandingMicro else 0).sum

def applyKizunaRepayment (p : ApplyRepayment) : Db × RepaymentResult :=
  match locate (fun r => (r.agentId, r.referenceId)) db.repayments
      (p.agentId, p.referenceId) with
  | some (_, r) => (db, ⟨r, true, db.outstandingIn p⟩)
  | none =>
    let paid := repayDebts p 0 p.amountMicro db.debts
    let row : Repayment := ⟨p.agentId, paid.appliedDebtId, p.referenceId,
      p.amountMicro, paid.applied⟩
    let db' : Db := (outstandingDeltas paid.payments).foldl
      (fun db x => db.bumpKizunaPoolReserve x.1.2 x.1.1 0 (-(x.2 : Int)) 0)
      { db with debts := paid.debts, repayments := db.repayments ++ [row] }
    (db', ⟨row, false, db'.outstandingIn p⟩)

end Db

-- ==== valuation

/-- `available_micro` of a position. -/
def CollateralPosition.availableMicro (x : CollateralPosition) : Nat :=
  x.depositedMicro - x.withdrawnMicro - x.lockedMicro

def CollateralPosition.key (x : CollateralPosition) :
    String × String × String × String :=
  (x.agentId, x.poolId, x.collateralAccount, x.assetId)

/-- `parseMicro` of the text of a NUMERIC. -/
def parseMicro (x : Numeric) : Nat :=
  x.toBigInt.getD 0

/-- One row of a position. Its effective collateral is the text itself. -/
structure AssetView where
  assetId : String
  availableMicro : Nat
  effectiveCollateral : Numeric

structure PositionView where
  assetId : String
  totalAvailableMicro : Nat
  effectiveCollateralMicro : Nat
  assets : List AssetView

/-- `getKizunaPool`: a reserve with the limits of its fast path, if the
pool has one. -/
structure PoolView where
  lane : Lane
  ltvCapBps : Option Nat
  minHealthFactor : Option ℚ

structure CollateralSummary where
  ltvBps : Nat
  healthFactor : ℚ
  effectiveCollateralMicro : Nat
  outstandingMicro : Nat

/-- `Number(effective) * ltvCapBps / (Number(outstanding) * 10_000)`. -/
def healthFactor (effective ltvCapBps outstanding : Nat) : ℚ :=
  Double.div (Double.mul (Double.round effective) ltvCapBps)
    (Double.mul (Double.round outstanding) 10000)

/-- Utilisation and health as the routes compute them; 9999 stands in for
an infinite health factor. -/
def collateralSummary (effective outstanding ltvCapBps : Nat) :
    CollateralSummary where
  ltvBps := if 0 < effective then min 10000 (outstanding * 10000 / effective)
    else 0
  healthFactor := if 0 < outstanding then
      healthFactor effective ltvCapBps outstanding
    else 9999
  effectiveCollateralMicro := effective
  outstandingMicro := outstanding

namespace Db

variable (db : Db)

def getKizunaFastpathPool (poolId : String) : Option FastpathPool :=
  db.fastpathPools poolId

def getKizunaPool (poolId : String) : Option PoolView :=
  (db.poolReserves poolId).map fun reserve => {
    lane := reserve.lane
    ltvCapBps := (db.fastpathPools poolId).map FastpathPool.ltvCapBps
    minHealthFactor :=
      (db.fastpathPools poolId).map FastpathPool.minHealthFactor }

/-- `effective_collateral_micro` of a position, joined with its asset. -/
def effectiveCollateral (x : CollateralPosition) : Option Numeric :=
  (db.collateralAssets x.assetId).map fun asset =>
    Numeric.div (x.availableMicro * (10000 - asset.haircutBps)) 10000

/-- The rows of a query over an agent's active positions in a pool. -/
def activePositions (agentId poolId : String) :
    List (CollateralPosition × Numeric) :=
  db.collateralPositions.filterMap fun x =>
    if x.agentId = agentId ∧ x.poolId = poolId ∧ x.status = "active" then
      (db.effectiveCollateral x).map fun e => (x, e)
    else none

def getKizunaCollateralPosition (agentId poolId collateralAccount : String) :
    Option PositionView :=
  match (db.activePositions agentId poolId).filter fun r =>
      r.1.collateralAccount = collateralAccount with
  | [] => none
  | r :: rest =>
    some {
      assetId := r.1.assetId
      totalAvailableMicro :=
        ((r :: rest).map fun r => r.1.availableMicro).sum
      effectiveCollateralMicro :=
        ((r :: rest).map fun r => parseMicro r.2).sum
      assets := (r :: rest).map fun r =>
        ⟨r.1.assetId, r.1.availableMicro, r.2⟩ }

def getKizunaCollateralSummary (agentId poolId : String) :
    Option CollateralSummary :=
  (db.poolReserves poolId).map fun reserve =>
    collateralSummary
      (parseMicro (Numeric.sum
        ((db.activePositions agentId poolId).map Prod.snd)))
      reserve.outstandingMicro
      (match db.fastpathPools poolId with
        | some pool => if pool.ltvCapBps = 0 then 6500 else pool.ltvCapBps
        | none => 6500)

end Db

-- ==== collateral events

/-- Parameters of `applyKizunaCollateralEvent`. -/
structure ApplyCollateral where
  agentId : String
  lane : Lane
  poolId : String
  collateralAccount : String
  assetId : String
  amountMicro : Nat
  eventType : CollateralEventType
  referenceId : String

def ApplyCollateral.key (p : ApplyCollateral) :
    String × String × String × String :=
  (p.agentId, p.poolId, p.collateralAccount, p.assetId)

def ApplyCollateral.event (p : ApplyCollateral) : CollateralEvent :=
  ⟨p.agentId, p.poolId, p.lane, p.collateralAccount, p.assetId,
    p.referenceId, p.eventType, p.amountMicro⟩

structure CollateralResult where
  idempotent : Bool
  position : CollateralPosition
  poolReserve : PoolReserve
  summary : CollateralSummary

namespace Db

variable (db : Db)

/-- The position an event leaves: a deposit opens it or adds to it, a
withdrawal takes from an active one that has the amount available. -/
def moveCollateral (p : ApplyCollateral) :
    Except String (Db × CollateralPosition) :=
  match p.eventType, locate CollateralPosition.key db.collateralPositions
      p.key with
  | .deposit, none =>
    let x : CollateralPosition := ⟨p.agentId, p.poolId,
      p.collateralAccount, p.assetId, p.amountMicro, 0, 0, "active"⟩
    return ({ db with collateralPositions := db.collateralPositions ++ [x] }, x)
  | .deposit, some (i, old) =>
    let x := { old with depositedMicro := old.depositedMicro + p.amountMicro }
    return ({ db with
      collateralPositions := db.collateralPositions.set i x }, x)
  | .withdraw, some (i, old) => do
      require (old.status = "active" ∧ p.amountMicro + old.withdrawnMicro
        + old.lockedMicro ≤ old.depositedMicro)
        "kizuna_collateral_withdraw_insufficient_available"
      let x := { old with withdrawnMicro := old.withdrawnMicro + p.amountMicro }
      return ({ db with
        collateralPositions := db.collateralPositions.set i x }, x)
  | .withdraw, none =>
    throw "kizuna_collateral_withdraw_insufficient_available"

def applyKizunaCollateralEvent (p : ApplyCollateral) :
    Except String (Db × CollateralResult) :=
  match locate (fun e => (e.agentId, e.referenceId)) db.collateralEvents
      (p.agentId, p.referenceId) with
  | some _ => do
      let (_, x) ← okOr
        (locate CollateralPosition.key db.collateralPositions p.key)
        "kizuna_collateral_state_missing"
      let reserve ← okOr (db.poolReserves p.poolId)
        "kizuna_collateral_state_missing"
      let summary ← okOr (db.getKizunaCollateralSummary p.agentId p.poolId)
        "kizuna_collateral_state_missing"
      return (db, ⟨true, x, reserve, summary⟩)
  | none => do
      let asset ← okOr (db.collateralAssets p.assetId)
        "kizuna_collateral_asset_not_supported"
      require (asset.status = "active") "kizuna_collateral_asset_not_supported"
      require (0 < p.amountMicro) "kizuna_collateral_amount_invalid"
      let (db', x) ← db.moveCollateral p
      let db' := { db' with
        collateralEvents := db'.collateralEvents ++ [p.event] }
      let effectiveDelta : Int :=
        (p.amountMicro * (10000 - asset.haircutBps) / 10000 : Nat)
      let db' := db'.bumpKizunaPoolReserve p.poolId p.lane 0 0
        (if p.eventType = .deposit then effectiveDelta else -effectiveDelta)
      let reserve ← okOr (db'.poolReserves p.poolId) "kizuna_pool_not_found"
      let ltvCapBps := match db'.fastpathPools p.poolId with
        | some pool => pool.ltvCapBps
        | none => 6500
      return (db', ⟨false, x, reserve, collateralSummary
        reserve.collateralValueMicro reserve.outstandingMicro ltvCapBps⟩)

end Db

end KamiyoProtocol.Facilitator
