/-
What each transaction changes.

One lemma a transaction: a committed one leaves the database it started
in with the rows named changed and nothing else. Balances are read
through `balance`, which has zeros where there is no row, and change by
the amounts of a `BalanceMove`.
-/
import KamiyoProtocol.Facilitator.Operations

namespace KamiyoProtocol.Facilitator

open Exec Keyed Function

variable {row : Reservation}

variable {α : Type}

namespace Db

-- ==== balances

/-- The balance under a key, zeros for none. -/
def balance (db : Db) (key : String × String) : EnterpriseBalance :=
  (db.enterpriseBalances key).getD ⟨0, 0, 0⟩

/-- The balance under `key` moved by these amounts, no other one did. -/
structure BalanceMove (db db' : Db) (key : String × String)
    (available reserved spent : Int) : Prop where
  available : ((db'.balance key).availableMicro : Int)
    = (db.balance key).availableMicro + available
  reserved : ((db'.balance key).reservedMicro : Int)
    = (db.balance key).reservedMicro + reserved
  spent : ((db'.balance key).spentMicro : Int)
    = (db.balance key).spentMicro + spent
  ne : ∀ k, k ≠ key → db'.balance k = db.balance k

theorem BalanceMove.rfl {db db' : Db} (key : String × String)
    (h : db'.enterpriseBalances = db.enterpriseBalances) :
    BalanceMove db db' key 0 0 0 := by
  have hsame : ∀ k, db'.balance k = db.balance k := by
    intro k
    rw [balance, balance, h]
  refine ⟨?_, ?_, ?_, fun k _ => hsame k⟩
  · rw [hsame]
    omega
  · rw [hsame]
    omega
  · rw [hsame]
    omega

variable {db db' : Db} {agentId poolId : String} {a r s : Int} {m n : Nat}

theorem mutate_some
    (h : db.mutateKizunaEnterpriseBalance agentId poolId a r s m n = some db') :
    (∃ balances, db' = { db with enterpriseBalances := balances })
      ∧ BalanceMove db db' (agentId, poolId) a r s := by
  unfold mutateKizunaEnterpriseBalance at h
  simp only at h
  split at h
  · next hguard =>
      cases h
      refine ⟨⟨_, rfl⟩, ?_⟩
      obtain ⟨ha, hr, hs, -, -⟩ := hguard
      have hself : ∀ b, ({ db with
          enterpriseBalances := update db.enterpriseBalances (agentId, poolId)
            (some b) } : Db).balance (agentId, poolId) = b := by
        intro b
        show (update db.enterpriseBalances (agentId, poolId) (some b)
          (agentId, poolId)).getD _ = b
        rw [update_self]
        rfl
      refine ⟨?_, ?_, ?_, ?_⟩
      · rw [hself]
        exact Int.toNat_of_nonneg ha
      · rw [hself]
        exact Int.toNat_of_nonneg hr
      · rw [hself]
        exact Int.toNat_of_nonneg hs
      · intro k hk
        show (update db.enterpriseBalances (agentId, poolId) _ k).getD _ = _
        rw [update_of_ne hk]
        rfl
  · cases h

/-- A move that keeps the columns non-negative and has its minima is
made. -/
theorem mutate_isSome (db : Db) (agentId poolId : String) (a r s : Int)
    (m n : Nat)
    (ha : 0 ≤ ((db.balance (agentId, poolId)).availableMicro : Int) + a)
    (hr : 0 ≤ ((db.balance (agentId, poolId)).reservedMicro : Int) + r)
    (hs : 0 ≤ ((db.balance (agentId, poolId)).spentMicro : Int) + s)
    (hm : m ≤ (db.balance (agentId, poolId)).availableMicro)
    (hn : n ≤ (db.balance (agentId, poolId)).reservedMicro) :
    ∃ db', db.mutateKizunaEnterpriseBalance agentId poolId a r s m n
      = some db' := by
  unfold mutateKizunaEnterpriseBalance
  simp only
  rw [if_pos ⟨ha, hr, hs, hm, hn⟩]
  exact ⟨_, rfl⟩

-- ==== releases

theorem giveBack_ok (h : db.giveBack row = .ok db') :
    (∃ reserves balances, db' = { db with
      poolReserves := reserves, enterpriseBalances := balances })
      ∧ BalanceMove db db' (row.agentId, row.poolId)
          (if row.fundingMode = .prefunded then row.lockedMicro else 0)
          (if row.fundingMode = .prefunded then -(row.lockedMicro : Int)
            else 0) 0 := by
  unfold giveBack at h
  simp only at h
  split at h
  · next hmode =>
      obtain ⟨⟨balances, hdb⟩, hmove⟩ := mutate_some (okOr_ok.mp h)
      rw [if_pos hmode, if_pos hmode]
      exact ⟨⟨_, balances, hdb⟩,
        ⟨hmove.available, hmove.reserved, hmove.spent, hmove.ne⟩⟩
  · next hmode =>
      cases h
      rw [if_neg hmode, if_neg hmode]
      exact ⟨⟨_, _, rfl⟩, BalanceMove.rfl _ rfl⟩

/-- A committed release changes nothing, or ends a `reserved` row. -/
theorem release_ok {id : Nat} {status : ReleaseStatus} {u : Unit}
    (h : db.releaseKizunaReservation id status = .ok (db', u)) :
    db' = db ∨ ∃ row, db.reservations[id]? = some row ∧ row.status = .reserved
      ∧ (∃ reserves balances, db' = { db with
          reservations := db.reservations.set id
            { row with status := status.toReservation }
          poolReserves := reserves
          enterpriseBalances := balances })
      ∧ BalanceMove db db' (row.agentId, row.poolId)
          (if row.fundingMode = .prefunded then row.lockedMicro else 0)
          (if row.fundingMode = .prefunded then -(row.lockedMicro : Int)
            else 0) 0 := by
  unfold releaseKizunaReservation at h
  split at h
  · cases h
    exact Or.inl rfl
  · next row hrow =>
      split at h
      · next hstatus =>
          obtain ⟨db₁, hback, hret⟩ := bind_ok.mp h
          cases hret
          obtain ⟨⟨reserves, balances, hdb⟩, hmove⟩ := giveBack_ok hback
          exact Or.inr ⟨row, hrow, hstatus, ⟨reserves, balances, hdb⟩,
            ⟨hmove.available, hmove.reserved, hmove.spent, hmove.ne⟩⟩
      · cases h
        exact Or.inl rfl

/-- A committed reservation is a new `reserved` row of an existing
decision, its lock taken if it is prefunded. -/
theorem create_ok {p : CreateReservation} {dbNow : Nat}
    {stored : Stored Reservation}
    (h : db.createKizunaReservation p dbNow = .ok (db', stored)) :
    (p.mode = .prefunded → p.lockedMicro ≠ 0)
      ∧ p.decisionId < db.decisions.length
      ∧ (∃ reserves balances, db' = { db with
          reservations := db.reservations ++ [p.row dbNow]
          poolReserves := reserves
          enterpriseBalances := balances })
      ∧ BalanceMove db db' (p.agentId, p.poolId)
          (if p.mode = .prefunded then -(p.lockedMicro : Int) else 0)
          (if p.mode = .prefunded then p.lockedMicro else 0) 0 := by
  unfold createKizunaReservation at h
  obtain ⟨u₁, hlock, u₂, hdecision, u₃, hnonce, h⟩ := bind_ok₃.mp h
  have hlock := require_ok.mp hlock
  have hdecision := require_ok.mp hdecision
  refine ⟨fun hmode hzero => hlock ⟨hmode, hzero⟩, hdecision, ?_⟩
  simp only at h
  split at h
  · next hmode =>
      have hmode : p.mode = .prefunded := hmode
      obtain ⟨db₁, hmutate, hret⟩ := bind_ok.mp h
      cases hret
      obtain ⟨⟨balances, hdb⟩, hmove⟩ := mutate_some (okOr_ok.mp hmutate)
      rw [if_pos hmode, if_pos hmode]
      exact ⟨⟨_, balances, hdb⟩,
        ⟨hmove.available, hmove.reserved, hmove.spent, hmove.ne⟩⟩
  · next hmode =>
      have hmode : ¬ p.mode = .prefunded := hmode
      cases h
      rw [if_neg hmode, if_neg hmode]
      exact ⟨⟨_, _, rfl⟩, BalanceMove.rfl _ rfl⟩

-- ==== repayments

/-- What a repayment may do to a debt. -/
structure Repays (d d' : Debt) : Prop where
  same : d' = { d with
    outstandingMicro := d'.outstandingMicro, status := d'.status }
  outstanding : d'.outstandingMicro ≤ d.outstandingMicro
  opened : d'.status = .opened → d.status = .opened

theorem Repays.refl (d : Debt) : Repays d d :=
  ⟨Eq.refl d, Nat.le_refl _, id⟩

theorem repayDebts_repays (p : ApplyRepayment) (debts : List Debt) :
    ∀ i n, List.Forall₂ Repays debts (repayDebts p i n debts).debts := by
  induction debts with
  | nil =>
    intro i n
    exact List.Forall₂.nil
  | cons d rest ih =>
    intro i n
    unfold repayDebts
    split
    · next hpays =>
        obtain ⟨hcovers, -, -⟩ := hpays
        refine List.Forall₂.cons ⟨Eq.refl _, ?_, ?_⟩ (ih _ _)
        · exact Nat.sub_le ..
        · intro _
          exact hcovers.2.1
    · exact List.Forall₂.cons (Repays.refl d) (ih _ _)

theorem foldl_bump (pool : α → String) (lane : α → Lane)
    (outstandingDelta : α → Int) (xs : List α) :
    ∀ db : Db, ∃ reserves, xs.foldl (fun db x =>
        db.bumpKizunaPoolReserve (pool x) (lane x) 0 (outstandingDelta x) 0)
        db = { db with poolReserves := reserves } := by
  induction xs with
  | nil =>
    intro db
    exact ⟨db.poolReserves, Eq.refl db⟩
  | cons x rest ih =>
    intro db
    obtain ⟨reserves, h⟩ := ih (db.bumpKizunaPoolReserve (pool x) (lane x)
      0 (outstandingDelta x) 0)
    rw [List.foldl_cons, h]
    exact ⟨reserves, rfl⟩

theorem repay_eq (db : Db) (p : ApplyRepayment) :
    ∃ debts repayments reserves, (db.applyKizunaRepayment p).1 = { db with
        debts := debts
        repayments := repayments
        poolReserves := reserves }
      ∧ List.Forall₂ Repays db.debts debts := by
  unfold applyKizunaRepayment
  split
  · exact ⟨db.debts, db.repayments, db.poolReserves, Eq.refl db,
      List.forall₂_same.mpr fun d _ => Repays.refl d⟩
  · dsimp only
    obtain ⟨reserves, h⟩ := foldl_bump (fun x => x.1.2) (fun x => x.1.1)
      (fun x => -(x.2 : Int))
      (outstandingDeltas (repayDebts p 0 p.amountMicro db.debts).payments)
      { db with
        debts := (repayDebts p 0 p.amountMicro db.debts).debts
        repayments := db.repayments ++ [_] }
    rw [h]
    exact ⟨_, _, reserves, Eq.refl _, repayDebts_repays p db.debts 0 _⟩

-- ==== collateral

theorem move_same {p : ApplyCollateral} {x : CollateralPosition}
    (h : db.moveCollateral p = .ok (db', x)) :
    ∃ positions, db' = { db with collateralPositions := positions } := by
  unfold moveCollateral at h
  split at h
  · cases h
    exact ⟨_, rfl⟩
  · cases h
    exact ⟨_, rfl⟩
  · obtain ⟨u, -, h⟩ := bind_ok.mp h
    cases h
    exact ⟨_, rfl⟩
  · cases h

/-- A committed collateral event touches one position, the record of
events and pool reserves, or is known already and touches nothing. -/
theorem collateral_ok {p : ApplyCollateral} {v : CollateralResult}
    (h : db.applyKizunaCollateralEvent p = .ok (db', v)) :
    db' = db ∨ ∃ db₁ x events reserves,
      db.moveCollateral p = .ok (db₁, x) ∧ db' = { db with
        collateralPositions := db₁.collateralPositions
        collateralEvents := events
        poolReserves := reserves } := by
  unfold applyKizunaCollateralEvent at h
  split at h
  · obtain ⟨x, -, reserve, -, summary, -, h⟩ := bind_ok₃.mp h
    cases h
    exact Or.inl rfl
  · obtain ⟨asset, -, u₁, -, u₂, -, h⟩ := bind_ok₃.mp h
    obtain ⟨⟨db₁, x⟩, hmoved, reserve, -, h⟩ := bind_ok₂.mp h
    cases h
    obtain ⟨positions, hdb₁⟩ := move_same hmoved
    subst hdb₁
    exact Or.inr ⟨_, x, _, _, hmoved, rfl⟩

-- ==== settlements

theorem upsertDebt_new {row : Debt}
    (hnew : ∀ d ∈ db.debts, d.settlementId ≠ row.settlementId) :
    (db.upsertDebt row).1 = { db with debts := db.debts ++ [row] } := by
  unfold upsertDebt
  rw [locate_none.mpr hnew]

/-- An upsert of a debt keeps every debt's amounts, status and owner, and
adds at most the row. -/
theorem upsertDebt_debts (db : Db) (row : Debt) :
    (∃ debts, (db.upsertDebt row).1 = { db with debts := debts })
      ∧ ((db.upsertDebt row).1.debts = db.debts ++ [row]
        ∨ ∃ i old txHash envelopeHash, db.debts[i]? = some old
          ∧ (db.upsertDebt row).1.debts = db.debts.set i { old with
              txHash := txHash, decisionEnvelopeHash := envelopeHash }) := by
  unfold upsertDebt
  split
  · exact ⟨⟨_, rfl⟩, Or.inl rfl⟩
  · next i old hi =>
      exact ⟨⟨_, rfl⟩, Or.inr ⟨i, old, _, _, (locate_some hi).1, rfl⟩⟩

theorem upsertDebt_updateSettlement (row : Debt) (id : Nat)
    (f : Settlement → Settlement) :
    ((db.updateSettlement id f).upsertDebt row).1.debts
      = (db.upsertDebt row).1.debts := by
  unfold upsertDebt updateSettlement
  cases locate Debt.settlementId db.debts row.settlementId with
  | none => rfl
  | some r => rfl

theorem insertBillable_same (row : BillableEvent) :
    ∃ events, db.insertBillableEvent row
      = { db with billableEvents := events } := by
  unfold insertBillableEvent
  split
  · exact ⟨_, rfl⟩
  · exact ⟨_, rfl⟩

variable {p : FinalizeSettlement}

/-- Where a settlement's money came from. -/
theorem fund_ok {d : Decision} {debt : Option (Stored Debt)}
    (h : db.fundSettlement row d p = .ok (db', debt)) :
    (∃ debts balances, db' = { db with
        debts := debts, enterpriseBalances := balances })
      ∧ db'.debts = (if row.isPrefundedEnterprise then db.debts
          else (db.upsertDebt (debtRow row d.repayWallet
            d.decisionEnvelopeHash p)).1.debts)
      ∧ BalanceMove db db' (row.agentId, row.poolId) 0
          (if row.isPrefundedEnterprise then -(row.lockedMicro : Int) else 0)
          (if row.isPrefundedEnterprise then row.lockedMicro else 0) := by
  unfold fundSettlement at h
  split at h
  · next hprefunded =>
      obtain ⟨u, hlock, db₁, hmutate, hret⟩ := bind_ok₂.mp h
      cases hret
      obtain ⟨⟨balances, hdb⟩, hmove⟩ := mutate_some (okOr_ok.mp hmutate)
      rw [if_pos hprefunded, if_pos hprefunded, if_pos hprefunded]
      exact ⟨⟨db.debts, balances, hdb⟩, by rw [hdb], hmove⟩
  · next hdebt =>
      cases h
      rw [if_neg hdebt, if_neg hdebt, if_neg hdebt]
      obtain ⟨⟨debts, hdb⟩, -⟩ := db.upsertDebt_debts
        (debtRow row d.repayWallet d.decisionEnvelopeHash p)
      have hsame : (db.upsertDebt (debtRow row d.repayWallet
          d.decisionEnvelopeHash p)).1.enterpriseBalances
            = db.enterpriseBalances := by rw [hdb]
      exact ⟨⟨debts, db.enterpriseBalances, hdb⟩, rfl, BalanceMove.rfl _ hsame⟩

theorem fund_isOk {d : Decision}
    (hlock : row.isPrefundedEnterprise → row.lockedMicro ≠ 0
      ∧ row.lockedMicro
        ≤ (db.balance (row.agentId, row.poolId)).reservedMicro) :
    ∃ x, db.fundSettlement row d p = .ok x := by
  unfold fundSettlement
  by_cases hprefunded : row.isPrefundedEnterprise
  · rw [if_pos hprefunded]
    obtain ⟨hne, hheld⟩ := hlock hprefunded
    obtain ⟨db', hmutate⟩ := mutate_isSome db row.agentId row.poolId 0
      (-(row.lockedMicro : Int)) row.lockedMicro 0 row.lockedMicro
      (by omega) (by omega) (by omega) (by omega) hheld
    apply bind_isOk (a := ()) (require_ok.mpr hne)
    apply bind_isOk (okOr_ok.mpr hmutate)
    exact ⟨_, rfl⟩
  · rw [if_neg hprefunded]
    exact ⟨_, rfl⟩

/-- The row a settlement leaves of its reservation. -/
def consumed (row : Reservation) (p : FinalizeSettlement) : Reservation :=
  { row with
    status := .consumed
    settlementId := some p.settlementId
    txHash := some p.txHash }

/-- A committed settlement consumes a `reserved` row that has not expired,
and spends its lock or opens its debt. -/
theorem finalize_ok {now : Nat} {v : FinalizeResult}
    (h : db.finalizeKizunaSettlement p now = .ok (db', v)) :
    ∃ row d, db.reservations[p.reservationId]? = some row
      ∧ db.decisions[row.decisionId]? = some d
      ∧ row.status = .reserved ∧ now < row.expiresAt
      ∧ (∃ reserves balances events debts, db' = { db with
          reservations := db.reservations.set p.reservationId
            (consumed row p)
          debts := debts
          settlements := db.settlements.modify p.settlementId fun s =>
            { s with
              status := .confirmed
              txHash := p.txHash
              feeAmount := p.feeAmount }
          billableEvents := events
          poolReserves := reserves
          enterpriseBalances := balances })
      ∧ db'.debts = (if row.isPrefundedEnterprise then db.debts
          else (db.upsertDebt (debtRow row d.repayWallet
            d.decisionEnvelopeHash p)).1.debts)
      ∧ BalanceMove db db' (row.agentId, row.poolId) 0
          (if row.isPrefundedEnterprise then -(row.lockedMicro : Int) else 0)
          (if row.isPrefundedEnterprise then row.lockedMicro else 0) := by
  unfold finalizeKizunaSettlement at h
  obtain ⟨row, hrow, d, hd, u₁, hstatus, h⟩ := bind_ok₃.mp h
  obtain ⟨u₂, hlane, u₃, hpool, h⟩ := bind_ok₂.mp h
  dsimp only at h
  split at h
  · -- the row has expired, and the route throws
    obtain ⟨db₁, hback, h⟩ := bind_ok.mp h
    cases h
  · next hfresh =>
      obtain ⟨⟨db₁, debt⟩, hfund, s, hs, u₄, hmerchant, h⟩ := bind_ok₃.mp h
      cases h
      obtain ⟨⟨debts, balances, hdb₁⟩, hdebts, hmove⟩ := fund_ok hfund
      refine ⟨row, d, okOr_ok.mp hrow, okOr_ok.mp hd, require_ok.mp hstatus,
        by omega, ?_, ?_, ?_⟩
      · obtain ⟨events, he⟩ := insertBillable_same _
        rw [he]
        subst hdb₁
        exact ⟨_, _, _, _, rfl⟩
      · obtain ⟨events, he⟩ := insertBillable_same _
        rw [he]
        show db₁.debts = _
        rw [hdebts, upsertDebt_updateSettlement]
        rfl
      · obtain ⟨events, he⟩ := insertBillable_same _
        rw [he]
        exact ⟨hmove.available, hmove.reserved, hmove.spent, hmove.ne⟩

/-- Nothing but expiry keeps a `reserved` row from being settled, where
the settlement is recorded and the lock is held. -/
theorem finalize_isOk {now : Nat} {s : Settlement}
    (hrow : db.reservations[p.reservationId]? = some row)
    (hdecision : row.decisionId < db.decisions.length)
    (hstatus : row.status = .reserved)
    (hlane : ∀ lane ∈ p.lane, lane = row.lane)
    (hpool : ∀ poolId ∈ p.poolId, poolId = row.poolId)
    (hfresh : now < row.expiresAt)
    (hlock : row.isPrefundedEnterprise → row.lockedMicro ≠ 0
      ∧ row.lockedMicro ≤ (db.balance (row.agentId, row.poolId)).reservedMicro)
    (hs : db.settlements[p.settlementId]? = some s)
    (hmerchant : s.merchantWallet ≠ "") :
    ∃ x, db.finalizeKizunaSettlement p now = .ok x := by
  have hfundable : ∃ x, (db.updateSettlement p.settlementId fun s =>
      { s with
        status := .confirmed
        txHash := p.txHash
        feeAmount := p.feeAmount }).fundSettlement row
      db.decisions[row.decisionId] p = .ok x := fund_isOk hlock
  obtain ⟨⟨db₁, debt⟩, hfund⟩ := hfundable
  have hrecorded : db₁.settlements[p.settlementId]? = some { s with
      status := .confirmed, txHash := p.txHash, feeAmount := p.feeAmount } := by
    obtain ⟨⟨debts, balances, hdb₁⟩, -, -⟩ := fund_ok hfund
    rw [hdb₁]
    show (db.settlements.modify _ _)[_]? = _
    rw [List.getElem?_modify_eq, hs]
    rfl
  unfold finalizeKizunaSettlement
  apply bind_isOk (okOr_ok.mpr hrow)
  apply bind_isOk (okOr_ok.mpr (List.getElem?_eq_getElem hdecision))
  apply bind_isOk (a := ()) (require_ok.mpr hstatus)
  apply bind_isOk (a := ()) (require_ok.mpr hlane)
  apply bind_isOk (a := ()) (require_ok.mpr hpool)
  dsimp only
  rw [if_neg (by omega : ¬ row.expiresAt ≤ now)]
  apply bind_isOk hfund
  apply bind_isOk (okOr_ok.mpr hrecorded)
  apply bind_isOk (a := ()) (require_ok.mpr hmerchant)
  exact ⟨_, rfl⟩

-- ==== funding

/-- A committed funding event moves the available balance by its amount,
or is known already and moves nothing. -/
theorem fund_booked {p : ApplyFunding} {v : FundingResult}
    (h : db.applyKizunaFundingEvent p = .ok (db', v)) :
    db' = db ∨ (∃ balances, db' = { db with
        fundingEvents := db.fundingEvents ++ [p.row]
        enterpriseBalances := balances })
      ∧ BalanceMove db db' (p.agentId, p.poolId) p.row.delta 0 0 := by
  unfold applyKizunaFundingEvent at h
  obtain ⟨u, -, h⟩ := bind_ok.mp h
  split at h
  · obtain ⟨u', -, balance, -, h⟩ := bind_ok₂.mp h
    cases h
    exact Or.inl rfl
  · obtain ⟨db₁, hmutate, balance, -, h⟩ := bind_ok₂.mp h
    cases h
    obtain ⟨⟨balances, hdb₁⟩, hmove⟩ := mutate_some (okOr_ok.mp hmutate)
    subst hdb₁
    exact Or.inr ⟨⟨balances, rfl⟩,
      ⟨hmove.available, hmove.reserved, hmove.spent, hmove.ne⟩⟩

theorem reserveNonce_same {payer nonce : String} {v : Bool}
    (h : db.reservePaymentNonce payer nonce = (db', v)) :
    ∃ guards, db' = { db with nonceGuards := guards } := by
  unfold reservePaymentNonce at h
  split at h
  · cases h
    exact ⟨_, rfl⟩
  · cases h
    exact ⟨_, rfl⟩

theorem insertSession_same {tokenHash : String} {row : PaymentSession}
    {u : Unit} (h : db.insertPaymentSession tokenHash row = .ok (db', u)) :
    ∃ sessions, db' = { db with paymentSessions := sessions } := by
  obtain ⟨u', -, h⟩ := bind_ok.mp h
  cases h
  exact ⟨_, rfl⟩

theorem reserveSpend_same {tokenHash : String} {deltaMicro dbNow : Nat}
    {v : Bool}
    (h : db.reservePaymentSessionSpend tokenHash deltaMicro dbNow
      = (db', v)) : ∃ sessions, db' = { db with paymentSessions := sessions } := by
  unfold reservePaymentSessionSpend at h
  split at h
  · split at h
    · cases h
      exact ⟨_, rfl⟩
    · cases h
      exact ⟨_, rfl⟩
  · cases h
    exact ⟨_, rfl⟩

theorem revoke_same {tokenHash : String} {dbNow : Nat} {v : Bool}
    (h : db.revokePaymentSession tokenHash dbNow = (db', v)) :
    ∃ sessions, db' = { db with paymentSessions := sessions } := by
  unfold revokePaymentSession at h
  split at h
  · split at h
    · cases h
      exact ⟨_, rfl⟩
    · cases h
      exact ⟨_, rfl⟩
  · cases h
    exact ⟨_, rfl⟩

end Db

-- ==== operations

/-- What an operation does to the credit books: reservations, debts,
balances, pool reserves, collateral and funding events. Decisions and
settlements are only ever added, and a settlement keeps its merchant. -/
inductive Booked (db db' : Db) : Op → Prop
  | aside {op : Op} (decisions : List Decision)
      (settlements : List Settlement)
      (guards : String × String → Option NonceGuard)
      (sessions : String → Option PaymentSession)
      (same : db' = { db with
        decisions := decisions
        settlements := settlements
        nonceGuards := guards
        paymentSessions := sessions })
      (grown : db.decisions <+: decisions)
      (merchants : settlements.map Settlement.merchantWallet
        = db.settlements.map Settlement.merchantWallet) : Booked db db' op
  | settlement (row : Settlement)
      (same : db' = { db with settlements := db.settlements ++ [row] }) :
      Booked db db' (.insertSettlement row)
  | reserve (p : CreateReservation) (sent : Option KernelEvaluateInput)
      (now : Nat) (stored : Stored Reservation)
      (done : db.createKizunaReservation p now = .ok (db', stored)) :
      Booked db db' (.createKizunaReservation p sent)
  | release (id : Nat) (status : ReleaseStatus)
      (done : db.releaseKizunaReservation id status = .ok (db', ())) :
      Booked db db' (.releaseKizunaReservation id status)
  | consume (p : FinalizeSettlement) (now : Nat) (v : FinalizeResult)
      (done : db.finalizeKizunaSettlement p now = .ok (db', v)) :
      Booked db db' (.finalizeKizunaSettlement p)
  | repay (p : ApplyRepayment) (done : db' = (db.applyKizunaRepayment p).1) :
      Booked db db' (.applyKizunaRepayment p)
  | fund (p : ApplyFunding) (v : FundingResult)
      (done : db.applyKizunaFundingEvent p = .ok (db', v)) :
      Booked db db' (.applyKizunaFundingEvent p)
  | collateral (p : ApplyCollateral) (v : CollateralResult)
      (done : db.applyKizunaCollateralEvent p = .ok (db', v)) :
      Booked db db' (.applyKizunaCollateralEvent p)

variable {op : Op}

theorem Booked.refl {db : Db} : Booked db db op :=
  .aside db.decisions db.settlements db.nonceGuards db.paymentSessions
    rfl (List.prefix_refl _) rfl

/-- What a commit leaves is what was there, or what the transaction
made. -/
theorem commit_db (c : Choice) (s : Store) (x : Except String (Db × α)) :
    (commit c s x).1 = s
      ∨ ∃ db v, x = .ok (db, v) ∧ (commit c s x).1 = { s with db := db } := by
  unfold commit
  split
  · exact Or.inl rfl
  · exact Or.inl rfl
  · exact Or.inr ⟨_, _, rfl, rfl⟩
  · exact Or.inr ⟨_, _, rfl, rfl⟩

theorem commit_ok {c : Choice} {s : Store} {x : Except String (Db × α)} {v : α}
    (h : (commit c s x).2.value = .ok v) :
    ∃ db, x = .ok (db, v) ∧ (commit c s x).1 = { s with db := db } := by
  unfold commit at h ⊢
  split at h
  · cases h
  · cases h
  · cases h
    exact ⟨_, rfl, rfl⟩
  · cases h

theorem commit_booked (c : Choice) (s : Store) {x : Except String (Db × α)}
    (h : ∀ db v, x = .ok (db, v) → Booked s.db db op) :
    Booked s.db (commit c s x).1.db op := by
  rcases commit_db c s x with hsame | ⟨db, v, hx, hdb⟩
  · rw [hsame]
    exact Booked.refl
  · rw [hdb]
    exact h db v hx

theorem transfer_db (c : Choice) (s : Store) (source : Source) (o : Order) :
    (transfer c s source o).1.db = s.db := by
  unfold transfer
  split
  · rfl
  · rfl

theorem debit_db (c : Choice) (s : Store) (p : Debit) :
    (debit c s p).1.db = s.db := by
  unfold debit
  split
  · rfl
  · rfl
  · rfl
  · rfl
  · rfl

theorem settlements_booked {db : Db} (id : Nat) {f : Settlement → Settlement}
    (hf : ∀ s, (f s).merchantWallet = s.merchantWallet) :
    Booked db (db.updateSettlement id f) op :=
  .aside _ _ _ _ rfl (List.prefix_refl _)
    (map_modify hf db.settlements id)

theorem guards_booked {db : Db} (guards : String × String → Option NonceGuard) :
    Booked db { db with nonceGuards := guards } op :=
  .aside _ _ _ _ rfl (List.prefix_refl _) rfl

theorem sessions_booked {db : Db} (sessions : String → Option PaymentSession) :
    Booked db { db with paymentSessions := sessions } op :=
  .aside _ _ _ _ rfl (List.prefix_refl _) rfl

theorem perform_booked (op : Op) (c : Choice) (s : Store) :
    Booked s.db (perform op c s).1.db op := by
  cases op with
  | insertSettlement row =>
    apply commit_booked
    intro db v h
    cases h
    exact .settlement row rfl
  | createKizunaReservation p sent =>
    apply commit_booked
    intro db v h
    exact .reserve p sent c.clock v h
  | releaseKizunaReservation id status =>
    apply commit_booked
    intro db v h
    exact .release id status h
  | finalizeKizunaSettlement p =>
    apply commit_booked
    intro db v h
    exact .consume p c.clock v h
  | applyKizunaRepayment p =>
    apply commit_booked
    intro db v h
    exact .repay p (congrArg Prod.fst (Except.ok.inj h)).symm
  | applyKizunaFundingEvent p =>
    apply commit_booked
    intro db v h
    exact .fund p v h
  | applyKizunaCollateralEvent p =>
    apply commit_booked
    intro db v h
    exact .collateral p v h
  | insertKizunaUnderwriteDecision row =>
    apply commit_booked
    intro db v h
    obtain ⟨u, -, h⟩ := bind_ok.mp h
    cases h
    exact .aside _ _ _ _ rfl (List.prefix_append ..) rfl
  | updateSettlementStatus id status =>
    apply commit_booked
    intro db v h
    cases h
    exact settlements_booked id fun _ => rfl
  | updateSettlementConfirmed id txHash fee =>
    apply commit_booked
    intro db v h
    cases h
    exact settlements_booked id fun _ => rfl
  | reservePaymentNonce payer nonce =>
    apply commit_booked
    intro db v h
    obtain ⟨guards, hdb⟩ := Db.reserveNonce_same (Except.ok.inj h)
    rw [hdb]
    exact guards_booked guards
  | setPaymentNonceSettlementId payer nonce id =>
    apply commit_booked
    intro db v h
    cases h
    exact guards_booked _
  | setPaymentNonceTxHash payer nonce txHash =>
    apply commit_booked
    intro db v h
    cases h
    exact guards_booked _
  | deletePaymentNonceGuard payer nonce =>
    apply commit_booked
    intro db v h
    cases h
    exact guards_booked _
  | insertPaymentSession hash row =>
    apply commit_booked
    intro db v h
    obtain ⟨sessions, hdb⟩ := Db.insertSession_same h
    rw [hdb]
    exact sessions_booked sessions
  | revokePaymentSession hash =>
    apply commit_booked
    intro db v h
    obtain ⟨sessions, hdb⟩ := Db.revoke_same (Except.ok.inj h)
    rw [hdb]
    exact sessions_booked sessions
  | reservePaymentSessionSpend hash micro =>
    apply commit_booked
    intro db v h
    obtain ⟨sessions, hdb⟩ := Db.reserveSpend_same (Except.ok.inj h)
    rw [hdb]
    exact sessions_booked sessions
  | releasePaymentSessionSpend hash micro =>
    apply commit_booked
    intro db v h
    cases h
    exact sessions_booked _
  | settlePayment o =>
    show Booked s.db (transfer c s .facilitator o).1.db _
    rw [transfer_db]
    exact Booked.refl
  | settleAuthorizedPaymentBase o =>
    show Booked s.db (transfer c s .payer o).1.db _
    rw [transfer_db]
    exact Booked.refl
  | settleDelegatedPayment o =>
    show Booked s.db (transfer c s .payer o).1.db _
    rw [transfer_db]
    exact Booked.refl
  | createEscrow o =>
    show Booked s.db (transfer c s .payer o).1.db _
    rw [transfer_db]
    exact Booked.refl
  | debitKizunaCredits p =>
    show Booked s.db (debit c s p).1.db _
    rw [debit_db]
    exact Booked.refl
  | _ => exact Booked.refl

-- ==== lookups

theorem reservationByNonce_some {db : Db} {payer nonce : String}
    {r : ReservationView}
    (h : db.getKizunaReservationByNonce payer nonce = some r) :
    db.reservations[r.id]? = some r.row
      ∧ db.decisions[r.row.decisionId]? = some r.decision
      ∧ (r.row.payerWallet, r.row.requestNonce) = (payer, nonce) := by
  obtain ⟨⟨i, row⟩, hlocate, hmap⟩ := Option.bind_eq_some_iff.mp h
  obtain ⟨d, hd, hr⟩ := Option.map_eq_some_iff.mp hmap
  obtain ⟨hi, hkey⟩ := locate_some hlocate
  subst hr
  exact ⟨hi, hd, hkey⟩

-- ==== persistence

/-- What an operation pays. -/
def executed (op : Op) (c : Choice) : List Payout :=
  match op.order with
  | some (source, o) =>
    if c.pays source o then [c.payout source o] else []
  | none => []

theorem transfer_payouts (c : Choice) (s : Store) (source : Source)
    (o : Order) : (transfer c s source o).1.payouts
      = s.payouts ++ if c.pays source o then [c.payout source o] else [] := by
  unfold transfer
  by_cases hpays : c.pays source o
  · rw [if_pos hpays, if_pos hpays]
  · rw [if_neg hpays, if_neg hpays, List.append_nil]

theorem transfer_paid {c : Choice} {s : Store} {source : Source} {o : Order}
    {onchain : Onchain}
    (h : (transfer c s source o).2.value = .ok onchain) :
    c.pays source o ∧ c.outcome = .succeeds := by
  unfold transfer at h
  split at h
  · next hpays =>
      by_cases hc : c.outcome = .succeeds
      · exact ⟨hpays, hc⟩
      · simp only [if_neg hc] at h
        cases h
  · cases h

theorem commit_payouts (c : Choice) (s : Store)
    (x : Except String (Db × α)) : (commit c s x).1.payouts = s.payouts := by
  rcases commit_db c s x with hsame | ⟨db, v, -, hdb⟩
  · rw [hsame]
  · rw [hdb]

theorem debit_payouts (c : Choice) (s : Store) (p : Debit) :
    (debit c s p).1.payouts = s.payouts := by
  unfold debit
  split
  · rfl
  · rfl
  · rfl
  · rfl
  · rfl

theorem perform_payouts (op : Op) (c : Choice) (s : Store) :
    (perform op c s).1.payouts = s.payouts ++ executed op c := by
  have hcommit : ∀ {α : Type} (x : Except String (Db × α)),
      (commit c s x).1.payouts = s.payouts ++ [] := by
    intro α x
    rw [commit_payouts, List.append_nil]
  cases op with
  | settlePayment o => exact transfer_payouts c s .facilitator o
  | settleAuthorizedPaymentBase o => exact transfer_payouts c s .payer o
  | settleDelegatedPayment o => exact transfer_payouts c s .payer o
  | createEscrow o => exact transfer_payouts c s .payer o
  | debitKizunaCredits p =>
    show (debit c s p).1.payouts = s.payouts ++ []
    rw [debit_payouts, List.append_nil]
  | insertSettlement | createKizunaReservation | releaseKizunaReservation
  | finalizeKizunaSettlement | applyKizunaRepayment | applyKizunaFundingEvent
  | applyKizunaCollateralEvent | insertKizunaUnderwriteDecision
  | updateSettlementStatus | updateSettlementConfirmed | reservePaymentNonce
  | setPaymentNonceSettlementId | setPaymentNonceTxHash
  | deletePaymentNonceGuard | insertPaymentSession | revokePaymentSession
  | reservePaymentSessionSpend | releasePaymentSessionSpend => exact hcommit _
  | _ => exact (List.append_nil _).symm

theorem mem_payouts {c : Choice} {s : Store} {o : Payout}
    (h : o ∈ (perform op c s).1.payouts) :
    o ∈ s.payouts ∨ ∃ source order, op.order = some (source, order)
      ∧ c.pays source order ∧ o = c.payout source order := by
  rw [perform_payouts] at h
  rcases List.mem_append.mp h with hold | hnew
  · exact Or.inl hold
  · unfold executed at hnew
    cases horder : op.order with
    | none =>
      rw [horder] at hnew
      cases hnew
    | some x =>
      rw [horder] at hnew
      dsimp only at hnew
      split at hnew
      · next hpays =>
          exact Or.inr ⟨x.1, x.2, rfl, hpays, List.mem_singleton.mp hnew⟩
      · cases hnew

theorem moved_le {c : Choice} {source : Source} {o : Order}
    (h : c.pays source o) : (c.payout source o).moved ≤ o.amount := by
  have hfee : o.fee ≤ o.amount := h.2.1
  have hnet : (c.payout source o).moved ≤ o.net + o.fee := by
    unfold Payout.moved Choice.payout
    dsimp only
    split
    · exact Nat.le_refl _
    · omega
  unfold Order.net at hnet
  omega

/-- A reservation that ended so. -/
def Reservation.ended (r : Reservation) (status : ReservationStatus)
    (settlementId : Option Nat) (txHash : Option String) : Reservation :=
  { r with
    status := status
    settlementId := settlementId
    txHash := txHash }

/-- A debt that is still owed for the same. -/
def Debt.continues (d d' : Debt) : Prop :=
  d' = { d with
    decisionEnvelopeHash := d'.decisionEnvelopeHash
    outstandingMicro := d'.outstandingMicro
    status := d'.status
    txHash := d'.txHash }

theorem Debt.continues_rfl (d : Debt) : d.continues d := rfl

theorem Debt.continues_trans {a b c : Debt} (h₁ : a.continues b)
    (h₂ : b.continues c) : a.continues c := by
  unfold Debt.continues at h₁ h₂ ⊢
  rw [h₂, h₁]

/-- What no operation takes back: a reservation keeps all but how it
ended, and all once it has, decisions stay, debts are only repaid, a
settlement keeps its merchant, a payment is made. -/
structure Extends (s s' : Store) : Prop where
  reservations : ∀ (id : Nat) (r : Reservation),
    s.db.reservations[id]? = some r →
    ∃ status settlementId txHash, s'.db.reservations[id]?
      = some (r.ended status settlementId txHash)
  final : ∀ (id : Nat) (r : Reservation), s.db.reservations[id]? = some r →
    r.status ≠ .reserved → s'.db.reservations[id]? = some r
  decisions : s.db.decisions <+: s'.db.decisions
  debts : ∀ (i : Nat) (d : Debt), s.db.debts[i]? = some d →
    ∃ d', s'.db.debts[i]? = some d' ∧ d.continues d'
  settlements : ∀ (id : Nat) (x : Settlement), s.db.settlements[id]? = some x →
    ∃ y : Settlement, s'.db.settlements[id]? = some y
      ∧ y.merchantWallet = x.merchantWallet
  payouts : s.payouts <+: s'.payouts

theorem Extends.trans {a b c : Store} (h₁ : Extends a b)
    (h₂ : Extends b c) : Extends a c where
  reservations id r hr := by
    obtain ⟨status, settlementId, txHash, hb⟩ := h₁.reservations id r hr
    obtain ⟨status', settlementId', txHash', hc⟩ := h₂.reservations id _ hb
    exact ⟨status', settlementId', txHash', hc⟩
  final id r hr hended := h₂.final id r (h₁.final id r hr hended) hended
  decisions := h₁.decisions.trans h₂.decisions
  debts i d hd := by
    obtain ⟨d', hd', hkeeps⟩ := h₁.debts i d hd
    obtain ⟨d'', hd'', hkeeps'⟩ := h₂.debts i d' hd'
    exact ⟨d'', hd'', Debt.continues_trans hkeeps hkeeps'⟩
  settlements id x hx := by
    obtain ⟨y, hy, hyx⟩ := h₁.settlements id x hx
    obtain ⟨z, hz, hzy⟩ := h₂.settlements id y hy
    exact ⟨z, hz, hzy.trans hyx⟩
  payouts := h₁.payouts.trans h₂.payouts

theorem Extends.decision {s s' : Store} (h : Extends s s') {i : Nat}
    {d : Decision} (hd : s.db.decisions[i]? = some d) :
    s'.db.decisions[i]? = some d := by
  obtain ⟨rest, hrest⟩ := h.decisions
  obtain ⟨hlt, -⟩ := List.getElem?_eq_some_iff.mp hd
  rw [← hrest, List.getElem?_append_left hlt]
  exact hd

theorem debts_of_forall₂ {l l' : List Debt}
    (h : List.Forall₂ Debt.continues l l') (i : Nat) (d : Debt)
    (hd : l[i]? = some d) : ∃ d', l'[i]? = some d' ∧ d.continues d' := by
  obtain ⟨hlt, hval⟩ := List.getElem?_eq_some_iff.mp hd
  have hlt' : i < l'.length := by
    rw [← h.length_eq]
    exact hlt
  refine ⟨l'[i], List.getElem?_eq_getElem hlt', ?_⟩
  have hrel := h.get hlt hlt'
  rw [List.get_eq_getElem, List.get_eq_getElem, hval] at hrel
  exact hrel

theorem Repays.continues {d d' : Debt} (h : Db.Repays d d') :
    d.continues d' := by
  unfold Debt.continues
  rw [h.same]

theorem settlements_of_merchants {l l' : List Settlement}
    (h : l'.map Settlement.merchantWallet = l.map Settlement.merchantWallet)
    (id : Nat) (x : Settlement) (hx : l[id]? = some x) :
    ∃ y, l'[id]? = some y ∧ y.merchantWallet = x.merchantWallet := by
  have hmap : (l'.map Settlement.merchantWallet)[id]?
      = some x.merchantWallet := by
    rw [h, List.getElem?_map, hx]
    rfl
  rw [List.getElem?_map] at hmap
  obtain ⟨y, hy, hyx⟩ := Option.map_eq_some_iff.mp hmap
  exact ⟨y, hy, hyx⟩

theorem reservations_of_set {l : List Reservation} {j : Nat}
    (hj : l[j]? = some row) (status : ReservationStatus)
    (settlementId : Option Nat) (txHash : Option String) (id : Nat)
    (r : Reservation) (hr : l[id]? = some r) :
    ∃ status' settlementId' txHash',
      (l.set j (row.ended status settlementId txHash))[id]?
        = some (r.ended status' settlementId' txHash') := by
  by_cases hij : j = id
  · subst hij
    rw [hj] at hr
    cases hr
    obtain ⟨hlt, -⟩ := List.getElem?_eq_some_iff.mp hj
    exact ⟨status, settlementId, txHash, List.getElem?_set_self hlt⟩
  · rw [List.getElem?_set_ne hij]
    exact ⟨r.status, r.settlementId, r.txHash, hr⟩

theorem final_of_set {l : List Reservation} {j : Nat}
    (hj : l[j]? = some row) (hrow : row.status = .reserved)
    (row' : Reservation) (id : Nat) (r : Reservation)
    (hr : l[id]? = some r) (hended : r.status ≠ .reserved) :
    (l.set j row')[id]? = some r := by
  have hne : j ≠ id := by
    rintro rfl
    rw [hj] at hr
    cases hr
    exact hended hrow
  rw [List.getElem?_set_ne hne]
  exact hr

theorem getElem?_of_append {l : List α} {y : α} {i : Nat} {x : α}
    (h : l[i]? = some x) : (l ++ [y])[i]? = some x := by
  obtain ⟨hlt, -⟩ := List.getElem?_eq_some_iff.mp h
  rw [List.getElem?_append_left hlt]
  exact h

theorem upsertDebt_continues (db : Db) (row : Debt) (i : Nat) (d : Debt)
    (hd : db.debts[i]? = some d) :
    ∃ d', (db.upsertDebt row).1.debts[i]? = some d' ∧ d.continues d' := by
  obtain ⟨-, hnew | ⟨j, old, txHash, hash, hj, hset⟩⟩ :=
    Db.upsertDebt_debts db row
  · rw [hnew]
    exact ⟨d, getElem?_of_append hd, d.continues_rfl⟩
  · rw [hset]
    by_cases hij : j = i
    · subst hij
      rw [hj] at hd
      cases hd
      obtain ⟨hlt, -⟩ := List.getElem?_eq_some_iff.mp hj
      exact ⟨_, List.getElem?_set_self hlt, rfl⟩
    · rw [List.getElem?_set_ne hij]
      exact ⟨d, hd, d.continues_rfl⟩

/-- What a transaction that leaves these tables alone extends. -/
theorem Extends.of_same {s s' : Store}
    (hreservations : s'.db.reservations = s.db.reservations)
    (hdecisions : s.db.decisions <+: s'.db.decisions)
    (hdebts : ∀ (i : Nat) (d : Debt), s.db.debts[i]? = some d →
      ∃ d', s'.db.debts[i]? = some d' ∧ d.continues d')
    (hmerchants : ∀ (id : Nat) (x : Settlement),
      s.db.settlements[id]? = some x →
      ∃ y : Settlement, s'.db.settlements[id]? = some y
        ∧ y.merchantWallet = x.merchantWallet)
    (hpayouts : s.payouts <+: s'.payouts) : Extends s s' where
  reservations id r hr := by
    rw [hreservations]
    exact ⟨r.status, r.settlementId, r.txHash, hr⟩
  final id r hr _ := by
    rw [hreservations]
    exact hr
  decisions := hdecisions
  debts := hdebts
  settlements := hmerchants
  payouts := hpayouts

theorem Extends.refl {s : Store} : Extends s s :=
  .of_same rfl (List.prefix_refl _)
    (fun _ d hd => ⟨d, hd, d.continues_rfl⟩)
    (fun _ x hx => ⟨x, hx, rfl⟩) (List.prefix_refl _)

theorem Booked.extends {s s' : Store}
    (h : Booked s.db s'.db op) (hpayouts : s.payouts <+: s'.payouts) :
    Extends s s' := by
  have hdebts : s'.db.debts = s.db.debts → ∀ (i : Nat) (d : Debt),
      s.db.debts[i]? = some d →
      ∃ d', s'.db.debts[i]? = some d' ∧ d.continues d' := by
    intro hsame i d hd
    rw [hsame]
    exact ⟨d, hd, d.continues_rfl⟩
  have hmerchants : s'.db.settlements = s.db.settlements →
      ∀ (id : Nat) (x : Settlement), s.db.settlements[id]? = some x →
      ∃ y : Settlement, s'.db.settlements[id]? = some y
        ∧ y.merchantWallet = x.merchantWallet := by
    intro hsame id x hx
    rw [hsame]
    exact ⟨x, hx, rfl⟩
  cases h with
  | aside decisions settlements guards sessions same grown merchants =>
    refine .of_same (by rw [same]) ?_ (hdebts (by rw [same])) ?_ hpayouts
    · rw [same]
      exact grown
    · rw [same]
      exact settlements_of_merchants merchants
  | settlement row same =>
    refine .of_same (by rw [same]) ?_ (hdebts (by rw [same])) ?_ hpayouts
    · rw [same]
    · rw [same]
      intro id x hx
      exact ⟨x, getElem?_of_append hx, rfl⟩
  | reserve p sent now stored done =>
    obtain ⟨-, -, ⟨reserves, balances, hdb⟩, -⟩ := Db.create_ok done
    refine ⟨?_, ?_, ?_, hdebts (by rw [hdb]), hmerchants (by rw [hdb]),
      hpayouts⟩
    · rw [hdb]
      intro id r hr
      exact ⟨r.status, r.settlementId, r.txHash, getElem?_of_append hr⟩
    · rw [hdb]
      intro id r hr _
      exact getElem?_of_append hr
    · rw [hdb]
  | release id status done =>
    rcases Db.release_ok done with
      hsame | ⟨row, hrow, hstatus, ⟨_, _, hdb⟩, -⟩
    · exact .of_same (by rw [hsame]) (by rw [hsame])
        (hdebts (by rw [hsame])) (hmerchants (by rw [hsame])) hpayouts
    · refine ⟨?_, ?_, ?_, hdebts (by rw [hdb]), hmerchants (by rw [hdb]),
        hpayouts⟩
      · rw [hdb]
        exact reservations_of_set hrow status.toReservation
          row.settlementId row.txHash
      · rw [hdb]
        exact final_of_set hrow hstatus _
      · rw [hdb]
  | consume p now v done =>
    obtain ⟨row, d, hrow, -, hstatus, -, ⟨_, _, _, _, hdb⟩, hdebt, -⟩ :=
      Db.finalize_ok done
    refine ⟨?_, ?_, ?_, ?_, ?_, hpayouts⟩
    · rw [hdb]
      exact reservations_of_set hrow .consumed (some p.settlementId)
        (some p.txHash)
    · rw [hdb]
      exact final_of_set hrow hstatus _
    · rw [hdb]
    · by_cases hprefunded : row.isPrefundedEnterprise
      · rw [if_pos hprefunded] at hdebt
        exact hdebts hdebt
      · rw [if_neg hprefunded] at hdebt
        rw [hdebt]
        exact upsertDebt_continues _ _
    · rw [hdb]
      apply settlements_of_merchants
      exact map_modify (fun _ => by rfl) s.db.settlements p.settlementId
  | repay p done =>
    obtain ⟨_, _, _, hdb, hrepays⟩ := s.db.repay_eq p
    rw [hdb] at done
    refine .of_same (by rw [done]) (by rw [done]) ?_
      (hmerchants (by rw [done])) hpayouts
    rw [done]
    exact debts_of_forall₂ (hrepays.imp fun _ _ => Repays.continues)
  | fund p v done =>
    rcases Db.fund_booked done with hsame | ⟨⟨_, hdb⟩, -⟩
    · exact .of_same (by rw [hsame]) (by rw [hsame])
        (hdebts (by rw [hsame])) (hmerchants (by rw [hsame])) hpayouts
    · exact .of_same (by rw [hdb]) (by rw [hdb]) (hdebts (by rw [hdb]))
        (hmerchants (by rw [hdb])) hpayouts
  | collateral p v done =>
    rcases Db.collateral_ok done with hsame | ⟨_, _, _, _, -, hdb⟩
    · exact .of_same (by rw [hsame]) (by rw [hsame])
        (hdebts (by rw [hsame])) (hmerchants (by rw [hsame])) hpayouts
    · exact .of_same (by rw [hdb]) (by rw [hdb]) (hdebts (by rw [hdb]))
        (hmerchants (by rw [hdb])) hpayouts

theorem perform_extends (op : Op) (c : Choice) (s : Store) :
    Extends s (perform op c s).1 := by
  apply (perform_booked op c s).extends
  rw [perform_payouts]
  exact List.prefix_append ..

end KamiyoProtocol.Facilitator
