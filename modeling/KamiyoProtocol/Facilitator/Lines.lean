/-
What is reserved and owed on credit lines.

A credit line is an agent's credit in a lane and a pool. Reservations and
debts are each on one, and the sums the routes and the pools go by are
sums over sets of lines. Here is what every transaction does to them: a
reservation adds its amount, an end of it takes the amount away, a
settlement moves it to what is owed, and a repayment takes from the debts
it covers exactly what it applies.
-/
import KamiyoProtocol.Facilitator.Effects

namespace KamiyoProtocol.Facilitator

open Exec Keyed

-- ==== lines

/-- An agent's credit in a lane and a pool. -/
structure CreditLine where
  agentId : String
  lane : Lane
  poolId : String

def Reservation.line (r : Reservation) : CreditLine :=
  ⟨r.agentId, r.lane, r.poolId⟩

def Debt.line (d : Debt) : CreditLine := ⟨d.agentId, d.lane, d.poolId⟩

def CreateReservation.line (p : CreateReservation) : CreditLine :=
  ⟨p.agentId, p.lane, p.poolId⟩

/-- The line a part of a repayment is on. -/
def ApplyRepayment.lineOf (p : ApplyRepayment) (key : Lane × String) :
    CreditLine :=
  ⟨p.agentId, key.1, key.2⟩

/-- What a reservation sets aside: its amount while it is `reserved`. -/
def Reservation.setAside (r : Reservation) : Nat :=
  if r.status = .reserved then r.amountMicro else 0

/-- What is owed on a debt: its outstanding amount while it is open. -/
def Debt.owed (d : Debt) : Nat :=
  if d.status = .opened then d.outstandingMicro else 0

/-- `n` on the lines of `P`, nothing on others. -/
def on (P : CreditLine → Prop) [DecidablePred P] (line : CreditLine)
    (n : Nat) : Nat :=
  if P line then n else 0

section Sums

variable (P : CreditLine → Prop) [DecidablePred P]

@[simp] theorem on_zero (line : CreditLine) : on P line 0 = 0 := by
  simp [on]

theorem on_le (line : CreditLine) (n : Nat) : on P line n ≤ n := by
  unfold on
  split
  · exact Nat.le_refl n
  · exact Nat.zero_le n

theorem on_add (line : CreditLine) (m n : Nat) :
    on P line (m + n) = on P line m + on P line n := by
  unfold on
  split
  · rfl
  · rfl

/-- What is set aside on the lines of `P`. -/
def Db.reservedOn (db : Db) : Nat :=
  (db.reservations.map fun r => on P r.line r.setAside).sum

/-- What a list of debts owes on the lines of `P`. -/
def owedIn (debts : List Debt) : Nat :=
  (debts.map fun d => on P d.line d.owed).sum

/-- What is owed on the lines of `P`. -/
def Db.owedOn (db : Db) : Nat := owedIn P db.debts

/-- What the parts of a repayment come to on the lines of `P`. -/
def paidIn (p : ApplyRepayment) (payments : List ((Lane × String) × Nat)) :
    Nat :=
  (payments.map fun x => on P (p.lineOf x.1) x.2).sum

variable {P} {db db' : Db}

theorem owedOn_same (h : db'.debts = db.debts) :
    db'.owedOn P = db.owedOn P := by
  unfold Db.owedOn
  rw [h]

theorem reservedOn_append {row : Reservation}
    (h : db'.reservations = db.reservations ++ [row]) :
    db'.reservedOn P = db.reservedOn P + on P row.line row.setAside := by
  unfold Db.reservedOn
  rw [h]
  exact sum_append_single (fun r => on P (Reservation.line r) r.setAside)
    db.reservations row

theorem reservedOn_end {id : Nat} {row row' : Reservation}
    (hrow : db.reservations[id]? = some row) (hreserved : row.status = .reserved)
    (hset : db'.reservations = db.reservations.set id row')
    (hended : row'.status ≠ .reserved) :
    db'.reservedOn P + on P row.line row.amountMicro = db.reservedOn P := by
  have hsum := sum_set (fun r => on P (Reservation.line r) r.setAside)
    hrow row'
  have hold : row.setAside = row.amountMicro := if_pos hreserved
  have hnew : row'.setAside = 0 := if_neg hended
  rw [hold, hnew, on_zero] at hsum
  unfold Db.reservedOn
  rw [hset]
  omega

-- ==== steps

theorem create_lines {p : CreateReservation} {dbNow : Nat}
    {stored : Stored Reservation}
    (h : db.createKizunaReservation p dbNow = .ok (db', stored)) :
    db'.reservedOn P = db.reservedOn P + on P p.line p.amountMicro
      ∧ db'.owedOn P = db.owedOn P := by
  obtain ⟨-, -, ⟨reserves, balances, rfl⟩, -⟩ := Db.create_ok h
  have hrow : (p.row dbNow).setAside = p.amountMicro := if_pos rfl
  rw [reservedOn_append rfl, hrow]
  exact ⟨rfl, owedOn_same rfl⟩

theorem release_lines {id : Nat} {status : ReleaseStatus}
    (h : db.releaseKizunaReservation id status = .ok (db', ())) :
    db' = db ∨ ∃ row, db.reservations[id]? = some row ∧ row.status = .reserved
      ∧ db'.reservedOn P + on P row.line row.amountMicro = db.reservedOn P
      ∧ db'.owedOn P = db.owedOn P := by
  rcases Db.release_ok h with rfl | ⟨row, hrow, hstatus, ⟨_, _, rfl⟩, -⟩
  · exact Or.inl rfl
  · refine Or.inr ⟨row, hrow, hstatus, ?_, owedOn_same rfl⟩
    apply reservedOn_end hrow hstatus rfl
    cases status with
    | released => exact nofun
    | expired => exact nofun

/-- The debt a settlement is recorded under for the first time. -/
def Db.Unsettled (db : Db) (settlementId : Nat) : Prop :=
  ∀ d ∈ db.debts, d.settlementId ≠ settlementId
  deriving Decidable

theorem owedOn_upsert {row : Debt} (hopen : row.status = .opened) :
    (db.upsertDebt row).1.owedOn P = db.owedOn P
      + if db.Unsettled row.settlementId then on P row.line row.outstandingMicro
        else 0 := by
  by_cases hnew : db.Unsettled row.settlementId
  · rw [if_pos hnew]
    have howed : row.owed = row.outstandingMicro := if_pos hopen
    unfold Db.owedOn owedIn
    rw [Db.upsertDebt_new hnew, ← howed]
    exact sum_append_single (fun d => on P (Debt.line d) d.owed) db.debts row
  · rw [if_neg hnew]
    unfold Db.upsertDebt
    split
    · next hnone => exact absurd (locate_none.mp hnone) hnew
    · next i old hold =>
        have hsum := sum_set (fun d => on P (Debt.line d) d.owed)
          (locate_some hold).1
          { old with
            txHash := row.txHash
            decisionEnvelopeHash :=
              row.decisionEnvelopeHash.or old.decisionEnvelopeHash }
        unfold Db.owedOn owedIn
        simp only [Debt.line, Debt.owed] at hsum ⊢
        omega

/-- A settlement takes the amount off its line; unless it is paid from a
lock, or its settlement has a debt already, it is owed there from now
on. -/
theorem finalize_lines {p : FinalizeSettlement} {now : Nat} {v : FinalizeResult}
    (h : db.finalizeKizunaSettlement p now = .ok (db', v)) :
    ∃ row, db.reservations[p.reservationId]? = some row ∧ row.status = .reserved
      ∧ db'.reservedOn P + on P row.line row.amountMicro = db.reservedOn P
      ∧ db'.owedOn P = db.owedOn P
        + if row.isPrefundedEnterprise ∨ ¬ db.Unsettled p.settlementId then 0
          else on P row.line row.amountMicro := by
  obtain ⟨row, d, hrow, -, hstatus, -, ⟨_, _, _, _, hdb'⟩, hdebts, -⟩ :=
    Db.finalize_ok h
  refine ⟨row, hrow, hstatus, ?_, ?_⟩
  · have hset : db'.reservations
        = db.reservations.set p.reservationId (Db.consumed row p) := by
      rw [hdb']
    exact reservedOn_end hrow hstatus hset nofun
  · unfold Db.owedOn
    rw [hdebts]
    by_cases hfunded : row.isPrefundedEnterprise
    · rw [if_pos hfunded, if_pos (Or.inl hfunded)]
      rfl
    · rw [if_neg hfunded]
      have hupsert : (db.upsertDebt (Db.debtRow row d.repayWallet
          d.decisionEnvelopeHash p)).1.owedOn P = db.owedOn P
            + if db.Unsettled p.settlementId
              then on P row.line row.amountMicro else 0 := owedOn_upsert rfl
      unfold Db.owedOn at hupsert
      rw [hupsert]
      by_cases hnew : db.Unsettled p.settlementId
      · rw [if_pos hnew, if_neg (not_or.mpr ⟨hfunded, not_not.mpr hnew⟩)]
      · rw [if_neg hnew, if_pos (Or.inr hnew)]

-- ==== repayments

/-- The walk takes from the debts what its payments come to, line by
line. -/
theorem repayDebts_owed (p : ApplyRepayment) (debts : List Debt) :
    ∀ i n, owedIn P (repayDebts p i n debts).debts
        + paidIn P p (repayDebts p i n debts).payments = owedIn P debts := by
  induction debts with
  | nil =>
    intro i n
    rfl
  | cons d rest ih =>
    intro i n
    unfold repayDebts
    split
    · next hpays =>
        obtain ⟨⟨hagent, hopen, -, -⟩, -, -⟩ := hpays
        have hrest := ih (i + 1) (n - min d.outstandingMicro n)
        have hline : p.lineOf (d.lane, d.poolId) = d.line := by
          rw [Debt.line, hagent]
          rfl
        have hpart : on P d.line d.owed
            = on P d.line (d.outstandingMicro - min d.outstandingMicro n)
              + on P d.line (min d.outstandingMicro n) := by
          rw [← on_add, Debt.owed, if_pos hopen]
          congr 1
          omega
        -- a debt paid off is closed, and owes nothing either way
        have hnext : ∀ m : Nat, (if (if m = 0 then DebtStatus.closed
            else .opened) = .opened then m else 0) = m := by
          intro m
          by_cases hm : m = 0
          · simp [hm]
          · simp [hm]
        simp only [owedIn, paidIn, List.map_cons, List.sum_cons, hline]
          at hrest ⊢
        rw [Debt.owed, hnext]
        show on P d.line _ + _ + _ = _
        omega
    · have hrest := ih (i + 1) n
      simp only [owedIn, paidIn, List.map_cons, List.sum_cons] at hrest ⊢
      omega

/-- A repayment of a new reference takes what it applies from the debts;
one of a known reference changes nothing. -/
theorem repay_lines (db : Db) (p : ApplyRepayment) :
    (db.applyKizunaRepayment p).1 = db
      ∨ ((db.applyKizunaRepayment p).1.reservedOn P = db.reservedOn P
        ∧ (db.applyKizunaRepayment p).1.owedOn P
            + paidIn P p (repayDebts p 0 p.amountMicro db.debts).payments
          = db.owedOn P) := by
  unfold Db.applyKizunaRepayment
  split
  · exact Or.inl rfl
  · right
    dsimp only
    obtain ⟨reserves, h⟩ := Db.foldl_bump (fun x => x.1.2) (fun x => x.1.1)
      (fun x => -(x.2 : Int))
      (outstandingDeltas (repayDebts p 0 p.amountMicro db.debts).payments)
      { db with
        debts := (repayDebts p 0 p.amountMicro db.debts).debts
        repayments := db.repayments ++ [_] }
    rw [h]
    exact ⟨rfl, repayDebts_owed p db.debts 0 _⟩

-- ==== exposure

/-- What is set aside or owed on the lines of `P`. -/
def Db.exposure (db : Db) (P : CreditLine → Prop) [DecidablePred P] : Nat :=
  db.reservedOn P + db.owedOn P

theorem Booked.exposure_le {op : Op} (h : Booked db db' op) :
    db'.exposure P ≤ db.exposure P
      ∨ ∃ p sent now stored, op = .createKizunaReservation p sent
        ∧ db.createKizunaReservation p now = .ok (db', stored) := by
  unfold Db.exposure
  cases h with
  | aside decisions settlements guards sessions same grown merchants =>
    subst same
    exact Or.inl (Nat.le_refl _)
  | settlement row same =>
    subst same
    exact Or.inl (Nat.le_refl _)
  | reserve p sent now stored done =>
    exact Or.inr ⟨p, sent, now, stored, rfl, done⟩
  | release id status done =>
    left
    rcases release_lines (P := P) done with rfl | ⟨row, -, -, hres, howed⟩
    · exact Nat.le_refl _
    · omega
  | consume p now v done =>
    left
    obtain ⟨row, -, -, hres, howed⟩ := finalize_lines (P := P) done
    have hle : (if row.isPrefundedEnterprise ∨ ¬ db.Unsettled p.settlementId
        then 0 else on P row.line row.amountMicro)
        ≤ on P row.line row.amountMicro := by
      split
      · exact Nat.zero_le _
      · exact Nat.le_refl _
    omega
  | repay p done =>
    left
    rcases repay_lines (P := P) db p with hsame | ⟨hres, howed⟩
    · rw [done, hsame]
    · rw [done]
      omega
  | fund p v done =>
    left
    rcases Db.fund_booked done with rfl | ⟨⟨balances, rfl⟩, -⟩
    · exact Nat.le_refl _
    · exact Nat.le_refl _
  | collateral p v done =>
    left
    rcases Db.collateral_ok done with rfl | ⟨_, _, _, _, -, rfl⟩
    · exact Nat.le_refl _
    · exact Nat.le_refl _

end Sums

end KamiyoProtocol.Facilitator
