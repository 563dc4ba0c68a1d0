/-
How one repayment is handed out over an agent's debts.

`applyKizunaRepayment` is told here by the rows its query answers, which
come oldest first and, where debts were created together, in any order.
Its loop is then an allotment of the amount over what the rows owe
(`payRows_eq`). The function as the routes call it is the case of debts
in the order they were made (`applyKizunaRepayment_eq`).

The debts always come out right but for one thing: the loop passes over
an open debt that owes nothing and leaves it open. What a pool is down
as lending may not come down by what its debts do, for the update names
the pool and the lane of the debt, and a reserve of another lane is not
met by it.
-/
import KamiyoProtocol.Lib.Waterfall
import KamiyoProtocol.Facilitator.References

namespace KamiyoProtocol.Facilitator

open Exec Keyed Waterfall Function

-- ==== the query

/-- The ids of the open debts in scope. -/
def Db.openDebts (db : Db) (p : ApplyRepayment) : List Nat :=
  (db.debts.zipIdx.filter fun x => p.covers x.1).map Prod.snd

/-- `.. ORDER BY created_at ASC`. -/
def Db.Selects (db : Db) (createdAt : Nat → Nat) (p : ApplyRepayment)
    (ids : List Nat) : Prop :=
  ids.Perm (db.openDebts p) ∧ ids.Pairwise fun i j => createdAt i ≤ createdAt j
  deriving Decidable

/-- What is read under some ids. -/
def Db.read (db : Db) (ids : List Nat) : List (Nat × Option Debt) :=
  ids.map fun i => (i, db.debts[i]?)

/-- The rows among what was read that are in scope. -/
def ApplyRepayment.rows (p : ApplyRepayment)
    (seen : List (Nat × Option Debt)) : List (Stored Debt) :=
  seen.filterMap fun x => (x.2.filter (p.covers ·)).map (Stored.mk x.1)

-- ==== the loop

/-- What is paid on a debt as it was read. -/
structure DebtPayment where
  debt : Stored Debt
  amount : Nat

/-- The loop over the rows. -/
def payRows : Nat → List (Stored Debt) → List DebtPayment
  | _, [] => []
  | remaining, debt :: rest =>
    if remaining = 0 then []
    else if debt.row.outstandingMicro = 0 then payRows remaining rest
    else
      let payment := min debt.row.outstandingMicro remaining
      ⟨debt, payment⟩ :: payRows (remaining - payment) rest

/-- `UPDATE kizuna_debts SET outstanding_micro = $2, status = $3 ..`. -/
def DebtPayment.paid (x : DebtPayment) (d : Debt) : Debt :=
  let next := x.debt.row.outstandingMicro - x.amount
  { d with
    outstandingMicro := next
    status := if next = 0 then .closed else .opened }

/-- A payment as it enters into `outstandingDeltas`. -/
def DebtPayment.part (x : DebtPayment) : (Lane × String) × Nat :=
  ((x.debt.row.lane, x.debt.row.poolId), x.amount)

namespace Db

variable (db : Db)

/-- The payments written to the debts. -/
def writePayments (payments : List DebtPayment) : Db :=
  { db with
    debts := payments.foldl (fun debts x => debts.modify x.debt.id x.paid)
      db.debts }

/-- The deltas written to the reserves. -/
def bumpOutstanding (deltas : List ((Lane × String) × Nat)) : Db :=
  deltas.foldl
    (fun db x => db.bumpKizunaPoolReserve x.1.2 x.1.1 0 (-(x.2 : Int)) 0) db

/-- A repayment of a new reference that makes these payments. -/
def applyPayments (p : ApplyRepayment) (payments : List DebtPayment) :
    Db × RepaymentResult :=
  let row : Repayment := ⟨p.agentId, payments.head?.map fun x => x.debt.id,
    p.referenceId, p.amountMicro, (payments.map DebtPayment.amount).sum⟩
  let db' := { db.writePayments payments with
    repayments := db.repayments ++ [row] }
  let db' := db'.bumpOutstanding
    (outstandingDeltas (payments.map DebtPayment.part))
  (db', ⟨row, false, db'.outstandingIn p⟩)

/-- `applyKizunaRepayment`, its query having answered `ids`. -/
def repaySelected (p : ApplyRepayment) (ids : List Nat) :
    Db × RepaymentResult :=
  match locate (fun r => (r.agentId, r.referenceId)) db.repayments
      (p.agentId, p.referenceId) with
  | some (_, r) => (db, ⟨r, true, db.outstandingIn p⟩)
  | none =>
    db.applyPayments p (payRows p.amountMicro (p.rows (db.read ids)))

/-- No repayment of the reference is recorded. -/
def Fresh (p : ApplyRepayment) : Prop :=
  ∀ r ∈ db.repayments, (r.agentId, r.referenceId) ≠ (p.agentId, p.referenceId)
  deriving Decidable

variable {db} in
theorem repaySelected_fresh {p : ApplyRepayment} (h : db.Fresh p)
    (ids : List Nat) : db.repaySelected p ids
      = db.applyPayments p (payRows p.amountMicro (p.rows (db.read ids))) := by
  unfold repaySelected
  rw [locate_none.mpr h]

end Db

-- ==== the rows

variable {db : Db} {p : ApplyRepayment} {ids : List Nat}

theorem mem_openDebts {i : Nat} :
    i ∈ db.openDebts p ↔ ∃ d, db.debts[i]? = some d ∧ p.covers d := by
  simp only [Db.openDebts, List.mem_map, List.mem_filter, decide_eq_true_eq,
    Prod.exists, exists_eq_right, List.mk_mem_zipIdx_iff_getElem?]

theorem nodup_openDebts (db : Db) (p : ApplyRepayment) :
    (db.openDebts p).Nodup := by
  have hall : (db.debts.zipIdx.map Prod.snd).Nodup := by
    rw [List.zipIdx_map_snd]
    exact List.nodup_range'
  exact hall.sublist (List.filter_sublist.map _)

theorem Db.Selects.mem {createdAt : Nat → Nat}
    (h : db.Selects createdAt p ids) {i : Nat} :
    i ∈ ids ↔ ∃ d, db.debts[i]? = some d ∧ p.covers d :=
  h.1.mem_iff.trans mem_openDebts

theorem Db.Selects.nodup {createdAt : Nat → Nat}
    (h : db.Selects createdAt p ids) : ids.Nodup :=
  h.1.nodup_iff.mpr (nodup_openDebts db p)

theorem mem_rows {seen : List (Nat × Option Debt)} {x : Stored Debt} :
    x ∈ p.rows seen ↔ (x.id, some x.row) ∈ seen ∧ p.covers x.row := by
  simp only [ApplyRepayment.rows, List.mem_filterMap, Option.map_eq_some_iff,
    Option.filter_eq_some_iff, decide_eq_true_eq]
  constructor
  · rintro ⟨y, hy, d, ⟨hd, hcovers⟩, rfl⟩
    rw [← hd]
    exact ⟨hy, hcovers⟩
  · rintro ⟨hx, hcovers⟩
    exact ⟨_, hx, x.row, ⟨rfl, hcovers⟩, rfl⟩

theorem mem_read {i : Nat} {v : Option Debt} :
    (i, v) ∈ db.read ids ↔ i ∈ ids ∧ db.debts[i]? = v := by
  simp only [Db.read, List.mem_map, Prod.mk.injEq]
  constructor
  · rintro ⟨j, hj, rfl, hv⟩
    exact ⟨hj, hv⟩
  · rintro ⟨hi, hv⟩
    exact ⟨i, hi, rfl, hv⟩

theorem rows_sublist (seen : List (Nat × Option Debt)) :
    ((p.rows seen).map Stored.id).Sublist (seen.map Prod.fst) := by
  induction seen with
  | nil => exact .slnil
  | cons x rest ih =>
    unfold ApplyRepayment.rows at ih ⊢
    rw [List.filterMap_cons]
    split
    · exact .cons _ ih
    · next y hy =>
        obtain ⟨d, -, rfl⟩ := Option.map_eq_some_iff.mp hy
        exact ih.cons_cons _

theorem read_ids (db : Db) (ids : List Nat) :
    (db.read ids).map Prod.fst = ids := by
  simp [Db.read, Function.comp_def]

/-- The open debts as the query answers them in the order they were
made. -/
theorem rows_open (db : Db) (p : ApplyRepayment) :
    p.rows (db.read (db.openDebts p))
      = (db.debts.zipIdx.filter fun x => p.covers x.1).map
          fun x => ⟨x.2, x.1⟩ := by
  unfold ApplyRepayment.rows Db.read Db.openDebts
  rw [List.map_map, List.filterMap_map]
  apply List.filterMap_eq_map_iff_forall_eq_some.mpr
  intro x hx
  obtain ⟨hmem, hcovers⟩ := List.mem_filter.mp hx
  have hrow : db.debts[x.2]? = some x.1 :=
    List.mk_mem_zipIdx_iff_getElem?.mp hmem
  simp only [Function.comp_apply, hrow, Option.filter_some, hcovers,
    ↓reduceIte, Option.map_some]

theorem sum_covered (debts : List Debt) :
    ∀ i, (((debts.zipIdx i).filter fun x => p.covers x.1).map
        ((fun x : Stored Debt => x.row.outstandingMicro)
          ∘ fun x => ⟨x.2, x.1⟩)).sum
      = (debts.map fun d =>
          if p.covers d then d.outstandingMicro else 0).sum := by
  induction debts with
  | nil =>
    intro i
    rfl
  | cons d rest ih =>
    intro i
    rw [List.zipIdx_cons, List.map_cons, List.sum_cons, ← ih (i + 1)]
    by_cases hcovers : p.covers d
    · simp [hcovers]
    · simp [hcovers]

-- ==== its payments

theorem payRows_zero (rows : List (Stored Debt)) : payRows 0 rows = [] := by
  cases rows with
  | nil => rfl
  | cons x rest => simp [payRows]

/-- What each of the rows owes. -/
def owing (rows : List (Stored Debt)) : List Nat :=
  rows.map fun x => x.row.outstandingMicro

theorem payRows_eq (rows : List (Stored Debt)) :
    ∀ n, payRows n rows
      = ((rows.zip (allot n (owing rows))).filter fun x => 0 < x.2).map
          fun x => ⟨x.1, x.2⟩ := by
  induction rows with
  | nil =>
    intro n
    rfl
  | cons x rest ih =>
    intro n
    simp only [owing, List.map_cons, allot, List.zip_cons_cons, payRows]
    rw [List.filter_cons]
    by_cases hn : n = 0
    · subst hn
      rw [if_pos rfl, if_neg (by simp), Nat.zero_sub]
      exact (ih 0).symm.trans (payRows_zero rest) |>.symm
    · rw [if_neg hn]
      by_cases howes : x.row.outstandingMicro = 0
      · rw [if_pos howes, howes, if_neg (by simp), Nat.sub_zero]
        exact ih n
      · have hpos : 0 < min x.row.outstandingMicro n := by omega
        have hrest : n - min x.row.outstandingMicro n
            = n - x.row.outstandingMicro := by omega
        rw [if_neg howes, if_pos (by simpa using hpos), List.map_cons, hrest]
        exact congrArg _ (ih _)

variable {x : DebtPayment}

theorem mem_payRows {rows : List (Stored Debt)} {n : Nat} :
    x ∈ payRows n rows
      ↔ (x.debt, x.amount) ∈ rows.zip (allot n (owing rows))
        ∧ 0 < x.amount := by
  rw [payRows_eq]
  simp only [List.mem_map, List.mem_filter, decide_eq_true_eq]
  constructor
  · rintro ⟨y, hy, rfl⟩
    exact hy
  · intro hx
    exact ⟨_, hx, rfl⟩

theorem share_le {rows : List (Stored Debt)} {n : Nat}
    {y : Stored Debt × Nat} (h : y ∈ rows.zip (allot n (owing rows))) :
    y.2 ≤ y.1.row.outstandingMicro := by
  induction rows generalizing n with
  | nil => cases h
  | cons x rest ih =>
    simp only [owing, List.map_cons, allot, List.zip_cons_cons] at h
    rcases List.mem_cons.mp h with rfl | hrest
    · exact Nat.min_le_left ..
    · exact ih hrest

theorem payRows_mem {rows : List (Stored Debt)} {n : Nat}
    (h : x ∈ payRows n rows) :
    x.debt ∈ rows ∧ 0 < x.amount ∧ x.amount ≤ x.debt.row.outstandingMicro := by
  obtain ⟨hshare, hpos⟩ := mem_payRows.mp h
  exact ⟨(List.of_mem_zip hshare).1, hpos, share_le hshare⟩

theorem payRows_sublist (rows : List (Stored Debt)) :
    ∀ n, ((payRows n rows).map DebtPayment.debt).Sublist rows := by
  intro n
  rw [payRows_eq, List.map_map]
  have hfst : (rows.zip (allot n (owing rows))).map Prod.fst = rows := by
    rw [List.map_fst_zip]
    simp [owing]
  have hsub := (List.filter_sublist (p := fun x : Stored Debt × Nat => 0 < x.2)
    (l := rows.zip (allot n (owing rows)))).map Prod.fst
  rw [hfst] at hsub
  exact hsub

theorem sum_payRows (rows : List (Stored Debt)) (n : Nat)
    (P : Stored Debt → Bool) :
    (((payRows n rows).filter fun x => P x.debt).map DebtPayment.amount).sum
      = (((rows.zip (allot n (owing rows))).filter fun x => P x.1).map
          Prod.snd).sum := by
  rw [payRows_eq]
  induction rows.zip (allot n (owing rows)) with
  | nil => rfl
  | cons y rest ih =>
    by_cases hpos : 0 < y.2
    · by_cases hP : P y.1
      · simp [hpos, hP, ih]
      · simp [hpos, hP, ih]
    · by_cases hP : P y.1
      · simp only [List.filter_cons, hpos, hP, ↓reduceIte, List.map_cons,
          List.sum_cons, decide_false, Bool.false_eq_true]
        omega
      · simp [hpos, hP, ih]

theorem total_payRows (rows : List (Stored Debt)) (n : Nat) :
    ((payRows n rows).map DebtPayment.amount).sum = min n (owing rows).sum := by
  have hall := sum_payRows rows n fun _ => true
  have hlen : (allot n (owing rows)).length ≤ rows.length := by
    simp [owing]
  simp only [List.filter_true, List.map_snd_zip hlen, sum_allot] at hall
  exact hall

-- ==== the writes

section Writes

variable {payments : List DebtPayment}

theorem written_else {i : Nat} (h : ∀ x ∈ payments, x.debt.id ≠ i) :
    (db.writePayments payments).debts[i]? = db.debts[i]? := by
  show (payments.foldl _ db.debts)[i]? = _
  generalize db.debts = debts
  induction payments generalizing debts with
  | nil => rfl
  | cons x rest ih =>
    rw [List.foldl_cons, ih fun y hy => h y (List.mem_cons_of_mem _ hy),
      List.getElem?_modify_ne _ _ (h x (List.mem_cons_self ..))]

theorem written_paid (hids : (payments.map fun x => x.debt.id).Nodup)
    (hx : x ∈ payments) :
    (db.writePayments payments).debts[x.debt.id]?
      = db.debts[x.debt.id]?.map x.paid := by
  show (payments.foldl _ db.debts)[_]? = _
  generalize db.debts = debts
  induction payments generalizing debts with
  | nil => cases hx
  | cons y rest ih =>
    obtain ⟨hnew, hrest⟩ := List.nodup_cons.mp hids
    rw [List.foldl_cons]
    rcases List.mem_cons.mp hx with rfl | hmem
    · have helse : ∀ z ∈ rest, z.debt.id ≠ x.debt.id := by
        intro z hz heq
        exact hnew (List.mem_map.mpr ⟨z, hz, heq⟩)
      let db₁ : Db := { db with debts := debts.modify x.debt.id x.paid }
      have hkept : (db₁.writePayments rest).debts[x.debt.id]?
          = db₁.debts[x.debt.id]? := written_else helse
      rw [show (rest.foldl _ _)[_]? = _ from hkept]
      exact List.getElem?_modify_eq ..
    · have hne : y.debt.id ≠ x.debt.id := by
        intro heq
        exact hnew (List.mem_map.mpr ⟨x, hmem, heq.symm⟩)
      rw [ih hrest hmem, List.getElem?_modify_ne _ _ hne]

/-- A sum over the debts goes down by what each payment takes off its
debt's term. -/
theorem sum_written (f : Debt → Nat) (w : DebtPayment → Nat)
    (hids : (payments.map fun x => x.debt.id).Nodup)
    (hread : ∀ x ∈ payments, db.debts[x.debt.id]? = some x.debt.row)
    (hpay : ∀ x ∈ payments, f (x.paid x.debt.row) + w x = f x.debt.row) :
    ((db.writePayments payments).debts.map f).sum + (payments.map w).sum
      = (db.debts.map f).sum := by
  show ((payments.foldl _ db.debts).map f).sum + _ = _
  revert hread
  generalize db.debts = debts
  intro hread
  induction payments generalizing debts with
  | nil => rfl
  | cons x rest ih =>
    obtain ⟨hnew, hrest⟩ := List.nodup_cons.mp hids
    have hx := hread x (List.mem_cons_self ..)
    have hset : debts.modify x.debt.id x.paid
        = debts.set x.debt.id (x.paid x.debt.row) := by
      rw [List.modify_eq_set_getElem?, hx]
      rfl
    have hstay : ∀ y ∈ rest, (debts.modify x.debt.id x.paid)[y.debt.id]?
        = some y.debt.row := by
      intro y hy
      have hne : x.debt.id ≠ y.debt.id := by
        intro heq
        exact hnew (List.mem_map.mpr ⟨y, hy, heq.symm⟩)
      rw [List.getElem?_modify_ne _ _ hne]
      exact hread y (List.mem_cons_of_mem _ hy)
    have htail := ih hrest
      (fun y hy => hpay y (List.mem_cons_of_mem _ hy)) _ hstay
    have hhead := sum_set f hx (x.paid x.debt.row)
    have hw := hpay x (List.mem_cons_self ..)
    rw [hset] at htail
    rw [List.foldl_cons, List.map_cons, List.sum_cons, hset]
    omega

end Writes

-- ==== the reserves

/-- What a pool is down as lending. -/
def Db.poolOutstanding (db : Db) (poolId : String) : Nat :=
  ((db.poolReserves poolId).map PoolReserve.outstandingMicro).getD 0

/-- The reserve of the pool is there and of the lane. -/
def Db.Keeps (db : Db) (key : Lane × String) : Prop :=
  ∃ row, db.poolReserves key.2 = some row ∧ row.lane = key.1

instance (db : Db) (key : Lane × String) : Decidable (db.Keeps key) :=
  decidable_of_iff ((db.poolReserves key.2).any fun row => row.lane = key.1)
    (by simp [Db.Keeps, Option.any_eq_true])

section Reserves

variable {poolId : String} {row : PoolReserve}

theorem bump_other {key : Lane × String} {n : Nat} (h : poolId ≠ key.2) :
    (db.bumpKizunaPoolReserve key.2 key.1 0 (-(n : Int)) 0).poolReserves
      poolId = db.poolReserves poolId :=
  update_of_ne h ..

theorem bump_met {key : Lane × String} {n : Nat}
    (h : db.poolReserves key.2 = some row) :
    ∃ row', (db.bumpKizunaPoolReserve key.2 key.1 0
        (-(n : Int)) 0).poolReserves key.2 = some row'
      ∧ row'.lane = row.lane
      ∧ row'.outstandingMicro
        = row.outstandingMicro - if row.lane = key.1 then n else 0 := by
  simp only [Db.bumpKizunaPoolReserve, update_self, h, Option.getD_some]
  refine ⟨_, rfl, ?_⟩
  by_cases hlane : row.lane = key.1
  · rw [if_pos hlane, if_pos hlane]
    refine ⟨rfl, ?_⟩
    dsimp only
    omega
  · rw [if_neg hlane, if_neg hlane]
    exact ⟨rfl, rfl⟩

theorem bumpOutstanding_some (deltas : List ((Lane × String) × Nat)) :
    ∀ {db : Db} {row : PoolReserve}, db.poolReserves poolId = some row →
      ∃ row', (db.bumpOutstanding deltas).poolReserves poolId = some row'
        ∧ row'.outstandingMicro = row.outstandingMicro
          - ((deltas.filter fun x => x.1 = (row.lane, poolId)).map
            Prod.snd).sum := by
  induction deltas with
  | nil =>
    intro db row h
    exact ⟨row, h, rfl⟩
  | cons x rest ih =>
    intro db row h
    obtain ⟨⟨lane, pool⟩, n⟩ := x
    by_cases hpool : poolId = pool
    · subst hpool
      obtain ⟨row₁, hrow₁, hlane, hout⟩ :=
        @bump_met db row (lane, poolId) n h
      obtain ⟨row', hrow', hrest⟩ := ih hrow₁
      refine ⟨row', hrow', ?_⟩
      rw [hrest, hlane, hout]
      by_cases hmet : row.lane = lane
      · subst hmet
        simp only [List.filter_cons, decide_true, ↓reduceIte,
          List.map_cons, List.sum_cons]
        omega
      · have hmiss : (lane, poolId) ≠ (row.lane, poolId) := by
          intro heq
          exact hmet (congrArg Prod.fst heq).symm
        simp [hmet, hmiss]
    · have hsame := @bump_other db poolId (lane, pool) n hpool
      obtain ⟨row', hrow', hrest⟩ := ih (hsame.trans h)
      refine ⟨row', hrow', ?_⟩
      have hmiss : (lane, pool) ≠ (row.lane, poolId) := by
        intro heq
        exact hpool (congrArg Prod.snd heq).symm
      rw [hrest, List.filter_cons_of_neg (by simpa using hmiss)]

theorem bumpOutstanding_zero (deltas : List ((Lane × String) × Nat)) :
    ∀ {db : Db}, db.poolOutstanding poolId = 0 →
      (db.bumpOutstanding deltas).poolOutstanding poolId = 0 := by
  induction deltas with
  | nil => exact fun h => h
  | cons x rest ih =>
    intro db h
    show (Db.bumpOutstanding _ rest).poolOutstanding poolId = 0
    apply ih
    by_cases hpool : poolId = x.1.2
    · subst hpool
      unfold Db.poolOutstanding at h ⊢
      cases hrow : db.poolReserves x.1.2 with
      | none =>
        simp only [Db.bumpKizunaPoolReserve, update_self, hrow,
          Option.getD_none, ↓reduceIte, Option.map_some, Option.getD_some]
        omega
      | some row =>
        obtain ⟨row', hrow', -, hout⟩ := bump_met (n := x.2) hrow
        rw [hrow] at h
        rw [hrow']
        simp only [Option.map_some, Option.getD_some] at h ⊢
        omega
    · unfold Db.poolOutstanding at h ⊢
      rw [bump_other hpool]
      exact h

/-- A pool's outstanding amount comes down by the deltas of its reserve's
lane, as far as it goes. -/
theorem bumpOutstanding_eq (db : Db) (deltas : List ((Lane × String) × Nat))
    (poolId : String) :
    (db.bumpOutstanding deltas).poolOutstanding poolId
      = db.poolOutstanding poolId
        - ((deltas.filter fun x => x.1.2 = poolId ∧ db.Keeps x.1).map
          Prod.snd).sum := by
  cases hrow : db.poolReserves poolId with
  | none =>
    have hzero : db.poolOutstanding poolId = 0 := by
      simp [Db.poolOutstanding, hrow]
    rw [bumpOutstanding_zero deltas hzero, hzero, Nat.zero_sub]
  | some row =>
    obtain ⟨row', hrow', hout⟩ := bumpOutstanding_some deltas hrow
    have hkeys : (deltas.filter fun x => x.1 = (row.lane, poolId))
        = deltas.filter fun x => x.1.2 = poolId ∧ db.Keeps x.1 := by
      apply List.filter_congr
      intro x _
      apply decide_eq_decide.mpr
      constructor
      · intro hx
        rw [hx]
        exact ⟨rfl, row, hrow, rfl⟩
      · rintro ⟨hpool, row₁, hrow₁, hlane⟩
        rw [hpool, hrow] at hrow₁
        cases hrow₁
        exact Prod.ext hlane.symm hpool
    rw [← hkeys]
    unfold Db.poolOutstanding
    rw [hrow', hrow]
    exact hout

end Reserves

theorem sum_split {α : Type} (P Q : α → Bool) (w : α → Nat) (l : List α) :
    ((l.filter P).map w).sum
      = (((l.filter Q).filter P).map w).sum
        + (((l.filter fun x => !Q x).filter P).map w).sum := by
  induction l with
  | nil => rfl
  | cons x rest ih =>
    cases hP : P x with
    | false =>
      cases hQ : Q x with
      | false => simp [hP, hQ, ih]
      | true => simp [hP, hQ, ih]
    | true =>
      cases hQ : Q x with
      | false =>
        simp only [List.filter_cons, hP, hQ, ↓reduceIte, Bool.not_false,
          Bool.false_eq_true, List.map_cons, List.sum_cons, ih]
        omega
      | true =>
        simp only [List.filter_cons, hP, hQ, ↓reduceIte, Bool.not_true,
          Bool.false_eq_true, List.map_cons, List.sum_cons, ih]
        omega

theorem sum_outstandingDeltas (P : Lane × String → Bool)
    (parts : List ((Lane × String) × Nat)) :
    (((outstandingDeltas parts).filter fun x => P x.1).map Prod.snd).sum
      = ((parts.filter fun x => P x.1).map Prod.snd).sum := by
  induction parts with
  | nil => rfl
  | cons x rest ih =>
    obtain ⟨key, amount⟩ := x
    have hsplit := sum_split (fun x => P x.1) (fun x => decide (x.1 = key))
      Prod.snd (outstandingDeltas rest)
    have hkey : ((outstandingDeltas rest).filter fun x => x.1 = key).filter
          (fun x => P x.1)
        = if P key then (outstandingDeltas rest).filter fun x => x.1 = key
          else [] := by
      rw [List.filter_filter]
      split
      · next hP =>
          apply List.filter_congr
          intro y _
          by_cases hy : y.1 = key
          · simp [hy, hP]
          · simp [hy]
      · next hP =>
          apply List.filter_eq_nil_iff.mpr
          intro y _
          by_cases hy : y.1 = key
          · simp [hy, hP]
          · simp [hy]
    rw [hkey] at hsplit
    simp only [outstandingDeltas, List.filter_cons]
    cases hP : P key with
    | false =>
      simp only [hP, ↓reduceIte, Bool.false_eq_true, ← ih, hsplit,
        List.map_nil, List.sum_nil, Nat.zero_add]
      simp
    | true =>
      simp only [hP, ↓reduceIte, List.map_cons, List.sum_cons, ← ih, hsplit]
      simp [Nat.add_assoc]

-- ==== the allocation

/-- The open debts in scope, with their shares in the amount. -/
def Db.shares (db : Db) (p : ApplyRepayment) (ids : List Nat) :
    List (Stored Debt × Nat) :=
  let rows := p.rows (db.read ids)
  rows.zip (allot p.amountMicro (owing rows))

/-- What the shares in debts of a pool come to. -/
def Db.shareOf (db : Db) (p : ApplyRepayment) (ids : List Nat)
    (poolId : String) : Nat :=
  (((db.shares p ids).filter fun x => x.1.row.poolId = poolId).map
    Prod.snd).sum

/-- What the debts of a pool come to. -/
def Db.debtOf (db : Db) (poolId : String) : Nat :=
  (db.debts.map fun d =>
    if d.poolId = poolId then d.outstandingMicro else 0).sum

/-- A first repayment under its reference did what a repayment is to do. A
debt is touched if its row is not what it was. -/
structure Allocates (createdAt : Nat → Nat) (p : ApplyRepayment)
    (db db' : Db) (r : RepaymentResult) : Prop where
  applied : r.repayment.appliedMicro = min p.amountMicro (db.outstandingIn p)
  taken : db'.outstandingIn p + r.repayment.appliedMicro = db.outstandingIn p
  oldestFirst : ∀ i j d, db.debts[i]? = some d → p.covers d →
    createdAt i < createdAt j → db'.debts[j]? ≠ db.debts[j]? →
    ∃ d', db'.debts[i]? = some d' ∧ d'.status = .closed
  closes : ∀ (j : Nat) (d' : Debt), db'.debts[j]? = some d' →
    db'.debts[j]? ≠ db.debts[j]? →
    d'.status = if d'.outstandingMicro = 0 then .closed else .opened
  outside : ∀ (i : Nat) d, db.debts[i]? = some d → ¬ p.covers d →
    db'.debts[i]? = some d
  pools : ∀ poolId,
    (db.poolOutstanding poolId : Int) - db'.poolOutstanding poolId
      = db.debtOf poolId - db'.debtOf poolId
  remaining : r.outstandingMicro = db'.outstandingIn p

/-- The books are such that it can be: a debt with a share has only older
ones that owe something, and the reserve of its pool is of its lane and
down for what the shares in the pool come to. -/
structure Db.Allocable (db : Db) (createdAt : Nat → Nat)
    (p : ApplyRepayment) (ids : List Nat) : Prop where
  owing : ∀ a ∈ db.shares p ids, ∀ b ∈ db.shares p ids,
    createdAt a.1.id < createdAt b.1.id → 0 < b.2 →
    0 < a.1.row.outstandingMicro
  lanes : ∀ x ∈ db.shares p ids, 0 < x.2 →
    db.Keeps (x.1.row.lane, x.1.row.poolId)
  pools : ∀ poolId, db.shareOf p ids poolId ≤ db.poolOutstanding poolId

section Allocation

variable {createdAt : Nat → Nat}

/-- The payments made when the query answers `ids`. -/
def Db.payments (db : Db) (p : ApplyRepayment) (ids : List Nat) :
    List DebtPayment :=
  payRows p.amountMicro (p.rows (db.read ids))

theorem applied_debts (db : Db) (p : ApplyRepayment)
    (payments : List DebtPayment) :
    (db.applyPayments p payments).1.debts
      = (db.writePayments payments).debts := by
  obtain ⟨reserves, h⟩ := Db.foldl_bump
    (fun x : (Lane × String) × Nat => x.1.2) (fun x => x.1.1)
    (fun x => -(x.2 : Int))
    (outstandingDeltas (payments.map DebtPayment.part))
    { db.writePayments payments with repayments := db.repayments ++ [_] }
  unfold Db.applyPayments Db.bumpOutstanding
  dsimp only
  rw [h]

theorem payment_ids {seen : List (Nat × Option Debt)}
    (h : (seen.map Prod.fst).Nodup) (n : Nat) :
    ((payRows n (p.rows seen)).map fun x => x.debt.id).Nodup := by
  have hsub := ((payRows_sublist (p.rows seen) n).map Stored.id).trans
    (rows_sublist seen)
  rw [List.map_map] at hsub
  exact h.sublist hsub

theorem mem_payments (h : x ∈ db.payments p ids) :
    x.debt.id ∈ ids ∧ db.debts[x.debt.id]? = some x.debt.row
      ∧ p.covers x.debt.row ∧ 0 < x.amount
      ∧ x.amount ≤ x.debt.row.outstandingMicro := by
  obtain ⟨hrow, hpos, hle⟩ := payRows_mem h
  obtain ⟨hseen, hcovers⟩ := mem_rows.mp hrow
  obtain ⟨hid, hrow⟩ := mem_read.mp hseen
  exact ⟨hid, hrow, hcovers, hpos, hle⟩

theorem ids_nodup (h : db.Selects createdAt p ids) :
    ((db.payments p ids).map fun x => x.debt.id).Nodup := by
  apply payment_ids
  rw [read_ids]
  exact h.nodup

theorem touched {j : Nat} (hne : (db.writePayments (db.payments p ids)).debts[j]?
      ≠ db.debts[j]?) : ∃ x ∈ db.payments p ids, x.debt.id = j := by
  by_contra hnone
  exact hne (written_else fun x hx hid => hnone ⟨x, hx, hid⟩)

theorem written_at (h : db.Selects createdAt p ids)
    (hx : x ∈ db.payments p ids) :
    (db.writePayments (db.payments p ids)).debts[x.debt.id]?
      = some (x.paid x.debt.row) := by
  rw [written_paid (ids_nodup h) hx, (mem_payments hx).2.1]
  rfl

theorem owed_written (h : db.Selects createdAt p ids) :
    (db.writePayments (db.payments p ids)).outstandingIn p
        + ((db.payments p ids).map DebtPayment.amount).sum
      = db.outstandingIn p := by
  refine sum_written _ _ (ids_nodup h) (fun x hx => (mem_payments hx).2.1) ?_
  intro x hx
  obtain ⟨-, -, hcovers, -, hle⟩ := mem_payments hx
  obtain ⟨hagent, -, hlane, hpool⟩ := hcovers
  have hstays : p.covers (x.paid x.debt.row)
      ↔ x.debt.row.outstandingMicro - x.amount ≠ 0 := by
    simp only [ApplyRepayment.covers, DebtPayment.paid]
    constructor
    · rintro ⟨-, hopen, -⟩ hzero
      rw [if_pos hzero] at hopen
      cases hopen
    · intro hne
      exact ⟨hagent, if_neg hne, hlane, hpool⟩
  rw [if_pos (mem_payments hx).2.2.1]
  by_cases hzero : x.debt.row.outstandingMicro - x.amount = 0
  · rw [if_neg fun hc => hstays.mp hc hzero]
    omega
  · rw [if_pos (hstays.mpr hzero)]
    show x.debt.row.outstandingMicro - x.amount + _ = _
    omega

theorem debtOf_written (h : db.Selects createdAt p ids) (poolId : String) :
    (db.writePayments (db.payments p ids)).debtOf poolId
        + db.shareOf p ids poolId = db.debtOf poolId := by
  have hshare : db.shareOf p ids poolId
      = ((db.payments p ids).map fun x =>
          if x.debt.row.poolId = poolId then x.amount else 0).sum := by
    unfold Db.shareOf Db.shares
    dsimp only
    rw [← sum_payRows _ _ fun x => x.row.poolId = poolId]
    show _ = ((payRows p.amountMicro (p.rows (db.read ids))).map _).sum
    induction payRows p.amountMicro (p.rows (db.read ids)) with
    | nil => rfl
    | cons x rest ih =>
      by_cases hx : x.debt.row.poolId = poolId
      · simp [hx, ih]
      · simp [hx, ih]
  rw [hshare]
  refine sum_written _ _ (ids_nodup h) (fun x hx => (mem_payments hx).2.1) ?_
  intro x hx
  obtain ⟨-, -, -, -, hle⟩ := mem_payments hx
  show (if x.debt.row.poolId = poolId then _ else 0) + _ = _
  by_cases hpool : x.debt.row.poolId = poolId
  · rw [if_pos hpool, if_pos hpool, if_pos hpool]
    show x.debt.row.outstandingMicro - x.amount + _ = _
    omega
  · rw [if_neg hpool, if_neg hpool, if_neg hpool]

theorem sum_owing (h : db.Selects createdAt p ids) :
    (owing (p.rows (db.read ids))).sum = db.outstandingIn p := by
  have hperm : (p.rows (db.read ids)).Perm
      (p.rows (db.read (db.openDebts p))) :=
    (h.1.map _).filterMap _
  rw [owing, (hperm.map _).sum_eq, rows_open, List.map_map]
  exact sum_covered db.debts 0

theorem mem_shares {x : Stored Debt × Nat} (hx : x ∈ db.shares p ids) :
    db.debts[x.1.id]? = some x.1.row ∧ p.covers x.1.row := by
  obtain ⟨hseen, hcovers⟩ := mem_rows.mp (List.of_mem_zip hx).1
  exact ⟨(mem_read.mp hseen).2, hcovers⟩

theorem shares_fst (db : Db) (p : ApplyRepayment) (ids : List Nat) :
    (db.shares p ids).map Prod.fst = p.rows (db.read ids) := by
  unfold Db.shares
  rw [List.map_fst_zip]
  simp [owing]

theorem has_share (h : db.Selects createdAt p ids) {i : Nat} {d : Debt}
    (hrow : db.debts[i]? = some d) (hcovers : p.covers d) :
    ∃ n, (⟨i, d⟩, n) ∈ db.shares p ids := by
  have hmem : ⟨i, d⟩ ∈ p.rows (db.read ids) :=
    mem_rows.mpr ⟨mem_read.mpr ⟨h.mem.mpr ⟨d, hrow, hcovers⟩, hrow⟩, hcovers⟩
  rw [← shares_fst] at hmem
  obtain ⟨⟨y, n⟩, hy, rfl⟩ := List.mem_map.mp hmem
  exact ⟨n, hy⟩

theorem shares_ordered (h : db.Selects createdAt p ids)
    {a b : Stored Debt × Nat} (ha : a ∈ db.shares p ids)
    (hb : b ∈ db.shares p ids) (hlt : createdAt a.1.id < createdAt b.1.id)
    (hpos : 0 < b.2) : a.2 = a.1.row.outstandingMicro := by
  -- the order of the query, on the debts with their shares
  have hdates : (db.shares p ids).Pairwise fun a b =>
      createdAt a.1.id ≤ createdAt b.1.id := by
    have hrows : ((p.rows (db.read ids)).map Stored.id).Pairwise
        fun i j => createdAt i ≤ createdAt j := by
      have hsub := rows_sublist (p := p) (db.read ids)
      rw [read_ids] at hsub
      exact h.2.sublist hsub
    rw [← shares_fst, List.map_map, List.pairwise_map] at hrows
    exact hrows
  have hfull : (db.shares p ids).Pairwise fun a b =>
      0 < b.2 → a.2 = a.1.row.outstandingMicro := by
    have hzip : (db.shares p ids).map
          (fun x => (x.1.row.outstandingMicro, x.2))
        = (owing (p.rows (db.read ids))).zip
          (allot p.amountMicro (owing (p.rows (db.read ids)))) := by
      unfold Db.shares
      show _ = (List.map _ _).zip _
      rw [List.zip_map_left]
      rfl
    have hordered := allot_ordered p.amountMicro
      (owing (p.rows (db.read ids)))
    rw [← hzip, List.pairwise_map] at hordered
    exact hordered
  let R := fun a b : Stored Debt × Nat =>
    (createdAt a.1.id < createdAt b.1.id → 0 < b.2 →
      a.2 = a.1.row.outstandingMicro)
    ∧ (createdAt b.1.id < createdAt a.1.id → 0 < a.2 →
      b.2 = b.1.row.outstandingMicro)
  have hpair : (db.shares p ids).Pairwise R :=
    (hdates.and hfull).imp fun hab => ⟨fun _ => hab.2,
      fun hgt => absurd hgt (not_lt.mpr hab.1)⟩
  have hsymm : Std.Symm R := ⟨fun x y hxy => ⟨hxy.2, hxy.1⟩⟩
  have hself : ∀ x ∈ db.shares p ids, R x x := fun x _ =>
    ⟨fun hx => absurd hx (lt_irrefl _), fun hx => absurd hx (lt_irrefl _)⟩
  have hall := List.Pairwise.forall_of_forall hself hpair
  exact (hall ha hb).1 hlt hpos

theorem share_touches (h : db.Selects createdAt p ids)
    {x : Stored Debt × Nat} (hx : x ∈ db.shares p ids) (hpos : 0 < x.2) :
    (db.writePayments (db.payments p ids)).debts[x.1.id]?
        = some ((⟨x.1, x.2⟩ : DebtPayment).paid x.1.row)
      ∧ (db.writePayments (db.payments p ids)).debts[x.1.id]?
        ≠ db.debts[x.1.id]? := by
  have hpays : ⟨x.1, x.2⟩ ∈ db.payments p ids := mem_payRows.mpr ⟨hx, hpos⟩
  have hat := written_at h hpays
  refine ⟨hat, ?_⟩
  obtain ⟨-, hrow, -, -, hle⟩ := mem_payments hpays
  intro hsame
  rw [show (db.writePayments (db.payments p ids)).debts[x.1.id]? = _ from hat,
    hrow] at hsame
  have hout := congrArg Debt.outstandingMicro (Option.some.inj hsame)
  simp only [DebtPayment.paid] at hout hle
  omega

theorem untouched {i : Nat}
    (hnone : ∀ x ∈ db.shares p ids, x.1.id = i → x.2 = 0) :
    (db.writePayments (db.payments p ids)).debts[i]? = db.debts[i]? := by
  apply written_else
  intro x hx hid
  obtain ⟨hshare, hpos⟩ := mem_payRows.mp hx
  have hzero := hnone _ hshare hid
  dsimp only at hzero
  omega

/-- What the deltas take off a pool: its shares, as far as their lane is
that of its reserve. -/
def Db.metShareOf (db : Db) (p : ApplyRepayment) (ids : List Nat)
    (poolId : String) : Nat :=
  (((db.shares p ids).filter fun x => x.1.row.poolId = poolId
    ∧ db.Keeps (x.1.row.lane, x.1.row.poolId)).map Prod.snd).sum

theorem applied_outstanding (db : Db) (p : ApplyRepayment) (ids : List Nat)
    (poolId : String) :
    (db.applyPayments p (db.payments p ids)).1.poolOutstanding poolId
      = db.poolOutstanding poolId - db.metShareOf p ids poolId := by
  let db₁ : Db := { db.writePayments (db.payments p ids) with
    repayments := db.repayments ++ [⟨p.agentId,
      (db.payments p ids).head?.map fun x => x.debt.id, p.referenceId,
      p.amountMicro, ((db.payments p ids).map DebtPayment.amount).sum⟩] }
  have hbump := bumpOutstanding_eq db₁ (outstandingDeltas
    ((db.payments p ids).map DebtPayment.part)) poolId
  rw [sum_outstandingDeltas fun key => key.2 = poolId ∧ db₁.Keeps key]
    at hbump
  have hparts : ((((db.payments p ids).map DebtPayment.part).filter fun x =>
        x.1.2 = poolId ∧ db₁.Keeps x.1).map Prod.snd).sum
      = db.metShareOf p ids poolId := by
    unfold Db.metShareOf Db.shares
    dsimp only
    rw [← sum_payRows _ _ fun x => x.row.poolId = poolId
      ∧ db.Keeps (x.row.lane, x.row.poolId), List.filter_map, List.map_map]
    rfl
  rw [hparts] at hbump
  exact hbump

/-- All the shares in a pool are met exactly if the reserve is of the lane
of each. -/
theorem metShareOf_spec (db : Db) (p : ApplyRepayment) (ids : List Nat)
    (poolId : String) :
    db.metShareOf p ids poolId ≤ db.shareOf p ids poolId
      ∧ (db.metShareOf p ids poolId = db.shareOf p ids poolId
        ↔ ∀ x ∈ db.shares p ids, x.1.row.poolId = poolId → 0 < x.2 →
          db.Keeps (x.1.row.lane, x.1.row.poolId)) := by
  let ofPool := fun x : Stored Debt × Nat => decide (x.1.row.poolId = poolId)
  let met := fun x : Stored Debt × Nat =>
    decide (db.Keeps (x.1.row.lane, x.1.row.poolId))
  have hsplit := sum_split ofPool met Prod.snd (db.shares p ids)
  have hmet : (((db.shares p ids).filter met).filter ofPool).map Prod.snd
      = ((db.shares p ids).filter fun x => x.1.row.poolId = poolId
        ∧ db.Keeps (x.1.row.lane, x.1.row.poolId)).map Prod.snd := by
    simp only [List.filter_filter, Bool.decide_and, ofPool, met]
  rw [hmet] at hsplit
  have hmissed : ((((db.shares p ids).filter fun x => !met x).filter
      ofPool).map Prod.snd).sum = 0
      ↔ ∀ x ∈ db.shares p ids, x.1.row.poolId = poolId → 0 < x.2 →
        db.Keeps (x.1.row.lane, x.1.row.poolId) := by
    rw [List.sum_eq_zero_iff]
    constructor
    · intro hzero x hx hpool hpos
      by_contra hmiss
      have := hzero x.2 (List.mem_map_of_mem (List.mem_filter.mpr
        ⟨List.mem_filter.mpr ⟨hx, by simpa [met] using hmiss⟩,
          by simpa [ofPool] using hpool⟩))
      omega
    · intro hall n hn
      obtain ⟨x, hx, rfl⟩ := List.mem_map.mp hn
      obtain ⟨hx, hpool⟩ := List.mem_filter.mp hx
      obtain ⟨hx, hmiss⟩ := List.mem_filter.mp hx
      by_contra hpos
      have hkeeps := hall x hx (by simpa [ofPool] using hpool) (by omega)
      simp [met, hkeeps] at hmiss
  unfold Db.metShareOf
  show _ ≤ (((db.shares p ids).filter ofPool).map Prod.snd).sum
    ∧ (_ = (((db.shares p ids).filter ofPool).map Prod.snd).sum ↔ _)
  rw [← hmissed]
  constructor
  · omega
  · omega

/-- What a pool is down for goes down by the shares in it exactly if they
are all met and it is down for as much. -/
theorem pool_settled_iff (h : db.Selects createdAt p ids) :
    (∀ poolId, (db.poolOutstanding poolId : Int)
        - (db.applyPayments p (db.payments p ids)).1.poolOutstanding poolId
        = db.debtOf poolId
          - (db.writePayments (db.payments p ids)).debtOf poolId)
      ↔ (∀ x ∈ db.shares p ids, 0 < x.2 →
          db.Keeps (x.1.row.lane, x.1.row.poolId))
        ∧ ∀ poolId, db.shareOf p ids poolId ≤ db.poolOutstanding poolId := by
  constructor
  · intro hpools
    have hboth : ∀ poolId,
        db.metShareOf p ids poolId = db.shareOf p ids poolId
          ∧ db.shareOf p ids poolId ≤ db.poolOutstanding poolId := by
      intro poolId
      have hpool := hpools poolId
      rw [applied_outstanding] at hpool
      have howed := debtOf_written h poolId
      have hle := (metShareOf_spec db p ids poolId).1
      omega
    refine ⟨?_, fun poolId => (hboth poolId).2⟩
    intro x hx hpos
    exact (metShareOf_spec db p ids _).2.mp (hboth x.1.row.poolId).1 x hx rfl
      hpos
  · intro hboth poolId
    obtain ⟨hlanes, hdown⟩ := hboth
    rw [applied_outstanding]
    have howed := debtOf_written h poolId
    have hmet := (metShareOf_spec db p ids poolId).2.mpr
      fun x hx _ hpos => hlanes x hx hpos
    have := hdown poolId
    omega

/-- A first repayment does what it is to do exactly if the books are such
that it can. -/
theorem allocates_iff (hfresh : db.Fresh p) (h : db.Selects createdAt p ids) :
    Allocates createdAt p db (db.repaySelected p ids).1
        (db.repaySelected p ids).2
      ↔ db.Allocable createdAt p ids := by
  rw [Db.repaySelected_fresh hfresh]
  have hdebts := applied_debts db p (db.payments p ids)
  have howed := owed_written h
  have hin : (db.applyPayments p (db.payments p ids)).1.outstandingIn p
      = (db.writePayments (db.payments p ids)).outstandingIn p := by
    unfold Db.outstandingIn
    rw [hdebts]
  have hdebtOf : ∀ poolId,
      (db.applyPayments p (db.payments p ids)).1.debtOf poolId
        = (db.writePayments (db.payments p ids)).debtOf poolId := by
    intro poolId
    unfold Db.debtOf
    rw [hdebts]
  have happlied : ((db.payments p ids).map DebtPayment.amount).sum
      = min p.amountMicro (db.outstandingIn p) := by
    rw [← sum_owing h]
    exact total_payRows _ _
  show Allocates createdAt p db
      (db.applyPayments p (db.payments p ids)).1
      (db.applyPayments p (db.payments p ids)).2 ↔ _
  constructor
  · intro hdone
    have hpools := hdone.pools
    simp only [hdebtOf] at hpools
    obtain ⟨hlanes, hdown⟩ := (pool_settled_iff h).mp hpools
    refine ⟨?_, hlanes, hdown⟩
    intro a ha b hb hlt hpos
    obtain ⟨hrow, hcovers⟩ := mem_shares ha
    have htouched := (share_touches h hb hpos).2
    obtain ⟨d', hd', hclosed⟩ := hdone.oldestFirst a.1.id b.1.id a.1.row hrow
      hcovers hlt (by rwa [hdebts])
    by_contra hzero
    -- a debt that owes nothing has no share, and is as it was: open
    have hsame : (db.writePayments (db.payments p ids)).debts[a.1.id]?
        = db.debts[a.1.id]? := by
      apply untouched
      intro x hx hid
      obtain ⟨hxrow, -⟩ := mem_shares hx
      rw [hid, hrow] at hxrow
      have hout := share_le hx
      rw [← Option.some.inj hxrow] at hout
      omega
    rw [hdebts, hsame, hrow] at hd'
    cases hd'
    rw [hcovers.2.1] at hclosed
    cases hclosed
  · intro hbooks
    refine ⟨happlied, ?_, ?_, ?_, ?_, ?_, rfl⟩
    · rw [hin]
      exact howed
    · intro i j d hrow hcovers hlt hne
      rw [hdebts] at hne
      obtain ⟨x, hx, rfl⟩ := touched hne
      obtain ⟨hshare, hpos⟩ := mem_payRows.mp hx
      obtain ⟨n, hn⟩ := has_share h hrow hcovers
      have hfull := shares_ordered h hn hshare hlt hpos
      have howes := hbooks.owing _ hn _ hshare hlt hpos
      dsimp only at hfull howes
      rw [hdebts]
      have hat := (share_touches h hn (show 0 < n by omega)).1
      refine ⟨_, hat, ?_⟩
      simp only [DebtPayment.paid, hfull, Nat.sub_self, ↓reduceIte]
    · intro j d' hd' hne
      rw [hdebts] at hne hd'
      obtain ⟨x, hx, rfl⟩ := touched hne
      rw [written_at h hx] at hd'
      cases hd'
      rfl
    · intro i d hrow hscope
      rw [hdebts, ← hrow]
      apply untouched
      intro x hx hid
      obtain ⟨hxrow, hcovers⟩ := mem_shares hx
      rw [hid, hrow] at hxrow
      cases hxrow
      exact absurd hcovers hscope
    · simp only [hdebtOf]
      exact (pool_settled_iff h).mpr ⟨hbooks.lanes, hbooks.pools⟩

end Allocation

-- ==== debts as they were made

/-- The rows of debts that begin at `i`. -/
def rowsFrom (p : ApplyRepayment) (i : Nat) (debts : List Debt) :
    List (Stored Debt) :=
  ((debts.zipIdx i).filter fun x => p.covers x.1).map fun x => ⟨x.2, x.1⟩

theorem rowsFrom_cons (p : ApplyRepayment) (i : Nat) (d : Debt)
    (rest : List Debt) :
    rowsFrom p i (d :: rest)
      = if p.covers d then ⟨i, d⟩ :: rowsFrom p (i + 1) rest
        else rowsFrom p (i + 1) rest := by
  unfold rowsFrom
  rw [List.zipIdx_cons, List.filter_cons]
  by_cases hcovers : p.covers d
  · rw [if_pos (by simpa using hcovers), if_pos hcovers, List.map_cons]
  · rw [if_neg (by simpa using hcovers), if_neg hcovers]

/-- The walk over the debts in the order they were made is the loop over
the rows in scope, with its writes. -/
theorem repayDebts_eq (p : ApplyRepayment) (debts : List Debt) :
    ∀ n (before : List Debt), let r := repayDebts p before.length n debts
      let payments := payRows n (rowsFrom p before.length debts)
      payments.foldl (fun debts x => debts.modify x.debt.id x.paid)
          (before ++ debts) = before ++ r.debts
        ∧ r.applied = (payments.map DebtPayment.amount).sum
        ∧ r.appliedDebtId = payments.head?.map (fun x => x.debt.id)
        ∧ r.payments = payments.map DebtPayment.part := by
  induction debts with
  | nil =>
    intro n before
    exact ⟨rfl, rfl, rfl, rfl⟩
  | cons d rest ih =>
    intro n before
    dsimp only
    unfold repayDebts
    rw [rowsFrom_cons]
    have hcut : ∀ x : Debt, before ++ x :: rest = (before ++ [x]) ++ rest :=
      fun x => by simp
    have hlen : ∀ x : Debt, before.length + 1 = (before ++ [x]).length :=
      fun x => by simp
    by_cases hpays : p.covers d ∧ 0 < n ∧ 0 < d.outstandingMicro
    · rw [if_pos hpays, if_pos hpays.1]
      obtain ⟨-, hn, howes⟩ := hpays
      have hloop : ∀ rows : List (Stored Debt),
          payRows n (⟨before.length, d⟩ :: rows)
            = ⟨⟨before.length, d⟩, min d.outstandingMicro n⟩
              :: payRows (n - min d.outstandingMicro n) rows := by
        intro rows
        rw [payRows, if_neg (by omega), if_neg (by dsimp only; omega)]
      let x : DebtPayment := ⟨⟨before.length, d⟩, min d.outstandingMicro n⟩
      have hwrite : (before ++ d :: rest).modify before.length x.paid
          = before ++ x.paid d :: rest := by
        simp [List.modify_eq_set_getElem?]
      obtain ⟨hdebts, happlied, hid, hparts⟩ :=
        ih (n - min d.outstandingMicro n) (before ++ [x.paid d])
      rw [← hlen] at hdebts happlied hid hparts
      rw [hloop]
      refine ⟨?_, ?_, rfl, ?_⟩
      · rw [List.foldl_cons, show List.modify _ _ _ = _ from hwrite, hcut,
          hdebts, List.append_assoc]
        rfl
      · rw [List.map_cons, List.sum_cons, ← happlied]
      · rw [List.map_cons, ← hparts]
        rfl
    · rw [if_neg hpays]
      have hskip : payRows n (if p.covers d
            then ⟨before.length, d⟩ :: rowsFrom p (before.length + 1) rest
            else rowsFrom p (before.length + 1) rest)
          = payRows n (rowsFrom p (before.length + 1) rest) := by
        by_cases hcovers : p.covers d
        · rw [if_pos hcovers, payRows]
          by_cases hn : n = 0
          · rw [if_pos hn, hn, payRows_zero]
          · have hnone : d.outstandingMicro = 0 := by
              by_contra hne
              exact hpays ⟨hcovers, by omega, by omega⟩
            rw [if_neg hn, if_pos hnone]
        · rw [if_neg hcovers]
      obtain ⟨hdebts, happlied, hid, hparts⟩ := ih n (before ++ [d])
      rw [← hlen] at hdebts happlied hid hparts
      rw [hskip]
      refine ⟨?_, happlied, hid, hparts⟩
      rw [hcut, hdebts, List.append_assoc]
      rfl

theorem applyKizunaRepayment_eq (db : Db) (p : ApplyRepayment) :
    db.applyKizunaRepayment p = db.repaySelected p (db.openDebts p) := by
  unfold Db.applyKizunaRepayment Db.repaySelected
  cases hfound : locate (fun r => (r.agentId, r.referenceId)) db.repayments
      (p.agentId, p.referenceId) with
  | some x => rfl
  | none =>
    dsimp only
    obtain ⟨hdebts, happlied, hid, hparts⟩ :=
      repayDebts_eq p db.debts p.amountMicro []
    have hrows : p.rows (db.read (db.openDebts p)) = rowsFrom p 0 db.debts :=
      rows_open db p
    rw [List.length_nil] at hdebts happlied hid hparts
    simp only [List.nil_append] at hdebts
    simp only [Db.applyPayments, Db.bumpOutstanding, Db.writePayments, hrows]
    rw [hdebts, happlied, hid, hparts]

end KamiyoProtocol.Facilitator
