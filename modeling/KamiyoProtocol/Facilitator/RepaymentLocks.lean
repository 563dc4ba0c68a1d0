/-
Repayments that run side by side.

A repayment is a transaction of several statements. Its query answers ids
from a snapshot and takes their rows one by one (`FOR UPDATE`), each once
nobody else holds it and as it is then; a row no longer in scope drops
out. What it writes at its commit goes by the rows it took. Other
operations of the service come in between, and one that would write a
row that is held waits.

So no unit of a debt is paid twice (`accounted_step`): along any
interleaving, what repayments paid on a debt and what is left of it come
to what it was opened with.
-/
import KamiyoProtocol.Lib.RowLocks
import KamiyoProtocol.Facilitator.Repayment

namespace KamiyoProtocol.Facilitator

open Exec Keyed RowLocks Function

-- ==== the machine

/-- A repayment under way, with the ids it has yet to lock. -/
structure Repaying where
  params : ApplyRepayment
  todo : List Nat

/-- The store, the row locks and the repayments under way. -/
structure Counter where
  store : Store
  locks : Locks Nat Nat (Option Debt)
  repaying : Nat → Option Repaying
  /-- What committed repayments paid on which debt. -/
  paid : List (Nat × Nat)

/-- A step of transaction `t`, or another operation of the service. -/
inductive Turn
  /-- The query of a repayment answers `ids`. -/
  | query (t : Nat) (p : ApplyRepayment) (ids : List Nat)
  | lock (t : Nat)
  | commit (t : Nat)
  | rollback (t : Nat)
  | other (op : Op) (c : Choice)

def Op.isRepayment : Op → Bool
  | .applyKizunaRepayment _ => true
  | _ => false

/-- What a payment is entered as. -/
def DebtPayment.entry (x : DebtPayment) : Nat × Nat := (x.debt.id, x.amount)

/-- No row that is held is written. -/
def Counter.Spares (s : Counter) (db : Db) : Prop :=
  ∀ i < s.store.db.debts.length, s.locks.owner i ≠ none →
    db.debts[i]? = s.store.db.debts[i]?

instance (s : Counter) (db : Db) : Decidable (s.Spares db) :=
  inferInstanceAs (Decidable (∀ i < _, _))

namespace Counter

/-- The transaction is over, whatever it took is free. -/
def finish (s : Counter) (t : Nat) : Counter :=
  { s with
    locks := s.locks.release t
    repaying := update s.repaying t none }

def step (createdAt : Nat → Nat) (a : Turn) (s : Counter) :
    Except Unit Counter := do
  match a with
  | .query t p ids =>
    require (s.repaying t = none) ()
    require (s.store.db.Fresh p) ()
    require (s.store.db.Selects createdAt p ids) ()
    return { s with repaying := update s.repaying t (some ⟨p, ids⟩) }
  | .lock t =>
    match s.repaying t with
    | some ⟨p, i :: rest⟩ =>
      require (s.locks.Free t i) ()
      return { s with
        locks := s.locks.take t i s.store.db.debts[i]?
        repaying := update s.repaying t (some ⟨p, rest⟩) }
    | _ => throw ()
  | .commit t =>
    match s.repaying t with
    | some ⟨p, []⟩ =>
      -- the unique constraint on agent and reference
      require (s.store.db.Fresh p) ()
      let payments := payRows p.amountMicro (p.rows (s.locks.seen t))
      return Counter.finish { s with
        store := { s.store with
          db := (s.store.db.applyPayments p payments).1 }
        paid := s.paid ++ payments.map DebtPayment.entry } t
    | _ => throw ()
  | .rollback t =>
    require (s.repaying t ≠ none) ()
    return s.finish t
  | .other op c =>
    require (op.isRepayment = false) ()
    let store := (perform op c s.store).1
    require (s.Spares store.db) ()
    return { s with store := store }

/-- No repayment is under way, and none has been accounted for. -/
structure Idle (s : Counter) : Prop where
  locks : s.locks = Locks.empty
  repaying : ∀ t, s.repaying t = none
  paid : s.paid = []

/-- What some entries come to on a debt. -/
def entriesOn (entries : List (Nat × Nat)) (i : Nat) : Nat :=
  ((entries.filter fun x => x.1 = i).map Prod.snd).sum

/-- What has been paid on a debt. -/
def paidOn (s : Counter) (i : Nat) : Nat := entriesOn s.paid i

/-- What there was to pay on a debt: what it owed in the beginning or, of
a later one, what it was opened with. -/
def payable (s₀ : Counter) (i : Nat) (d : Debt) : Nat :=
  (s₀.store.db.debts[i]?.map Debt.outstandingMicro).getD d.principalMicro

/-- What repayments are recorded to have applied. -/
def recorded (s : Counter) : Nat :=
  (s.store.db.repayments.map Repayment.appliedMicro).sum

/-- No unit of debt has been paid twice. -/
structure Accounted (s₀ s : Counter) : Prop where
  debts : ∀ i d, s.store.db.debts[i]? = some d →
    s.paidOn i + d.outstandingMicro = s₀.payable i d
  records : s.recorded = s₀.recorded + (s.paid.map Prod.snd).sum

end Counter

-- ==== other operations

/-- Debts keep their amounts, and new ones owe what they were opened
with. -/
structure Opens (db db' : Db) : Prop where
  kept : ∀ (i : Nat) (d : Debt), db.debts[i]? = some d →
    ∃ d' : Debt, db'.debts[i]? = some d'
    ∧ d'.outstandingMicro = d.outstandingMicro
    ∧ d'.principalMicro = d.principalMicro
  opened : ∀ (i : Nat) (d' : Debt), db'.debts[i]? = some d' → db.debts[i]? = none →
    d'.outstandingMicro = d'.principalMicro
  repayments : db'.repayments = db.repayments

variable {db db' : Db}

theorem Opens.of_same (hdebts : db'.debts = db.debts)
    (hrepayments : db'.repayments = db.repayments) : Opens db db' := by
  refine ⟨?_, ?_, hrepayments⟩
  · intro i d hd
    rw [hdebts]
    exact ⟨d, hd, rfl, rfl⟩
  · intro i d' hd' hnone
    rw [hdebts, hnone] at hd'
    cases hd'

theorem Opens.upsert {row : Debt}
    (hrow : row.outstandingMicro = row.principalMicro)
    (hdebts : db'.debts = (db.upsertDebt row).1.debts)
    (hrepayments : db'.repayments = db.repayments) : Opens db db' := by
  rcases (Db.upsertDebt_debts db row).2 with hnew | ⟨j, old, _, _, hold, hset⟩
  · rw [hnew] at hdebts
    refine ⟨?_, ?_, hrepayments⟩
    · intro i d hd
      obtain ⟨hlt, -⟩ := List.getElem?_eq_some_iff.mp hd
      rw [hdebts, List.getElem?_append_left hlt]
      exact ⟨d, hd, rfl, rfl⟩
    · intro i d' hd' hnone
      have hle := List.getElem?_eq_none_iff.mp hnone
      rw [hdebts, List.getElem?_append_right hle] at hd'
      have hmem := List.mem_of_getElem? hd'
      rw [List.mem_singleton.mp hmem]
      exact hrow
  · rw [hset] at hdebts
    refine ⟨?_, ?_, hrepayments⟩
    · intro i d hd
      rw [hdebts]
      by_cases hij : j = i
      · subst hij
        rw [hold] at hd
        cases hd
        obtain ⟨hlt, -⟩ := List.getElem?_eq_some_iff.mp hold
        rw [List.getElem?_set_self hlt]
        exact ⟨_, rfl, rfl, rfl⟩
      · rw [List.getElem?_set_ne hij]
        exact ⟨d, hd, rfl, rfl⟩
    · intro i d' hd' hnone
      have hlt := (List.getElem?_eq_some_iff.mp hd').1
      rw [hdebts, List.length_set] at hlt
      have hle := List.getElem?_eq_none_iff.mp hnone
      omega

theorem Booked.opens {op : Op} (h : Booked db db' op)
    (hop : op.isRepayment = false) : Opens db db' := by
  cases h with
  | aside decisions settlements guards sessions same grown merchants =>
    rw [same]
    exact .of_same rfl rfl
  | settlement row same =>
    rw [same]
    exact .of_same rfl rfl
  | reserve p sent now stored done =>
    obtain ⟨-, -, ⟨_, _, hdb⟩, -⟩ := Db.create_ok done
    rw [hdb]
    exact .of_same rfl rfl
  | release id status done =>
    rcases Db.release_ok done with hsame | ⟨row, -, -, ⟨_, _, hdb⟩, -⟩
    · rw [hsame]
      exact .of_same rfl rfl
    · rw [hdb]
      exact .of_same rfl rfl
  | consume p now v done =>
    obtain ⟨row, d, -, -, -, -, ⟨_, _, _, _, hdb⟩, hdebts, -⟩ :=
      Db.finalize_ok done
    have hrepayments : db'.repayments = db.repayments := by rw [hdb]
    split at hdebts
    · exact .of_same hdebts hrepayments
    · exact .upsert rfl hdebts hrepayments
  | repay p done => cases hop
  | fund p v done =>
    rcases Db.fund_booked done with hsame | ⟨⟨_, hdb⟩, -⟩
    · rw [hsame]
      exact .of_same rfl rfl
    · rw [hdb]
      exact .of_same rfl rfl
  | collateral p v done =>
    rcases Db.collateral_ok done with hsame | ⟨_, _, _, _, -, hdb⟩
    · rw [hsame]
      exact .of_same rfl rfl
    · rw [hdb]
      exact .of_same rfl rfl

-- ==== the steps

namespace Counter

/-- What a step does. -/
inductive Moved (createdAt : Nat → Nat) (s : Counter) : Turn → Counter → Prop
  | query (t : Nat) (p : ApplyRepayment) (ids : List Nat)
      (none : s.repaying t = none)
      (selects : s.store.db.Selects createdAt p ids) :
      Moved createdAt s (.query t p ids)
        { s with repaying := update s.repaying t (some ⟨p, ids⟩) }
  | lock (t : Nat) (p : ApplyRepayment) (i : Nat) (rest : List Nat)
      (repaying : s.repaying t = some ⟨p, i :: rest⟩)
      (free : s.locks.Free t i) :
      Moved createdAt s (.lock t) { s with
        locks := s.locks.take t i s.store.db.debts[i]?
        repaying := update s.repaying t (some ⟨p, rest⟩) }
  | commit (t : Nat) (p : ApplyRepayment)
      (repaying : s.repaying t = some ⟨p, []⟩)
      (fresh : s.store.db.Fresh p) :
      Moved createdAt s (.commit t) (Counter.finish { s with
        store := { s.store with
          db := (s.store.db.applyPayments p
            (payRows p.amountMicro (p.rows (s.locks.seen t)))).1 }
        paid := s.paid ++ (payRows p.amountMicro
          (p.rows (s.locks.seen t))).map DebtPayment.entry } t)
  | rollback (t : Nat) : Moved createdAt s (.rollback t) (s.finish t)
  | other (op : Op) (c : Choice) (store : Store)
      (opens : Opens s.store.db store.db) (spares : s.Spares store.db) :
      Moved createdAt s (.other op c) { s with store := store }

variable {createdAt : Nat → Nat} {s₀ s s' : Counter}

theorem step_moved {a : Turn} (h : step createdAt a s = .ok s') :
    Moved createdAt s a s' := by
  cases a with
  | query t p ids =>
    obtain ⟨u₁, hnone, u₂, hfresh, u₃, hselects, h⟩ := bind_ok₃.mp h
    cases h
    exact .query t p ids (require_ok.mp hnone) (require_ok.mp hselects)
  | lock t =>
    dsimp only [step] at h
    split at h
    · next p i rest hrepaying =>
        obtain ⟨u, hfree, h⟩ := bind_ok.mp h
        cases h
        exact .lock t p i rest hrepaying (require_ok.mp hfree)
    · cases h
  | commit t =>
    dsimp only [step] at h
    split at h
    · next p hrepaying =>
        obtain ⟨u, hfresh, h⟩ := bind_ok.mp h
        cases h
        exact .commit t p hrepaying (require_ok.mp hfresh)
    · cases h
  | rollback t =>
    obtain ⟨u, -, h⟩ := bind_ok.mp h
    cases h
    exact .rollback t
  | other op c =>
    obtain ⟨u₁, hop, u₂, hspares, h⟩ := bind_ok₂.mp h
    cases h
    exact .other op c _ ((perform_booked op c s.store).opens
      (require_ok.mp hop)) (require_ok.mp hspares)

/-- What a transaction took and what it is yet to take. -/
def claimed (s : Counter) (t : Nat) : List Nat :=
  (s.locks.seen t).map Prod.fst ++ ((s.repaying t).map Repaying.todo).getD []

/-- Rows taken are as they were taken, no transaction takes one twice, and
everything paid is accounted for. -/
structure Kept (s₀ s : Counter) : Prop where
  current : Current (fun i => s.store.db.debts[i]?) s.locks
  distinct : ∀ t, (s.claimed t).Nodup
  within : ∀ t, ∀ i ∈ s.claimed t, i < s.store.db.debts.length
  unheld : ∀ t, s.repaying t = none → s.locks.seen t = []
  accounted : Accounted s₀ s
  entered : ∀ x ∈ s.paid, x.1 < s.store.db.debts.length
  grown : s₀.store.db.debts.length ≤ s.store.db.debts.length

theorem Idle.kept (h : s₀.Idle) : Kept s₀ s₀ := by
  refine ⟨?_, ?_, ?_, ?_, ⟨?_, ?_⟩, ?_, Nat.le_refl _⟩
  · rw [h.locks]
    exact current_empty
  · intro t
    simp [claimed, h.locks, h.repaying, Locks.empty]
  · intro t
    simp [claimed, h.locks, h.repaying, Locks.empty]
  · simp [h.locks, Locks.empty]
  · intro i d hd
    simp [paidOn, entriesOn, h.paid, payable, hd]
  · simp [h.paid]
  · simp [h.paid]

-- the transaction that ends holds nothing, the others what they did
theorem claimed_finish (s : Counter) (t u : Nat) :
    (s.finish t).claimed u = if u = t then [] else s.claimed u := by
  unfold claimed finish Locks.release
  dsimp only
  by_cases hut : u = t
  · subst hut
    simp [update_self]
  · rw [update_of_ne hut, update_of_ne hut, if_neg hut]

theorem Kept.distinct_finish (h : Kept s₀ s) (t u : Nat) :
    ((s.finish t).claimed u).Nodup := by
  rw [claimed_finish]
  split
  · exact List.nodup_nil
  · exact h.distinct u

theorem Kept.within_finish (h : Kept s₀ s) (t u : Nat) :
    ∀ i ∈ (s.finish t).claimed u, i < s.store.db.debts.length := by
  rw [claimed_finish]
  split
  · exact nofun
  · exact h.within u

theorem entriesOn_append (xs ys : List (Nat × Nat)) (i : Nat) :
    entriesOn (xs ++ ys) i = entriesOn xs i + entriesOn ys i := by
  simp [entriesOn]

theorem entriesOn_none {entries : List (Nat × Nat)} {i : Nat}
    (h : ∀ x ∈ entries, x.1 ≠ i) : entriesOn entries i = 0 := by
  unfold entriesOn
  rw [List.filter_eq_nil_iff.mpr fun x hx => by simpa using h x hx]
  rfl

theorem Kept.unheld_finish (h : Kept s₀ s) (t u : Nat)
    (hnone : (s.finish t).repaying u = none) :
    (s.finish t).locks.seen u = [] := by
  by_cases hut : u = t
  · subst hut
    exact update_self ..
  · change update s.repaying t none u = none at hnone
    rw [update_of_ne hut] at hnone
    exact (update_of_ne hut ..).trans (h.unheld u hnone)

theorem entriesOn_payment {payments : List DebtPayment}
    (hids : (payments.map fun x => x.debt.id).Nodup) {x : DebtPayment}
    (hx : x ∈ payments) :
    entriesOn (payments.map DebtPayment.entry) x.debt.id = x.amount := by
  induction payments with
  | nil => cases hx
  | cons y rest ih =>
    obtain ⟨hnew, hrest⟩ := List.nodup_cons.mp hids
    have hcut : entriesOn ((y :: rest).map DebtPayment.entry) x.debt.id
        = (if y.debt.id = x.debt.id then y.amount else 0)
          + entriesOn (rest.map DebtPayment.entry) x.debt.id := by
      unfold entriesOn
      rw [List.map_cons, List.filter_cons]
      by_cases hid : y.debt.id = x.debt.id
      · simp [DebtPayment.entry, hid]
      · simp [DebtPayment.entry, hid]
    rw [hcut]
    rcases List.mem_cons.mp hx with rfl | hmem
    · have hothers : entriesOn (rest.map DebtPayment.entry) x.debt.id = 0 := by
        apply entriesOn_none
        intro z hz hid
        obtain ⟨w, hw, rfl⟩ := List.mem_map.mp hz
        exact hnew (List.mem_map.mpr ⟨w, hw, hid⟩)
      rw [if_pos rfl, hothers, Nat.add_zero]
    · have hne : y.debt.id ≠ x.debt.id := by
        intro hid
        exact hnew (List.mem_map.mpr ⟨x, hmem, hid.symm⟩)
      rw [if_neg hne, Nat.zero_add]
      exact ih hrest hmem

-- ==== invariance

/-- A payment of what a transaction took is on a debt it holds, as it
is. -/
theorem Kept.payment (h : Kept s₀ s) {t n : Nat} {p : ApplyRepayment}
    {x : DebtPayment} (hx : x ∈ payRows n (p.rows (s.locks.seen t))) :
    s.locks.owner x.debt.id = some t
      ∧ s.store.db.debts[x.debt.id]? = some x.debt.row
      ∧ x.amount ≤ x.debt.row.outstandingMicro := by
  obtain ⟨hrow, -, hle⟩ := payRows_mem hx
  obtain ⟨hown, hnow⟩ := h.current t _ _ (mem_rows.mp hrow).1
  exact ⟨hown, hnow, hle⟩

theorem Kept.ids (h : Kept s₀ s) (t n : Nat) (p : ApplyRepayment) :
    ((payRows n (p.rows (s.locks.seen t))).map fun x => x.debt.id).Nodup := by
  apply payment_ids
  exact (List.nodup_append.mp (h.distinct t)).1

theorem applied_recorded (db : Db) (p : ApplyRepayment)
    (payments : List DebtPayment) :
    ((db.applyPayments p payments).1.repayments.map
        Repayment.appliedMicro).sum
      = (db.repayments.map Repayment.appliedMicro).sum
        + (payments.map DebtPayment.amount).sum := by
  obtain ⟨reserves, h⟩ := Db.foldl_bump
    (fun x : (Lane × String) × Nat => x.1.2) (fun x => x.1.1)
    (fun x => -(x.2 : Int))
    (outstandingDeltas (payments.map DebtPayment.part))
    { db.writePayments payments with repayments := db.repayments ++ [_] }
  unfold Db.applyPayments Db.bumpOutstanding
  dsimp only
  rw [h]
  exact sum_append_single Repayment.appliedMicro db.repayments _

theorem written_length (db : Db) (payments : List DebtPayment) :
    (db.writePayments payments).debts.length = db.debts.length := by
  show (payments.foldl _ db.debts).length = _
  generalize db.debts = debts
  induction payments generalizing debts with
  | nil => rfl
  | cons x rest ih => rw [List.foldl_cons, ih, List.length_modify]

theorem Kept.commit (h : Kept s₀ s) (t : Nat) (p : ApplyRepayment) :
    Kept s₀ (Counter.finish { s with
      store := { s.store with
        db := (s.store.db.applyPayments p
          (payRows p.amountMicro (p.rows (s.locks.seen t)))).1 }
      paid := s.paid ++ (payRows p.amountMicro
        (p.rows (s.locks.seen t))).map DebtPayment.entry } t) := by
  have hpayment := fun x hx => h.payment (t := t) (n := p.amountMicro)
    (p := p) (x := x) hx
  have hids := h.ids t p.amountMicro p
  have hrecorded := applied_recorded s.store.db p
    (payRows p.amountMicro (p.rows (s.locks.seen t)))
  have hdebts := applied_debts s.store.db p
    (payRows p.amountMicro (p.rows (s.locks.seen t)))
  have hlength := written_length s.store.db
    (payRows p.amountMicro (p.rows (s.locks.seen t)))
  have hentry : ((payRows p.amountMicro (p.rows (s.locks.seen t))).map
        DebtPayment.entry).map Prod.snd
      = (payRows p.amountMicro (p.rows (s.locks.seen t))).map
          DebtPayment.amount := by
    rw [List.map_map]
    rfl
  generalize payRows p.amountMicro (p.rows (s.locks.seen t)) = payments
    at hpayment hids hrecorded hdebts hlength hentry ⊢
  have helse : ∀ i, (∀ x ∈ payments, x.debt.id ≠ i) →
      (s.store.db.applyPayments p payments).1.debts[i]?
        = s.store.db.debts[i]? := by
    intro i hi
    rw [hdebts]
    exact written_else hi
  have hgrown : (s.store.db.applyPayments p payments).1.debts.length
      = s.store.db.debts.length := by
    rw [hdebts, hlength]
  refine ⟨?_, h.distinct_finish t, ?_, h.unheld_finish t, ⟨?_, ?_⟩, ?_, ?_⟩
  · -- only debts the transaction holds are written
    refine h.current.release fun i hi => helse i ?_
    rintro x hx rfl
    exact hi (hpayment x hx).1
  · intro u i hi
    have hlt := h.within_finish t u i hi
    exact hlt.trans_eq hgrown.symm
  · intro i d hd
    show entriesOn (s.paid ++ _) i + _ = _
    rw [entriesOn_append]
    by_cases hpaid : ∃ x ∈ payments, x.debt.id = i
    · obtain ⟨x, hx, rfl⟩ := hpaid
      obtain ⟨-, hnow, hle⟩ := hpayment x hx
      have hbefore : entriesOn s.paid x.debt.id
          + x.debt.row.outstandingMicro = s₀.payable x.debt.id x.debt.row :=
        h.accounted.debts _ _ hnow
      have hafter : (s.store.db.applyPayments p payments).1.debts[x.debt.id]?
          = some (x.paid x.debt.row) := by
        rw [hdebts, written_paid hids hx, hnow]
        rfl
      change (s.store.db.applyPayments p payments).1.debts[x.debt.id]?
        = some d at hd
      rw [hafter] at hd
      cases hd
      rw [entriesOn_payment hids hx]
      show _ + (x.debt.row.outstandingMicro - x.amount)
        = s₀.payable x.debt.id x.debt.row
      omega
    · have hnone : ∀ x ∈ payments, x.debt.id ≠ i := fun x hx hid =>
        hpaid ⟨x, hx, hid⟩
      change (s.store.db.applyPayments p payments).1.debts[i]? = some d at hd
      rw [helse i hnone] at hd
      have hentries : entriesOn (payments.map DebtPayment.entry) i = 0 := by
        apply entriesOn_none
        intro y hy
        obtain ⟨x, hx, rfl⟩ := List.mem_map.mp hy
        exact hnone x hx
      rw [hentries, Nat.add_zero]
      exact h.accounted.debts i d hd
  · show ((s.store.db.applyPayments p payments).1.repayments.map
        Repayment.appliedMicro).sum = _ + ((s.paid ++ _).map Prod.snd).sum
    have hbefore : (s.store.db.repayments.map Repayment.appliedMicro).sum
        = s₀.recorded + (s.paid.map Prod.snd).sum := h.accounted.records
    rw [hrecorded, hbefore, List.map_append, List.sum_append, hentry]
    omega
  · intro y hy
    show y.1 < (s.store.db.applyPayments p payments).1.debts.length
    rw [hgrown]
    rcases List.mem_append.mp hy with hold | hnew
    · exact h.entered y hold
    · obtain ⟨x, hx, rfl⟩ := List.mem_map.mp hnew
      exact (List.getElem?_eq_some_iff.mp (hpayment x hx).2.1).1
  · exact h.grown.trans_eq hgrown.symm

/-- Other operations leave what is held, pay nothing, and what they add is
not paid on yet. -/
theorem Kept.other (h : Kept s₀ s) {store : Store}
    (hopens : Opens s.store.db store.db) (hspares : s.Spares store.db) :
    Kept s₀ { s with store := store } := by
  have hlength : s.store.db.debts.length ≤ store.db.debts.length := by
    by_contra hless
    have hlast : store.db.debts.length < s.store.db.debts.length := by omega
    obtain ⟨d', hd', -⟩ := hopens.kept store.db.debts.length _
      (List.getElem?_eq_getElem hlast)
    have := (List.getElem?_eq_some_iff.mp hd').1
    omega
  refine ⟨?_, h.distinct, ?_, h.unheld, ⟨?_, ?_⟩, ?_, h.grown.trans hlength⟩
  · intro t i v hseen
    obtain ⟨hown, hnow⟩ := h.current t i v hseen
    refine ⟨hown, ?_⟩
    have hlt : i < s.store.db.debts.length := h.within t i
      (List.mem_append_left _ (List.mem_map_of_mem (f := Prod.fst) hseen))
    have hsame := hspares i hlt (by rw [hown]; nofun)
    exact hsame.trans hnow
  · intro t i hi
    have := h.within t i hi
    dsimp only
    omega
  · intro i d' hd'
    show s.paidOn i + _ = _
    cases hd : s.store.db.debts[i]? with
    | some d =>
      obtain ⟨d₁, hd₁, hout, hprincipal⟩ := hopens.kept i d hd
      rw [show store.db.debts[i]? = _ from hd'] at hd₁
      cases hd₁
      have hbefore := h.accounted.debts i d hd
      unfold payable at hbefore ⊢
      rw [hout, hprincipal]
      exact hbefore
    | none =>
      have hle := List.getElem?_eq_none_iff.mp hd
      have hnone : s₀.store.db.debts[i]? = none := by
        apply List.getElem?_eq_none_iff.mpr
        have := h.grown
        omega
      have hunpaid : s.paidOn i = 0 := by
        apply entriesOn_none
        intro x hx hid
        have := h.entered x hx
        omega
      unfold payable
      rw [hnone, hunpaid, hopens.opened i d' hd' hd]
      simp
  · show (store.db.repayments.map _).sum = _
    rw [hopens.repayments]
    exact h.accounted.records
  · intro x hx
    have := h.entered x hx
    dsimp only
    omega

-- the query has taken nothing yet, and is to take what there is, each once
theorem Kept.query (h : Kept s₀ s) {t : Nat} {p : ApplyRepayment}
    {ids : List Nat} (hnone : s.repaying t = none)
    (hselects : s.store.db.Selects createdAt p ids) :
    Kept s₀ { s with repaying := update s.repaying t (some ⟨p, ids⟩) } := by
  have hclaimed : ∀ u, (claimed { s with
      repaying := update s.repaying t (some ⟨p, ids⟩) } u)
      = if u = t then ids else s.claimed u := by
    intro u
    unfold claimed
    dsimp only
    by_cases hut : u = t
    · subst hut
      simp [update_self, h.unheld u hnone]
    · rw [update_of_ne hut, if_neg hut]
  refine ⟨h.current, ?_, ?_, ?_, ⟨h.accounted.debts, h.accounted.records⟩,
    h.entered, h.grown⟩
  · intro u
    rw [hclaimed]
    split
    · exact hselects.nodup
    · exact h.distinct u
  · intro u i
    rw [hclaimed]
    split
    · intro hi
      obtain ⟨d, hd, -⟩ := hselects.mem.mp hi
      exact (List.getElem?_eq_some_iff.mp hd).1
    · exact h.within u i
  · intro u hu
    by_cases hut : u = t
    · subst hut
      exact h.unheld u hnone
    · change update s.repaying t _ u = none at hu
      rw [update_of_ne hut] at hu
      exact h.unheld u hu

-- a row moves from what is yet to take to what is taken
theorem Kept.lock (h : Kept s₀ s) {t i : Nat} {p : ApplyRepayment}
    {rest : List Nat} (hrepaying : s.repaying t = some ⟨p, i :: rest⟩)
    (hfree : s.locks.Free t i) :
    Kept s₀ { s with
      locks := s.locks.take t i s.store.db.debts[i]?
      repaying := update s.repaying t (some ⟨p, rest⟩) } := by
  have hclaimed : ∀ u, (claimed { s with
      locks := s.locks.take t i s.store.db.debts[i]?
      repaying := update s.repaying t (some ⟨p, rest⟩) } u) = s.claimed u := by
    intro u
    unfold claimed Locks.take
    dsimp only
    by_cases hut : u = t
    · subst hut
      simp [update_self, hrepaying]
    · rw [update_of_ne hut, update_of_ne hut]
  refine ⟨h.current.take hfree, ?_, ?_, ?_,
    ⟨h.accounted.debts, h.accounted.records⟩, h.entered, h.grown⟩
  · intro u
    rw [hclaimed]
    exact h.distinct u
  · intro u
    rw [hclaimed]
    exact h.within u
  · intro u hu
    change update s.repaying t _ u = none at hu
    by_cases hut : u = t
    · subst hut
      rw [update_self] at hu
      cases hu
    · rw [update_of_ne hut] at hu
      exact (update_of_ne hut ..).trans (h.unheld u hu)

theorem Kept.next (h : Kept s₀ s) {a : Turn}
    (hmoved : Moved createdAt s a s') : Kept s₀ s' := by
  cases hmoved with
  | query t p ids hnone hselects => exact h.query hnone hselects
  | lock t p i rest hrepaying hfree => exact h.lock hrepaying hfree
  | commit t p hrepaying hfresh => exact h.commit t p
  | rollback t =>
    refine ⟨?_, h.distinct_finish t, h.within_finish t, h.unheld_finish t,
      ⟨h.accounted.debts, h.accounted.records⟩, h.entered, h.grown⟩
    exact h.current.release fun _ _ => rfl
  | other op c store hopens hspares => exact h.other hopens hspares

/-- However repayments and other operations interleave, no unit of debt is
paid twice. -/
theorem run_accounted (hidle : s₀.Idle) {tr : List Turn}
    (hrun : run (step createdAt) s₀ tr = .ok s) : Accounted s₀ s := by
  have hkept : Kept s₀ s := run_induct (I := Kept s₀)
    (fun a x y hx hxy => hx.next (step_moved hxy)) hidle.kept hrun
  exact hkept.accounted

end Counter

-- ==== allocation

/-- A first repayment allocates its amount exactly if the books are such
that it can, and repayments side by side pay no unit of debt twice. -/
theorem repayment_allocates_iff (createdAt : Nat → Nat) :
    (∀ (db : Db) (p : ApplyRepayment) (ids : List Nat), db.Fresh p →
      db.Selects createdAt p ids →
      (Allocates createdAt p db (db.repaySelected p ids).1
          (db.repaySelected p ids).2
        ↔ db.Allocable createdAt p ids))
    ∧ ∀ (s₀ s : Counter) (tr : List Turn), s₀.Idle →
      run (Counter.step createdAt) s₀ tr = .ok s → Counter.Accounted s₀ s :=
  ⟨fun _ _ _ hfresh hselects => allocates_iff hfresh hselects,
    fun _ _ _ hidle hrun => Counter.run_accounted hidle hrun⟩

namespace Concrete

/-- A job of the crypto-fast lane in the pool of the other one, settled. -/
def crossedRun : List Action :=
  [.arrive (.reserveJob {
      agentId := "agent"
      payerWallet := "payer"
      requestNonce := "n1"
      network := solana
      lane := some .cryptoFast
      poolId := some "enterprise-main"
      amountMicro := some 1000000 }) 1700000000000]
    ++ advance (well .cryptoFast 1000000) 0 5
    ++ [.arrive (.settleJob {
      reservationId := 0
      merchantWallet := "merchant"
      amount := 1000000
      feeAmount := 10000
      auditRef := "audit" }) 1700000001000]
    ++ advance (well .cryptoFast 1000000) 1 5

/-- A repayment of part of what the agent owes. -/
def part (amountMicro : Nat) (referenceId : String) : ApplyRepayment where
  agentId := "agent"
  amountMicro := amountMicro
  referenceId := referenceId
  lane := some .cryptoFast
  poolId := none

/-- The debt goes down and its pool does not. -/
theorem crossed_unmet : ∃ w, run (step env) start crossedRun = .ok w
    ∧ w.store.db.Fresh (part 400000 "r1")
    ∧ w.store.db.Selects (fun _ => 0) (part 400000 "r1") [0]
    ∧ ¬ Allocates (fun _ => 0) (part 400000 "r1") w.store.db
        (w.store.db.repaySelected (part 400000 "r1") [0]).1
        (w.store.db.repaySelected (part 400000 "r1") [0]).2 := by
  have hrun : Exec.check (fun w => decide (w.store.db.Fresh (part 400000 "r1")
      ∧ w.store.db.Selects (fun _ => 0) (part 400000 "r1") [0]
      ∧ ¬ (w.store.db.poolOutstanding "enterprise-main" : Int)
          - (w.store.db.repaySelected (part 400000 "r1") [0]).1.poolOutstanding
            "enterprise-main"
        = w.store.db.debtOf "enterprise-main"
          - (w.store.db.repaySelected (part 400000 "r1") [0]).1.debtOf
            "enterprise-main"))
      (run (step env) start crossedRun) = true := by
    decide
  obtain ⟨w, hw, hall⟩ := check_ok hrun
  obtain ⟨hfresh, hselects, hpool⟩ := of_decide_eq_true hall
  exact ⟨w, hw, hfresh, hselects, fun h => hpool (h.pools _)⟩

def lentDebt : Debt where
  agentId := "agent"
  payerWallet := "payer"
  repayWallet := "repay"
  network := solana
  lane := .cryptoFast
  poolId := "fastpath-main"
  settlementId := 0
  decisionId := 0
  reservationId := 0
  decisionEnvelopeHash := none
  principalMicro := 1000000
  outstandingMicro := 1000000
  status := .opened
  txHash := "tx"

/-- One debt, in a pool of its lane. -/
def lent : Db :=
  { start.store.db with
    debts := [lentDebt]
    poolReserves := fun id =>
      if id = "fastpath-main" then some ⟨.cryptoFast, 0, 1000000, 0⟩
      else none }

def counter : Counter where
  store := { start.store with db := lent }
  locks := RowLocks.Locks.empty
  repaying := fun _ => none
  paid := []

/-- Two repayments of the debt, the second held up by the first. -/
def sideBySide : List Turn :=
  [.query 0 (part 400000 "r1") [0], .query 1 (part 700000 "r2") [0],
    .lock 0, .commit 0, .lock 1, .commit 1]

theorem lent_allocable :
    lent.Allocable (fun _ => 0) (part 400000 "r1") [0] := by
  refine ⟨by decide, by decide, ?_⟩
  intro poolId
  by_cases hpool : poolId = "fastpath-main"
  · subst hpool
    decide
  · have hshares : lent.shares (part 400000 "r1") [0]
        = [(⟨0, lentDebt⟩, 400000)] := by decide
    have hshare : lent.shareOf (part 400000 "r1") [0] poolId = 0 := by
      unfold Db.shareOf
      rw [hshares, List.filter_cons_of_neg]
      · rfl
      · exact fun h => hpool (of_decide_eq_true h).symm
    omega

theorem repayment_allocates_lent :
    Allocates (fun _ => 0) (part 400000 "r1") lent
        (lent.repaySelected (part 400000 "r1") [0]).1
        (lent.repaySelected (part 400000 "r1") [0]).2
      ∧ ∃ s, run (Counter.step fun _ => 0) counter sideBySide = .ok s
        ∧ Counter.Accounted counter s := by
  refine ⟨((repayment_allocates_iff fun _ => 0).1 lent (part 400000 "r1") [0]
    (by decide) (by decide)).mpr lent_allocable, ?_⟩
  have hrun : Exec.check (fun s => decide (s.paid = [(0, 400000), (0, 600000)]))
      (run (Counter.step fun _ => 0) counter sideBySide) = true := by
    decide
  obtain ⟨s, hs, -⟩ := check_ok hrun
  exact ⟨s, hs, (repayment_allocates_iff fun _ => 0).2 counter s sideBySide
    ⟨rfl, fun _ => rfl, rfl⟩ hs⟩

end Concrete

end KamiyoProtocol.Facilitator
