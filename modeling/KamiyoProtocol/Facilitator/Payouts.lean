/-
Whether a Kizuna settlement pays once.

A settlement pays, then books the payment in one transaction. While both
go through, and no other request ends the reservation in between, the
requests that have paid and not booked yet are counted by `total`, and
the books balance with that count at every moment.
-/
import KamiyoProtocol.Facilitator.PayoutDuty
import KamiyoProtocol.Facilitator.Prefund

namespace KamiyoProtocol.Facilitator

open Exec Await Keyed

variable {env : Env}

-- ==== figures

/-- How often the merchant was paid for a reservation. -/
def Store.payoutsOf (s : Store) (id : Nat) : Nat :=
  (s.payouts.map fun o =>
    if o.order.purpose.reservation = some id then 1 else 0).sum

/-- How many debts a reservation has. -/
def Db.debtsOf (db : Db) (id : Nat) : Nat :=
  (db.debts.map fun d => if d.reservationId = id then 1 else 0).sum

/-- How many debts a settlement has. -/
def Db.debtsFor (db : Db) (settlementId : Nat) : Nat :=
  (db.debts.map fun d => if d.settlementId = settlementId then 1 else 0).sum

/-- A figure of a reservation, zero for none. -/
def Db.figure (db : Db) (f : Reservation → Nat) (id : Nat) : Nat :=
  (db.reservations[id]?.map f).getD 0

def Reservation.isReserved (r : Reservation) : Nat :=
  if r.status = .reserved then 1 else 0

def Reservation.isConsumed (r : Reservation) : Nat :=
  if r.status = .consumed then 1 else 0

/-- One for a reservation whose settlement left a debt. -/
def Reservation.isDebt (r : Reservation) : Nat :=
  if r.status = .consumed ∧ ¬ r.isPrefundedEnterprise then 1 else 0

-- ==== steps

/-- Every reservation is of a recorded decision, and its lock, if it is
prefunded, is not zero. -/
def SoundRows (db : Db) : Prop :=
  ∀ (id : Nat) (row : Reservation), db.reservations[id]? = some row →
    row.decisionId < db.decisions.length
      ∧ (row.fundingMode = .prefunded → row.lockedMicro ≠ 0)

/-- The books balance with the requests that have paid and not booked
yet. -/
structure Balanced (w : World) : Prop where
  rows : SoundRows w.store.db
  paid : ∀ id, w.store.payoutsOf id = total (Op.finalizes id) w
    + w.store.db.figure Reservation.isConsumed id
  claimed : ∀ id, total (Op.finalizes id) w
    ≤ w.store.db.figure Reservation.isReserved id
  debts : ∀ id, w.store.db.debtsOf id = w.store.db.figure Reservation.isDebt id
  settled : ∀ id, total (Op.settlesUnder id) w + w.store.db.debtsFor id
    ≤ if id < w.store.db.settlements.length then 1 else 0

/-- What the facilitator pays itself. -/
def Op.fronted : Op → Option Order
  | .settlePayment o => some o
  | _ => none

/-- What an operation books. -/
def Op.booking : Op → Option FinalizeSettlement
  | .finalizeKizunaSettlement f => some f
  | _ => none

/-- The reservation an operation releases. -/
def Op.releasing : Op → Option Nat
  | .releaseKizunaReservation id _ => some id
  | _ => none

/-- What a payment on a reservation, its booking and its release need, so
that what is paid is booked. -/
def Choice.Orderly (c : Choice) (op : Op) (w : World) : Prop :=
  (∀ o ∈ op.fronted, ∀ id ∈ o.purpose.reservation, c.pays .facilitator o →
    c.outcome = .succeeds ∧ total (Op.finalizes id) w = 0
      ∧ w.store.db.figure Reservation.isReserved id = 1)
  ∧ (∀ f ∈ op.booking, c.outcome ≠ .fails
    ∧ ∀ row ∈ w.store.db.reservations[f.reservationId]?,
      c.clock < row.expiresAt)
  ∧ ∀ id ∈ op.releasing, c.outcome = .fails ∨ total (Op.finalizes id) w = 0

instance (c : Choice) (op : Op) (w : World) : Decidable (c.Orderly op w) :=
  inferInstanceAs (Decidable (_ ∧ _ ∧ _))

/-- The step pays on a reservation only if it is `reserved` and no other
request has paid on it, and the payment's outcome is known; a payment
made is booked before the reservation expires, and nothing ends it
before. -/
def Orderly (a : Action) (w : World) : Prop :=
  match a with
  | .arrive _ _ => True
  | .resume i c => ∀ op ∈ w.awaited i, c.Orderly op w

instance : ∀ a w, Decidable (Orderly a w)
  | .arrive _ _, _ => isTrue trivial
  | .resume i c, w =>
    inferInstanceAs (Decidable (∀ op ∈ w.awaited i, c.Orderly op w))

variable {id : Nat}

section Figures

variable {db db' : Db} {f : Reservation → Nat}

theorem figure_same (h : db'.reservations = db.reservations) (id : Nat) :
    db'.figure f id = db.figure f id := by
  unfold Db.figure
  rw [h]

theorem figure_of {row : Reservation}
    (h : db.reservations[id]? = some row) : db.figure f id = f row := by
  unfold Db.figure
  rw [h]
  rfl

theorem figure_set {row row' : Reservation}
    (hrow : db.reservations[id]? = some row)
    (h : db'.reservations = db.reservations.set id row') (j : Nat) :
    db'.figure f j = if id = j then f row' else db.figure f j := by
  obtain ⟨hlt, -⟩ := List.getElem?_eq_some_iff.mp hrow
  unfold Db.figure
  rw [h]
  by_cases hij : id = j
  · subst hij
    rw [List.getElem?_set_self hlt, if_pos rfl]
    rfl
  · rw [List.getElem?_set_ne hij, if_neg hij]

theorem figure_append {row : Reservation}
    (h : db'.reservations = db.reservations ++ [row]) (hrow : f row = 0)
    (j : Nat) : db'.figure f j = db.figure f j := by
  unfold Db.figure
  rw [h]
  by_cases hlt : j < db.reservations.length
  · rw [List.getElem?_append_left hlt]
  · rw [List.getElem?_append_right (by omega),
      List.getElem?_eq_none (by omega : db.reservations.length ≤ j)]
    by_cases hj : j = db.reservations.length
    · subst hj
      simp [hrow]
    · rw [List.getElem?_eq_none (by simp; omega)]

end Figures

theorem debts_sum_of_map {α : Type} {l l' : List Debt} {key : Debt → α}
    (h : l'.map key = l.map key) (g : α → Nat) :
    (l'.map fun d => g (key d)).sum = (l.map fun d => g (key d)).sum := by
  have hmap : (l'.map key).map g = (l.map key).map g := by rw [h]
  rw [List.map_map, List.map_map] at hmap
  exact congrArg List.sum hmap

theorem repays_map {l l' : List Debt} (h : List.Forall₂ Db.Repays l l') :
    l'.map (fun d => (d.reservationId, d.settlementId))
      = l.map fun d => (d.reservationId, d.settlementId) := by
  induction h with
  | nil => rfl
  | cons hd _ ih =>
    rw [List.map_cons, List.map_cons, ih, hd.same]

/-- A transaction that settles nothing leaves the books alone, but for a
reservation it releases. -/
structure Steady (db db' : Db) (released : Option Nat) : Prop where
  rows : SoundRows db → SoundRows db'
  consumed : ∀ id, db'.figure Reservation.isConsumed id
    = db.figure Reservation.isConsumed id
  debt : ∀ id, db'.figure Reservation.isDebt id
    = db.figure Reservation.isDebt id
  reserved : ∀ id, released ≠ some id →
    db.figure Reservation.isReserved id ≤ db'.figure Reservation.isReserved id
  debts : db'.debts.map (fun d => (d.reservationId, d.settlementId))
    = db.debts.map fun d => (d.reservationId, d.settlementId)
  length : db.settlements.length ≤ db'.settlements.length

theorem SoundRows.grow {db db' : Db} (h : SoundRows db)
    (hreservations : db'.reservations = db.reservations)
    (hdecisions : db.decisions <+: db'.decisions) : SoundRows db' := by
  intro id row hrow
  rw [hreservations] at hrow
  obtain ⟨hd, hlock⟩ := h id row hrow
  exact ⟨lt_of_lt_of_le hd hdecisions.length_le, hlock⟩

theorem SoundRows.set {db db' : Db} (h : SoundRows db)
    {row row' : Reservation} (hrow : db.reservations[id]? = some row)
    (hset : db'.reservations = db.reservations.set id row')
    (hdecisions : db'.decisions = db.decisions)
    (hdecision : row'.decisionId = row.decisionId)
    (hmode : row'.fundingMode = row.fundingMode)
    (hlock : row'.lockedMicro = row.lockedMicro) : SoundRows db' := by
  intro j x hx
  rw [hset] at hx
  rw [hdecisions]
  by_cases hij : id = j
  · subst hij
    obtain ⟨hlt, -⟩ := List.getElem?_eq_some_iff.mp hrow
    rw [List.getElem?_set_self hlt] at hx
    cases hx
    rw [hdecision, hmode, hlock]
    exact h id row hrow
  · rw [List.getElem?_set_ne hij] at hx
    exact h j x hx

theorem Steady.of_same {db db' : Db} (released : Option Nat)
    (hreservations : db'.reservations = db.reservations)
    (hdecisions : db.decisions <+: db'.decisions)
    (hdebts : db'.debts.map (fun d => (d.reservationId, d.settlementId))
      = db.debts.map fun d => (d.reservationId, d.settlementId))
    (hlength : db.settlements.length ≤ db'.settlements.length) :
    Steady db db' released where
  rows h := h.grow hreservations hdecisions
  consumed := figure_same hreservations
  debt := figure_same hreservations
  reserved id _ := (figure_same hreservations id).ge
  debts := hdebts
  length := hlength

theorem Booked.steady {db db' : Db} {op : Op} (h : Booked db db' op)
    (hop : op.settles = false)
    (hinsert : ∀ row, op ≠ .insertSettlement row) :
    Steady db db' op.releasing := by
  cases h with
  | aside decisions settlements guards sessions same grown merchants =>
    have hlength := congrArg List.length merchants
    rw [List.length_map, List.length_map] at hlength
    apply Steady.of_same
    · rw [same]
    · rw [same]
      exact grown
    · rw [same]
    · rw [same]
      exact hlength.ge
  | settlement row same => exact (hinsert row rfl).elim
  | consume p now v done => cases hop
  | reserve p sent now stored done =>
    obtain ⟨hlock, hdecision, ⟨reserves, balances, hdb⟩, -⟩ :=
      Db.create_ok done
    have happend : db'.reservations = db.reservations ++ [p.row now] := by
      rw [hdb]
    refine ⟨?_, ?_, ?_, ?_, by rw [hdb], by rw [hdb]⟩
    · intro hrows j x hx
      rw [happend] at hx
      have hd : db'.decisions = db.decisions := by rw [hdb]
      rw [hd]
      rcases List.mem_append.mp (List.mem_of_getElem? hx) with hold | hnew
      · obtain ⟨i, hi⟩ := List.mem_iff_getElem?.mp hold
        exact hrows i x hi
      · rw [List.mem_singleton] at hnew
        subst hnew
        exact ⟨hdecision, hlock⟩
    · exact figure_append happend rfl
    · exact figure_append happend rfl
    · intro j _
      unfold Db.figure
      rw [happend]
      by_cases hlt : j < db.reservations.length
      · rw [List.getElem?_append_left hlt]
      · rw [List.getElem?_eq_none (by omega : db.reservations.length ≤ j)]
        exact Nat.zero_le _
  | release id status done =>
    rcases Db.release_ok done with
      hsame | ⟨row, hrow, hstatus, ⟨reserves, balances, hdb⟩, -⟩
    · rw [hsame]
      exact .of_same _ rfl (List.prefix_refl _) rfl le_rfl
    · have hset : db'.reservations = db.reservations.set id
          { row with status := status.toReservation } := by rw [hdb]
      have hended : status.toReservation ≠ .consumed := by
        cases status with
        | released => exact by decide
        | expired => exact by decide
      have hkept : ∀ f : Reservation → Nat, f row = 0 →
          f { row with status := status.toReservation } = 0 →
          ∀ j, db'.figure f j = db.figure f j := by
        intro f hbefore hafter j
        rw [figure_set hrow hset]
        by_cases hij : id = j
        · subst hij
          rw [if_pos rfl, figure_of hrow, hbefore, hafter]
        · rw [if_neg hij]
      refine ⟨?_, ?_, ?_, ?_, by rw [hdb], by rw [hdb]⟩
      · intro hrows
        exact hrows.set hrow hset (by rw [hdb]) rfl rfl rfl
      · exact hkept _ (by simp [Reservation.isConsumed, hstatus])
          (by simp [Reservation.isConsumed, hended])
      · exact hkept _ (by simp [Reservation.isDebt, hstatus])
          (by simp [Reservation.isDebt, hended])
      · intro j hj
        have hij : id ≠ j := fun h => hj (congrArg some h)
        rw [figure_set hrow hset, if_neg hij]
  | repay p done =>
    obtain ⟨_, _, _, hdb, hrepays⟩ := db.repay_eq p
    rw [hdb] at done
    apply Steady.of_same
    · rw [done]
    · rw [done]
    · rw [done]
      exact repays_map hrepays
    · rw [done]
  | fund p v done =>
    rcases Db.fund_booked done with hsame | ⟨⟨_, hdb⟩, -⟩
    · rw [hsame]
      exact .of_same _ rfl (List.prefix_refl _) rfl le_rfl
    · rw [hdb]
      exact .of_same _ rfl (List.prefix_refl _) rfl le_rfl
  | collateral p v done =>
    rcases Db.collateral_ok done with hsame | ⟨_, _, _, _, -, hdb⟩
    · rw [hsame]
      exact .of_same _ rfl (List.prefix_refl _) rfl le_rfl
    · rw [hdb]
      exact .of_same _ rfl (List.prefix_refl _) rfl le_rfl

-- ==== counting

theorem payoutsOf_perform (op : Op) (c : Choice) (s : Store) (id : Nat) :
    (perform op c s).1.payoutsOf id = s.payoutsOf id
      + ((executed op c).map fun o =>
        if o.order.purpose.reservation = some id then 1 else 0).sum := by
  unfold Store.payoutsOf
  rw [perform_payouts, List.map_append, List.sum_append]

theorem payoutsOf_aside {op : Op} (h : op.paysFor = none) (c : Choice)
    (s : Store) (id : Nat) :
    (perform op c s).1.payoutsOf id = s.payoutsOf id := by
  rw [payoutsOf_perform]
  unfold executed
  unfold Op.paysFor at h
  cases horder : op.order with
  | none => simp
  | some x =>
    obtain ⟨source, o⟩ := x
    have hnone : o.purpose.reservation = none := by
      rw [horder] at h
      exact h
    dsimp only
    split
    · simp [Choice.payout, hnone]
    · simp

variable {p : Handler}

theorem PaysUnder.finalizes {settlementId : Nat}
    (h : PaysUnder settlementId p) (id : Nat) :
    awaits (Op.finalizes id) p = 0 := by
  obtain ⟨o, hpays, -⟩ := h
  rw [awaits_of_awaited hpays]
  rfl

theorem PaysUnder.settlesUnder {settlementId : Nat}
    (h : PaysUnder settlementId p) (id : Nat) :
    awaits (Op.settlesUnder id) p ≤ if id = settlementId then 1 else 0 := by
  obtain ⟨o, hpays, ho⟩ := h
  rw [awaits_of_awaited hpays]
  by_cases hunder : Op.settlesUnder id (.settlePayment o) = true
  · obtain ⟨-, hsid⟩ := of_decide_eq_true hunder
    rw [ho] at hsid
    rw [if_pos hunder, if_pos (Option.some.inj hsid).symm]
  · rw [if_neg hunder]
    exact Nat.zero_le _

theorem Books.finalizes {id settlementId : Nat}
    (h : Books id settlementId p) (j : Nat) :
    awaits (Op.finalizes j) p = if id = j then 1 else 0 := by
  obtain ⟨f, hf, rfl, -⟩ := h
  rw [awaits_of_awaited hf]
  simp [Op.finalizes]

theorem Books.settlesUnder {id settlementId : Nat}
    (h : Books id settlementId p) (j : Nat) :
    awaits (Op.settlesUnder j) p = if settlementId = j then 1 else 0 := by
  obtain ⟨f, hf, -, rfl⟩ := h
  rw [awaits_of_awaited hf]
  simp [Op.settlesUnder]

theorem release_fails {status : ReleaseStatus} {c : Choice}
    {s : Store} (hc : c.outcome = .fails) :
    (perform (.releaseKizunaReservation id status) c s).1 = s := by
  show (commit c s _).1 = s
  unfold commit
  rw [hc]

section Steps

variable {w w' : World} {i : Nat} {c : Choice}

/-- A step that books nothing keeps the books, if what it pays is awaited
to be booked. -/
theorem Balanced.steady {released : Option Nat} (h : Balanced w)
    (hsteady : Steady w.store.db w'.store.db released)
    (hpaid : ∀ id, w'.store.payoutsOf id + total (Op.finalizes id) w
      = w.store.payoutsOf id + total (Op.finalizes id) w')
    (hclaimed : ∀ id, total (Op.finalizes id) w'
      ≤ w'.store.db.figure Reservation.isReserved id)
    (hsettled : ∀ id, total (Op.settlesUnder id) w' + w.store.db.debtsFor id
      ≤ if id < w'.store.db.settlements.length then 1 else 0) :
    Balanced w' where
  rows := hsteady.rows h.rows
  paid id := by
    have hold := h.paid id
    have hnew := hpaid id
    rw [hsteady.consumed]
    omega
  claimed := hclaimed
  debts id := by
    rw [hsteady.debt, ← h.debts id]
    exact debts_sum_of_map hsteady.debts fun x => if x.1 = id then 1 else 0
  settled id := by
    have hfor : w'.store.db.debtsFor id = w.store.db.debtsFor id :=
      debts_sum_of_map hsteady.debts fun x => if x.2 = id then 1 else 0
    rw [hfor]
    exact hsettled id

/-- An operation that settles nothing and leaves its route idle keeps the
books, unless it releases a reservation that has been paid on. -/
theorem balanced_idle {op : Op} {k : op.Res → Handler}
    (hi : w.progs[i]? = some (.await op k))
    (hy : resume perform i c w = some w') (hop : op.settles = false)
    (hk : Idle (k (perform op c w.store).2))
    (hsteady : Steady w.store.db w'.store.db op.releasing)
    (hcond : c.Orderly op w) (h : Balanced w) : Balanced w' := by
  have hs := resume_store hi hy
  have htotal : ∀ f : Op → Bool, (∀ op, op.settles = false → f op = false) →
      total f w' = total f w := by
    intro f hf
    have heq := total_resume (f := f) hi hy
    rw [hf op hop, hk.awaits_eq hf] at heq
    simpa using heq
  have hfinalizes : ∀ id, total (Op.finalizes id) w'
      = total (Op.finalizes id) w :=
    fun id => htotal _ fun _ => Op.finalizes_settles
  refine h.steady hsteady ?_ ?_ ?_
  · intro id
    rw [hfinalizes, hs, payoutsOf_aside (Op.paysFor_settles hop)]
  · intro id
    rw [hfinalizes]
    by_cases hreleased : op.releasing = some id
    · -- nothing has been paid on it, or nothing happens
      cases op with
      | releaseKizunaReservation id' status =>
        cases hreleased
        rcases hcond.2.2 id rfl with hfails | hzero
        · rw [hs, release_fails hfails]
          exact h.claimed id
        · rw [hzero]
          exact Nat.zero_le _
      | _ => cases hreleased
    · exact (h.claimed id).trans (hsteady.reserved id hreleased)
  · intro id
    have hold := h.settled id
    have hlength := hsteady.length
    rw [htotal (Op.settlesUnder id) fun _ => Op.settlesUnder_settles]
    split at hold
    · rw [if_pos (by omega)]
      exact hold
    · omega

theorem balanced_aside {op : Op} {k : op.Res → Handler}
    (hi : w.progs[i]? = some (.await op k))
    (hy : resume perform i c w = some w') (hop : op.settles = false)
    (hinsert : ∀ row, op ≠ .insertSettlement row) (hk : ∀ r, Idle (k r))
    (hcond : c.Orderly op w) (h : Balanced w) : Balanced w' := by
  have hbooked : Booked w.store.db w'.store.db op := by
    rw [resume_store hi hy]
    exact perform_booked op c w.store
  exact balanced_idle hi hy hop (hk _) (hbooked.steady hop hinsert) hcond h

theorem balanced_insert {row : Settlement}
    {k : (Op.insertSettlement row).Res → Handler}
    (hi : w.progs[i]? = some (.await (.insertSettlement row) k))
    (hy : resume perform i c w = some w')
    (howes : payoutDuty.owes (.insertSettlement row) k w.store)
    (hcond : c.Orderly (.insertSettlement row) w) (h : Balanced w) :
    Balanced w' := by
  have hs := resume_store hi hy
  obtain ⟨herror, hok⟩ := howes
  have hlength : (w.store.db.insertSettlement row).1.settlements.length
      = w.store.db.settlements.length + 1 := List.length_append ..
  have hinserted : Steady w.store.db (w.store.db.insertSettlement row).1 none :=
    .of_same none rfl (List.prefix_refl _) rfl (by omega)
  -- the route is idle, or about to pay under the settlement it recorded
  have hnext : Steady w.store.db w'.store.db none
      ∧ (Idle (k (perform (.insertSettlement row) c w.store).2)
        ∨ w'.store.db.settlements.length = w.store.db.settlements.length + 1
          ∧ PaysUnder w.store.db.settlements.length
            (k (perform (.insertSettlement row) c w.store).2)) := by
    rw [hs]
    change Steady _ (commit c w.store _).1.db _
      ∧ (Idle (k (commit c w.store _).2)
        ∨ (commit c w.store _).1.db.settlements.length = _
          ∧ PaysUnder _ (k (commit c w.store _).2))
    unfold commit
    cases c.outcome with
    | fails =>
      exact ⟨.of_same none rfl (List.prefix_refl _) rfl le_rfl,
        Or.inl (herror _ _)⟩
    | succeeds => exact ⟨hinserted, (hok _ _).imp_right fun h => ⟨hlength, h⟩⟩
    | lost => exact ⟨hinserted, Or.inl (herror _ _)⟩
  obtain ⟨hsteady, hidle | ⟨hlength, hpays⟩⟩ := hnext
  · exact balanced_idle hi hy rfl hidle hsteady hcond h
  · have hfinalizes : ∀ id, total (Op.finalizes id) w'
        = total (Op.finalizes id) w := by
      intro id
      have heq := total_resume (f := Op.finalizes id) hi hy
      rw [hpays.finalizes] at heq
      simpa [Op.finalizes] using heq
    refine h.steady hsteady ?_ ?_ ?_
    · intro id
      rw [hfinalizes, hs, payoutsOf_aside rfl]
    · intro id
      rw [hfinalizes]
      exact (h.claimed id).trans (hsteady.reserved id (by simp))
    · intro id
      have hold := h.settled id
      have heq := total_resume (f := Op.settlesUnder id) hi hy
      have hnew := hpays.settlesUnder id
      rw [show Op.settlesUnder id (.insertSettlement row) = false from rfl,
        if_neg Bool.false_ne_true] at heq
      rw [hlength]
      grind

/-- A payment on a reservation is awaited to be booked, or was not made. -/
theorem balanced_pay {o : Order} {k : (Op.settlePayment o).Res → Handler}
    (hi : w.progs[i]? = some (.await (.settlePayment o) k))
    (hy : resume perform i c w = some w')
    (howes : payoutDuty.owes (.settlePayment o) k w.store)
    (hid : o.purpose.reservation = some id)
    (hcond : c.Orderly (.settlePayment o) w) (h : Balanced w) :
    Balanced w' := by
  have hs := resume_store hi hy
  obtain ⟨herror, howes⟩ := howes
  rw [hid] at howes
  obtain ⟨settlementId, hsid, hbooks⟩ := howes
  have hdb : w'.store.db = w.store.db := by
    rw [hs]
    exact transfer_db c w.store .facilitator o
  have hsteady : Steady w.store.db w'.store.db none := by
    rw [hdb]
    exact .of_same none rfl (List.prefix_refl _) rfl le_rfl
  obtain ⟨p, hp⟩ : ∃ p, k (perform (.settlePayment o) c w.store).2 = p :=
    ⟨_, rfl⟩
  have hfinalizes : ∀ j, total (Op.finalizes j) w'
      = total (Op.finalizes j) w + awaits (Op.finalizes j) p := by
    intro j
    have heq := total_resume (f := Op.finalizes j) hi hy
    rw [hp] at heq
    simpa [Op.finalizes] using heq
  have hsettles : ∀ j, total (Op.settlesUnder j) w'
      + (if settlementId = j then 1 else 0)
      = total (Op.settlesUnder j) w + awaits (Op.settlesUnder j) p := by
    intro j
    have heq := total_resume (f := Op.settlesUnder j) hi hy
    rw [hp] at heq
    simpa [Op.settlesUnder, hid, hsid] using heq
  have hpayouts : ∀ j, w'.store.payoutsOf j = w.store.payoutsOf j
      + if c.pays .facilitator o ∧ id = j then 1 else 0 := by
    intro j
    rw [hs, payoutsOf_perform]
    show _ + (List.map _ (if c.pays .facilitator o then _ else [])).sum = _
    by_cases hpays : c.pays .facilitator o
    · rw [if_pos hpays]
      simp [Choice.payout, hid, hpays]
    · rw [if_neg hpays]
      simp [hpays]
  -- paid and about to be booked, or refused
  have hnext : (∀ j, awaits (Op.finalizes j) p
        = if c.pays .facilitator o ∧ id = j then 1 else 0)
      ∧ ∀ j, awaits (Op.settlesUnder j) p
        ≤ if settlementId = j then 1 else 0 := by
    by_cases hpays : c.pays .facilitator o
    · have hbooked : Books id settlementId p := by
        rw [← hp]
        show Books id settlementId (k (transfer c w.store .facilitator o).2)
        unfold transfer
        rw [if_pos hpays, if_pos (hcond.1 o rfl id hid hpays).1]
        exact hbooks _ _
      constructor
      · intro j
        rw [hbooked.finalizes]
        simp only [hpays, true_and]
      · intro j
        exact (hbooked.settlesUnder j).le
    · have hidle : Idle p := by
        rw [← hp]
        show Idle (k (transfer c w.store .facilitator o).2)
        unfold transfer
        rw [if_neg hpays]
        exact herror _ _
      constructor
      · intro j
        rw [hidle.awaits_eq fun _ => Op.finalizes_settles]
        simp only [hpays, false_and, if_false]
      · intro j
        rw [hidle.awaits_eq fun _ => Op.settlesUnder_settles]
        exact Nat.zero_le _
  refine h.steady hsteady ?_ ?_ ?_
  · intro j
    rw [hpayouts, hfinalizes, hnext.1]
    omega
  · intro j
    rw [hfinalizes, hnext.1, hdb]
    split
    · next hpaid =>
      obtain ⟨-, hzero, hreserved⟩ := hcond.1 o rfl id hid hpaid.1
      rw [← hpaid.2, hzero, hreserved]
    · exact h.claimed j
  · intro j
    have hold := h.settled j
    have heq := hsettles j
    have hle := hnext.2 j
    rw [hdb]
    omega

/-- The booking of what a request has paid on a reservation: by a debt, or
by its lock. -/
structure Booking (w w' : World) (f : FinalizeSettlement)
    (row : Reservation) : Prop where
  found : w.store.db.reservations[f.reservationId]? = some row
  reserved : row.status = .reserved
  set : w'.store.db.reservations
    = w.store.db.reservations.set f.reservationId (Db.consumed row f)
  decisions : w'.store.db.decisions = w.store.db.decisions
  payouts : w'.store.payouts = w.store.payouts
  length : w'.store.db.settlements.length = w.store.db.settlements.length
  debts : ∀ g : Nat × Nat → Nat,
    (w'.store.db.debts.map fun d => g (d.reservationId, d.settlementId)).sum
      = (w.store.db.debts.map fun d =>
          g (d.reservationId, d.settlementId)).sum
        + if row.isPrefundedEnterprise then 0
          else g (f.reservationId, f.settlementId)
  finalizes : ∀ j, total (Op.finalizes j) w'
    + (if f.reservationId = j then 1 else 0) = total (Op.finalizes j) w
  settles : ∀ j, total (Op.settlesUnder j) w'
    + (if f.settlementId = j then 1 else 0) = total (Op.settlesUnder j) w

section Booked

variable {f : FinalizeSettlement} {row : Reservation}
  (hb : Booking w w' f row)
include hb

theorem Booking.figure (g : Reservation → Nat) (j : Nat) :
    w'.store.db.figure g j = if f.reservationId = j
      then g (Db.consumed row f) else w.store.db.figure g j :=
  figure_set hb.found hb.set j

theorem Booking.paid (h : Balanced w) (j : Nat) :
    w'.store.payoutsOf j = total (Op.finalizes j) w'
      + w'.store.db.figure Reservation.isConsumed j := by
  have hold := h.paid j
  have hone := hb.finalizes j
  have hpayouts : w'.store.payoutsOf j = w.store.payoutsOf j := by
    unfold Store.payoutsOf
    rw [hb.payouts]
  rw [hpayouts, hb.figure]
  by_cases hj : f.reservationId = j
  · subst hj
    rw [if_pos rfl] at hone ⊢
    have hzero : w.store.db.figure Reservation.isConsumed f.reservationId
        = 0 := by
      rw [figure_of hb.found]
      simp [Reservation.isConsumed, hb.reserved]
    have hself : (Db.consumed row f).isConsumed = 1 := if_pos rfl
    omega
  · rw [if_neg hj] at hone ⊢
    omega

theorem Booking.claimed (h : Balanced w) (j : Nat) :
    total (Op.finalizes j) w'
      ≤ w'.store.db.figure Reservation.isReserved j := by
  have hold := h.claimed j
  have hone := hb.finalizes j
  rw [hb.figure]
  by_cases hj : f.reservationId = j
  · subst hj
    rw [if_pos rfl] at hone
    rw [figure_of hb.found, Reservation.isReserved, if_pos hb.reserved] at hold
    omega
  · rw [if_neg hj] at hone ⊢
    omega

theorem Booking.debtsOf (h : Balanced w) (j : Nat) :
    w'.store.db.debtsOf j = w'.store.db.figure Reservation.isDebt j := by
  have hdebts : w'.store.db.debtsOf j = w.store.db.debtsOf j
      + if row.isPrefundedEnterprise then 0
        else if f.reservationId = j then 1 else 0 :=
    hb.debts fun x => if x.1 = j then 1 else 0
  rw [hdebts, hb.figure, h.debts j]
  by_cases hj : f.reservationId = j
  · subst hj
    have hzero : row.isDebt = 0 := by simp [Reservation.isDebt, hb.reserved]
    rw [figure_of hb.found, hzero, if_pos rfl, if_pos rfl, Nat.zero_add]
    by_cases hprefunded : row.isPrefundedEnterprise
    · rw [if_pos hprefunded]
      exact (if_neg fun h => h.2 hprefunded).symm
    · rw [if_neg hprefunded]
      exact (if_pos ⟨rfl, hprefunded⟩).symm
  · simp [hj]

theorem Booking.settled (h : Balanced w) (j : Nat) :
    total (Op.settlesUnder j) w' + w'.store.db.debtsFor j
      ≤ if j < w'.store.db.settlements.length then 1 else 0 := by
  have hold := h.settled j
  have hone := hb.settles j
  have hdebts : w'.store.db.debtsFor j = w.store.db.debtsFor j
      + if row.isPrefundedEnterprise then 0
        else if f.settlementId = j then 1 else 0 :=
    hb.debts fun x => if x.2 = j then 1 else 0
  have hle : (if row.isPrefundedEnterprise then 0
      else if f.settlementId = j then 1 else 0)
      ≤ if f.settlementId = j then 1 else 0 := by
    split
    · exact Nat.zero_le _
    · exact Nat.le_refl _
  rw [hdebts, hb.length]
  omega

theorem Balanced.booked (h : Balanced w) : Balanced w' :=
  ⟨h.rows.set hb.found hb.set hb.decisions rfl rfl rfl, hb.paid h,
    hb.claimed h, hb.debtsOf h, hb.settled h⟩

end Booked

/-- A debt of the settlement would be counted twice. -/
theorem Balanced.no_debt (h : Balanced w) {settlementId : Nat}
    (hone : 1 ≤ total (Op.settlesUnder settlementId) w) :
    ∀ d ∈ w.store.db.debts, d.settlementId ≠ settlementId := by
  intro d hd heq
  have hold := h.settled settlementId
  obtain ⟨j, hj⟩ := List.mem_iff_getElem?.mp hd
  have hcounted : 1 ≤ w.store.db.debtsFor settlementId := by
    have hle := le_sum (fun d : Debt =>
      if d.settlementId = settlementId then 1 else 0) hj
    rw [if_pos heq] at hle
    exact hle
  split at hold
  · omega
  · omega

/-- What a request has paid on is still `reserved`. -/
theorem Balanced.still_reserved (h : Balanced w)
    {row : Reservation} (hrow : w.store.db.reservations[id]? = some row)
    (hone : 1 ≤ total (Op.finalizes id) w) : row.status = .reserved := by
  have hclaimed := h.claimed id
  rw [figure_of hrow] at hclaimed
  by_contra hne
  rw [Reservation.isReserved, if_neg hne] at hclaimed
  omega

theorem balanced_book {base : Db} {f : FinalizeSettlement}
    {k : (Op.finalizeKizunaSettlement f).Res → Handler}
    (hi : w.progs[i]? = some (.await (.finalizeKizunaSettlement f) k))
    (hy : resume perform i c w = some w')
    (howes : payoutDuty.owes (.finalizeKizunaSettlement f) k w.store)
    (hcond : c.Orderly (.finalizeKizunaSettlement f) w)
    (hbalances : ∀ key, Accounted base w.store.db key) (h : Balanced w) :
    Balanced w' := by
  obtain ⟨⟨⟨row, hrow, hlane, hpool⟩, x, hx, hmerchant⟩, hk⟩ := howes
  obtain ⟨hcommits, hfresh⟩ := hcond.2.1 f rfl
  have hfinalizes : ∀ j, total (Op.finalizes j) w'
      + (if f.reservationId = j then 1 else 0) = total (Op.finalizes j) w := by
    intro j
    have heq := total_resume (f := Op.finalizes j) hi hy
    rw [(hk _).awaits_eq fun _ => Op.finalizes_settles] at heq
    simpa [Op.finalizes] using heq
  have hsettles : ∀ j, total (Op.settlesUnder j) w'
      + (if f.settlementId = j then 1 else 0)
        = total (Op.settlesUnder j) w := by
    intro j
    have heq := total_resume (f := Op.settlesUnder j) hi hy
    rw [(hk _).awaits_eq fun _ => Op.settlesUnder_settles] at heq
    simpa [Op.settlesUnder] using heq
  have hreserved : row.status = .reserved := by
    have hone := hfinalizes f.reservationId
    rw [if_pos rfl] at hone
    exact h.still_reserved hrow (by omega)
  have hnew : ∀ d ∈ w.store.db.debts, d.settlementId ≠ f.settlementId := by
    have hone := hsettles f.settlementId
    rw [if_pos rfl] at hone
    exact h.no_debt (by omega)
  have hlock : row.isPrefundedEnterprise → row.lockedMicro ≠ 0
      ∧ row.lockedMicro
        ≤ (w.store.db.balance (row.agentId, row.poolId)).reservedMicro := by
    intro hprefunded
    refine ⟨(h.rows _ row hrow).2 hprefunded.2, ?_⟩
    have hheld : row.heldMicro = row.lockedMicro :=
      if_pos ⟨hprefunded.2, Or.inl hreserved⟩
    have hle := le_reservedSum (f := Reservation.heldMicro) hrow
    have hbalance := (hbalances (row.agentId, row.poolId)).reserved
    omega
  obtain ⟨⟨db', v⟩, hdone⟩ := Db.finalize_isOk hrow (h.rows _ row hrow).1
    hreserved hlane hpool (hfresh row hrow) hlock hx hmerchant
  have hstore : w'.store = { w.store with db := db' } := by
    rw [resume_store hi hy]
    show (commit c w.store _).1 = _
    rw [hdone]
    unfold commit
    cases hc : c.outcome with
    | fails => exact (hcommits hc).elim
    | succeeds | lost => rfl
  obtain ⟨row', d, hrow', hd, -, -, ⟨_, _, _, debts, hdb⟩, hdebts, -⟩ :=
    Db.finalize_ok hdone
  rw [hrow] at hrow'
  cases hrow'
  refine Balanced.booked ⟨hrow, hreserved, ?_, ?_, ?_, ?_, ?_, hfinalizes,
    hsettles⟩ h
  · rw [hstore, hdb]
  · rw [hstore, hdb]
  · rw [hstore]
  · rw [hstore, hdb]
    exact List.length_modify ..
  · -- a debt for what is not prefunded
    intro g
    rw [hstore, hdebts]
    by_cases hprefunded : row.isPrefundedEnterprise
    · rw [if_pos hprefunded, if_pos hprefunded, add_zero]
    · rw [if_neg hprefunded, if_neg hprefunded, Db.upsertDebt_new hnew]
      exact sum_append_single (fun d : Debt =>
        g (d.reservationId, d.settlementId)) _ _

theorem balanced_step {base : Db} {a : Action}
    (hstep : step env a w = .ok w') (hcond : Orderly a w)
    (hsafe : AllSafe perform payoutDuty w)
    (hbalances : ∀ key, Accounted base w.store.db key) (h : Balanced w) :
    Balanced w' := by
  rcases step_ok hstep with
    ⟨q, now, -, rfl⟩ | ⟨i, c, op, k, rfl, hi, hy⟩
  · have htotal : ∀ f : Op → Bool, (∀ op, op.settles = false → f op = false) →
        total f (arrive (route env now q) w) = total f w := by
      intro f hf
      rw [total_arrive, (route_idle q now).awaits_eq hf, add_zero]
    refine ⟨h.rows, ?_, ?_, h.debts, ?_⟩
    · intro id
      rw [htotal _ fun _ => Op.finalizes_settles]
      exact h.paid id
    · intro id
      rw [htotal _ fun _ => Op.finalizes_settles]
      exact h.claimed id
    · intro id
      rw [htotal _ fun _ => Op.settlesUnder_settles]
      exact h.settled id
  · have hc : c.Orderly op w := hcond op (awaited_of hi)
    have howes := (hsafe _ (List.mem_of_getElem? hi)).owed
    cases op with
    | insertSettlement row => exact balanced_insert hi hy howes hc h
    | finalizeKizunaSettlement f =>
      exact balanced_book hi hy howes hc hbalances h
    | settlePayment o =>
      cases hid : o.purpose.reservation with
      | some id => exact balanced_pay hi hy howes hid hc h
      | none =>
        have hk : ∀ r, Idle (k r) := by
          have hrest := howes.2
          rw [hid] at hrest
          exact hrest
        have hop : (Op.settlePayment o).settles = false :=
          decide_eq_false fun hne => hne hid
        exact balanced_aside hi hy hop (by simp) hk hc h
    | _ => exact balanced_aside hi hy howes.1 (by simp) howes.2 hc h

end Steps

-- ==== runs

def Action.settlesJob : Action → Bool
  | .arrive (.settleJob _) _ => true
  | _ => false

/-- A run of requests, none of which settles a job. -/
def NoJobs (tr : List Action) : Prop := ∀ a ∈ tr, a.settlesJob = false

instance (tr : List Action) : Decidable (NoJobs tr) :=
  inferInstanceAs (Decidable (∀ a ∈ tr, a.settlesJob = false))

theorem genesis_balanced {w₀ : World} (h₀ : Genesis w₀) : Balanced w₀ := by
  have htotal : ∀ f : Op → Bool, total f w₀ = 0 := by
    intro f
    unfold total
    rw [h₀.progs]
    rfl
  have hfigure : ∀ f id, w₀.store.db.figure f id = 0 := by
    intro f id
    unfold Db.figure
    rw [h₀.reservations]
    rfl
  refine ⟨?_, ?_, ?_, ?_, ?_⟩
  · intro id row hrow
    rw [h₀.reservations] at hrow
    cases hrow
  · intro id
    rw [htotal, hfigure]
    unfold Store.payoutsOf
    rw [h₀.payouts]
    rfl
  · intro id
    rw [htotal]
    exact Nat.zero_le _
  · intro id
    rw [hfigure]
    unfold Db.debtsOf
    rw [h₀.debts]
    rfl
  · intro id
    rw [htotal]
    unfold Db.debtsFor
    rw [h₀.debts]
    exact Nat.zero_le _

/-- What an orderly run keeps. -/
structure BalancedRun (base : Db) (w : World) : Prop where
  safe : AllSafe perform payoutDuty w
  balances : ∀ key, Accounted base w.store.db key
  books : Balanced w

theorem run_balanced {w₀ w : World} {tr : List Action} (h₀ : Genesis w₀)
    (hjobs : NoJobs tr) (hm : Meets (step env) Orderly w₀ tr)
    (hrun : run (step env) w₀ tr = .ok w) :
    BalancedRun w₀.store.db w := by
  have hstart : BalancedRun w₀.store.db w₀ := by
    refine ⟨?_, run_accounted h₀ (show run (step env) w₀ [] = .ok w₀ from rfl),
      genesis_balanced h₀⟩
    intro p hp
    rw [h₀.progs] at hp
    cases hp
  refine run_induct_meets ?_ hstart (meets_and hjobs hm) hrun
  intro a w w' h hcond hstep
  obtain ⟨hjob, horderly⟩ := hcond
  refine ⟨?_, ?_, balanced_step hstep horderly h.safe h.balances h.books⟩
  · rcases step_ok hstep with
      ⟨q, now, rfl, rfl⟩ | ⟨i, c, op, k, -, hi, hy⟩
    · apply safe_arrive h.safe
      apply payoutDuty_safe
      rintro j rfl
      cases hjob
    · exact safe_resume h.safe hi hy (perform_extends op c w.store) trivial
  · intro key
    rcases step_ok hstep with
      ⟨q, now, -, rfl⟩ | ⟨i, c, op, k, -, hi, hy⟩
    · exact h.balances key
    · obtain ⟨op', k', -, hs, -⟩ := resume_some.mp hy
      rw [hs]
      exact (perform_booked op' c w.store).accounted (h.balances key)

theorem Balanced.once {w : World} (h : Balanced w) (id : Nat) :
    w.store.payoutsOf id ≤ 1 := by
  have hpaid := h.paid id
  have hclaimed := h.claimed id
  unfold Db.figure at hpaid hclaimed
  cases hrow : w.store.db.reservations[id]? with
  | none =>
    rw [hrow] at hpaid hclaimed
    simp only [Option.map_none, Option.getD_none] at hpaid hclaimed
    omega
  | some row =>
    rw [hrow] at hpaid hclaimed
    simp only [Option.map_some, Option.getD_some] at hpaid hclaimed
    unfold Reservation.isConsumed at hpaid
    unfold Reservation.isReserved at hclaimed
    by_cases hconsumed : row.status = .consumed
    · rw [if_pos hconsumed] at hpaid
      rw [hconsumed, if_neg (by decide)] at hclaimed
      omega
    · rw [if_neg hconsumed] at hpaid
      split at hclaimed
      · omega
      · omega

/-- Once no request is to book it, a payment has consumed its
reservation. -/
theorem Balanced.paid_row {w : World} (h : Balanced w)
    (hpos : 0 < w.store.payoutsOf id) :
    ∃ row : Reservation, w.store.db.reservations[id]? = some row
      ∧ (total (Op.finalizes id) w = 0 → row.status = .consumed) := by
  have hpaid := h.paid id
  have hclaimed := h.claimed id
  unfold Db.figure at hpaid hclaimed
  cases hrow : w.store.db.reservations[id]? with
  | none =>
    rw [hrow] at hpaid hclaimed
    simp only [Option.map_none, Option.getD_none] at hpaid hclaimed
    omega
  | some row =>
    rw [hrow] at hpaid
    simp only [Option.map_some, Option.getD_some] at hpaid
    refine ⟨row, rfl, ?_⟩
    intro htotal
    unfold Reservation.isConsumed at hpaid
    by_contra hne
    rw [if_neg hne] at hpaid
    omega

theorem Balanced.debtsOf_consumed {w : World} (h : Balanced w)
    {row : Reservation} (hrow : w.store.db.reservations[id]? = some row)
    (hconsumed : row.status = .consumed) : w.store.db.debtsOf id
      = if row.isPrefundedEnterprise then 0 else 1 := by
  have hdebts := h.debts id
  rw [figure_of hrow] at hdebts
  rw [hdebts]
  unfold Reservation.isDebt
  by_cases hprefunded : row.isPrefundedEnterprise
  · simp [hprefunded]
  · simp [hprefunded, hconsumed]

/-- The merchant is paid at most once for a reservation, and once all
requests have returned a payment is matched by one debt of the
reservation or by its lock, which is spent. -/
structure PaidOnce (base : Db) (w : World) : Prop where
  once : ∀ id, w.store.payoutsOf id ≤ 1
  matched : Quiet w → ∀ id, 0 < w.store.payoutsOf id →
    ∃ row : Reservation, w.store.db.reservations[id]? = some row
      ∧ row.status = .consumed
      ∧ w.store.db.debtsOf id = if row.isPrefundedEnterprise then 0 else 1
  spent : ∀ key, (w.store.db.balance key).spentMicro
    = (base.balance key).spentMicro
      + w.store.db.reservedSum Reservation.spentMicro key

/-- Where each payment is made on a reservation that is still `reserved`
and not paid on, has a known outcome, and is booked before the
reservation expires or is ended otherwise, the merchant is paid once. -/
theorem settlement_pays_once {w₀ w : World} {tr : List Action}
    (h₀ : Genesis w₀) (hjobs : NoJobs tr)
    (hm : Meets (step env) Orderly w₀ tr)
    (hrun : run (step env) w₀ tr = .ok w) : PaidOnce w₀.store.db w := by
  obtain ⟨-, hbalances, hbooks⟩ := run_balanced h₀ hjobs hm hrun
  refine ⟨hbooks.once, ?_, fun key => (hbalances key).spent⟩
  intro hquiet id hpos
  obtain ⟨row, hrow, hbooked⟩ := hbooks.paid_row hpos
  have hconsumed := hbooked (total_returned _ hquiet)
  exact ⟨row, hrow, hconsumed, hbooks.debtsOf_consumed hrow hconsumed⟩

/-- A verification and its settlement, one after the other. -/
theorem settlement_pays_once_settled :
    ∃ w, run (step Concrete.env) Concrete.start Concrete.settledRun = .ok w
      ∧ w.store.payoutsOf 0 = 1
      ∧ PaidOnce Concrete.start.store.db w := by
  obtain ⟨w, hrun, hpaid⟩ := check_ok (show Exec.check (fun w : World =>
      decide (w.store.payoutsOf 0 = 1))
      (run (step Concrete.env) Concrete.start Concrete.settledRun) = true
    by decide)
  have hm : Meets (step Concrete.env) Orderly Concrete.start
      Concrete.settledRun := by
    apply meets_of_check fun a w h => of_decide_eq_true (p := Orderly a w) h
    decide
  have hjobs : NoJobs Concrete.settledRun := by decide
  exact ⟨w, hrun, of_decide_eq_true hpaid,
    settlement_pays_once Concrete.start_genesis hjobs hm hrun⟩

/-- Two settlements of one reservation, both past the reservation check
before either pays: the merchant is paid twice. -/
theorem settlement_pays_twice :
    ∃ w, Genesis Concrete.start ∧ NoJobs Concrete.concurrentRun
      ∧ run (step Concrete.env) Concrete.start Concrete.concurrentRun = .ok w
      ∧ w.store.payoutsOf 0 = 2
      ∧ ¬ PaidOnce Concrete.start.store.db w := by
  obtain ⟨w, hrun, hpaid⟩ := check_ok (show Exec.check (fun w : World =>
      decide (w.store.payoutsOf 0 = 2))
      (run (step Concrete.env) Concrete.start Concrete.concurrentRun) = true
    by decide)
  have hpaid : w.store.payoutsOf 0 = 2 := of_decide_eq_true hpaid
  have hjobs : NoJobs Concrete.concurrentRun := by decide
  refine ⟨w, Concrete.start_genesis, hjobs, hrun, hpaid, ?_⟩
  intro h
  have honce := h.once 0
  omega

end KamiyoProtocol.Facilitator
