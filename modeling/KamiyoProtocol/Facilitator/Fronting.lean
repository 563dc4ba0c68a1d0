/-
What a settlement on credit is booked for.

The routes pay the amount a request asks for and record it with the
settlement. `finalizeKizunaSettlement` books the debt, the billable event
and the pool's reserve for the amount of the reservation, which it never
compares with the settlement's. So the books say what was fronted exactly
if the two amounts are one, and, as to the pool, if its reserve is of the
reservation's lane.
-/
import KamiyoProtocol.Facilitator.Repayment
import KamiyoProtocol.Facilitator.Lines
import KamiyoProtocol.Facilitator.Routes

namespace KamiyoProtocol.Facilitator

open Exec Keyed Await Function

-- ==== the books

/-- A new debt is for what its settlement is recorded for, and so are the
billable event of the settlement and what the pool is down for more. -/
structure Fronted (db db' : Db) (d : Debt) (s : Settlement) : Prop where
  recorded : db'.settlements[d.settlementId]? = some s
  principal : d.principalMicro = s.amount
  billed : ∃ e ∈ db'.billableEvents, e.reservationId = d.reservationId
    ∧ e.settlementId = d.settlementId
  billable : ∀ e ∈ db'.billableEvents, e.reservationId = d.reservationId →
    e.settlementId = d.settlementId → e.amountMicro = s.amount
  pool : db'.poolOutstanding d.poolId = db.poolOutstanding d.poolId + s.amount

/-- Every debt a step opens is for what was fronted. -/
def Fronts (env : Env) (a : Action) (w : World) : Prop :=
  ∀ w', step env a w = .ok w' → ∀ (i : Nat) (d : Debt),
    w.store.db.debts[i]? = none → w'.store.db.debts[i]? = some d →
    ∃ s, Fronted w.store.db w'.store.db d s

/-- The operation settles a reservation under a new debt. -/
def OpensDebt (c : Choice) (db : Db) (p : FinalizeSettlement)
    (r : Reservation) : Prop :=
  db.reservations[p.reservationId]? = some r ∧ ¬ r.isPrefundedEnterprise
    ∧ db.Unsettled p.settlementId ∧ c.outcome ≠ .fails
    ∧ (db.finalizeKizunaSettlement p c.clock).isOk

/-- The reservation is for what the settlement is recorded for, and a
reserve its pool has is of its lane. -/
def Exact (db : Db) (p : FinalizeSettlement) (r : Reservation) : Prop :=
  (∀ s, db.settlements[p.settlementId]? = some s → r.amountMicro = s.amount)
    ∧ (r.amountMicro = 0 ∨ ∀ row, db.poolReserves r.poolId = some row →
      row.lane = r.lane)

/-- What is asked of a step: that the debt it opens, if it opens one, is
of a reservation for the settlement's amount. -/
def SettlesExactly (c : Choice) (op : Op) (w : World) : Prop :=
  ∀ p r, op = .finalizeKizunaSettlement p → OpensDebt c w.store.db p r →
    Exact w.store.db p r

-- ==== the finalizer

variable {db db' : Db} {p : FinalizeSettlement}

theorem bump_poolOutstanding (db : Db) (poolId : String) (lane : Lane)
    (reserved outstanding collateral : Int) :
    (db.bumpKizunaPoolReserve poolId lane reserved outstanding
        collateral).poolOutstanding poolId
      = if ∀ row, db.poolReserves poolId = some row → row.lane = lane then
          (db.poolOutstanding poolId + outstanding).toNat
        else db.poolOutstanding poolId := by
  simp only [Db.poolOutstanding, Db.bumpKizunaPoolReserve, update_self]
  cases hrow : db.poolReserves poolId with
  | none => simp
  | some row =>
    by_cases hlane : row.lane = lane
    · simp [hlane]
    · simp [hlane]

theorem insertBillable_events (h : db'.billableEvents = db.billableEvents)
    (row : BillableEvent) : (db'.insertBillableEvent row).billableEvents
      = (db.insertBillableEvent row).billableEvents := by
  unfold Db.insertBillableEvent Db.getKizunaBillableSettlementEvent
  rw [h]
  cases locate (fun e : BillableEvent => (e.reservationId, e.settlementId))
      db.billableEvents (row.reservationId, row.settlementId) with
  | none => rfl
  | some x => exact h

variable {v : FinalizeResult}

/-- What a committed settlement does to the books of its reservation. -/
theorem finalize_books {now : Nat}
    (h : db.finalizeKizunaSettlement p now = .ok (db', v)) :
    ∃ (r : Reservation) (s : Settlement) (debtId : Option Nat),
      db.reservations[p.reservationId]? = some r ∧ r.status = .reserved
      ∧ db.settlements[p.settlementId]? = some s
      ∧ db'.settlements[p.settlementId]? = some { s with
          status := .confirmed, txHash := p.txHash, feeAmount := p.feeAmount }
      ∧ db'.reservations = db.reservations.set p.reservationId { r with
          status := .consumed
          settlementId := some p.settlementId
          txHash := some p.txHash }
      ∧ db'.billableEvents = (db.insertBillableEvent {
          reservationId := p.reservationId
          settlementId := p.settlementId
          debtId := debtId
          agentId := r.agentId
          payerWallet := r.payerWallet
          merchantWallet := s.merchantWallet
          network := r.network
          lane := r.lane
          poolId := r.poolId
          amountMicro := r.amountMicro }).billableEvents
      ∧ db'.poolReserves = (db.bumpKizunaPoolReserve r.poolId r.lane
          (-(r.amountMicro : Int))
          (if r.isPrefundedEnterprise then 0 else r.amountMicro)
          0).poolReserves := by
  unfold Db.finalizeKizunaSettlement at h
  obtain ⟨r, hr, d, -, u₁, hstatus, h⟩ := bind_ok₃.mp h
  obtain ⟨u₂, -, u₃, -, h⟩ := bind_ok₂.mp h
  dsimp only at h
  split at h
  · -- the row has expired, and the route throws
    obtain ⟨db₁, -, h⟩ := bind_ok.mp h
    cases h
  · obtain ⟨⟨db₁, debt⟩, hfund, s', hs', u₄, -, h⟩ := bind_ok₃.mp h
    cases h
    obtain ⟨⟨debts, balances, hdb₁⟩, -, -⟩ := Db.fund_ok hfund
    subst hdb₁
    have hrecorded := okOr_ok.mp hs'
    have hmodified : (db.settlements.modify p.settlementId fun s =>
        { s with
          status := .confirmed
          txHash := p.txHash
          feeAmount := p.feeAmount })[p.settlementId]? = some s' := hrecorded
    rw [List.getElem?_modify_eq] at hmodified
    obtain ⟨s, hs, hset⟩ := Option.map_eq_some_iff.mp hmodified
    subst hset
    refine ⟨r, s, debt.map Stored.id, okOr_ok.mp hr, require_ok.mp hstatus, hs,
      ?_, ?_, ?_, ?_⟩
    · obtain ⟨events, he⟩ := Db.insertBillable_same _
      rw [he]
      exact hrecorded
    · obtain ⟨events, he⟩ := Db.insertBillable_same _
      rw [he]
      rfl
    · show (Db.insertBillableEvent _ _).billableEvents = _
      apply insertBillable_events
      rfl
    · obtain ⟨events, he⟩ := Db.insertBillable_same _
      rw [he]
      rfl

-- ==== billable events

/-- Only a consumed reservation is billed. -/
def Billed (db : Db) : Prop :=
  ∀ e ∈ db.billableEvents, ∃ r, db.reservations[e.reservationId]? = some r
    ∧ r.status = .consumed

theorem Billed.keep (h : Billed db)
    (hevents : db'.billableEvents = db.billableEvents)
    (hkept : ∀ (i : Nat) (r : Reservation), db.reservations[i]? = some r →
      r.status = .consumed →
      db'.reservations[i]? = some r) : Billed db' := by
  intro e he
  rw [hevents] at he
  obtain ⟨r, hr, hconsumed⟩ := h e he
  exact ⟨r, hkept _ r hr hconsumed, hconsumed⟩

theorem Billed.finalize {now : Nat} (h : Billed db)
    (hdone : db.finalizeKizunaSettlement p now = .ok (db', v)) :
    Billed db' := by
  obtain ⟨r, s, debtId, hr, hreserved, -, -, hset, hevents, -⟩ :=
    finalize_books hdone
  have hkept : ∀ (i : Nat) (x : Reservation), db.reservations[i]? = some x →
      x.status = .consumed → db'.reservations[i]? = some x := by
    intro i x hx hconsumed
    have hne : p.reservationId ≠ i := by
      rintro rfl
      rw [hr] at hx
      cases hx
      rw [hreserved] at hconsumed
      cases hconsumed
    rw [hset, List.getElem?_set_ne hne]
    exact hx
  intro e he
  rw [hevents] at he
  unfold Db.insertBillableEvent at he
  split at he
  · rcases List.mem_append.mp he with hold | hnew
    · obtain ⟨x, hx, hconsumed⟩ := h e hold
      exact ⟨x, hkept _ x hx hconsumed, hconsumed⟩
    · rw [List.mem_singleton.mp hnew, hset,
        List.getElem?_set_self (List.getElem?_eq_some_iff.mp hr).1]
      exact ⟨_, rfl, rfl⟩
  · obtain ⟨x, hx, hconsumed⟩ := h e he
    exact ⟨x, hkept _ x hx hconsumed, hconsumed⟩

theorem Billed.booked {op : Op} (h : Billed db) (hb : Booked db db' op) :
    Billed db' := by
  cases hb with
  | aside decisions settlements guards sessions same grown merchants =>
    rw [same]
    exact h
  | settlement row same =>
    rw [same]
    exact h
  | reserve q sent now stored done =>
    obtain ⟨-, -, ⟨_, _, hdb⟩, -⟩ := Db.create_ok done
    rw [hdb]
    refine h.keep rfl fun i r hr _ => ?_
    exact (List.getElem?_append_left
      (List.getElem?_eq_some_iff.mp hr).1).trans hr
  | release id status done =>
    rcases Db.release_ok done with hsame | ⟨row, hrow, hreserved,
      ⟨_, _, hdb⟩, -⟩
    · rw [hsame]
      exact h
    · rw [hdb]
      refine h.keep rfl fun i r hr hconsumed => ?_
      have hne : id ≠ i := by
        rintro rfl
        rw [hrow] at hr
        cases hr
        rw [hreserved] at hconsumed
        cases hconsumed
      exact (List.getElem?_set_ne hne).trans hr
  | consume q now v done => exact h.finalize done
  | repay q done =>
    obtain ⟨_, _, _, hdb, -⟩ := Db.repay_eq db q
    rw [done, hdb]
    exact h
  | fund q v done =>
    rcases Db.fund_booked done with hsame | ⟨⟨_, hdb⟩, -⟩
    · rw [hsame]
      exact h
    · rw [hdb]
      exact h
  | collateral q v done =>
    rcases Db.collateral_ok done with hsame | ⟨_, _, _, _, -, hdb⟩
    · rw [hsame]
      exact h
    · rw [hdb]
      exact h

-- ==== new debts

theorem Booked.new_debt {op : Op} {i : Nat} {d : Debt}
    (h : Booked db db' op) (hnone : db.debts[i]? = none)
    (hnew : db'.debts[i]? = some d) :
    ∃ q, op = .finalizeKizunaSettlement q := by
  have hsame : db'.debts ≠ db.debts := by
    intro heq
    rw [heq, hnone] at hnew
    cases hnew
  cases h with
  | aside decisions settlements guards sessions same grown merchants =>
    exact absurd (by rw [same]) hsame
  | settlement row same => exact absurd (by rw [same]) hsame
  | reserve q sent now stored done =>
    obtain ⟨-, -, ⟨_, _, hdb⟩, -⟩ := Db.create_ok done
    exact absurd (by rw [hdb]) hsame
  | release id status done =>
    rcases Db.release_ok done with hdb | ⟨_, -, -, ⟨_, _, hdb⟩, -⟩
    · exact absurd (by rw [hdb]) hsame
    · exact absurd (by rw [hdb]) hsame
  | consume q now v done => exact ⟨q, rfl⟩
  | repay q done =>
    obtain ⟨debts, _, _, hdb, hrepays⟩ := Db.repay_eq db q
    have hlt := (List.getElem?_eq_some_iff.mp hnew).1
    have hle := List.getElem?_eq_none_iff.mp hnone
    have hlength : db'.debts.length = db.debts.length := by
      rw [done, hdb]
      exact hrepays.length_eq.symm
    omega
  | fund q v done =>
    rcases Db.fund_booked done with hdb | ⟨⟨_, hdb⟩, -⟩
    · exact absurd (by rw [hdb]) hsame
    · exact absurd (by rw [hdb]) hsame
  | collateral q v done =>
    rcases Db.collateral_ok done with hdb | ⟨_, _, _, _, -, hdb⟩
    · exact absurd (by rw [hdb]) hsame
    · exact absurd (by rw [hdb]) hsame

theorem finalize_new_debt {now i : Nat} {d : Debt}
    (h : db.finalizeKizunaSettlement p now = .ok (db', v))
    (hnone : db.debts[i]? = none) (hnew : db'.debts[i]? = some d) :
    ∃ (r : Reservation) (wallet : String) (hash : Option String),
      db.reservations[p.reservationId]? = some r
      ∧ ¬ r.isPrefundedEnterprise ∧ db.Unsettled p.settlementId
      ∧ d = Db.debtRow r wallet hash p := by
  obtain ⟨r, decision, hr, -, -, -, -, hdebts, -⟩ := Db.finalize_ok h
  have hlt := (List.getElem?_eq_some_iff.mp hnew).1
  have hle := List.getElem?_eq_none_iff.mp hnone
  split at hdebts
  · rw [hdebts] at hlt
    omega
  · next hfunded =>
      refine ⟨r, decision.repayWallet, decision.decisionEnvelopeHash, hr,
        hfunded, ?_⟩
      rcases (Db.upsertDebt_debts db (Db.debtRow r decision.repayWallet
        decision.decisionEnvelopeHash p)).2 with happend | ⟨j, _, _, _, -, hset⟩
      · constructor
        · by_contra hsettled
          -- a settlement that has a debt gets no second one
          unfold Db.upsertDebt at happend
          split at happend
          · next hlocate => exact hsettled (locate_none.mp hlocate)
          · next hlocate =>
              have := congrArg List.length happend
              rw [List.length_set, List.length_append] at this
              simp at this
        · rw [hdebts, happend, List.getElem?_append_right hle] at hnew
          exact List.mem_singleton.mp (List.mem_of_getElem? hnew)
      · rw [hdebts, hset, List.length_set] at hlt
        omega

theorem finalize_opens {now : Nat} {r : Reservation}
    (h : db.finalizeKizunaSettlement p now = .ok (db', v))
    (hr : db.reservations[p.reservationId]? = some r)
    (hfunded : ¬ r.isPrefundedEnterprise)
    (hnew : db.Unsettled p.settlementId) :
    ∃ wallet hash, db'.debts[db.debts.length]?
      = some (Db.debtRow r wallet hash p) := by
  obtain ⟨r', decision, hr', -, -, -, -, hdebts, -⟩ := Db.finalize_ok h
  rw [hr] at hr'
  cases hr'
  have hrow : ∀ d ∈ db.debts, d.settlementId ≠ (Db.debtRow r
      decision.repayWallet decision.decisionEnvelopeHash p).settlementId :=
    hnew
  rw [if_neg hfunded, Db.upsertDebt_new hrow] at hdebts
  refine ⟨decision.repayWallet, decision.decisionEnvelopeHash, ?_⟩
  rw [hdebts]
  simp

-- ==== one settlement

theorem fronted_iff {now : Nat} {r : Reservation}
    {wallet : String} {hash : Option String} (hbilled : Billed db)
    (h : db.finalizeKizunaSettlement p now = .ok (db', v))
    (hr : db.reservations[p.reservationId]? = some r)
    (hfunded : ¬ r.isPrefundedEnterprise) :
    (∃ s, Fronted db db' (Db.debtRow r wallet hash p) s) ↔ Exact db p r := by
  obtain ⟨r', s₀, debtId, hr', hreserved, hs₀, hs, -, hevents, hreserves⟩ :=
    finalize_books h
  rw [hr] at hr'
  cases hr'
  rw [if_neg hfunded] at hreserves
  have hpool : db'.poolOutstanding r.poolId
      = if ∀ row, db.poolReserves r.poolId = some row → row.lane = r.lane then
          db.poolOutstanding r.poolId + r.amountMicro
        else db.poolOutstanding r.poolId := by
    have hbump := bump_poolOutstanding db r.poolId r.lane
      (-(r.amountMicro : Int)) r.amountMicro 0
    have hsame : db'.poolOutstanding r.poolId
        = (db.bumpKizunaPoolReserve r.poolId r.lane (-(r.amountMicro : Int))
            r.amountMicro 0).poolOutstanding r.poolId := by
      unfold Db.poolOutstanding
      rw [hreserves]
    rw [hsame, hbump]
    split
    · omega
    · rfl
  -- a reservation still reserved has not been billed
  have hunbilled : ∀ e ∈ db.billableEvents,
      e.reservationId ≠ p.reservationId := by
    intro e he hid
    obtain ⟨x, hx, hconsumed⟩ := hbilled e he
    rw [hid, hr] at hx
    cases hx
    rw [hreserved] at hconsumed
    cases hconsumed
  have hnone : db.getKizunaBillableSettlementEvent p.reservationId
      p.settlementId = none := by
    unfold Db.getKizunaBillableSettlementEvent
    rw [locate_none.mpr fun e he heq =>
      hunbilled e he (congrArg Prod.fst heq)]
    rfl
  unfold Db.insertBillableEvent at hevents
  simp only [hnone] at hevents
  constructor
  · intro hfronted
    obtain ⟨s, hrecorded, hprincipal, -, -, hrise⟩ := hfronted
    have hamount : r.amountMicro = s₀.amount := by
      have hsame : db'.settlements[p.settlementId]? = some s := hrecorded
      rw [hs] at hsame
      cases hsame
      exact hprincipal
    refine ⟨?_, ?_⟩
    · intro s₁ hs₁
      rw [hs₀] at hs₁
      cases hs₁
      exact hamount
    · by_contra hno
      obtain ⟨hpos, hlane⟩ := not_or.mp hno
      have hraised : db'.poolOutstanding r.poolId
          = db.poolOutstanding r.poolId + s.amount := hrise
      have hprincipal : r.amountMicro = s.amount := hprincipal
      rw [hpool, if_neg hlane] at hraised
      omega
  · intro hexact
    obtain ⟨hamount, hlane⟩ := hexact
    have hamount := hamount s₀ hs₀
    have hentered : ∀ e, db'.billableEvents = db.billableEvents ++ [e] →
        e ∈ db'.billableEvents := by
      intro e he
      rw [he]
      exact List.mem_append_right _ (List.mem_singleton_self e)
    refine ⟨_, hs, hamount, ?_, ?_, ?_⟩
    · exact ⟨_, hentered _ hevents, rfl, rfl⟩
    · intro e he hid _
      rw [hevents] at he
      rcases List.mem_append.mp he with hold | hnew
      · exact absurd hid (hunbilled e hold)
      · rw [List.mem_singleton.mp hnew]
        exact hamount
    · show db'.poolOutstanding r.poolId
        = db.poolOutstanding r.poolId + s₀.amount
      rw [hpool]
      split
      · rw [hamount]
      · next hmiss =>
          rcases hlane with hzero | hmet
          · omega
          · exact absurd hmet hmiss

-- ==== runs

section Runs

variable {env : Env} {w w₀ w' : World} {a : Action} {tr : List Action}

theorem Billed.step (h : Billed w.store.db) (hstep : step env a w = .ok w') :
    Billed w'.store.db := by
  rcases step_ok hstep with ⟨q, now, -, rfl⟩ | ⟨i, c, op, k, rfl, hi, hy⟩
  · exact h
  · obtain ⟨op', k', hi', hs, -⟩ := resume_some.mp hy
    rw [hi] at hi'
    cases hi'
    rw [hs]
    exact h.booked (perform_booked op c w.store)

theorem isOk_some {ε α : Type} {x : Except ε α} (h : x.isOk) :
    ∃ v, x = .ok v := by
  cases x with
  | error e => cases h
  | ok v => exact ⟨v, rfl⟩

theorem commit_made {α : Type} {c : Choice} {s : Store}
    {x : Except String (Db × α)} {v : α} (hgoes : c.outcome ≠ .fails)
    (hx : x = .ok (db', v)) : (commit c s x).1 = { s with db := db' } := by
  subst hx
  unfold commit
  cases hc : c.outcome with
  | succeeds => rfl
  | fails => exact absurd hc hgoes
  | lost => rfl

theorem awaited_step {i : Nat} {op : Op} (c : Choice)
    (h : w.awaited i = some op) :
    ∃ w', step env (.resume i c) w = .ok w'
      ∧ w'.store = (perform op c w.store).1 := by
  obtain ⟨prog, hprog, hawaits⟩ := Option.bind_eq_some_iff.mp h
  cases prog with
  | done x => cases hawaits
  | await op' k =>
    cases hawaits
    refine ⟨⟨(perform op c w.store).1,
      w.progs.set i (k (perform op c w.store).2)⟩, ?_, rfl⟩
    simp only [step, resume, hprog]

theorem step_awaited {i : Nat} {c : Choice}
    (h : step env (.resume i c) w = .ok w') :
    ∃ op, w.awaited i = some op ∧ w'.store = (perform op c w.store).1 := by
  rcases step_ok h with ⟨q, now, hq, -⟩ | ⟨i', c', op, k, ha, hi, hy⟩
  · cases hq
  · cases ha
    obtain ⟨op', k', hi', hs, -⟩ := resume_some.mp hy
    rw [hi] at hi'
    cases hi'
    exact ⟨op, awaited_of hi, hs⟩

theorem step_fronts_iff (h : Billed w.store.db) :
    Fronts env a w ↔ AtOp SettlesExactly a w := by
  cases a with
  | arrive q now =>
    refine ⟨fun _ => trivial, ?_⟩
    intro _ w' hstep i d hnone hnew
    cases hstep
    change w.store.db.debts[i]? = some d at hnew
    rw [hnone] at hnew
    cases hnew
  | resume i c =>
    constructor
    · intro hfronts op hop p r hfinal hopens
      subst hfinal
      obtain ⟨hr, hfunded, hnew, hgoes, hok⟩ := hopens
      obtain ⟨⟨db', v⟩, hdone⟩ := isOk_some hok
      have hperformed : ∃ w', step env (.resume i c) w = .ok w'
          ∧ w'.store = (perform (.finalizeKizunaSettlement p) c w.store).1 :=
        awaited_step c hop
      obtain ⟨w', hstep, hstore⟩ := hperformed
      have hdb : w'.store.db = db' := by
        rw [hstore]
        exact congrArg Store.db (commit_made hgoes hdone)
      obtain ⟨wallet, hash, hopened⟩ :=
        finalize_opens hdone hr hfunded hnew
      rw [← hdb] at hopened
      have hfronted := hfronts w' hstep w.store.db.debts.length _
        (List.getElem?_eq_none (Nat.le_refl _)) hopened
      rw [hdb] at hfronted
      exact (fronted_iff h hdone hr hfunded).mp hfronted
    · intro hexact w' hstep j d hnone hnew
      obtain ⟨op, hop, hstore⟩ := step_awaited hstep
      rw [hstore] at hnew ⊢
      obtain ⟨p, rfl⟩ := (perform_booked op c w.store).new_debt hnone hnew
      change (commit c w.store (w.store.db.finalizeKizunaSettlement p
        c.clock)).1.db.debts[j]? = some d at hnew
      show ∃ s, Fronted w.store.db (commit c w.store
        (w.store.db.finalizeKizunaSettlement p c.clock)).1.db d s
      -- what is not committed opens no debt
      have hgoes : c.outcome ≠ .fails := by
        intro hfails
        unfold commit at hnew
        simp only [hfails] at hnew
        rw [hnone] at hnew
        cases hnew
      rcases commit_db c w.store (w.store.db.finalizeKizunaSettlement p
        c.clock) with hsame | ⟨db', v, hdone, hmade⟩
      · rw [hsame, hnone] at hnew
        cases hnew
      · rw [hmade] at hnew ⊢
        obtain ⟨r, wallet, hash, hr, hfunded, hunsettled, rfl⟩ :=
          finalize_new_debt hdone hnone hnew
        refine (fronted_iff h hdone hr hfunded).mpr ?_
        exact hexact _ hop p r rfl ⟨hr, hfunded, hunsettled, hgoes,
          by rw [hdone]; rfl⟩

/-- In any run, the debts opened are for what was fronted exactly if their
reservations are. -/
theorem fronting_iff (hgenesis : Genesis w₀) (tr : List Action) :
    Meets (step env) (Fronts env) w₀ tr
      ↔ Meets (step env) (AtOp SettlesExactly) w₀ tr := by
  have hbilled : ∀ {p m}, run (step env) w₀ p = .ok m → Billed m.store.db := by
    intro p m hrun
    have hstart : Billed w₀.store.db := by
      intro e he
      rw [hgenesis.billable] at he
      cases he
    exact run_induct (I := fun w => Billed w.store.db)
      (fun a x y hx hxy => hx.step hxy) hstart hrun
  rw [meets_iff_cut, meets_iff_cut]
  constructor
  · intro hall p a q m hcut hrun
    exact (step_fronts_iff (hbilled hrun)).mp (hall p a q m hcut hrun)
  · intro hall p a q m hcut hrun
    exact (step_fronts_iff (hbilled hrun)).mpr (hall p a q m hcut hrun)

end Runs

namespace Concrete

/-- A job reserves credit, and settles for an amount of its own. -/
def jobReserved (reservedMicro settledMicro : Nat) : List Action :=
  [.arrive (.reserveJob {
      agentId := "agent"
      payerWallet := "payer"
      requestNonce := "n1"
      network := solana
      lane := some .cryptoFast
      poolId := none
      amountMicro := some reservedMicro }) 1700000000000]
    ++ advance (well .cryptoFast reservedMicro) 0 5
    ++ [.arrive (.settleJob {
      reservationId := 0
      merchantWallet := "merchant"
      amount := settledMicro
      feeAmount := 10000
      auditRef := "audit" }) 1700000001000]
    ++ advance (well .cryptoFast reservedMicro) 1 3

/-- The finalizer, and the read that comes after it. -/
def jobFinalized (reservedMicro settledMicro : Nat) : List Action :=
  jobReserved reservedMicro settledMicro
    ++ advance (well .cryptoFast reservedMicro) 1 2

/-- One USDC is settled against a reservation of two, and two are owed. -/
theorem settled_below_reservation :
    ¬ Meets (step env) (Fronts env) start (jobFinalized 2000000 1000000)
      ∧ ∃ w d s, run (step env) start (jobFinalized 2000000 1000000) = .ok w
        ∧ w.store.db.debts[0]? = some d
        ∧ w.store.db.settlements[d.settlementId]? = some s
        ∧ d.principalMicro = 2000000 ∧ s.amount = 1000000 := by
  have hbefore : Exec.check (fun w => Exec.check (fun w' =>
        decide (w.store.db.debts = []
          ∧ (w'.store.db.debts.map fun d => (d.settlementId, d.principalMicro))
            = [(0, 2000000)]
          ∧ (w'.store.db.settlements.map Settlement.amount) = [1000000]))
      (step env (.resume 1 (well .cryptoFast 2000000)) w))
      (run (step env) start (jobReserved 2000000 1000000)) = true := by
    decide
  have hafter : Exec.check (fun w => w.store.db.debts[0]?.any fun d =>
        w.store.db.settlements[d.settlementId]?.any fun s =>
          d.principalMicro = 2000000 ∧ s.amount = 1000000)
      (run (step env) start (jobFinalized 2000000 1000000)) = true := by
    decide
  constructor
  · intro hmeets
    obtain ⟨w, hw, hstep⟩ := check_ok hbefore
    obtain ⟨w', hw', hbooks⟩ := check_ok hstep
    obtain ⟨hdebts, hopened, hamounts⟩ := of_decide_eq_true hbooks
    have hfronts := meets_iff_cut.mp hmeets (jobReserved 2000000 1000000)
      (.resume 1 (well .cryptoFast 2000000))
      (advance (well .cryptoFast 2000000) 1 1) w rfl hw
    cases hlist : w'.store.db.debts with
    | nil =>
      rw [hlist] at hopened
      cases hopened
    | cons d rest =>
      rw [hlist, List.map_cons] at hopened
      obtain ⟨hd, -⟩ := List.cons_eq_cons.mp hopened
      obtain ⟨hid, hprincipal⟩ := Prod.mk.inj hd
      obtain ⟨s, hrecorded, hsame, -⟩ := hfronts w' hw' 0 d
        (by rw [hdebts]; rfl) (by rw [hlist]; rfl)
      have hamount : (w'.store.db.settlements.map Settlement.amount)[0]?
          = some s.amount := by
        rw [hid] at hrecorded
        rw [List.getElem?_map, hrecorded]
        rfl
      rw [hamounts] at hamount
      have := Option.some.inj hamount
      omega
  · obtain ⟨w, hw, hbooks⟩ := check_ok hafter
    obtain ⟨d, hd, hbooks⟩ := (Option.any_eq_true _ _).mp hbooks
    obtain ⟨s, hs, hbooks⟩ := (Option.any_eq_true _ _).mp hbooks
    obtain ⟨hprincipal, hamount⟩ := of_decide_eq_true hbooks
    exact ⟨w, d, s, hw, hd, hs, hprincipal, hamount⟩

/-- A test of `SettlesExactly`. -/
def settlesExactly (a : Action) (w : World) : Bool :=
  match a with
  | .arrive _ _ => true
  | .resume i _ =>
    match w.awaited i with
    | some (.finalizeKizunaSettlement p) =>
      match w.store.db.reservations[p.reservationId]?,
          w.store.db.settlements[p.settlementId]? with
      | some r, some s => decide (r.amountMicro = s.amount)
          && (w.store.db.poolReserves r.poolId).all
            fun row => row.lane = r.lane
      | _, _ => false
    | _ => true

theorem settlesExactly_sound (a : Action) (w : World)
    (h : settlesExactly a w = true) : AtOp SettlesExactly a w := by
  cases a with
  | arrive q now => trivial
  | resume i c =>
    intro op hop p r hfinal hopens
    subst hfinal
    have hawaits : w.awaited i = some (.finalizeKizunaSettlement p) := hop
    simp only [settlesExactly, hawaits, hopens.1] at h
    cases hs : w.store.db.settlements[p.settlementId]? with
    | none =>
      rw [hs] at h
      cases h
    | some s =>
      simp only [hs, Bool.and_eq_true, decide_eq_true_eq] at h
      refine ⟨?_, Or.inr ?_⟩
      · intro s' hs'
        rw [hs] at hs'
        cases hs'
        exact h.1
      · intro row hrow
        have hlane := h.2
        rw [hrow] at hlane
        simpa using hlane

/-- One settled for what was reserved. -/
theorem fronting_iff_whole :
    Meets (step env) (Fronts env) start (jobFinalized 1000000 1000000)
      ∧ ∃ w, run (step env) start (jobFinalized 1000000 1000000) = .ok w
        ∧ w.store.db.debts.length = 1 := by
  have hrun : checkRun (step env) settlesExactly
      (fun w => decide (w.store.db.debts.length = 1)) start
      (jobFinalized 1000000 1000000) = true := by
    decide
  obtain ⟨w, hw, hlast, hmeets⟩ := run_of_check settlesExactly_sound hrun
  exact ⟨(fronting_iff start_genesis _).mpr hmeets, w, hw,
    of_decide_eq_true hlast⟩

end Concrete

end KamiyoProtocol.Facilitator
