/-
Whether a signed payment pays once.

Two tables keep it from being used again: the guard of its nonce, and the
reservation made for it. Payments without credit go by the first,
settlements of credit by the second, and neither path looks at the other
table. Each path alone pays once; both together do if a payment is made
only while the other table has nothing under its nonce.
-/
import KamiyoProtocol.Facilitator.Guards
import KamiyoProtocol.Facilitator.Payouts

namespace KamiyoProtocol.Facilitator

open Exec Await Keyed

variable {env : Env}

-- ==== reservations

def Reservation.key (r : Reservation) : String × String :=
  (r.payerWallet, r.requestNonce)

/-- A payment on credit. -/
def Purpose.isCredit : Purpose → Bool
  | .credit _ => true
  | _ => false

/-- A payment for a signed header. -/
def Purpose.isHeader (p : Purpose) : Bool := p.isSigned || p.isCredit

theorem Db.create_fresh {db db' : Db} {p : CreateReservation} {now : Nat}
    {v : Stored Reservation}
    (h : db.createKizunaReservation p now = .ok (db', v)) :
    ∀ r ∈ db.reservations, r.key ≠ (p.row now).key := by
  unfold Db.createKizunaReservation at h
  obtain ⟨u₁, -, u₂, -, u₃, hnonce, h⟩ := bind_ok₃.mp h
  exact require_ok.mp hnonce

variable {op : Op}

theorem Booked.rowKeys {db db' : Db} (hbooked : Booked db db' op)
    (h : (db.reservations.map Reservation.key).Nodup) :
    (db'.reservations.map Reservation.key).Nodup := by
  have hsame : db'.reservations = db.reservations →
      (db'.reservations.map Reservation.key).Nodup := by
    intro heq
    rw [heq]
    exact h
  have hset : ∀ {i : Nat} {row row' : Reservation},
      db.reservations[i]? = some row →
      db'.reservations = db.reservations.set i row' → row'.key = row.key →
      (db'.reservations.map Reservation.key).Nodup := by
    intro i row row' hrow heq hkey
    rw [heq, map_set hrow hkey]
    exact h
  cases hbooked with
  | aside decisions settlements guards sessions same grown merchants =>
    exact hsame (by rw [same])
  | settlement row same => exact hsame (by rw [same])
  | reserve p sent now stored done =>
    obtain ⟨-, -, ⟨_, _, hdb⟩, -⟩ := Db.create_ok done
    have happend : db'.reservations = db.reservations ++ [p.row now] := by
      rw [hdb]
    rw [happend]
    exact nodup_append h (Db.create_fresh done)
  | release id status done =>
    rcases Db.release_ok done with hrefl | ⟨row, hrow, -, ⟨_, _, hdb⟩, -⟩
    · exact hsame (by rw [hrefl])
    · have heq : db'.reservations = db.reservations.set id
          { row with status := status.toReservation } := by rw [hdb]
      exact hset hrow heq rfl
  | consume p now v done =>
    obtain ⟨row, d, hrow, -, -, -, ⟨_, _, _, _, hdb⟩, -⟩ :=
      Db.finalize_ok done
    have heq : db'.reservations
        = db.reservations.set p.reservationId (Db.consumed row p) := by
      rw [hdb]
    exact hset hrow heq rfl
  | repay p done =>
    obtain ⟨_, _, _, hdb, -⟩ := db.repay_eq p
    exact hsame (by rw [done, hdb])
  | fund p v done =>
    rcases Db.fund_booked done with hrefl | ⟨⟨_, hdb⟩, -⟩
    · exact hsame (by rw [hrefl])
    · exact hsame (by rw [hdb])
  | collateral p v done =>
    rcases Db.collateral_ok done with hrefl | ⟨_, _, _, _, -, hdb⟩
    · exact hsame (by rw [hrefl])
    · exact hsame (by rw [hdb])

-- ==== duties

/-- Credit is paid under the nonce of its reservation. -/
def creditDuty : Contract Store Choice Op Op.Res Response where
  rely := Extends
  refl _ := Extends.refl
  trans _ _ _ := Extends.trans
  allowed _ _ _ := True
  owes op _ s := ∀ x ∈ op.order, ∀ id ∈ x.2.purpose.reservation,
    ∃ row, s.db.reservations[id]? = some row ∧ row.key = x.2.key
  ends _ _ := True
  lasts _ _ _ _ _ := trivial

theorem creditDuty_other {k : op.Res → Handler} {s : Store}
    (h : op.paysFor = none) : creditDuty.owes op k s := by
  intro x hx id hid
  unfold Op.paysFor at h
  rw [hx] at h
  change x.2.purpose.reservation = none at h
  rw [h] at hid
  cases hid

theorem settle_creditDuty (q : SettleRequest) : SettleDuty creditDuty q where
  moves op c s _ := perform_extends op c s
  ends _ _ := trivial
  other op k s hop hpay := by
    apply creditDuty_other
    cases op with
    | settlePayment o => exact (hpay o rfl).elim
    | settleAuthorizedPaymentBase | settleDelegatedPayment
    | createEscrow => cases hop
    | _ => rfl
  pay a r settlementId feeBps k s₀ s hfound hs := by
    intro x hx id hid
    cases hx
    cases hid
    obtain ⟨hrow, -, hkey⟩ := reservationByNonce_some hfound
    obtain ⟨status, settlementId', txHash, hrow'⟩ := hs.reservations _ _ hrow
    exact ⟨_, hrow', hkey⟩

theorem creditDuty_safe (q : Request) (now : Nat) (s : Store) :
    Safe perform creditDuty (route env now q) s := by
  have hnone : (∀ op, q.uses op = true → op.paysFor = none) →
      Safe perform creditDuty (route env now q) s := by
    intro huses
    apply safe_of_uses
    · exact fun op k s hop => creditDuty_other (huses op hop)
    · exact fun _ _ _ => trivial
  cases q with
  | settle q => exact settle_safe (settle_creditDuty q) now s
  | pay q => exact hnone fun _ hop => Op.paysFor_settles (Op.ofPlain_settles hop)
  | escrow q =>
    exact hnone fun _ hop => Op.paysFor_settles (Op.ofEscrow_settles hop)
  | _ =>
    apply hnone
    intro op hop
    cases op with
    | settlePayment | settleAuthorizedPaymentBase | settleDelegatedPayment
    | createEscrow => cases hop
    | _ => rfl

/-- Every payment on credit is under the nonce of its reservation. -/
def KeyedCredits (s : Store) : Prop :=
  ∀ o ∈ s.payouts, ∀ id ∈ o.order.purpose.reservation,
    ∃ row, s.db.reservations[id]? = some row ∧ row.key = o.order.key

theorem keyedCredits_step {c : Choice} {s : Store}
    (howes : ∀ x ∈ op.order, ∀ id ∈ x.2.purpose.reservation,
      ∃ row, s.db.reservations[id]? = some row ∧ row.key = x.2.key)
    (h : KeyedCredits s) : KeyedCredits (perform op c s).1 := by
  have hs := perform_extends op c s
  have hlater : ∀ {id : Nat} {key : String × String},
      (∃ row, s.db.reservations[id]? = some row ∧ row.key = key) →
      ∃ row, (perform op c s).1.db.reservations[id]? = some row
        ∧ row.key = key := by
    intro id key hrow
    obtain ⟨row, hrow, hkey⟩ := hrow
    obtain ⟨status, settlementId, txHash, hrow'⟩ := hs.reservations id row hrow
    exact ⟨_, hrow', hkey⟩
  intro o ho id hid
  rcases mem_payouts ho with hold | ⟨source, order, horder, -, rfl⟩
  · exact hlater (h o hold id hid)
  · exact hlater (howes (source, order) horder id hid)

-- ==== credits

section Credits

variable {w : World} {key : String × String}

theorem paidUnder_credit {s : Store} (hcredits : KeyedCredits s)
    (hkeys : (s.db.reservations.map Reservation.key).Nodup) {id : Nat}
    {row : Reservation} (hrow : s.db.reservations[id]? = some row)
    (hkey : row.key = key) :
    s.paidUnder Purpose.isCredit key ≤ s.payoutsOf id := by
  unfold Store.paidUnder Store.payoutsOf
  apply List.sum_le_sum
  intro o ho
  unfold Order.tokens token
  by_cases hcredit : o.order.purpose.isCredit = true
  · by_cases hunder : o.order.key = key
    · obtain ⟨rid, hrid⟩ : ∃ rid, o.order.purpose.reservation = some rid := by
        cases hpurpose : o.order.purpose with
        | credit rid => exact ⟨rid, rfl⟩
        | exact =>
          rw [hpurpose] at hcredit
          cases hcredit
        | session hash =>
          rw [hpurpose] at hcredit
          cases hcredit
        | escrow id =>
          rw [hpurpose] at hcredit
          cases hcredit
      obtain ⟨row', hrow', hkey'⟩ := hcredits o ho rid hrid
      have hsame : rid = id := by
        have hat : (s.db.reservations.map Reservation.key)[rid]?
            = (s.db.reservations.map Reservation.key)[id]? := by
          rw [List.getElem?_map, List.getElem?_map, hrow, hrow']
          show some row'.key = some row.key
          rw [hkey', hkey, hunder]
        obtain ⟨hlt, -⟩ := List.getElem?_eq_some_iff.mp hrow'
        exact (List.getElem?_inj (by simpa using hlt) hkeys).mp hat
      rw [hsame] at hrid
      rw [if_pos hcredit, if_pos hunder, if_pos hrid]
    · rw [if_pos hcredit, if_neg hunder]
      exact Nat.zero_le _
  · rw [if_neg hcredit]
    exact Nat.zero_le _

theorem exists_row {s : Store} (hcredits : KeyedCredits s)
    (hpos : 0 < s.paidUnder Purpose.isCredit key) :
    ∃ (id : Nat) (row : Reservation), s.db.reservations[id]? = some row
      ∧ row.key = key := by
  by_contra hnone
  have hzero : s.paidUnder Purpose.isCredit key = 0 := by
    apply List.sum_eq_zero
    intro n hn
    obtain ⟨o, ho, rfl⟩ := List.mem_map.mp hn
    unfold Order.tokens token
    cases hpurpose : o.order.purpose with
    | credit rid =>
      obtain ⟨row, hrow, hkey⟩ := hcredits o ho rid (by rw [hpurpose]; rfl)
      have hne : o.order.key ≠ key :=
        fun heq => hnone ⟨rid, row, hrow, hkey.trans heq⟩
      simp [hne]
    | exact | session | escrow => rfl
  omega

/-- What a run keeps of both tables. -/
structure TwoTables (base : Db) (w : World) : Prop
    extends BalancedRun base w where
  keys : (w.store.db.reservations.map Reservation.key).Nodup
  credits : KeyedCredits w.store
  signed : ∀ key, w.store.paidUnder Purpose.isSigned key ≤ w.store.guarded key

variable {base : Db}

theorem TwoTables.credit_once (h : TwoTables base w) :
    w.store.paidUnder Purpose.isCredit key ≤ 1 := by
  by_cases hpos : 0 < w.store.paidUnder Purpose.isCredit key
  · obtain ⟨id, row, hrow, hkey⟩ := exists_row h.credits hpos
    exact (paidUnder_credit h.credits h.keys hrow hkey).trans (h.books.once id)
  · omega

theorem TwoTables.credit_none (h : TwoTables base w)
    (hrows : ∀ row ∈ w.store.db.reservations, row.key = key →
      row.status ≠ .reserved ∧ row.status ≠ .consumed) :
    w.store.paidUnder Purpose.isCredit key = 0 := by
  by_contra hne
  obtain ⟨id, row, hrow, hkey⟩ :=
    exists_row h.credits (Nat.pos_of_ne_zero hne)
  obtain ⟨hreserved, hconsumed⟩ :=
    hrows row (List.mem_of_getElem? hrow) hkey
  have hle := paidUnder_credit h.credits h.keys hrow hkey
  have hpaid := h.books.paid id
  have hclaimed := h.books.claimed id
  rw [figure_of hrow, Reservation.isConsumed, if_neg hconsumed] at hpaid
  rw [figure_of hrow, Reservation.isReserved, if_neg hreserved] at hclaimed
  omega

end Credits

-- ==== runs

/-- A payment is made only while the other table has nothing under its
nonce: credit only without a guard, the others only without a reservation
that is `reserved` or consumed. -/
def Choice.Exclusive (c : Choice) (op : Op) (s : Store) : Prop :=
  ∀ x ∈ op.order, c.pays x.1 x.2 →
    (x.2.purpose.isCredit = true → (s.db.nonceGuards x.2.key).isNone = true)
      ∧ (x.2.purpose.isSigned = true →
        ∀ row ∈ s.db.reservations, row.key = x.2.key →
          row.status ≠ .reserved ∧ row.status ≠ .consumed)
  deriving Decidable

/-- What is paid on credit is booked; an authorized payment does not take
effect and report failure; and no payment is made while the other table
has its nonce. -/
def Single (a : Action) (w : World) : Prop :=
  Orderly a w ∧ AtOp (fun c op w =>
    c.Sure Purpose.isSigned op ∧ c.Exclusive op w.store) a w
  deriving Decidable

theorem run_twoTables {w₀ w : World} {tr : List Action} (h₀ : Genesis w₀)
    (hjobs : NoJobs tr) (hm : Meets (step env) Single w₀ tr)
    (hrun : run (step env) w₀ tr = .ok w) : TwoTables w₀.store.db w := by
  have horderly := meets_mono (fun a w h => h.1) hm
  have hatop := meets_mono (fun a w h => h.2) hm
  have hsure : Meets (step env)
      (AtOp fun c op _ => c.Sure Purpose.isSigned op) w₀ tr := by
    refine meets_mono ?_ hatop
    intro a w h
    cases a with
    | arrive q now => trivial
    | resume i c => exact fun op hop => (h op hop).1
  refine ⟨run_balanced h₀ hjobs horderly hrun, ?_, ?_,
    run_guarded (fun _ => rfl) h₀ hsure hrun⟩
  · refine run_store (I := fun s =>
      (s.db.reservations.map Reservation.key).Nodup) ?_ ?_ hsure hrun
    · exact fun op c w _ h => (perform_booked op c w.store).rowKeys h
    · rw [h₀.reservations]
      exact List.nodup_nil
  · have hduty : ∀ {p : List Action} {m : World},
        run (step env) w₀ p = .ok m → AllSafe perform creditDuty m := by
      intro p m hp
      have hany : Meets (step env) (fun _ _ => True) w₀ p :=
        meets_of_forall fun _ _ => trivial
      refine run_safe ?_ ?_ ?_ h₀.progs hany hp
      · exact fun op c s _ => perform_extends op c s
      · exact fun q now w _ => creditDuty_safe q now w.store
      · exact fun _ _ _ _ _ _ => trivial
    refine run_induct_cut (P := fun w => AllSafe perform creditDuty w)
      (I := fun w => KeyedCredits w.store)
      (fun p q m _ _ hp => hduty hp) ?_ ?_ hm hrun
    · intro a m m' hsafe _ h _ hstep
      rcases step_ok hstep with
        ⟨q, now, -, rfl⟩ | ⟨i, c, op, k, -, hi, hy⟩
      · exact h
      · obtain ⟨op', k', hi', hs, -⟩ := resume_some.mp hy
        rw [hs]
        exact keyedCredits_step (hsafe _ (List.mem_of_getElem? hi')).owed h
    · intro o ho
      rw [h₀.payouts] at ho
      cases ho

theorem paidUnder_header (s : Store) (key : String × String) :
    s.paidUnder Purpose.isHeader key = s.paidUnder Purpose.isSigned key
      + s.paidUnder Purpose.isCredit key := by
  unfold Store.paidUnder
  rw [← List.sum_map_add]
  congr 1
  apply List.map_congr_left
  intro o _
  unfold Order.tokens Purpose.isHeader
  cases o.order.purpose with
  | credit id => exact (Nat.zero_add _).symm
  | exact => exact (Nat.add_zero _).symm
  | escrow id => exact (Nat.add_zero _).symm
  | session hash => rfl

theorem executed_none {c : Choice} (h : op.order = none) :
    executed op c = [] := by
  unfold executed
  rw [h]

theorem guarded_le_one (key : String × String) (s : Store) :
    s.guarded key ≤ 1 := by
  unfold Store.guarded
  split
  · exact Nat.le_refl _
  · exact Nat.zero_le _

theorem signed_not_credit {p : Purpose} (h : p.isSigned = true) :
    ¬ p.isCredit = true := by
  cases p with
  | credit id => cases h
  | exact => decide
  | escrow id => exact Bool.false_ne_true
  | session hash => cases h

theorem single_step {w₀ m m' : World} {c : Choice}
    (hm : TwoTables w₀.store.db m) (hm' : TwoTables w₀.store.db m')
    (hstore : m'.store = (perform op c m.store).1)
    (hc : c.Exclusive op m.store) (key : String × String)
    (h : m.store.paidUnder Purpose.isHeader key ≤ 1) :
    m'.store.paidUnder Purpose.isHeader key ≤ 1 := by
  have hpaid : ∀ kind, m'.store.paidUnder kind key
      = m.store.paidUnder kind key
        + ((executed op c).map fun o => o.order.tokens kind key).sum := by
    intro kind
    rw [hstore]
    exact paidUnder_perform op c m.store
  have hnone : executed op c = [] →
      m'.store.paidUnder Purpose.isHeader key ≤ 1 := by
    intro hexecuted
    rw [hpaid, hexecuted]
    exact h
  cases horder : op.order with
  | none => exact hnone (executed_none horder)
  | some x =>
    obtain ⟨source, o⟩ := x
    by_cases hpays : c.pays source o
    · have hexecuted : executed op c = [c.payout source o] := by
        unfold executed
        rw [horder]
        exact if_pos hpays
      have hadded : ∀ kind, m'.store.paidUnder kind key
          = m.store.paidUnder kind key + o.tokens kind key := by
        intro kind
        rw [hpaid, hexecuted]
        simp [Choice.payout]
      by_cases hunder : o.key = key
      · obtain ⟨hcredit, hsigned⟩ := hc (source, o) horder hpays
        have hsigned' := hadded Purpose.isSigned
        have hcredit' := hadded Purpose.isCredit
        rw [paidUnder_header] at h ⊢
        by_cases hkind : o.purpose.isSigned = true
        · -- no reservation of the nonce has been paid on
          have hzero := hm.credit_none fun row hrow hkey =>
            hsigned hkind row hrow (hkey.trans hunder.symm)
          have hother : o.tokens Purpose.isCredit key = 0 :=
            if_neg (signed_not_credit hkind)
          have hle := (hm'.signed key).trans (guarded_le_one key _)
          omega
        · have hother : o.tokens Purpose.isSigned key = 0 := if_neg hkind
          by_cases hon : o.purpose.isCredit = true
          · -- the nonce is not guarded, so nothing signed was paid
            have hguard := hcredit hon
            change (m.store.db.nonceGuards o.key).isNone = true at hguard
            rw [hunder] at hguard
            have hzero : m.store.guarded key = 0 := by
              unfold Store.guarded
              simp [Option.isNone_iff_eq_none.mp hguard]
            have hle := hm.signed key
            have honce : m'.store.paidUnder Purpose.isCredit key ≤ 1 :=
              hm'.credit_once
            omega
          · have hnothing : o.tokens Purpose.isCredit key = 0 := if_neg hon
            omega
      · rw [hadded]
        unfold Order.tokens token
        simpa [hunder] using h
    · apply hnone
      unfold executed
      rw [horder]
      exact if_neg hpays

/-- Where credit is paid only without a guard of its nonce, other signed
payments only without a reservation of theirs, and none of either is lost
sight of, every signed payment pays once. -/
theorem signed_pays_once {w₀ w : World} {tr : List Action}
    (h₀ : Genesis w₀) (hjobs : NoJobs tr)
    (hm : Meets (step env) Single w₀ tr)
    (hrun : run (step env) w₀ tr = .ok w) (key : String × String) :
    w.store.paidUnder Purpose.isHeader key ≤ 1 := by
  refine run_induct_cut (P := TwoTables w₀.store.db)
    (I := fun w => w.store.paidUnder Purpose.isHeader key ≤ 1)
    ?_ ?_ ?_ hm hrun
  · intro p q m htr hp hrunp
    refine run_twoTables h₀ ?_ hp hrunp
    intro a ha
    apply hjobs
    rw [htr]
    exact List.mem_append_left q ha
  · intro a m m' hP hP' h hcond hstep
    rcases step_ok hstep with
      ⟨q, now, -, rfl⟩ | ⟨i, c, op, k, rfl, hi, hy⟩
    · exact h
    · have hs := resume_store hi hy
      exact single_step hP hP' hs (hcond.2 op (awaited_of hi)).2 key h
  · unfold Store.paidUnder
    rw [h₀.payouts]
    exact Nat.zero_le _

/-- A verification and its settlement. -/
theorem signed_pays_once_settled :
    ∃ w, run (step Concrete.env) Concrete.start Concrete.settledRun = .ok w
      ∧ w.store.paidUnder Purpose.isHeader ("payer", "n1") = 1
      ∧ w.store.paidUnder Purpose.isHeader ("payer", "n1") ≤ 1 := by
  obtain ⟨w, hrun, hpaid⟩ := check_ok (show Exec.check (fun w : World =>
      decide (w.store.paidUnder Purpose.isHeader ("payer", "n1") = 1))
      (run (step Concrete.env) Concrete.start Concrete.settledRun) = true
    by decide)
  have hm : Meets (step Concrete.env) Single Concrete.start
      Concrete.settledRun := by
    apply meets_of_check fun a w h => of_decide_eq_true (p := Single a w) h
    decide
  have hjobs : NoJobs Concrete.settledRun := by decide
  exact ⟨w, hrun, of_decide_eq_true hpaid,
    signed_pays_once Concrete.start_genesis hjobs hm hrun _⟩

/-- The header of a Kizuna settlement, presented again without the
requirement: the reservation table is not asked, and the merchant is paid
a second time. -/
theorem signed_pays_twice :
    ∃ w, Genesis Concrete.start ∧ NoJobs Concrete.bothRun
      ∧ run (step Concrete.env) Concrete.start Concrete.bothRun = .ok w
      ∧ w.store.paidUnder Purpose.isHeader ("payer", "n1") = 2 := by
  obtain ⟨w, hrun, hpaid⟩ := check_ok (show Exec.check (fun w : World =>
      decide (w.store.paidUnder Purpose.isHeader ("payer", "n1") = 2))
      (run (step Concrete.env) Concrete.start Concrete.bothRun) = true
    by decide)
  have hjobs : NoJobs Concrete.bothRun := by decide
  exact ⟨w, Concrete.start_genesis, hjobs, hrun, of_decide_eq_true hpaid⟩

end KamiyoProtocol.Facilitator
