/-
What stands behind the payments out of the facilitator's wallet.

A payment is vouched for when it is made by a reservation that is large
enough, and prefunded or of an approved decision, and a reservation keeps
that for good. Once it is booked the reservation's lock is spent or its
debt open, and a reservation pays once. So the wallet fronts nothing, if
it pays on such reservations only and what it pays is booked.
-/
import KamiyoProtocol.Facilitator.Payouts

namespace KamiyoProtocol.Facilitator

open Exec Await Keyed

variable {env : Env} {s s' : Store}

-- ==== vouching

/-- A reservation that is prefunded, or of an approved decision, is as large
as the payment. -/
def Store.Vouches (s : Store) (o : Payout) : Prop :=
  ∃ id row d, o.order.purpose.reservation = some id
    ∧ s.db.reservations[id]? = some row
    ∧ s.db.decisions[row.decisionId]? = some d
    ∧ (row.isPrefundedEnterprise ∨ d.approved = true)
    ∧ o.moved ≤ row.amountMicro

theorem Store.Vouches.later {o : Payout} (h : s.Vouches o) (hs : Extends s s') :
    s'.Vouches o := by
  obtain ⟨id, row, d, hid, hrow, hd, happroved, hmoved⟩ := h
  obtain ⟨status, settlementId, txHash, hrow'⟩ := hs.reservations id row hrow
  exact ⟨id, _, d, hid, hrow', hs.decision hd, happroved, hmoved⟩

/-- A payment out of the facilitator's wallet is made on a reservation that
is prefunded, or of an approved decision, and within its amount. -/
def Choice.Secures (c : Choice) (op : Op) (s : Store) : Prop :=
  ∀ o ∈ op.fronted, c.pays .facilitator o →
    ∃ id ∈ o.purpose.reservation, ∃ row ∈ s.db.reservations[id]?,
      o.amount ≤ row.amountMicro
        ∧ ∃ d ∈ s.db.decisions[row.decisionId]?,
          row.isPrefundedEnterprise ∨ d.approved = true
  deriving Decidable

theorem vouches_step {op : Op} {c : Choice} (hc : c.Secures op s)
    (h : ∀ o ∈ s.payouts, o.source = .facilitator → s.Vouches o) :
    ∀ o ∈ (perform op c s).1.payouts, o.source = .facilitator →
      (perform op c s).1.Vouches o := by
  have hs := perform_extends op c s
  intro o ho hsource
  rcases mem_payouts ho with hold | ⟨source, order, horder, hpays, rfl⟩
  · exact (h o hold hsource).later hs
  · cases hsource
    have hfronted : order ∈ op.fronted := by
      cases op with
      | settlePayment o =>
        cases horder
        rfl
      | _ => cases horder
    obtain ⟨id, hid, row, hrow, hamount, d, hd, happroved⟩ :=
      hc order hfronted hpays
    have hvouched : s.Vouches (c.payout .facilitator order) :=
      ⟨id, row, d, hid, hrow, hd, happroved, (moved_le hpays).trans hamount⟩
    exact hvouched.later hs

-- ==== debts

theorem Booked.debt_origin {db db' : Db} {op : Op} (h : Booked db db' op)
    {d' : Debt} (hd' : d' ∈ db'.debts) :
    (∃ d ∈ db.debts, d.continues d')
      ∨ ∃ p row d, op = .finalizeKizunaSettlement p
        ∧ db.reservations[p.reservationId]? = some row
        ∧ db.decisions[row.decisionId]? = some d
        ∧ d' = Db.debtRow row d.repayWallet d.decisionEnvelopeHash p := by
  have hsame : db'.debts = db.debts → ∃ d ∈ db.debts, d.continues d' := by
    intro heq
    rw [heq] at hd'
    exact ⟨d', hd', d'.continues_rfl⟩
  cases h with
  | aside decisions settlements guards sessions same grown merchants =>
    exact Or.inl (hsame (by rw [same]))
  | settlement row same => exact Or.inl (hsame (by rw [same]))
  | reserve p sent now stored done =>
    obtain ⟨-, -, ⟨_, _, hdb⟩, -⟩ := Db.create_ok done
    exact Or.inl (hsame (by rw [hdb]))
  | release id status done =>
    rcases Db.release_ok done with hrefl | ⟨_, _, _, ⟨_, _, hdb⟩, -⟩
    · exact Or.inl (hsame (by rw [hrefl]))
    · exact Or.inl (hsame (by rw [hdb]))
  | consume p now v done =>
    obtain ⟨row, d, hrow, hd, -, -, -, hdebts, -⟩ := Db.finalize_ok done
    by_cases hprefunded : row.isPrefundedEnterprise
    · rw [if_pos hprefunded] at hdebts
      exact Or.inl (hsame hdebts)
    · rw [if_neg hprefunded] at hdebts
      rw [hdebts] at hd'
      obtain ⟨-, hnew | ⟨i, old, txHash, hash, hold, hset⟩⟩ :=
        Db.upsertDebt_debts db
          (Db.debtRow row d.repayWallet d.decisionEnvelopeHash p)
      · rw [hnew] at hd'
        rcases List.mem_append.mp hd' with hmem | heq
        · exact Or.inl ⟨d', hmem, d'.continues_rfl⟩
        · rw [List.mem_singleton] at heq
          exact Or.inr ⟨p, row, d, rfl, hrow, hd, heq⟩
      · rw [hset] at hd'
        rcases List.mem_or_eq_of_mem_set hd' with hmem | heq
        · exact Or.inl ⟨d', hmem, d'.continues_rfl⟩
        · subst heq
          exact Or.inl ⟨old, List.mem_of_getElem? hold, rfl⟩
  | repay p done =>
    obtain ⟨_, _, _, hdb, hrepays⟩ := db.repay_eq p
    rw [done, hdb] at hd'
    obtain ⟨i, hi⟩ := List.mem_iff_getElem?.mp hd'
    obtain ⟨hlt, hval⟩ := List.getElem?_eq_some_iff.mp hi
    have hlt' : i < db.debts.length := by
      rw [hrepays.length_eq]
      exact hlt
    have hrel := hrepays.get hlt' hlt
    rw [List.get_eq_getElem, List.get_eq_getElem, hval] at hrel
    exact Or.inl ⟨_, List.getElem_mem hlt', Repays.continues hrel⟩
  | fund p v done =>
    rcases Db.fund_booked done with hrefl | ⟨⟨_, hdb⟩, -⟩
    · exact Or.inl (hsame (by rw [hrefl]))
    · exact Or.inl (hsame (by rw [hdb]))
  | collateral p v done =>
    rcases Db.collateral_ok done with hrefl | ⟨_, _, _, _, -, hdb⟩
    · exact Or.inl (hsame (by rw [hrefl]))
    · exact Or.inl (hsame (by rw [hdb]))

/-- The debt's principal is what its reservation was made for. -/
def Store.Owes (s : Store) (d : Debt) : Prop :=
  ∃ row, s.db.reservations[d.reservationId]? = some row
    ∧ d.principalMicro = row.amountMicro

theorem owes_step {op : Op} {c : Choice} (h : ∀ d ∈ s.db.debts, s.Owes d) :
    ∀ d ∈ (perform op c s).1.db.debts, (perform op c s).1.Owes d := by
  have hs := perform_extends op c s
  intro d' hd'
  rcases (perform_booked op c s).debt_origin hd' with
    ⟨d, hd, hkeeps⟩ | ⟨p, row, d, rfl, hrow, -, rfl⟩
  · obtain ⟨row, hrow, hprincipal⟩ := h d hd
    obtain ⟨status, settlementId, txHash, hrow'⟩ := hs.reservations _ row hrow
    unfold Debt.continues at hkeeps
    rw [hkeeps]
    exact ⟨_, hrow', hprincipal⟩
  · obtain ⟨status, settlementId, txHash, hrow'⟩ := hs.reservations _ row hrow
    exact ⟨_, hrow', rfl⟩

-- ==== duties

/-- The settlement was paid: by the payer, or on a reservation that is
consumed. -/
def Store.Paid (settlementId : Nat) (s : Store) : Prop :=
  ∃ o ∈ s.payouts, o.order.settlementId = some settlementId
    ∧ (o.source = .payer ∨ ∃ id row, o.order.purpose.reservation = some id
      ∧ s.db.reservations[id]? = some row ∧ row.status = .consumed)

theorem Store.Paid.later {id : Nat} (h : s.Paid id) (hs : Extends s s') :
    s'.Paid id := by
  obtain ⟨o, ho, hid, hpaid⟩ := h
  refine ⟨o, hs.payouts.subset ho, hid, ?_⟩
  rcases hpaid with hpayer | ⟨rid, row, hrid, hrow, hconsumed⟩
  · exact Or.inl hpayer
  · have hended : row.status ≠ .reserved := by
      rw [hconsumed]
      decide
    exact Or.inr ⟨rid, row, hrid, hs.final rid row hrow hended, hconsumed⟩

/-- A new settlement answered with success was paid so. -/
def coverDuty : Contract Store Choice Op Op.Res Response where
  rely := Extends
  refl _ := Extends.refl
  trans _ _ _ := Extends.trans
  allowed op c s := c.Secures op s
  owes _ _ _ := True
  ends r s :=
    match r with
    | .settled x => x.idempotent = false → ∃ id ∈ x.settlementId, s.Paid id
    | _ => True
  lasts r s s' hs h := by
    cases r with
    | settled x =>
      intro hnew
      obtain ⟨id, hid, hpaid⟩ := h hnew
      exact ⟨id, hid, hpaid.later hs⟩
    | _ => trivial

theorem coverDuty_only {f : Op → Bool} {p : Handler} (h : Only f replays p) :
    Safe perform coverDuty p s := by
  apply h.safe
  · exact fun _ _ _ _ _ => trivial
  · intro r s hr
    cases r with
    | settled x =>
      intro hnew
      have hold : x.idempotent = true := hr
      rw [hnew] at hold
      cases hold
    | _ => trivial

theorem coverDuty_paid {source : Source} {o : Order} {c : Choice}
    {settlementId : Nat} (hid : o.settlementId = some settlementId)
    (hpays : c.pays source o) (hsource : source = .payer) :
    (transfer c s source o).1.Paid settlementId := by
  refine ⟨c.payout source o, ?_, hid, Or.inl hsource⟩
  rw [transfer_payouts, if_pos hpays]
  exact List.mem_append_right _ (List.mem_singleton_self _)

theorem paid_carried (id : Nat) : Carried coverDuty (Store.Paid id) where
  later _ _ hs h := h.later hs
  moves op c s _ := perform_extends op c s

theorem recordPayment_coverDuty {payer nonce network : String}
    {amount id : Nat} {onchain : Onchain} (h : s.Paid id) :
    Safe perform coverDuty
      (recordPayment payer nonce network amount id onchain) s := by
  have hcarried := paid_carried id
  have hanswer : ∀ s' : Store, s'.Paid id → Safe perform coverDuty
      (.done (.settled ⟨some id, onchain.txHash, payer, amount,
        onchain.fee, network, false, none⟩)) s' :=
    fun s' hpaid _ => ⟨id, rfl, hpaid⟩
  have hrescue : ∀ s' : Store, s'.Paid id → Safe perform coverDuty
      (ignore (.setPaymentNonceTxHash payer nonce onchain.txHash)
        (.done (.settled ⟨some id, onchain.txHash, payer, amount,
          onchain.fee, network, false, none⟩))) s' :=
    fun s' hpaid => carry_ignore hcarried hpaid (fun _ _ => trivial) hanswer
  unfold recordPayment
  dsimp only
  apply carry_attempt hcarried h (fun _ _ => trivial)
  · exact fun e => hrescue
  intro now₁ u₁ s₁ h₁
  apply carry_attempt hcarried h₁ (fun _ _ => trivial)
  · exact fun e => hrescue
  intro now₂ u₂ s₂ h₂
  apply carry_attempt hcarried h₂ (fun _ _ => trivial)
  · exact fun e => hrescue
  · exact fun now u => hanswer

theorem finalize_consumes {p : FinalizeSettlement} {c : Choice}
    {v : FinalizeResult}
    (h : (perform (.finalizeKizunaSettlement p) c s).2.value = .ok v) :
    ∃ row, (perform (.finalizeKizunaSettlement p) c
        s).1.db.reservations[p.reservationId]? = some row
      ∧ row.status = .consumed := by
  obtain ⟨db, hfinalize, hstore⟩ := commit_ok h
  obtain ⟨row, d, hrow, -, -, -, ⟨_, _, _, _, hdb⟩, -, -⟩ :=
    Db.finalize_ok hfinalize
  obtain ⟨hlt, -⟩ := List.getElem?_eq_some_iff.mp hrow
  refine ⟨Db.consumed row p, ?_, rfl⟩
  show (commit c s _).1.db.reservations[p.reservationId]? = _
  rw [hstore, hdb]
  exact List.getElem?_set_self hlt

theorem paySettle_coverDuty {q : SettleRequest} {a : Accepted}
    {r : ReservationView} {hash : Option String} :
    Safe perform coverDuty (paySettle env q a r hash) s := by
  have habandon : ∀ settlementId paid message s, Safe perform coverDuty
      (abandon r.id settlementId paid message) s :=
    fun _ _ _ _ => coverDuty_only abandon_only
  apply safe_attempt (fun _ _ => trivial)
  · exact fun _ _ _ _ _ _ => habandon _ _ _ _
  intro s₁ c₁ feeBps _ _ _
  apply safe_attempt (fun _ _ => trivial)
  · exact fun _ _ _ _ _ _ => habandon _ _ _ _
  intro s₂ c₂ settlement _ _ _
  apply safe_attempt (fun _ _ => trivial)
  · exact fun _ _ _ _ _ _ => habandon _ _ _ _
  intro s₃ c₃ onchain _ _ honchain
  obtain ⟨hpays, -⟩ := transfer_paid honchain
  apply safe_attempt (fun _ _ => trivial)
  · exact fun _ _ _ _ _ _ => habandon _ _ _ _
  intro s₄ c₄ result hs₄ _ hresult
  -- the payment is among those made, its reservation is consumed
  have hpaid : (perform (.finalizeKizunaSettlement {
      reservationId := r.id
      settlementId := settlement.id
      txHash := onchain.txHash
      feeAmount := onchain.fee
      lane := some q.kizuna.lane
      poolId := some a.poolId
      decisionEnvelopeHash := hash }) c₄ s₄).1.Paid settlement.id := by
    obtain ⟨row', hrow', hconsumed⟩ := finalize_consumes hresult
    refine ⟨c₃.payout .facilitator ⟨.credit r.id, a.payment.payer,
      a.payment.nonce, some settlement.id, a.network, q.merchantWallet,
      a.amount, feeBps⟩, ?_, rfl,
      Or.inr ⟨r.id, row', rfl, hrow', hconsumed⟩⟩
    apply (perform_extends _ c₄ s₄).payouts.subset
    apply hs₄.payouts.subset
    rw [perform_payouts]
    apply List.mem_append_right
    show _ ∈ (if c₃.pays .facilitator _ then [c₃.payout _ _] else [])
    rw [if_pos hpays]
    exact List.mem_singleton_self _
  have hcarried := paid_carried settlement.id
  have hanswer : ∀ event committed (s' : Store), s'.Paid settlement.id →
      Safe perform coverDuty
        (answerSettle a onchain settlement.id result event committed) s' :=
    fun _ _ s' hpaid _ => ⟨settlement.id, rfl, hpaid⟩
  apply carry_attempt hcarried hpaid (fun _ _ => trivial)
  · exact fun _ _ _ => habandon _ _ _ _
  intro now₅ event s₅ h₅
  apply carry_attempt hcarried h₅ (fun _ _ => trivial)
  · intro e s₆ h₆
    unfold uncommitted
    split
    · exact trivial
    · exact hanswer _ _ s₆ h₆
  · exact fun now u => hanswer _ _

theorem settle_coverDuty (q : SettleRequest) (now : Nat) (s : Store) :
    Safe perform coverDuty (settleKizuna env q now) s := by
  apply safe_check (fun _ => trivial)
  intro a _
  apply safe_call (fun _ _ => trivial) (fun _ _ => trivial)
  intro s₁ c₁ account _ _ _
  apply safe_check (fun _ => trivial)
  intro u _
  apply safe_call (fun _ _ => trivial) (fun _ _ => trivial)
  intro s₂ c₂ view _ _ _
  apply safe_check (fun _ => trivial)
  intro r _
  unfold settleReservation
  split
  · exact coverDuty_only replay_only
  · split
    · exact trivial
    · split
      · exact safe_ignore (fun _ _ => trivial) fun _ _ _ _ => trivial
      · exact safe_check (fun _ => trivial) fun hash _ => paySettle_coverDuty

theorem paySession_coverDuty {q : PaymentRequest} {network hash nonce : String}
    {session : PaymentSession} {micro : Nat} : Safe perform coverDuty
      (paySession q network hash nonce session micro) s := by
  unfold paySession
  dsimp only
  apply safe_attempt (fun _ _ => trivial)
  · exact fun _ _ _ _ _ _ => coverDuty_only abandonSession_only
  intro s₁ c₁ settlement _ _ _
  apply safe_ignore (fun _ _ => trivial)
  intro s₂ c₂ _ _
  apply safe_attempt (fun _ _ => trivial)
  · exact fun _ _ _ _ _ _ => coverDuty_only abandonSession_only
  intro s₃ c₃ feeBps _ _ _
  apply safe_attempt (fun _ _ => trivial)
  · exact fun _ _ _ _ _ _ => coverDuty_only abandonSession_only
  intro s₄ c₄ onchain _ _ honchain
  obtain ⟨hpays, -⟩ := transfer_paid honchain
  exact recordPayment_coverDuty (coverDuty_paid rfl hpays rfl)

theorem payExact_coverDuty {q : PaymentRequest} {network : String}
    {payment : Payment} {amount id : Nat} : Safe perform coverDuty
      (payExact env q network payment amount id) s := by
  -- the facilitator's wallet does not pay for these
  have hfront : ∀ (order : Order) (s : Store), order.purpose = .exact →
      Safe perform coverDuty (attempt (.settlePayment order) (failExact id)
        fun _ (onchain : Onchain) => recordPayment payment.payer
          payment.nonce network amount id onchain) s := by
    intro order s hexact
    apply safe_attempt (fun _ _ => trivial)
    · exact fun _ _ _ _ _ _ => coverDuty_only failExact_only
    intro s₁ c₁ onchain _ hc₁ honchain
    obtain ⟨hpays, -⟩ := transfer_paid honchain
    obtain ⟨rid, hrid, -⟩ := hc₁ order rfl hpays
    rw [hexact] at hrid
    cases hrid
  have hrefuse : ∀ x s, Safe perform coverDuty
      (refuseAuthorization payment id x) s :=
    fun _ _ => coverDuty_only refuse_only
  unfold payExact
  dsimp only
  apply safe_attempt (fun _ _ => trivial)
  · exact fun _ _ _ _ _ _ => coverDuty_only failExact_only
  intro s₁ c₁ feeBps _ _ _
  split
  · split
    · exact hrefuse _ _
    · exact hfront _ _ rfl
    · unfold payAuthorized
      dsimp only
      apply safe_attempt (fun _ _ => trivial)
      · exact fun _ _ _ _ _ _ => hrefuse _ _
      intro s₂ c₂ hasCode _ _ _
      split
      · exact hrefuse _ _
      · next order horder =>
          obtain ⟨total, rfl⟩ := checkAuthorization_ok horder
          apply safe_attempt (fun _ _ => trivial)
          · exact fun _ _ _ _ _ _ => hrefuse _ _
          intro s₃ c₃ verifyingContract _ _ _
          split
          · exact hrefuse _ _
          · apply safe_attempt (fun _ _ => trivial)
            · exact fun _ _ _ _ _ _ => hrefuse _ _
            intro s₄ c₄ onchain _ _ honchain
            obtain ⟨hpays, -⟩ := transfer_paid honchain
            exact recordPayment_coverDuty (coverDuty_paid rfl hpays rfl)
  · exact hfront _ _ rfl

theorem plain_coverDuty (q : PaymentRequest) (now : Nat) (s : Store) :
    Safe perform coverDuty (settlePlain env q now) s := by
  apply safe_check (fun _ => trivial)
  intro x _
  dsimp only
  split
  · apply safe_check (fun _ => trivial)
    intro y _
    apply safe_call (fun _ _ => trivial) (fun _ _ => trivial)
    intro s₁ c₁ found _ _ _
    apply safe_check (fun _ => trivial)
    intro z _
    apply safe_attempt (fun _ _ => trivial)
    · exact fun _ _ _ _ _ _ => trivial
    intro s₂ c₂ nonceReserved _ _ _
    split
    · apply safe_call (fun _ _ => trivial) (fun _ _ => trivial)
      intro s₃ c₃ budgetReserved _ _ _
      split
      · exact paySession_coverDuty
      · exact safe_ignore (fun _ _ => trivial) fun _ _ _ _ => trivial
    · exact coverDuty_only replayPayment_only
  · apply safe_check (fun _ => trivial)
    intro y _
    apply safe_call (fun _ _ => trivial) (fun _ _ => trivial)
    intro s₁ c₁ nonceReserved _ _ _
    split
    · apply safe_call (fun _ _ => trivial) (fun _ _ => trivial)
      intro s₂ c₂ settlement _ _ _
      apply safe_ignore (fun _ _ => trivial)
      exact fun _ _ _ _ => payExact_coverDuty
    · exact coverDuty_only replayPayment_only

theorem coverDuty_safe (q : Request) (now : Nat) (s : Store) :
    Safe perform coverDuty (route env now q) s := by
  cases q with
  | settle q => exact settle_coverDuty q now s
  | pay q => exact plain_coverDuty q now s
  | verify q => exact coverDuty_only (verify_only q now)
  | escrow q => exact coverDuty_only (escrow_only q now)
  | authorize hash session =>
    exact coverDuty_only (route_only (.authorize hash session) now)
  | revoke hash => exact coverDuty_only (route_only (.revoke hash) now)
  | repay q => exact coverDuty_only (repay_only q)
  | deposit q => exact coverDuty_only (deposit_only q)
  | withdraw q => exact coverDuty_only (withdraw_only q)
  | fund q eventType => exact coverDuty_only (fund_only q eventType)
  | reserveJob q => exact coverDuty_only (reserveJob_only q)
  | releaseJob id status =>
    exact coverDuty_only (route_only (.releaseJob id status) now)
  | settleJob q => exact coverDuty_only (settleJob_only q)

-- ==== runs

/-- What is paid is booked, and the facilitator's wallet pays only on
reservations that are prefunded or of approved decisions. -/
def Secure (a : Action) (w : World) : Prop :=
  Orderly a w ∧ AtOp (fun c op w => c.Secures op w.store) a w
  deriving Decidable

/-- Reservation `id` backs the payment: it is consumed, and its lock, which is
spent then, is worth what was paid, or the debt it left is and its decision
was approved. -/
structure Store.Backs (s : Store) (o : Payout) (id : Nat)
    (row : Reservation) : Prop where
  purpose : o.order.purpose.reservation = some id
  recorded : s.db.reservations[id]? = some row
  approved : ∃ d, s.db.decisions[row.decisionId]? = some d
    ∧ (row.isPrefundedEnterprise ∨ d.approved = true)
  consumed : row.status = .consumed
  value : if row.isPrefundedEnterprise then o.moved ≤ row.lockedMicro
    else ∃ d ∈ s.db.debts, d.reservationId = id ∧ o.moved ≤ d.principalMicro

theorem run_locked {w₀ w : World} {tr : List Action} (h₀ : Genesis w₀)
    {cond : Action → World → Prop} (hm : Meets (step env) cond w₀ tr)
    (hrun : run (step env) w₀ tr = .ok w) :
    w.store.db.AllRows fun r =>
      r.fundingMode = .prefunded → r.lockedMicro = r.amountMicro := by
  refine run_allRows (fun _ _ => True) cond ?_ ?_ ?_ h₀ hm hrun
  · exact fun _ _ _ _ _ _ => trivial
  · exact fun r _ _ _ h => h
  · apply rowDuty_safe
    · exact fun q a f account mandate collateral c id now _ hmode =>
        if_pos hmode
    · exact fun p hp now hmode => (hp hmode).2

theorem exists_debt {db : Db} {id : Nat} (h : 0 < db.debtsOf id) :
    ∃ d ∈ db.debts, d.reservationId = id := by
  by_contra hnone
  have hzero : db.debtsOf id = 0 := by
    apply List.sum_eq_zero
    intro n hn
    obtain ⟨d, hd, rfl⟩ := List.mem_map.mp hn
    exact if_neg fun heq => hnone ⟨d, hd, heq⟩
  omega

/-- What a run keeps for the payments it makes. -/
structure CoveredRun (base : Db) (w : World) : Prop
    extends BalancedRun base w where
  vouched : ∀ o ∈ w.store.payouts, o.source = .facilitator → w.store.Vouches o
  owed : ∀ d ∈ w.store.db.debts, w.store.Owes d
  locked : w.store.db.AllRows fun r =>
    r.fundingMode = .prefunded → r.lockedMicro = r.amountMicro
  answered : AllSafe perform coverDuty w

theorem run_covered {w₀ w : World} {tr : List Action} (h₀ : Genesis w₀)
    (hjobs : NoJobs tr) (hm : Meets (step env) Secure w₀ tr)
    (hrun : run (step env) w₀ tr = .ok w) : CoveredRun w₀.store.db w := by
  have horderly := meets_mono (fun a w h => h.1) hm
  have hsecures := meets_mono (fun a w h => h.2) hm
  refine ⟨run_balanced h₀ hjobs horderly hrun, ?_, ?_,
    run_locked h₀ hm hrun, ?_⟩
  · refine run_store (I := fun s => ∀ o ∈ s.payouts,
      o.source = .facilitator → s.Vouches o) ?_ ?_ hsecures hrun
    · exact fun op c w hc h => vouches_step hc h
    · rw [h₀.payouts]
      intro o ho
      cases ho
  · refine run_store (I := fun s => ∀ d ∈ s.db.debts, s.Owes d) ?_ ?_
      hsecures hrun
    · exact fun op c w _ h => owes_step h
    · rw [h₀.debts]
      intro d hd
      cases hd
  · refine run_safe ?_ ?_ ?_ h₀.progs hsecures hrun
    · exact fun op c s _ => perform_extends op c s
    · exact fun q now w _ => coverDuty_safe q now w.store
    · exact fun i c w op hop hcond => hcond op hop

theorem CoveredRun.backs {base : Db} {w : World} (h : CoveredRun base w)
    {o : Payout} (ho : o ∈ w.store.payouts) (hsource : o.source = .facilitator)
    {id : Nat} {row : Reservation} (hid : o.order.purpose.reservation = some id)
    (hrow : w.store.db.reservations[id]? = some row)
    (hconsumed : row.status = .consumed) : w.store.Backs o id row := by
  obtain ⟨id', row', d, hid', hrow', hd, happroved, hmoved⟩ :=
    h.vouched o ho hsource
  rw [hid] at hid'
  cases hid'
  rw [hrow] at hrow'
  cases hrow'
  refine ⟨hid, hrow, ⟨d, hd, happroved⟩, hconsumed, ?_⟩
  have hdebts := h.books.debtsOf_consumed hrow hconsumed
  by_cases hprefunded : row.isPrefundedEnterprise
  · rw [if_pos hprefunded]
    have hlocked := h.locked row (List.mem_of_getElem? hrow) hprefunded.2
    omega
  · rw [if_neg hprefunded] at hdebts ⊢
    obtain ⟨debt, hdebt, hof⟩ :=
      exists_debt (show 0 < w.store.db.debtsOf id by omega)
    obtain ⟨row', hrow', hprincipal⟩ := h.owed debt hdebt
    rw [hof, hrow] at hrow'
    cases hrow'
    exact ⟨debt, hdebt, hof, by omega⟩

/-- Every new settlement answered with success is paid by the payer, or
out of the facilitator's wallet on a reservation that backs it; once all
requests have returned nothing else has left the wallet, and a
reservation backs one payment. What backs is a debt or a lock, and the
locks of consumed reservations make up what is spent. -/
structure Secured (base : Db) (w : World) : Prop where
  answered : ∀ x, .done (.settled x) ∈ w.progs → x.idempotent = false →
    ∃ settlementId ∈ x.settlementId, ∃ o ∈ w.store.payouts,
      o.order.settlementId = some settlementId
        ∧ (o.source = .payer ∨ ∃ id row, w.store.Backs o id row)
  fronted : Quiet w → ∀ o ∈ w.store.payouts, o.source = .facilitator →
    ∃ id row, w.store.Backs o id row
  once : ∀ id, w.store.payoutsOf id ≤ 1
  spent : ∀ key, (w.store.db.balance key).spentMicro
    = (base.balance key).spentMicro
      + w.store.db.reservedSum Reservation.spentMicro key

/-- Where the facilitator's wallet pays only on reservations that are
prefunded or of approved decisions, and what it pays is booked, no
unsecured liquidity is fronted. -/
theorem nothing_fronted {w₀ w : World} {tr : List Action}
    (h₀ : Genesis w₀) (hjobs : NoJobs tr)
    (hm : Meets (step env) Secure w₀ tr)
    (hrun : run (step env) w₀ tr = .ok w) : Secured w₀.store.db w := by
  have h := run_covered h₀ hjobs hm hrun
  refine ⟨?_, ?_, h.books.once, fun key => (h.balances key).spent⟩
  · intro x hx hnew
    obtain ⟨settlementId, hsettlement, o, ho, hfor, hpaid⟩ :=
      h.answered _ hx hnew
    refine ⟨settlementId, hsettlement, o, ho, hfor, ?_⟩
    rcases hpaid with hpayer | ⟨id, row, hid, hrow, hconsumed⟩
    · exact Or.inl hpayer
    · cases hsource : o.source with
      | payer => exact Or.inl rfl
      | facilitator =>
        exact Or.inr ⟨id, row, h.backs ho hsource hid hrow hconsumed⟩
  · intro hquiet o ho hsource
    obtain ⟨id, -, -, hid, -⟩ := h.vouched o ho hsource
    obtain ⟨i, hi⟩ := List.mem_iff_getElem?.mp ho
    have hpos : 0 < w.store.payoutsOf id := by
      have hle := le_sum (fun o : Payout =>
        if o.order.purpose.reservation = some id then 1 else 0) hi
      rw [if_pos hid] at hle
      exact hle
    obtain ⟨row, hrow, hbooked⟩ := h.books.paid_row hpos
    exact ⟨id, row,
      h.backs ho hsource hid hrow (hbooked (total_returned _ hquiet))⟩

/-- A Kizuna settlement of the enterprise lane, paid out of the wallet and
out of the lock. -/
theorem nothing_fronted_settled :
    ∃ w, run (step Concrete.env) Concrete.start Concrete.settledRun = .ok w
      ∧ w.store.payoutsOf 0 = 1
      ∧ Secured Concrete.start.store.db w := by
  obtain ⟨w, hrun, hpaid⟩ := check_ok (show Exec.check (fun w : World =>
      decide (w.store.payoutsOf 0 = 1))
      (run (step Concrete.env) Concrete.start Concrete.settledRun) = true
    by decide)
  have hm : Meets (step Concrete.env) Secure Concrete.start
      Concrete.settledRun := by
    apply meets_of_check fun a w h => of_decide_eq_true (p := Secure a w) h
    decide
  have hjobs : NoJobs Concrete.settledRun := by decide
  exact ⟨w, hrun, of_decide_eq_true hpaid,
    nothing_fronted Concrete.start_genesis hjobs hm hrun⟩

/-- A signed payment on Solana: the facilitator's wallet pays the merchant
and nobody owes it anything. -/
theorem exact_fronts :
    ∃ w, Genesis Concrete.start ∧ NoJobs Concrete.exactRun
      ∧ run (step Concrete.env) Concrete.start Concrete.exactRun = .ok w
      ∧ Quiet w
      ∧ (∃ o ∈ w.store.payouts, o.source = .facilitator ∧ o.moved = 1000000)
      ∧ w.store.db.debts = [] ∧ w.store.db.reservations = []
      ∧ ¬ Secured Concrete.start.store.db w := by
  obtain ⟨w, hrun, htest⟩ := check_ok (show Exec.check (fun w : World =>
      w.progs.all (fun p => (awaited p).isNone)
        && decide (∃ o ∈ w.store.payouts,
          o.source = .facilitator ∧ o.moved = 1000000)
        && decide (w.store.db.debts = [])
        && decide (w.store.db.reservations = []))
      (run (step Concrete.env) Concrete.start Concrete.exactRun) = true
    by decide)
  simp only [Bool.and_eq_true, decide_eq_true_eq] at htest
  obtain ⟨⟨⟨hreturned, hpaid⟩, hdebts⟩, hrows⟩ := htest
  have hquiet : Quiet w := by
    intro p hp
    have hnone := List.all_eq_true.mp hreturned p hp
    cases p with
    | done r => trivial
    | await op k => cases hnone
  have hjobs : NoJobs Concrete.exactRun := by decide
  refine ⟨w, Concrete.start_genesis, hjobs, hrun, hquiet, hpaid, hdebts,
    hrows, ?_⟩
  intro h
  obtain ⟨o, ho, hsource, -⟩ := hpaid
  obtain ⟨id, row, hbacks⟩ := h.fronted hquiet o ho hsource
  have hrow := hbacks.recorded
  rw [hrows] at hrow
  cases hrow

end KamiyoProtocol.Facilitator
