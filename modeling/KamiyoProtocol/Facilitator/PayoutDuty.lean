/-
The duty of a settlement.

A request pays a credit only under a settlement it has just recorded, and
books the payment next if it went well. No other request pays or books a
credit, but for the settlement of a job.
-/
import KamiyoProtocol.Facilitator.Duties

namespace KamiyoProtocol.Facilitator

open Exec Await

-- ==== settling

/-- The route has paid for the reservation and is to book it. -/
def Op.finalizes (id : Nat) : Op → Bool
  | .finalizeKizunaSettlement p => decide (p.reservationId = id)
  | _ => false

/-- The reservation an operation pays on. -/
def Op.paysFor (op : Op) : Option Nat :=
  op.order.bind fun x => x.2.purpose.reservation

/-- The route pays, or books, a credit under the settlement. -/
def Op.settlesUnder (settlementId : Nat) : Op → Bool
  | .settlePayment o => decide (o.purpose.reservation ≠ none
      ∧ o.settlementId = some settlementId)
  | .finalizeKizunaSettlement p => decide (p.settlementId = settlementId)
  | _ => false

/-- The route pays or books a credit. -/
def Op.settles : Op → Bool
  | .finalizeKizunaSettlement _ => true
  | op => decide (op.paysFor ≠ none)

variable {op : Op}

theorem Op.paysFor_settles (h : op.settles = false) :
    op.paysFor = none := by
  cases op with
  | finalizeKizunaSettlement p => cases h
  | _ => exact not_not.mp (of_decide_eq_false h)

theorem Op.finalizes_settles {id : Nat}
    (h : op.settles = false) : op.finalizes id = false := by
  cases op with
  | finalizeKizunaSettlement p => cases h
  | _ => rfl

theorem Op.settlesUnder_settles {id : Nat}
    (h : op.settles = false) : op.settlesUnder id = false := by
  cases op with
  | finalizeKizunaSettlement p => cases h
  | settlePayment o =>
    have hnone : ¬ o.purpose.reservation ≠ none := of_decide_eq_false h
    exact decide_eq_false fun h => hnone h.1
  | _ => rfl

/-- A program that awaits neither payment nor booking of a credit. -/
def Idle (p : Handler) : Prop := awaits Op.settles p = 0

theorem Idle.awaits_eq {p : Handler} (h : Idle p) {f : Op → Bool}
    (hf : ∀ op, op.settles = false → f op = false) : awaits f p = 0 := by
  cases p with
  | done a => rfl
  | await op k =>
    have hop : op.settles = false := by
      change (if op.settles then 1 else 0) = 0 at h
      by_cases hs : op.settles = true
      · rw [if_pos hs] at h
        cases h
      · simpa using hs
    show (if f op then 1 else 0) = 0
    rw [hf op hop]
    rfl

theorem idle_of_only {f : Op → Bool} {g : Response → Bool}
    (hf : ∀ op, f op = true → op.settles = false) {p : Handler}
    (h : Only f g p) : Idle p :=
  h.awaits hf

-- ==== duties

/-- The request goes on to pay under the settlement it has recorded. -/
def PaysUnder (settlementId : Nat) (p : Handler) : Prop :=
  ∃ o, awaited p = some (.settlePayment o) ∧ o.settlementId = some settlementId

/-- The request goes on to book what it has paid. -/
def Books (id settlementId : Nat) (p : Handler) : Prop :=
  ∃ f, awaited p = some (.finalizeKizunaSettlement f)
    ∧ f.reservationId = id ∧ f.settlementId = settlementId

/-- A settlement that can be booked, whatever others do. -/
structure Bookable (s : Store) (f : FinalizeSettlement) : Prop where
  row : ∃ row, s.db.reservations[f.reservationId]? = some row
    ∧ (∀ lane ∈ f.lane, lane = row.lane)
    ∧ ∀ poolId ∈ f.poolId, poolId = row.poolId
  settlement : ∃ x : Settlement, s.db.settlements[f.settlementId]? = some x
    ∧ x.merchantWallet ≠ ""

theorem Bookable.later {s s' : Store} {f : FinalizeSettlement}
    (h : Bookable s f) (hs : Extends s s') : Bookable s' f := by
  obtain ⟨⟨row, hrow, hlane, hpool⟩, x, hx, hmerchant⟩ := h
  obtain ⟨status, settlementId, txHash, hrow'⟩ := hs.reservations _ row hrow
  obtain ⟨y, hy, hyx⟩ := hs.settlements _ x hx
  refine ⟨⟨_, hrow', hlane, hpool⟩, y, hy, ?_⟩
  rw [hyx]
  exact hmerchant

/-- A request pays a credit under a settlement it has just recorded, books
the payment next if it went well, and does neither otherwise. -/
def payoutDuty : Contract Store Choice Op Op.Res Response where
  rely := Extends
  refl _ := Extends.refl
  trans _ _ _ := Extends.trans
  allowed _ _ _ := True
  owes op k s :=
    match op with
    | .insertSettlement _ =>
      (∀ now e, Idle (k ⟨now, .error e⟩))
        ∧ ∀ now (stored : Stored Settlement), Idle (k ⟨now, .ok stored⟩)
          ∨ PaysUnder stored.id (k ⟨now, .ok stored⟩)
    | .settlePayment o =>
      (∀ now e, Idle (k ⟨now, .error e⟩))
        ∧ match o.purpose.reservation with
          | none => ∀ r, Idle (k r)
          | some id => ∃ settlementId, o.settlementId = some settlementId
            ∧ ∀ now v, Books id settlementId (k ⟨now, .ok v⟩)
    | .finalizeKizunaSettlement f => Bookable s f ∧ ∀ r, Idle (k r)
    | op => op.settles = false ∧ ∀ r, Idle (k r)
  ends _ _ := True
  lasts _ _ _ _ _ := trivial

theorem payoutDuty_other {k : op.Res → Handler} {s : Store}
    (hop : op.settles = false) (hinsert : ∀ row, op ≠ .insertSettlement row)
    (hk : ∀ r, Idle (k r)) : payoutDuty.owes op k s := by
  cases op with
  | insertSettlement row => exact (hinsert row rfl).elim
  | settlePayment o =>
    refine ⟨fun _ _ => hk _, ?_⟩
    have hnone : o.purpose.reservation = none := Op.paysFor_settles hop
    rw [hnone]
    exact hk
  | finalizeKizunaSettlement f => cases hop
  | _ => exact ⟨hop, hk⟩

theorem payoutDuty_only {f : Op → Bool} {g : Response → Bool}
    (hf : ∀ op, f op = true → op.settles = false) {p : Handler} {s : Store}
    (h : Only f g p) : Safe perform payoutDuty p s := by
  apply h.safe
  · intro op k s hop hk
    have hidle : ∀ r, Idle (k r) := fun r => idle_of_only hf (hk r)
    cases op with
    | insertSettlement row =>
      exact ⟨fun _ _ => hidle _, fun _ _ => Or.inl (hidle _)⟩
    | _ => exact payoutDuty_other (hf _ hop) (by simp) hidle
  · exact fun _ _ _ => trivial

theorem Op.ofReplay_settles (h : op.ofReplay = true) :
    op.settles = false := by
  cases op with
  | settlePayment | settleAuthorizedPaymentBase | settleDelegatedPayment
  | createEscrow | finalizeKizunaSettlement => cases h
  | _ => rfl

theorem idle_onAnswer {α : Type} {onError : String → Handler}
    {k : Nat → α → Handler} (herr : ∀ e, Idle (onError e))
    (hk : ∀ now v, Idle (k now v)) (r : Answer α) :
    Idle (onAnswer onError k r) := by
  unfold onAnswer
  split
  · exact hk _ _
  · exact herr _

theorem idle_check {α : Type} {x : Except Failure α} {k : α → Handler}
    (hk : ∀ a, Idle (k a)) : Idle (check x k) := by
  cases x with
  | error f => rfl
  | ok a => exact hk a

theorem idle_abandon {id : Nat} {settlementId : Option Nat} {paid : Bool}
    {message : String} : Idle (abandon id settlementId paid message) :=
  idle_of_only (fun _ => Op.ofReplay_settles) abandon_only

variable {env : Env}

theorem paySettle_payoutDuty {q : SettleRequest} {a : Accepted}
    {r : ReservationView} {hash : Option String} {s : Store}
    (hrow : ∃ row, s.db.reservations[r.id]? = some row
      ∧ row.lane = q.kizuna.lane ∧ row.poolId = a.poolId) :
    Safe perform payoutDuty (paySettle env q a r hash) s := by
  have habandon : ∀ settlementId paid message s, Safe perform payoutDuty
      (abandon r.id settlementId paid message) s :=
    fun _ _ _ _ => payoutDuty_only (fun _ => Op.ofReplay_settles) abandon_only
  apply safe_attempt
  · exact fun s' _ => payoutDuty_other rfl (by simp)
      (idle_onAnswer (fun _ => idle_abandon) fun _ _ => rfl)
  · exact fun _ _ _ _ _ _ => habandon _ _ _ _
  intro s₁ c₁ feeBps hs₁ _ _
  apply safe_attempt
  · intro s' _
    refine ⟨fun _ e => (idle_abandon : Idle (abandon r.id none false e)), ?_⟩
    exact fun _ stored => Or.inr ⟨_, rfl, rfl⟩
  · exact fun _ _ _ _ _ _ => habandon _ _ _ _
  intro s₂ c₂ settlement hs₂ _ hsettlement
  -- the settlement is recorded, with a merchant to pay
  obtain ⟨db, hinsert, hstore⟩ := commit_ok hsettlement
  have hx : ∃ x : Settlement, db.settlements[settlement.id]? = some x
      ∧ x.merchantWallet ≠ "" := by
    cases hinsert
    refine ⟨_, List.getElem?_concat_length .., q.merchant_ne⟩
  apply safe_attempt
  · intro s' _
    refine ⟨fun _ e =>
      (idle_abandon : Idle (abandon r.id (some settlement.id) false e)), ?_⟩
    exact ⟨settlement.id, rfl, fun _ v => ⟨_, rfl, rfl, rfl⟩⟩
  · exact fun _ _ _ _ _ _ => habandon _ _ _ _
  intro s₃ c₃ onchain hs₃ _ _
  have hbookable : Bookable s₃ {
      reservationId := r.id
      settlementId := settlement.id
      txHash := onchain.txHash
      feeAmount := onchain.fee
      lane := some q.kizuna.lane
      poolId := some a.poolId
      decisionEnvelopeHash := hash } := by
    obtain ⟨row, hrow, hlane, hpool⟩ := hrow
    have hbefore : Extends s s₃ :=
      ((hs₁.trans (perform_extends _ c₁ s₁)).trans
        (hs₂.trans (perform_extends _ c₂ s₂))).trans hs₃
    obtain ⟨status, settlementId, txHash, hrow'⟩ :=
      hbefore.reservations r.id row hrow
    obtain ⟨x, hx, hmerchant⟩ := hx
    have hsince : Extends { s₂ with db := db } s₃ := by
      rw [← hstore]
      exact hs₃
    obtain ⟨y, hy, hyx⟩ := hsince.settlements settlement.id x hx
    refine ⟨⟨_, hrow', ?_, ?_⟩, y, hy, ?_⟩
    · intro lane h
      cases h
      exact hlane.symm
    · intro poolId h
      cases h
      exact hpool.symm
    · rw [hyx]
      exact hmerchant
  apply safe_attempt
  · intro s' hs'
    exact ⟨(hbookable.later (perform_extends _ c₃ s₃)).later hs',
      idle_onAnswer (fun _ => idle_abandon) fun _ _ => rfl⟩
  · exact fun _ _ _ _ _ _ => habandon _ _ _ _
  intro s₄ c₄ result _ _ _
  have hrest : Only Op.ofReplay answers
      (attempt (.getKizunaBillableSettlementEvent r.id (some settlement.id))
        (abandon r.id (some settlement.id) true)
        fun _ (event : Option (Stored BillableEvent)) =>
        attempt (.commitKizunaKernelDecision {
            decisionId := r.row.decisionId
            debtId := result.debt.map Stored.id
            settlementId := some settlement.id
            txHash := onchain.txHash
            lane := q.kizuna.lane
            poolId := a.poolId })
          (uncommitted env (answerSettle a onchain settlement.id result
            (event.map Stored.id)))
          fun _ _ => answerSettle a onchain settlement.id result
            (event.map Stored.id) true) :=
    only_attempt rfl (fun _ => only_answers abandon_only) fun _ _ =>
      only_attempt rfl (fun _ => uncommitted_only rfl) fun _ _ => rfl
  exact payoutDuty_only (fun _ => Op.ofReplay_settles) hrest

theorem settle_payoutDuty (q : SettleRequest) (now : Nat) (s : Store) :
    Safe perform payoutDuty (settleKizuna env q now) s := by
  have hdone : ∀ (x : Response) s', payoutDuty.ends x s' := fun _ _ => trivial
  have hreplay : ∀ a r s, Safe perform payoutDuty (replaySettle env a r) s :=
    fun _ _ _ => payoutDuty_only (fun _ => Op.ofReplay_settles) replay_only
  have hexpired : ∀ (id : Nat) (f : Failure) s, Safe perform payoutDuty
      (ignore (.releaseKizunaReservation id .expired) (fail f)) s := by
    intro id f s
    have honly : Only Op.ofReplay replays
        (ignore (.releaseKizunaReservation id .expired) (fail f)) :=
      only_ignore rfl (only_fail f)
    exact payoutDuty_only (fun _ => Op.ofReplay_settles) honly
  have hidle : ∀ a now r, Idle (settleReservation env q a now r) := by
    intro a now r
    unfold settleReservation
    split
    · rfl
    · split
      · rfl
      · split
        · rfl
        · exact idle_check fun _ => rfl
  apply safe_check
  · exact fun _ => hdone _ _
  intro a _
  apply safe_call
  · exact fun s' _ => payoutDuty_other rfl (by simp)
      (idle_onAnswer (fun _ => rfl) fun _ _ => idle_check fun _ => rfl)
  · exact fun e s' => hdone _ _
  intro s₁ c₁ account _ _ _
  apply safe_check
  · exact fun _ => hdone _ _
  intro u _
  apply safe_call
  · exact fun s' _ => payoutDuty_other rfl (by simp)
      (idle_onAnswer (fun _ => rfl) fun _ _ => idle_check fun _ =>
        hidle _ _ _)
  · exact fun e s' => hdone _ _
  intro s₂ c₂ view _ _ hview
  have hfound := inquire_value hview
  apply safe_check
  · exact fun _ => hdone _ _
  intro r hr
  have hrow : ∃ row, s₂.db.reservations[r.id]? = some row
      ∧ row.lane = q.kizuna.lane ∧ row.poolId = a.poolId := by
    obtain ⟨r', hsome, u₁, hmatch, u₂, -, u₃, -, hr⟩ := bind_ok₄.mp hr
    cases hr
    rw [hfound] at hsome
    obtain ⟨hi, -, -⟩ := reservationByNonce_some (okOr_ok.mp hsome)
    obtain ⟨hlane, hpool⟩ := require_ok.mp hmatch
    exact ⟨r.row, hi, hlane, hpool⟩
  unfold settleReservation
  split
  · exact hreplay a r _
  · split
    · exact hdone _ _
    · split
      · exact hexpired _ _ _
      · apply safe_check
        · exact fun _ => hdone _ _
        intro hash _
        apply paySettle_payoutDuty
        exact hrow

theorem Op.ofPlain_settles (h : op.ofPlain = true) :
    op.settles = false := by
  cases op with
  | finalizeKizunaSettlement f => cases h
  | settlePayment o =>
    have hexact : o.purpose = .exact := of_decide_eq_true h
    exact decide_eq_false fun hne => hne (by
      show o.purpose.reservation = none
      rw [hexact]
      rfl)
  | settleAuthorizedPaymentBase o =>
    have hexact : o.purpose = .exact := of_decide_eq_true h
    exact decide_eq_false fun hne => hne (by
      show o.purpose.reservation = none
      rw [hexact]
      rfl)
  | settleDelegatedPayment o =>
    have hnone : o.purpose.reservation = none := of_decide_eq_true h
    exact decide_eq_false fun hne => hne hnone
  | createEscrow o => cases h
  | _ => rfl

theorem Op.ofEscrow_settles (h : op.ofEscrow = true) :
    op.settles = false := by
  cases op with
  | createEscrow o =>
    have hescrow : o.purpose.isEscrow = true := h
    apply decide_eq_false
    intro hne
    apply hne
    show o.purpose.reservation = none
    cases hpurpose : o.purpose with
    | escrow id => rfl
    | _ =>
      rw [hpurpose] at hescrow
      cases hescrow
  | reservePaymentNonce | insertEscrowRecord | insertFeeLedger => rfl
  | _ => cases h

/-- Every request keeps to it but the settlement of a job, which books
what was paid elsewhere. -/
theorem payoutDuty_safe {q : Request} (hq : ∀ j, q ≠ .settleJob j)
    (now : Nat) (s : Store) :
    Safe perform payoutDuty (route env now q) s := by
  have hnone : (∀ op, q.uses op = true → op.settles = false) →
      Safe perform payoutDuty (route env now q) s :=
    fun huses => payoutDuty_only huses (route_only q now)
  cases q with
  | settle q => exact settle_payoutDuty q now s
  | settleJob j => exact (hq j rfl).elim
  | pay q => exact hnone fun _ => Op.ofPlain_settles
  | escrow q => exact hnone fun _ => Op.ofEscrow_settles
  | _ =>
    apply hnone
    intro op hop
    cases op with
    | finalizeKizunaSettlement | settlePayment | settleAuthorizedPaymentBase
    | settleDelegatedPayment | createEscrow => cases hop
    | _ => rfl

theorem route_idle (q : Request) (now : Nat) : Idle (route env now q) := by
  cases q with
  | verify q => exact idle_check fun _ => rfl
  | settle q => exact idle_check fun _ => rfl
  | pay q =>
    apply idle_check
    intro x
    dsimp only
    split
    · exact idle_check fun _ => rfl
    · exact idle_check fun _ => rfl
  | escrow q => exact idle_check fun _ => rfl
  | authorize hash session => rfl
  | revoke hash => rfl
  | repay | deposit | withdraw | fund
  | reserveJob => exact idle_check fun _ => rfl
  | releaseJob id status => rfl
  | settleJob q =>
    show Idle (settleJob env q)
    unfold settleJob
    dsimp only
    split
    · rfl
    · split
      · rfl
      · rfl

end KamiyoProtocol.Facilitator
