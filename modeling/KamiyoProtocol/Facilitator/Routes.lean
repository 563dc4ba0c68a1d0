/-
Which operations each route may await.
-/
import KamiyoProtocol.Facilitator.Service

namespace KamiyoProtocol.Facilitator

open Exec Await

-- ==== combinators

/-- A response that is no settlement, or such a one. -/
def Response.keeps (h : Settled → Bool) : Response → Bool
  | .settled s => h s
  | _ => true

/-- No response but an earlier settlement's is one. -/
def replays : Response → Bool := Response.keeps Settled.idempotent

/-- Any response at all. -/
def answers : Response → Bool := Response.keeps fun _ => true

theorem answers_of_replays {r : Response} (h : replays r = true) :
    answers r = true := by
  cases r with
  | settled s => rfl
  | _ => exact h

theorem only_answers {f : Op → Bool} {p : Handler} (h : Only f replays p) :
    Only f answers p :=
  h.mono (fun _ => id) fun _ => answers_of_replays

variable {op : Op}

variable {k : Nat → op.Value → Handler}

section Combinators

variable {f : Op → Bool} {h : Settled → Bool}

theorem only_fail (x : Failure) : Only f (Response.keeps h) (fail x) := rfl

theorem only_check {α : Type} {x : Except Failure α} {k : α → Handler}
    (hk : ∀ a, Only f (Response.keeps h) (k a)) :
    Only f (Response.keeps h) (check x k) := by
  cases x with
  | error e => rfl
  | ok a => exact hk a

theorem only_attempt {onError : String → Handler} (hop : f op = true)
    (herr : ∀ e, Only f (Response.keeps h) (onError e))
    (hk : ∀ now v, Only f (Response.keeps h) (k now v)) :
    Only f (Response.keeps h) (attempt op onError k) := by
  refine ⟨hop, ?_⟩
  intro r
  unfold onAnswer
  split
  · exact hk _ _
  · exact herr _

theorem only_call
    (hop : f op = true) (hk : ∀ now v, Only f (Response.keeps h) (k now v)) :
    Only f (Response.keeps h) (call op k) :=
  only_attempt hop (fun _ => rfl) hk

theorem only_ignore {k : Handler} (hop : f op = true)
    (hk : Only f (Response.keeps h) k) :
    Only f (Response.keeps h) (ignore op k) :=
  ⟨hop, fun _ => hk⟩

end Combinators

section Contracts

variable {K : Contract Store Choice Op Op.Res Response} {s : Store}

theorem safe_check {α : Type} {x : Except Failure α} {k : α → Handler}
    (herr : ∀ f, K.ends (.failed f) s)
    (hk : ∀ a, x = .ok a → Safe perform K (k a) s) :
    Safe perform K (check x k) s := by
  cases x with
  | error f => exact herr f
  | ok a => exact hk a rfl

theorem safe_attempt {onError : String → Handler}
    (howes : ∀ s', K.rely s s' → K.owes op (onAnswer onError k) s')
    (herr : ∀ s' c e, K.rely s s' → K.allowed op c s' →
      (perform op c s').2.value = .error e →
      Safe perform K (onError e) (perform op c s').1)
    (hk : ∀ s' c v, K.rely s s' → K.allowed op c s' →
      (perform op c s').2.value = .ok v →
      Safe perform K (k (perform op c s').2.now v) (perform op c s').1) :
    Safe perform K (attempt op onError k) s := by
  intro s' hs
  refine ⟨howes s' hs, ?_⟩
  intro c hc
  unfold onAnswer
  split
  · next v hv => exact hk s' c v hs hc hv
  · next e he => exact herr s' c e hs hc he

theorem safe_call
    (howes : ∀ s', K.rely s s' →
      K.owes op (onAnswer (fun e => .done (.thrown e)) k) s')
    (hthrown : ∀ e s', K.ends (.thrown e) s')
    (hk : ∀ s' c v, K.rely s s' → K.allowed op c s' →
      (perform op c s').2.value = .ok v →
      Safe perform K (k (perform op c s').2.now v) (perform op c s').1) :
    Safe perform K (call op k) s :=
  safe_attempt howes (fun _ _ e _ _ _ => hthrown e _) hk

theorem safe_ignore {k : Handler}
    (howes : ∀ s', K.rely s s' → K.owes op (fun _ => k) s')
    (hk : ∀ s' c, K.rely s s' → K.allowed op c s' →
      Safe perform K k (perform op c s').1) :
    Safe perform K (ignore op k) s :=
  fun s' hs => ⟨howes s' hs, fun c hc => hk s' c hs hc⟩

/-- What survives the others' moves and all operations. -/
structure Carried (K : Contract Store Choice Op Op.Res Response)
    (F : Store → Prop) : Prop where
  later : ∀ s s', K.rely s s' → F s → F s'
  moves : ∀ op c s, K.allowed op c s → K.rely s (perform op c s).1

section Carrying

variable {F : Store → Prop}

theorem carry_attempt (hF : Carried K F) (h : F s) {onError : String → Handler}
    (howes : ∀ s', F s' → K.owes op (onAnswer onError k) s')
    (herr : ∀ e s', F s' → Safe perform K (onError e) s')
    (hk : ∀ now v s', F s' → Safe perform K (k now v) s') :
    Safe perform K (attempt op onError k) s := by
  apply safe_attempt
  · exact fun s' hs => howes s' (hF.later s s' hs h)
  · intro s' c e hs hc _
    exact herr e _ (hF.later _ _ (hF.moves op c s' hc) (hF.later s s' hs h))
  · intro s' c v hs hc _
    exact hk _ v _ (hF.later _ _ (hF.moves op c s' hc) (hF.later s s' hs h))

theorem carry_call (hF : Carried K F) (h : F s)
    (howes : ∀ s', F s' →
      K.owes op (onAnswer (fun e => .done (.thrown e)) k) s')
    (hthrown : ∀ e s', K.ends (.thrown e) s')
    (hk : ∀ now v s', F s' → Safe perform K (k now v) s') :
    Safe perform K (call op k) s :=
  carry_attempt hF h howes (fun e s' _ => hthrown e s') hk

theorem carry_ignore (hF : Carried K F) (h : F s) {k : Handler}
    (howes : ∀ s', F s' → K.owes op (fun _ => k) s')
    (hk : ∀ s', F s' → Safe perform K k s') :
    Safe perform K (ignore op k) s := by
  apply safe_ignore
  · exact fun s' hs => howes s' (hF.later s s' hs h)
  · intro s' c hs hc
    exact hk _ (hF.later _ _ (hF.moves op c s' hc) (hF.later s s' hs h))

end Carrying

theorem awaited_of {w : World} {i : Nat} {k : op.Res → Handler}
    (hi : w.progs[i]? = some (.await op k)) : w.awaited i = some op := by
  unfold Pool.awaited
  rw [hi]
  rfl

/-- A step that a contract allows keeps it, as far as the request that
arrives does. -/
theorem safe_step {env : Env} {cond : Action → World → Prop}
    (hrely : ∀ op c s, K.allowed op c s → K.rely s (perform op c s).1)
    (harrive : ∀ q now w, cond (.arrive q now) w →
      Safe perform K (route env now q) w.store)
    (hallowed : ∀ i c w op, w.awaited i = some op →
      cond (.resume i c) w → K.allowed op c w.store)
    {w w' : World} {a : Action} (h : AllSafe perform K w) (hcond : cond a w)
    (hstep : step env a w = .ok w') : AllSafe perform K w' := by
  rcases step_ok hstep with
    ⟨q, now, rfl, rfl⟩ | ⟨i, c, op, k, rfl, hi, hy⟩
  · exact safe_arrive h (harrive q now w hcond)
  · have hc := hallowed i c w op (awaited_of hi) hcond
    exact safe_resume h hi hy (hrely op c w.store hc) hc

/-- A run that a contract allows keeps it. -/
theorem run_safe {env : Env} {cond : Action → World → Prop}
    (hrely : ∀ op c s, K.allowed op c s → K.rely s (perform op c s).1)
    (harrive : ∀ q now w, cond (.arrive q now) w →
      Safe perform K (route env now q) w.store)
    (hallowed : ∀ i c w op, w.awaited i = some op →
      cond (.resume i c) w → K.allowed op c w.store)
    {w₀ w : World} {tr : List Action} (h₀ : w₀.progs = [])
    (hm : Meets (step env) cond w₀ tr) (hrun : run (step env) w₀ tr = .ok w) :
    AllSafe perform K w := by
  have hstart : AllSafe perform K w₀ := by
    intro p hp
    rw [h₀] at hp
    cases hp
  exact run_induct_meets
    (fun a w w' h hcond hstep =>
      safe_step hrely harrive hallowed h hcond hstep) hstart hm hrun

theorem run_store {env : Env} {P : Choice → Op → World → Prop}
    {I : Store → Prop}
    (hI : ∀ op c w, P c op w → I w.store → I (perform op c w.store).1)
    {w₀ w : World} {tr : List Action} (h₀ : I w₀.store)
    (hm : Meets (step env) (AtOp P) w₀ tr)
    (hrun : run (step env) w₀ tr = .ok w) : I w.store := by
  refine run_induct_meets (I := fun w => I w.store) ?_ h₀ hm hrun
  intro a w w' h hcond hstep
  rcases step_ok hstep with
    ⟨q, now, -, rfl⟩ | ⟨i, c, op, k, rfl, hi, hy⟩
  · exact h
  · obtain ⟨op', k', hi', hs, -⟩ := resume_some.mp hy
    rw [hi] at hi'
    cases hi'
    rw [hs]
    exact hI op c w (hcond op (awaited_of hi)) h

end Contracts

-- ==== verify

/-- The operations of `POST /verify`. -/
def Op.ofVerify : Op → Bool
  | .getKizunaAccount _ | .buildKizunaIdentityPayload _
  | .getKizunaReservationByNonce _ _ | .getKizunaUnderwriteSnapshot _ _
  | .getKizunaOutstandingMicro _ _ _ | .getKizunaFastpathPool _
  | .getKizunaEnterpriseBalance _ _ | .getKizunaMandateLimits _
  | .getKizunaCollateralPosition _ _ _ | .getKizunaCollateralSummary _ _
  | .evaluateKizunaKernelDecision _ | .insertKizunaUnderwriteDecision _
  | .createKizunaReservation _ _ => true
  | _ => false

variable {env : Env}

theorem reserve_only {q : VerifyRequest} {a : AcceptedVerify} {f : Figures}
    {input : KernelEvaluateInput} {decision : KernelEvaluateResult} :
    Only Op.ofVerify replays (reserve env q a f input decision) := by
  apply only_call rfl
  intro now stored
  dsimp only
  split
  · apply only_attempt rfl
    · intro e
      split
      · exact only_fail _
      · apply only_call rfl
        intro now view
        cases view with
        | none => exact only_fail _
        | some r => rfl
    · intro now r
      rfl
  · rfl

theorem proceed_only {q : VerifyRequest} {a : AcceptedVerify}
    {account : Account} {f : Figures} {mandate : Option Nat} :
    Only Op.ofVerify replays (proceed env q a account f mandate) := by
  have hevaluate : ∀ input, Only Op.ofVerify replays (evaluate env q a f input) :=
    fun input => only_attempt rfl (fun _ => only_fail _)
      fun _ _ => reserve_only
  unfold proceed
  split
  · apply only_call rfl
    intro now position
    apply only_call rfl
    intro now summary
    exact hevaluate _
  · exact hevaluate _

theorem gathered_only {q : VerifyRequest} {a : AcceptedVerify}
    {account : Account} {snapshot : Option Unit} {f : Figures} :
    Only Op.ofVerify replays (gathered env q a account snapshot f) := by
  apply only_check
  intro u
  exact only_attempt rfl (fun _ => proceed_only)
    fun _ _ => proceed_only

theorem verify_only (q : VerifyRequest) (now : Nat) :
    Only Op.ofVerify replays (verifyKizuna env q now) := by
  apply only_check
  intro a
  apply only_call rfl
  intro now found
  apply only_check
  intro account
  apply only_call rfl
  intro now identity
  apply only_check
  intro u
  apply only_call rfl
  intro now view
  cases view with
  | some r =>
    show Only _ _ (replayVerify env q a now r)
    unfold replayVerify
    split
    · exact only_fail _
    · rfl
  | none =>
    apply only_call rfl
    intro now snapshot
    apply only_call rfl
    intro now outstandingMicro
    split
    · exact only_call rfl fun _ _ => gathered_only
    · split
      · exact only_call rfl fun _ _ => gathered_only
      · exact gathered_only

-- ==== settle

/-- The operations of `POST /settle` with a Kizuna requirement. -/
def Op.ofSettle : Op → Bool
  | .getKizunaAccount _ | .getKizunaReservationByNonce _ _
  | .getKizunaDebtByReservationId _ | .commitKizunaKernelDecision _
  | .getKizunaBillableSettlementEvent _ _ | .getSettlementById _
  | .releaseKizunaReservation _ _ | .effectiveFeeBps _
  | .insertSettlement _ => true
  | .settlePayment o => decide (o.purpose.reservation ≠ none)
  | .finalizeKizunaSettlement _ => true
  | .updateSettlementStatus _ _ => true
  | _ => false

/-- Those of them that neither record nor make nor book a payment. -/
def Op.ofReplay : Op → Bool
  | .getKizunaDebtByReservationId _ | .commitKizunaKernelDecision _
  | .getKizunaBillableSettlementEvent _ _ | .getSettlementById _
  | .releaseKizunaReservation _ _ | .updateSettlementStatus _ _ => true
  | _ => false

theorem Op.ofReplay_ofSettle (h : op.ofReplay = true) :
    op.ofSettle = true := by
  cases op with
  | getKizunaDebtByReservationId | commitKizunaKernelDecision
  | getKizunaBillableSettlementEvent | getSettlementById
  | releaseKizunaReservation | updateSettlementStatus => rfl
  | _ => cases h

theorem uncommitted_only {f : Op → Bool} {h : Settled → Bool}
    {answer : Bool → Handler} {e : String}
    (hanswer : Only f (Response.keeps h) (answer false)) :
    Only f (Response.keeps h) (uncommitted env answer e) := by
  unfold uncommitted
  split
  · exact only_fail _
  · exact hanswer

theorem replay_only {a : Accepted} {r : ReservationView} :
    Only Op.ofReplay replays (replaySettle env a r) := by
  apply only_call rfl
  intro now debt
  dsimp only
  split
  · exact only_fail _
  · split
    · exact only_fail _
    · have hanswer : ∀ id txHash b,
          Only Op.ofReplay replays (answerReplay a r debt id txHash b) :=
        fun id txHash b => only_call rfl fun _ _ =>
          only_call rfl fun _ _ => rfl
      exact only_attempt rfl (fun _ => uncommitted_only (hanswer _ _ _))
        fun _ _ => hanswer _ _ _

theorem abandon_only {id : Nat} {settlementId : Option Nat} {paid : Bool}
    {message : String} :
    Only Op.ofReplay replays (abandon id settlementId paid message) := by
  have hreleased : Only Op.ofReplay replays (abandon id none paid message) := by
    cases paid with
    | true => exact only_fail _
    | false => exact only_ignore rfl (only_fail _)
  cases settlementId with
  | none => exact hreleased
  | some settlementId => exact only_ignore rfl hreleased

theorem paySettle_only {q : SettleRequest} {a : Accepted}
    {r : ReservationView} {hash : Option String} :
    Only Op.ofSettle answers (paySettle env q a r hash) := by
  have habandon : ∀ settlementId paid message,
      Only Op.ofSettle answers (abandon r.id settlementId paid message) :=
    fun _ _ _ => abandon_only.mono (fun _ => Op.ofReplay_ofSettle)
      fun _ => answers_of_replays
  apply only_attempt rfl (fun _ => habandon _ _ _)
  intro now feeBps
  apply only_attempt rfl (fun _ => habandon _ _ _)
  intro now settlement
  apply only_attempt rfl (fun _ => habandon _ _ _)
  intro now onchain
  apply only_attempt rfl (fun _ => habandon _ _ _)
  intro now result
  apply only_attempt rfl (fun _ => habandon _ _ _)
  intro now event
  exact only_attempt rfl (fun _ => uncommitted_only rfl)
    fun _ _ => rfl

theorem settle_only (q : SettleRequest) (now : Nat) :
    Only Op.ofSettle answers (settleKizuna env q now) := by
  apply only_check
  intro a
  apply only_call rfl
  intro now account
  apply only_check
  intro u
  apply only_call rfl
  intro now view
  apply only_check
  intro r
  unfold settleReservation
  split
  · exact replay_only.mono (fun _ => Op.ofReplay_ofSettle)
      fun _ => answers_of_replays
  · split
    · exact only_fail _
    · split
      · exact only_ignore rfl (only_fail _)
      · exact only_check fun hash => paySettle_only

-- ==== payments

/-- The operations of a signed payment. -/
def Op.ofExact : Op → Bool
  | .getSettlementById _ | .effectiveFeeBps _ | .insertSettlement _ => true
  | .settlePayment o => decide (o.purpose = .exact)
  | .updateSettlementStatus _ _ | .reservePaymentNonce _ _
  | .getPaymentNonceGuard _ _ | .setPaymentNonceSettlementId _ _ _
  | .setPaymentNonceTxHash _ _ _ | .deletePaymentNonceGuard _ _
  | .updateSettlementConfirmed _ _ _ | .insertFeeLedger _ _ | .getCode _
  | .getBaseUsdcEip712Domain => true
  | .settleAuthorizedPaymentBase o => decide (o.purpose = .exact)
  | _ => false

/-- The operations of `POST /settle` without a Kizuna requirement. -/
def Op.ofPlain : Op → Bool
  | .getPaymentSessionByTokenHash _ | .reservePaymentSessionSpend _ _
  | .releasePaymentSessionSpend _ _ => true
  | .settleDelegatedPayment o => decide (o.purpose.reservation = none)
  | op => op.ofExact

theorem Op.ofExact_ofPlain (h : op.ofExact = true) :
    op.ofPlain = true := by
  cases op with
  | getPaymentSessionByTokenHash | reservePaymentSessionSpend
  | releasePaymentSessionSpend => rfl
  | settleDelegatedPayment o => cases h
  | _ => exact h

theorem only_plain {g : Response → Bool} {p : Handler}
    (h : Only Op.ofExact g p) : Only Op.ofPlain g p :=
  h.mono (fun _ => Op.ofExact_ofPlain) fun _ => id

theorem replayPayment_only {payer nonce network : String} {amount : Nat} :
    Only Op.ofExact replays (replayPayment payer nonce network amount) := by
  unfold replayPayment
  dsimp only
  apply only_attempt rfl (fun _ => only_fail _)
  intro now guard
  split
  · exact only_fail _
  · split
    · rfl
    · exact only_attempt rfl (fun _ => rfl) fun _ _ => rfl

theorem recordPayment_only {payer nonce network : String} {amount id : Nat}
    {onchain : Onchain} :
    Only Op.ofExact answers (recordPayment payer nonce network amount id onchain) := by
  have hrescue : Only Op.ofExact answers
      (ignore (.setPaymentNonceTxHash payer nonce onchain.txHash)
        (.done (.settled ⟨some id, onchain.txHash, payer, amount,
          onchain.fee, network, false, none⟩))) :=
    only_ignore rfl rfl
  unfold recordPayment
  dsimp only
  apply only_attempt rfl (fun _ => hrescue)
  intro now u
  apply only_attempt rfl (fun _ => hrescue)
  intro now u'
  exact only_attempt rfl (fun _ => hrescue) fun _ _ => rfl

theorem abandonSession_only {hash payer nonce : String} {micro : Nat}
    {settlementId : Option Nat} {message : String} : Only Op.ofPlain replays
      (abandonSession hash payer nonce micro settlementId message) := by
  have hreleased : Only Op.ofPlain replays
      (abandonSession hash payer nonce micro none message) :=
    only_call rfl fun _ _ => only_ignore rfl (only_fail _)
  cases settlementId with
  | none => exact hreleased
  | some id => exact only_call rfl fun _ _ => hreleased

variable {q : PaymentRequest}

theorem paySession_only {network hash nonce : String}
    {session : PaymentSession} {micro : Nat} : Only Op.ofPlain answers
      (paySession q network hash nonce session micro) := by
  unfold paySession
  dsimp only
  apply only_attempt rfl (fun _ => only_answers abandonSession_only)
  intro now settlement
  apply only_ignore rfl
  apply only_attempt rfl (fun _ => only_answers abandonSession_only)
  intro now feeBps
  exact only_attempt rfl (fun _ => only_answers abandonSession_only)
    fun _ _ => only_plain recordPayment_only

theorem settleSession_only {network : String} :
    Only Op.ofPlain answers (settleSession env q network) := by
  apply only_check
  intro x
  apply only_call rfl
  intro now found
  apply only_check
  intro y
  apply only_attempt rfl (fun _ => only_fail _)
  intro now nonceReserved
  split
  · apply only_call rfl
    intro now budgetReserved
    split
    · exact paySession_only
    · exact only_ignore rfl (only_fail _)
  · exact only_plain (only_answers replayPayment_only)

theorem failExact_only {id : Nat} {message : String} :
    Only Op.ofExact replays (failExact id message) :=
  only_call rfl fun _ _ => only_fail _

variable {payment : Payment}

theorem refuse_only {id : Nat} {x : Failure} :
    Only Op.ofExact replays (refuseAuthorization payment id x) :=
  only_attempt rfl (fun _ => failExact_only)
    fun _ _ => only_ignore rfl (only_fail _)

theorem checkAuthorization_ok
    {order order' : Order} {auth : TransferAuth} {hasCode : Bool}
    {now : Nat}
    (h : checkAuthorization env q payment order auth hasCode now
      = .ok order') : ∃ amount, order' = { order with amount := amount } := by
  unfold checkAuthorization at h
  obtain ⟨u₁, -, totalMicro, -, u₂, -, h⟩ := Exec.bind_ok₃.mp h
  obtain ⟨u₃, -, u₄, -, h⟩ := Exec.bind_ok₂.mp h
  cases h
  exact ⟨totalMicro, rfl⟩

theorem payAuthorized_only {order : Order} {id : Nat} {auth : TransferAuth}
    {feeAuth : Option TransferAuth} {record : Onchain → Handler}
    (hexact : order.purpose = .exact)
    (hrecord : ∀ onchain, Only Op.ofExact answers (record onchain)) :
    Only Op.ofExact answers
      (payAuthorized env q payment order id auth feeAuth record) := by
  unfold payAuthorized
  dsimp only
  apply only_attempt rfl (fun _ => only_answers refuse_only)
  intro now hasCode
  split
  · exact only_answers refuse_only
  · next order' horder =>
      obtain ⟨amount, rfl⟩ := checkAuthorization_ok horder
      apply only_attempt rfl (fun _ => only_answers refuse_only)
      intro now' verifyingContract
      split
      · exact only_answers refuse_only
      · apply only_attempt (decide_eq_true hexact)
        · exact fun _ => only_answers refuse_only
        · exact fun now onchain => hrecord onchain

theorem payExact_only {network : String} {amount id : Nat} :
    Only Op.ofExact answers (payExact env q network payment amount id) := by
  unfold payExact
  dsimp only
  apply only_attempt rfl (fun _ => only_answers failExact_only)
  intro now feeBps
  have hfront : ∀ order : Order, order.purpose = .exact → Only Op.ofExact answers
      (attempt (.settlePayment order) (failExact id)
        fun _ (onchain : Onchain) => recordPayment payment.payer
          payment.nonce network amount id onchain) :=
    fun order hexact => only_attempt (decide_eq_true hexact)
      (fun _ => only_answers failExact_only) fun _ _ => recordPayment_only
  split
  · split
    · exact only_answers refuse_only
    · exact hfront _ rfl
    · exact payAuthorized_only rfl fun onchain => recordPayment_only
  · exact hfront _ rfl

theorem settleExact_only {network : String}
    {now : Nat} : Only Op.ofExact answers (settleExact env q network now) := by
  apply only_check
  intro y
  apply only_call rfl
  intro now' nonceReserved
  split
  · apply only_call rfl
    intro now'' settlement
    exact only_ignore rfl payExact_only
  · exact only_answers replayPayment_only

theorem plain_only (q : PaymentRequest) (now : Nat) :
    Only Op.ofPlain answers (settlePlain env q now) := by
  apply only_check
  intro x
  dsimp only
  split
  · exact settleSession_only
  · exact only_plain settleExact_only

/-- The operations of `POST /escrow/create`. -/
def Op.ofEscrow : Op → Bool
  | .reservePaymentNonce _ _ => true
  | .createEscrow o => o.purpose.isEscrow
  | .insertEscrowRecord _ => true
  | .insertFeeLedger _ _ => true
  | _ => false

theorem escrow_only (q : EscrowRequest) (now : Nat) :
    Only Op.ofEscrow replays (createEscrowRoute env q now) := by
  apply only_check
  intro x
  apply only_call rfl
  intro now nonceReserved
  dsimp only
  split
  · exact only_fail _
  · split
    · exact only_fail _
    · split
      · exact only_fail _
      · apply only_attempt rfl (fun _ => only_fail _)
        intro now created
        apply only_attempt rfl (fun _ => only_fail _)
        intro now u
        exact only_attempt rfl (fun _ => only_fail _) fun _ _ => rfl

-- ==== accounts

/-- The operations of the routes for repayments, collateral and
funding. -/
def Op.ofAccounts : Op → Bool
  | .getKizunaAccount _ | .getKizunaPool _ | .getKizunaOutstandingMicro _ _ _
  | .getKizunaCollateralSummary _ _ | .getKizunaCollateralPosition _ _ _
  | .debitKizunaCredits _ | .applyKizunaRepayment _
  | .applyKizunaCollateralEvent _ | .applyKizunaFundingEvent _
  | .ingestKizunaKernel _ => true
  | _ => false

theorem repay_only (q : RepayRequest) :
    Only Op.ofAccounts replays (repayKizuna env q) := by
  apply only_check
  intro x
  apply only_call rfl
  intro now found
  dsimp only
  split
  · exact only_fail _
  · apply only_call rfl
    intro now outstandingMicro
    split
    · rfl
    · apply only_attempt rfl (fun _ => only_fail _)
      intro now debited
      apply only_attempt rfl (fun _ => only_fail _)
      intro now result
      exact only_ignore rfl rfl

theorem withPool_only {q : TransferRequest} {poolId : String}
    {k : PoolView → Handler} (hk : ∀ pool, Only Op.ofAccounts replays (k pool)) :
    Only Op.ofAccounts replays (withPool q poolId k) := by
  apply only_call rfl
  intro now account
  apply only_call rfl
  intro now pool
  split
  · exact only_fail _
  · exact only_fail _
  · exact hk _

theorem applyCollateral_only {q : TransferRequest} {lane : Lane}
    {poolId : String} {micro : Nat} {eventType : CollateralEventType} :
    Only Op.ofAccounts replays (applyCollateral q lane poolId micro eventType) :=
  only_attempt rfl (fun _ => only_fail _)
    fun _ _ => only_ignore rfl rfl

theorem deposit_only (q : TransferRequest) :
    Only Op.ofAccounts replays (depositCollateral env q) := by
  apply only_check
  intro x
  exact withPool_only fun pool => applyCollateral_only

theorem withdraw_only (q : TransferRequest) :
    Only Op.ofAccounts replays (withdrawCollateral env q) := by
  apply only_check
  intro x
  apply withPool_only
  intro pool
  split
  · apply only_call rfl
    intro now summary
    apply only_call rfl
    intro now position
    split
    · rfl
    · rfl
    · exact applyCollateral_only
  · exact applyCollateral_only

theorem fund_only (q : TransferRequest) (eventType : FundingEventType) :
    Only Op.ofAccounts replays (fundKizuna env q eventType) := by
  apply only_check
  intro micro
  apply only_call rfl
  intro now account
  apply only_call rfl
  intro now pool
  split
  · exact only_fail _
  · split
    · exact only_fail _
    · exact only_attempt rfl (fun _ => only_fail _) fun _ _ => rfl

-- ==== jobs

/-- The operations of the internal reservation route. -/
def Op.ofReserveJob : Op → Bool
  | .getKizunaReservationByNonce _ _ | .getKizunaAccount _
  | .getKizunaOutstandingMicro _ _ _ | .getKizunaEnterpriseBalance _ _
  | .insertKizunaUnderwriteDecision _ | .createKizunaReservation _ _ => true
  | _ => false

theorem reserveCredit_only {q : JobRequest} {account : Account} {lane : Lane}
    {poolId : String} {amount outstanding approved : Nat}
    {mode : FundingMode} :
    Only Op.ofReserveJob replays (reserveCredit env q account lane poolId amount
      outstanding approved mode) := by
  unfold reserveCredit
  dsimp only
  apply only_attempt rfl (fun _ => only_fail _)
  intro now decision
  split
  · exact only_fail _
  · exact only_attempt rfl (fun _ => only_fail _) fun _ _ => rfl

theorem reserveJob_only (q : JobRequest) :
    Only Op.ofReserveJob replays (reserveJob env q) := by
  apply only_check
  intro x
  apply only_attempt rfl (fun _ => only_fail _)
  intro now replay
  cases replay with
  | some r => rfl
  | none =>
    apply only_attempt rfl (fun _ => only_fail _)
    intro now found
    apply only_check
    intro account
    apply only_attempt rfl (fun _ => only_fail _)
    intro now outstanding
    dsimp only
    split
    · exact only_attempt rfl (fun _ => only_fail _)
        fun _ _ => reserveCredit_only
    · exact reserveCredit_only

/-- The operations of the internal settlement route. -/
def Op.ofSettleJob : Op → Bool
  | .getKizunaDebtByReservationId _ | .getKizunaBillableSettlementEvent _ _
  | .getKizunaReservationById _ | .insertSettlement _
  | .finalizeKizunaSettlement _ => true
  | _ => false

theorem settleJob_only (q : JobSettleRequest) :
    Only Op.ofSettleJob replays (settleJob env q) := by
  unfold settleJob
  dsimp only
  split
  · exact only_fail _
  · split
    · exact only_fail _
    · apply only_attempt rfl (fun _ => only_fail _)
      intro now debt
      cases debt with
      | some d =>
        exact only_attempt rfl (fun _ => only_fail _) fun _ _ => rfl
      | none =>
        apply only_attempt rfl (fun _ => only_fail _)
        intro now view
        cases view with
        | none => exact only_fail _
        | some r =>
          dsimp only
          split
          · exact only_fail _
          · apply only_attempt rfl (fun _ => only_fail _)
            intro now settlement
            apply only_attempt rfl (fun _ => only_fail _)
            intro now result
            exact only_attempt rfl (fun _ => only_fail _)
              fun _ _ => rfl

-- ==== requests

/-- The operations of a request's route. -/
def Request.uses : Request → Op → Bool
  | .verify _ => Op.ofVerify
  | .settle _ => Op.ofSettle
  | .pay _ => Op.ofPlain
  | .escrow _ => Op.ofEscrow
  | .authorize hash session => fun op =>
    match op with
    | .insertPaymentSession hash' session' =>
      decide (hash' = hash ∧ session' = session)
    | _ => false
  | .revoke _ => fun op =>
    match op with
    | .revokePaymentSession _ => true
    | _ => false
  | .repay _ | .deposit _ | .withdraw _ | .fund _ _ => Op.ofAccounts
  | .reserveJob _ => Op.ofReserveJob
  | .releaseJob _ _ => fun op =>
    match op with
    | .releaseKizunaReservation _ _ => true
    | _ => false
  | .settleJob _ => Op.ofSettleJob

/-- The responses of a request's route. -/
def Request.answers : Request → Response → Bool
  | .settle _ => Facilitator.answers
  | .pay _ => Facilitator.answers
  | _ => replays

theorem route_only (q : Request) (now : Nat) :
    Only q.uses q.answers (route env now q) := by
  cases q with
  | verify q => exact verify_only q now
  | settle q => exact settle_only q now
  | pay q => exact plain_only q now
  | escrow q => exact escrow_only q now
  | authorize hash session =>
    exact only_call (decide_eq_true ⟨rfl, rfl⟩) fun _ _ => rfl
  | revoke hash => exact only_call rfl fun _ _ => rfl
  | repay q => exact repay_only q
  | deposit q => exact deposit_only q
  | withdraw q => exact withdraw_only q
  | fund q eventType => exact fund_only q eventType
  | reserveJob q => exact reserveJob_only q
  | releaseJob id status => exact only_call rfl fun _ _ => rfl
  | settleJob q => exact settleJob_only q

theorem safe_of_uses {K : Contract Store Choice Op Op.Res Response}
    {q : Request} {now : Nat} {s : Store}
    (howes : ∀ op k s, q.uses op = true → K.owes op k s)
    (hends : ∀ r s, q.answers r = true → K.ends r s) :
    Safe perform K (route env now q) s :=
  (route_only q now).safe (fun op k s hop _ => howes op k s hop) hends

end KamiyoProtocol.Facilitator
