/-
What the routes know when they come to the operations that move credit.

A contract that asks something only at one operation is kept by a whole
route once it is kept there; these lemmas say with which values, read
when, a route gets there.
-/
import KamiyoProtocol.Facilitator.Effects
import KamiyoProtocol.Facilitator.Routes

namespace KamiyoProtocol.Facilitator

open Exec Await

section Duties

variable {K : Contract Store Choice Op Op.Res Response} {env : Env}

-- ==== verify

variable {s : Store}

theorem inquire_value {α : Type} {c : Choice} {v v' : α}
    (h : (inquire c s v).2.value = .ok v') : v' = v := by
  unfold inquire at h
  dsimp only at h
  split at h
  · cases h
    rfl
  · cases h

/-- The figures a route has read, each at an earlier store. -/
structure Read (rely : Store → Store → Prop) (q : VerifyRequest)
    (a : AcceptedVerify) (f : Figures) (s : Store) : Prop where
  outstanding : ∃ s₀, rely s₀ s ∧ f.outstandingMicro
    = s₀.db.getKizunaOutstandingMicro q.kizuna.agentId q.kizuna.lane a.poolId
  pool : q.kizuna.lane = .cryptoFast → ∃ s₀, rely s₀ s
    ∧ f.pool = s₀.db.getKizunaFastpathPool a.poolId

/-- What the kernel is sent on figures that were read, and on a position
read at an earlier store. -/
structure Underwritten (rely : Store → Store → Prop) (env : Env)
    (q : VerifyRequest) (a : AcceptedVerify) (f : Figures)
    (input : KernelEvaluateInput) (s : Store) : Prop
    extends Read rely q a f s where
  input : ∃ account mandate collateral,
    input = kernelInput env q a account f mandate collateral
      ∧ (q.kizuna.lane = .cryptoFast → ∃ collateralAccount s₀ summary,
        rely s₀ s ∧ collateral = kernelCollateral env collateralAccount f
          (s₀.db.getKizunaCollateralPosition q.kizuna.agentId a.poolId
            collateralAccount) summary)

variable {a : AcceptedVerify}

variable {f : Figures}

theorem Read.later {q : VerifyRequest}
    {s s' : Store} (h : Read K.rely q a f s) (hs : K.rely s s') :
    Read K.rely q a f s' := by
  obtain ⟨⟨s₀, hs₀, houtstanding⟩, hpool⟩ := h
  refine ⟨⟨s₀, K.trans _ _ _ hs₀ hs, houtstanding⟩, ?_⟩
  intro hlane
  obtain ⟨s₁, hs₁, heq⟩ := hpool hlane
  exact ⟨s₁, K.trans _ _ _ hs₁ hs, heq⟩

theorem Underwritten.later {q : VerifyRequest}
    {input : KernelEvaluateInput} {s s' : Store}
    (h : Underwritten K.rely env q a f input s) (hs : K.rely s s') :
    Underwritten K.rely env q a f input s' := by
  refine ⟨h.toRead.later hs, ?_⟩
  obtain ⟨account, mandate, collateral, heq, hcollateral⟩ := h.input
  refine ⟨account, mandate, collateral, heq, ?_⟩
  intro hlane
  obtain ⟨collateralAccount, s₁, summary, hs₁, hsent⟩ := hcollateral hlane
  exact ⟨collateralAccount, s₁, summary, K.trans _ _ _ hs₁ hs, hsent⟩

/-- A contract that asks something of `POST /verify` only at a
reservation. -/
structure VerifyDuty (K : Contract Store Choice Op Op.Res Response)
    (env : Env) (q : VerifyRequest) : Prop where
  moves : ∀ op c s, K.allowed op c s → K.rely s (perform op c s).1
  ends : ∀ r s, K.ends r s
  other : ∀ op k s, op.ofVerify = true →
    (∀ p sent, op ≠ .createKizunaReservation p sent) → K.owes op k s
  create : ∀ (a : AcceptedVerify) (f : Figures) (input : KernelEvaluateInput)
    (c : Choice) (id : Nat) k (s₀ s : Store),
    K.allowed (.evaluateKizunaKernelDecision input) c s₀ →
    Underwritten K.rely env q a f input s₀ → K.rely s₀ s →
    K.owes (.createKizunaReservation
      (reservationFor env q a f c.kernel id) (some input)) k s

variable {q : VerifyRequest}

theorem reserve_safe (hK : VerifyDuty K env q)
    {input : KernelEvaluateInput} {c : Choice} {s₀ s : Store}
    (hallowed : K.allowed (.evaluateKizunaKernelDecision input) c s₀)
    (hunder : Underwritten K.rely env q a f input s₀) (hs : K.rely s₀ s) :
    Safe perform K (reserve env q a f input c.kernel) s := by
  apply safe_call
  · exact fun s' _ => hK.other _ _ s' rfl (by simp)
  · exact fun e s' => hK.ends _ s'
  intro s₁ c₁ stored hs₁ hc₁ _
  have hmove := hK.moves _ c₁ s₁ hc₁
  dsimp only
  split
  · apply safe_attempt
    · intro s₂ hs₂
      exact hK.create a f input c stored.id _ s₀ s₂ hallowed hunder
        (K.trans _ _ _ (K.trans _ _ _ hs hs₁) (K.trans _ _ _ hmove hs₂))
    · intro s₂ c₂ e _ _ _
      split
      · exact hK.ends _ _
      · apply safe_call
        · exact fun s' _ => hK.other _ _ s' rfl (by simp)
        · exact fun e s' => hK.ends _ s'
        intro s₃ c₃ view _ _ _
        cases view with
        | none => exact hK.ends _ _
        | some r => exact hK.ends _ _
    · exact fun s₂ c₂ r _ _ _ => hK.ends _ _
  · exact hK.ends _ _

theorem proceed_safe (hK : VerifyDuty K env q)
    {account : Account} {mandate : Option Nat}
    (hread : Read K.rely q a f s) :
    Safe perform K (proceed env q a account f mandate) s := by
  have hevaluate : ∀ input s, Underwritten K.rely env q a f input s →
      Safe perform K (evaluate env q a f input) s := by
    intro input s hunder
    apply safe_attempt
    · exact fun s' _ => hK.other _ _ s' rfl (by simp)
    · exact fun s' c e _ _ _ => hK.ends _ _
    intro s' c decision hs hc hdecision
    obtain rfl : decision = c.kernel := inquire_value hdecision
    exact reserve_safe hK hc (hunder.later hs) (hK.moves _ c s' hc)
  unfold proceed
  split
  · next hlane =>
      apply safe_call
      · exact fun s' _ => hK.other _ _ s' rfl (by simp)
      · exact fun e s' => hK.ends _ s'
      intro s₁ c₁ position hs₁ hc₁ hposition
      apply safe_call
      · exact fun s' _ => hK.other _ _ s' rfl (by simp)
      · exact fun e s' => hK.ends _ s'
      intro s₂ c₂ summary hs₂ hc₂ _
      apply hevaluate
      have hmove : K.rely s₁ (perform (.getKizunaCollateralSummary
          q.kizuna.agentId a.poolId) c₂ s₂).1 :=
        K.trans _ _ _ (hK.moves _ c₁ s₁ hc₁)
          (K.trans _ _ _ hs₂ (hK.moves _ c₂ s₂ hc₂))
      have hlater := hread.later (K.trans _ _ _ hs₁ hmove)
      refine ⟨hlater, account, mandate, _, rfl, ?_⟩
      intro _
      refine ⟨q.kizuna.collateralAccount.get (q.kizuna.collateralized hlane),
        s₁, summary, hmove, ?_⟩
      rw [inquire_value hposition]
  · next hlane =>
      apply hevaluate
      exact ⟨hread, account, mandate, none, rfl, fun h => (hlane h).elim⟩

theorem gathered_safe (hK : VerifyDuty K env q)
    {account : Account} {snapshot : Option Unit}
    (hread : Read K.rely q a f s) :
    Safe perform K (gathered env q a account snapshot f) s := by
  apply safe_check
  · exact fun _ => hK.ends _ _
  intro u _
  apply safe_attempt
  · exact fun s' _ => hK.other _ _ s' rfl (by simp)
  · intro s' c e hs hc _
    exact proceed_safe hK (hread.later (K.trans _ _ _ hs (hK.moves _ c s' hc)))
  · intro s' c mandate hs hc _
    exact proceed_safe hK (hread.later (K.trans _ _ _ hs (hK.moves _ c s' hc)))

theorem verify_safe (hK : VerifyDuty K env q) (now : Nat) (s : Store) :
    Safe perform K (verifyKizuna env q now) s := by
  have hother : ∀ op, op.ofVerify = true →
      (∀ p sent, op ≠ .createKizunaReservation p sent) →
      ∀ k s s', K.rely s s' → K.owes op k s' :=
    fun op hop hcreate k _ s' _ => hK.other op k s' hop hcreate
  have hthrown : ∀ e s', K.ends (.thrown e) s' := fun e s' => hK.ends _ s'
  apply safe_check
  · exact fun _ => hK.ends _ _
  intro a _
  apply safe_call (hother _ rfl (by simp) _ _) hthrown
  intro s₁ c₁ found _ _ _
  apply safe_check
  · exact fun _ => hK.ends _ _
  intro account _
  apply safe_call (hother _ rfl (by simp) _ _) hthrown
  intro s₂ c₂ identity _ _ _
  apply safe_check
  · exact fun _ => hK.ends _ _
  intro u _
  apply safe_call (hother _ rfl (by simp) _ _) hthrown
  intro s₃ c₃ view _ _ _
  cases view with
  | some r =>
    show Safe perform K (replayVerify env q a _ r) _
    unfold replayVerify
    split
    · exact hK.ends _ _
    · exact hK.ends _ _
  | none =>
    apply safe_call (hother _ rfl (by simp) _ _) hthrown
    intro s₄ c₄ snapshot _ _ _
    apply safe_call (hother _ rfl (by simp) _ _) hthrown
    intro s₅ c₅ outstanding _ hc₅ houtstanding
    have houtstanding := inquire_value houtstanding
    have hmove₅ := hK.moves _ c₅ s₅ hc₅
    split
    · apply safe_call (hother _ rfl (by simp) _ _) hthrown
      intro s₆ c₆ pool hs₆ hc₆ hpool
      have hmove₆ := hK.moves _ c₆ s₆ hc₆
      apply gathered_safe hK
      exact ⟨⟨s₅, K.trans _ _ _ (K.trans _ _ _ hmove₅ hs₆) hmove₆,
        houtstanding⟩, fun _ => ⟨s₆, hmove₆, inquire_value hpool⟩⟩
    · next hlane =>
        split
        · apply safe_call (hother _ rfl (by simp) _ _) hthrown
          intro s₆ c₆ balance hs₆ hc₆ _
          have hmove₆ := hK.moves _ c₆ s₆ hc₆
          apply gathered_safe hK
          exact ⟨⟨s₅, K.trans _ _ _ (K.trans _ _ _ hmove₅ hs₆) hmove₆,
            houtstanding⟩, fun h => (hlane h).elim⟩
        · apply gathered_safe hK
          exact ⟨⟨s₅, hmove₅, houtstanding⟩, fun h => (hlane h).elim⟩

-- ==== settle

/-- A contract that asks something of `POST /settle` with a Kizuna
requirement only at the payment, which is on the reservation found under
the payment's nonce. -/
structure SettleDuty (K : Contract Store Choice Op Op.Res Response)
    (q : SettleRequest) : Prop where
  moves : ∀ op c s, K.allowed op c s → K.rely s (perform op c s).1
  ends : ∀ r s, K.ends r s
  other : ∀ op k s, op.ofSettle = true → (∀ o, op ≠ .settlePayment o) →
    K.owes op k s
  pay : ∀ (a : Accepted) (r : ReservationView) (settlementId feeBps : Nat) k
    (s₀ s : Store),
    s₀.db.getKizunaReservationByNonce a.payment.payer a.payment.nonce
      = some r → K.rely s₀ s →
    K.owes (.settlePayment ⟨.credit r.id, a.payment.payer, a.payment.nonce,
      some settlementId, a.network, q.merchantWallet, a.amount, feeBps⟩) k s

theorem ofReplay_safe {q : SettleRequest} (hK : SettleDuty K q)
    {g : Response → Bool} {p : Handler}
    (h : Only Op.ofReplay g p) : Safe perform K p s := by
  apply h.safe
  · intro op k s hop _
    apply hK.other op k s (Op.ofReplay_ofSettle hop)
    rintro o rfl
    cases hop
  · exact fun r s _ => hK.ends r s

theorem paySettle_safe {q : SettleRequest} (hK : SettleDuty K q)
    {a : Accepted} {r : ReservationView} {hash : Option String}
    {s₀ s : Store} (hfound : s₀.db.getKizunaReservationByNonce
      a.payment.payer a.payment.nonce = some r) (hs : K.rely s₀ s) :
    Safe perform K (paySettle env q a r hash) s := by
  have hother : ∀ op, op.ofSettle = true → (∀ o, op ≠ .settlePayment o) →
      ∀ k s s', K.rely s s' → K.owes op k s' :=
    fun op hop hpay k _ s' _ => hK.other op k s' hop hpay
  have habandon : ∀ settlementId paid message s, Safe perform K
      (abandon r.id settlementId paid message) s :=
    fun _ _ _ _ => ofReplay_safe hK abandon_only
  apply safe_attempt (hother _ rfl (by simp) _ _)
  · exact fun _ _ _ _ _ _ => habandon _ _ _ _
  intro s₁ c₁ feeBps hs₁ hc₁ _
  have h₁ := K.trans _ _ _ hs (K.trans _ _ _ hs₁ (hK.moves _ c₁ s₁ hc₁))
  apply safe_attempt (hother _ rfl (by simp) _ _)
  · exact fun _ _ _ _ _ _ => habandon _ _ _ _
  intro s₂ c₂ settlement hs₂ hc₂ _
  have h₂ := K.trans _ _ _ h₁ (K.trans _ _ _ hs₂ (hK.moves _ c₂ s₂ hc₂))
  apply safe_attempt
  · exact fun s₃ hs₃ => hK.pay a r settlement.id feeBps _ s₀ s₃ hfound
      (K.trans _ _ _ h₂ hs₃)
  · exact fun _ _ _ _ _ _ => habandon _ _ _ _
  intro s₃ c₃ onchain _ _ _
  apply safe_attempt (hother _ rfl (by simp) _ _)
  · exact fun _ _ _ _ _ _ => habandon _ _ _ _
  intro s₄ c₄ result _ _ _
  apply safe_attempt (hother _ rfl (by simp) _ _)
  · exact fun _ _ _ _ _ _ => habandon _ _ _ _
  intro s₅ c₅ event _ _ _
  apply safe_attempt (hother _ rfl (by simp) _ _)
  · intro s₆ c₆ e _ _ _
    unfold uncommitted
    split
    · exact hK.ends _ _
    · exact hK.ends _ _
  · exact fun s₆ c₆ u _ _ _ => hK.ends _ _

theorem settle_safe {q : SettleRequest} (hK : SettleDuty K q) (now : Nat)
    (s : Store) : Safe perform K (settleKizuna env q now) s := by
  have hother : ∀ op, op.ofSettle = true → (∀ o, op ≠ .settlePayment o) →
      ∀ k s s', K.rely s s' → K.owes op k s' :=
    fun op hop hpay k _ s' _ => hK.other op k s' hop hpay
  apply safe_check
  · exact fun _ => hK.ends _ _
  intro a _
  apply safe_call (hother _ rfl (by simp) _ _) (fun _ _ => hK.ends _ _)
  intro s₁ c₁ account _ _ _
  apply safe_check
  · exact fun _ => hK.ends _ _
  intro u _
  apply safe_call (hother _ rfl (by simp) _ _) (fun _ _ => hK.ends _ _)
  intro s₂ c₂ view _ hc₂ hview
  have hfound := inquire_value hview
  have hmove := hK.moves _ c₂ s₂ hc₂
  apply safe_check
  · exact fun _ => hK.ends _ _
  intro r hr
  obtain ⟨r', hsome, u₁, -, u₂, -, u₃, -, hr⟩ := bind_ok₄.mp hr
  cases hr
  rw [hfound] at hsome
  unfold settleReservation
  split
  · exact ofReplay_safe hK replay_only
  · split
    · exact hK.ends _ _
    · split
      · exact safe_ignore (hother _ rfl (by simp) _ _)
          fun _ _ _ _ => hK.ends _ _
      · apply safe_check
        · exact fun _ => hK.ends _ _
        intro hash _
        exact paySettle_safe hK (okOr_ok.mp hsome) hmove

-- ==== jobs

/-- A prefunded reservation is one of the enterprise lane, locked in
full. -/
def CreateReservation.Backed (p : CreateReservation) : Prop :=
  p.mode = .prefunded → p.lane = .enterprise ∧ p.lockedMicro = p.amountMicro

/-- A contract that asks something of `POST /internal/jobs/reservations`
only at the reservation, which is made without the kernel. -/
structure JobDuty (K : Contract Store Choice Op Op.Res Response) : Prop where
  ends : ∀ r s, K.ends r s
  other : ∀ op k s, op.ofReserveJob = true →
    (∀ p sent, op ≠ .createKizunaReservation p sent) → K.owes op k s
  create : ∀ (p : CreateReservation) k s, p.Backed →
    K.owes (.createKizunaReservation p none) k s

variable {q : JobRequest}

theorem reserveCredit_safe (hK : JobDuty K) {account : Account} {lane : Lane}
    {poolId : String} {amount outstanding approved : Nat}
    {mode : FundingMode}
    (hmode : mode = .prefunded → lane = .enterprise) :
    Safe perform K (reserveCredit env q account lane poolId amount
      outstanding approved mode) s := by
  unfold reserveCredit
  dsimp only
  apply safe_attempt
  · exact fun s' _ => hK.other _ _ s' rfl (by simp)
  · exact fun s' c e _ _ _ => hK.ends _ _
  intro s' c decision _ _ _
  split
  · exact hK.ends _ _
  · apply safe_attempt
    · intro s'' _
      apply hK.create
      intro hprefunded
      exact ⟨hmode hprefunded, if_pos hprefunded⟩
    · exact fun s'' c e _ _ _ => hK.ends _ _
    · exact fun s'' c r _ _ _ => hK.ends _ _

theorem reserveJob_safe (hK : JobDuty K) (s : Store) :
    Safe perform K (reserveJob env q) s := by
  have hother : ∀ op, op.ofReserveJob = true →
      (∀ p sent, op ≠ .createKizunaReservation p sent) →
      ∀ k s s', K.rely s s' → K.owes op k s' :=
    fun op hop hcreate k _ s' _ => hK.other op k s' hop hcreate
  apply safe_check
  · exact fun _ => hK.ends _ _
  intro x _
  apply safe_attempt (hother _ rfl (by simp) _ _)
  · exact fun s' c e _ _ _ => hK.ends _ _
  intro s₁ c₁ replay _ _ _
  cases replay with
  | some r => exact hK.ends _ _
  | none =>
    apply safe_attempt (hother _ rfl (by simp) _ _)
    · exact fun s' c e _ _ _ => hK.ends _ _
    intro s₂ c₂ found _ _ _
    apply safe_check
    · exact fun _ => hK.ends _ _
    intro account _
    apply safe_attempt (hother _ rfl (by simp) _ _)
    · exact fun s' c e _ _ _ => hK.ends _ _
    intro s₃ c₃ outstanding _ _ _
    dsimp only
    split
    · next hprefund =>
        apply safe_attempt (hother _ rfl (by simp) _ _)
        · exact fun s' c e _ _ _ => hK.ends _ _
        intro s₄ c₄ balance _ _ _
        exact reserveCredit_safe hK fun _ => hprefund.1
    · apply reserveCredit_safe hK
      intro hmode
      split at hmode
      · cases hmode
      · cases hmode

-- ==== reservations

/-- A contract that asks something only at reservations is kept by every
request if `/verify` and the internal jobs keep it. -/
theorem reserving_safe (hends : ∀ r s, K.ends r s)
    (hother : ∀ op k s, (∀ p sent, op ≠ .createKizunaReservation p sent) →
      K.owes op k s)
    (hverify : ∀ q : VerifyRequest, VerifyDuty K env q)
    (hjob : ∀ (p : CreateReservation) k s, p.Backed →
      K.owes (.createKizunaReservation p none) k s)
    (q : Request) (now : Nat) (s : Store) :
    Safe perform K (route env now q) s := by
  have hnone : (∀ p sent, q.uses (.createKizunaReservation p sent) = false) →
      Safe perform K (route env now q) s := by
    intro hq
    apply safe_of_uses
    · intro op k s hop
      apply hother
      rintro p sent rfl
      rw [hq] at hop
      cases hop
    · exact fun r s _ => hends r s
  cases q with
  | verify q => exact verify_safe (hverify q) now s
  | reserveJob q =>
    exact reserveJob_safe ⟨hends, fun op k s _ hop => hother op k s hop, hjob⟩ s
  | settle | pay | escrow | authorize | revoke | repay | deposit | withdraw
  | fund | releaseJob | settleJob => exact hnone fun _ _ => rfl

end Duties

-- ==== rows

/-- Every reservation is so. -/
def Db.AllRows (db : Db) (P : Reservation → Prop) : Prop :=
  ∀ r ∈ db.reservations, P r

section Rows

variable {P : Reservation → Prop} {db db' : Db}

theorem allRows_set {id : Nat} {row row' : Reservation} (h : db.AllRows P)
    (hrow : db.reservations[id]? = some row)
    (hset : db'.reservations = db.reservations.set id row')
    (hnew : P row → P row') : db'.AllRows P := by
  intro r hr
  rw [hset] at hr
  rcases List.mem_or_eq_of_mem_set hr with hold | heq
  · exact h r hold
  · subst heq
    exact hnew (h row (List.mem_of_getElem? hrow))

theorem Booked.allRows {op : Op} (hbooked : Booked db db' op)
    (hended : ∀ r status settlementId txHash, P r →
      P (Reservation.ended r status settlementId txHash))
    (hnew : ∀ p sent now, op = .createKizunaReservation p sent →
      P (p.row now)) (h : db.AllRows P) : db'.AllRows P := by
  have hsame : db'.reservations = db.reservations → db'.AllRows P := by
    intro heq r hr
    rw [heq] at hr
    exact h r hr
  cases hbooked with
  | aside decisions settlements guards sessions same grown merchants =>
    exact hsame (by rw [same])
  | settlement row same => exact hsame (by rw [same])
  | reserve p sent now stored done =>
    obtain ⟨-, -, ⟨reserves, balances, hdb⟩, -⟩ := Db.create_ok done
    intro r hr
    rw [hdb] at hr
    rcases List.mem_append.mp hr with hold | heq
    · exact h r hold
    · rw [List.mem_singleton] at heq
      subst heq
      exact hnew p sent now rfl
  | release id status done =>
    rcases Db.release_ok done with
      heq | ⟨row, hrow, -, ⟨reserves, balances, hdb⟩, -⟩
    · exact hsame (by rw [heq])
    · have hset : db'.reservations = db.reservations.set id
          (row.ended status.toReservation row.settlementId row.txHash) := by
        rw [hdb]
        rfl
      exact allRows_set h hrow hset (hended row _ _ _)
  | consume p now v done =>
    obtain ⟨row, d, hrow, -, -, -, ⟨_, _, _, _, hdb⟩, -, -⟩ :=
      Db.finalize_ok done
    have hset : db'.reservations = db.reservations.set p.reservationId
        (row.ended .consumed (some p.settlementId) (some p.txHash)) := by
      rw [hdb]
      rfl
    exact allRows_set h hrow hset (hended row _ _ _)
  | repay p done =>
    obtain ⟨_, _, _, hdb, -⟩ := db.repay_eq p
    exact hsame (by rw [done, hdb])
  | fund p v done =>
    rcases Db.fund_booked done with heq | ⟨⟨_, hdb⟩, -⟩
    · exact hsame (by rw [heq])
    · exact hsame (by rw [hdb])
  | collateral p v done =>
    rcases Db.collateral_ok done with heq | ⟨_, _, _, _, -, hdb⟩
    · exact hsame (by rw [heq])
    · exact hsame (by rw [hdb])

/-- Only such reservations are asked for. -/
def rowDuty (P : Reservation → Prop) (allowed : Op → Choice → Prop) :
    Contract Store Choice Op Op.Res Response where
  rely _ _ := True
  refl _ := trivial
  trans _ _ _ _ _ := trivial
  allowed op c _ := allowed op c
  owes op _ _ :=
    match op with
    | .createKizunaReservation p _ => ∀ now, P (p.row now)
    | _ => True
  ends _ _ := True
  lasts _ _ _ _ _ := trivial

variable {allowed : Op → Choice → Prop} {env : Env}

/-- Every request keeps to it if `/verify` does where the kernel answers
as it may, and if fully locked enterprise reservations are so. -/
theorem rowDuty_safe
    (hverify : ∀ (q : VerifyRequest) a f account mandate collateral c id now,
      allowed (.evaluateKizunaKernelDecision
        (kernelInput env q a account f mandate collateral)) c →
      P ((reservationFor env q a f c.kernel id).row now))
    (hjob : ∀ p : CreateReservation, p.Backed → ∀ now, P (p.row now))
    (q : Request) (now : Nat) (s : Store) :
    Safe perform (rowDuty P allowed) (route env now q) s := by
  have howes : ∀ (op : Op) k s,
      (∀ p sent, op ≠ .createKizunaReservation p sent) →
      (rowDuty P allowed).owes op k s := by
    intro op k s hop
    cases op with
    | createKizunaReservation p sent => exact (hop p sent rfl).elim
    | _ => trivial
  refine reserving_safe ?_ howes ?_ ?_ q now s
  · exact fun _ _ => trivial
  · intro q
    refine ⟨?_, ?_, ?_, ?_⟩
    · exact fun _ _ _ _ => trivial
    · exact fun _ _ => trivial
    · exact fun op k s _ hop => howes op k s hop
    · intro a f input c id k s₀ s' hc hunder _ now
      obtain ⟨account, mandate, collateral, rfl, -⟩ := hunder.input
      exact hverify q a f account mandate collateral c id now hc
  · exact fun p k s hp => hjob p hp

/-- All reservations of a run are such ones. -/
theorem run_allRows (allowed : Op → Choice → Prop)
    (cond : Action → World → Prop)
    (hcond : ∀ i c w op, w.awaited i = some op → cond (.resume i c) w →
      allowed op c)
    (hended : ∀ r status settlementId txHash, P r →
      P (Reservation.ended r status settlementId txHash))
    (hsafe : ∀ q now s, Safe perform (rowDuty P allowed) (route env now q) s)
    {w₀ w : World} {tr : List Action} (h₀ : Genesis w₀)
    (hm : Meets (step env) cond w₀ tr)
    (hrun : run (step env) w₀ tr = .ok w) : w.store.db.AllRows P := by
  have hsafe₀ : AllSafe perform (rowDuty P allowed) w₀ := by
    intro p hp
    rw [h₀.progs] at hp
    cases hp
  have hrows₀ : w₀.store.db.AllRows P := by
    intro r hr
    rw [h₀.reservations] at hr
    cases hr
  refine (run_induct_meets (I := fun w =>
    AllSafe perform (rowDuty P allowed) w ∧ w.store.db.AllRows P) ?_
    ⟨hsafe₀, hrows₀⟩ hm hrun).2
  intro a w w' h hc hstep
  obtain ⟨hall, hrows⟩ := h
  constructor
  · refine safe_step ?_ ?_ hcond hall hc hstep
    · exact fun _ _ _ _ => trivial
    · exact fun q now w _ => hsafe q now w.store
  · rcases step_ok hstep with
      ⟨q, now, -, rfl⟩ | ⟨i, c, op, k, -, hi, hy⟩
    · exact hrows
    · obtain ⟨op', k', hi', hs, -⟩ := resume_some.mp hy
      rw [hs]
      apply (perform_booked op' c w.store).allRows hended _ hrows
      rintro p sent now rfl
      exact (hall _ (List.mem_of_getElem? hi')).owed now

end Rows

end KamiyoProtocol.Facilitator
