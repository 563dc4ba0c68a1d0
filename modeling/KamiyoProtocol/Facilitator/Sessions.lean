/-
Whether a payment session keeps its budget.

What is reserved of a session's budget is handed to the request, which
spends it on its transfer or gives it back. A transfer that reports
failure is taken for one that did not happen, and its amount given back;
so the budget is kept while no transfer takes effect after all.
-/
import KamiyoProtocol.Facilitator.Guards
import KamiyoProtocol.Facilitator.Duties
import KamiyoProtocol.Facilitator.Concrete

namespace KamiyoProtocol.Facilitator

open Exec Await Function

variable {env : Env} {hash : String} {s s' : Store}

-- ==== budgets

/-- What an order draws on the session. -/
def Order.drawn (hash : String) (o : Order) : Nat :=
  if o.purpose = .session hash then o.amount else 0

/-- The transfers made under a session. -/
def Store.drawnUnder (hash : String) (s : Store) : Nat :=
  (s.payouts.map fun o => o.order.drawn hash).sum

/-- What a session has of its budget spent, nothing for no session. -/
def Store.spentUnder (hash : String) (s : Store) : Nat :=
  ((s.db.paymentSessions hash).map PaymentSession.spentMicro).getD 0

/-- What is reserved is handed to the request. -/
def Op.budgetGain (hash : String) : (op : Op) → op.Res → Nat
  | .reservePaymentSessionSpend hash' micro, r =>
    ifGranted r (if hash' = hash then micro else 0)
  | _, _ => 0

/-- A transfer takes it, and so does its release. -/
def Op.budgetCost (hash : String) : (op : Op) → op.Res → Nat
  | .settlePayment o, _ => o.drawn hash
  | .createEscrow o, _ => o.drawn hash
  | .settleAuthorizedPaymentBase o, _ => o.drawn hash
  | .settleDelegatedPayment o, r => ifMade r (o.drawn hash)
  | .releasePaymentSessionSpend hash' micro, _ =>
    if hash' = hash then micro else 0
  | _, _ => 0

theorem drawnUnder_perform (op : Op) (c : Choice) (s : Store) :
    (perform op c s).1.drawnUnder hash = s.drawnUnder hash
      + ((executed op c).map fun o => o.order.drawn hash).sum := by
  unfold Store.drawnUnder
  rw [perform_payouts, List.map_append, List.sum_append]

variable {op : Op}

theorem drawn_aside (hash : String) (horder : op.order = none)
    (c : Choice) (s : Store) :
    (perform op c s).1.drawnUnder hash = s.drawnUnder hash := by
  rw [drawnUnder_perform]
  unfold executed
  rw [horder]
  simp

theorem drawn_transfer (hash : String) {source : Source} (op : Op) {o : Order}
    (horder : op.order = some (source, o)) (c : Choice) (s : Store) :
    (perform op c s).1.drawnUnder hash = s.drawnUnder hash
      + if c.pays source o then o.drawn hash else 0 := by
  rw [drawnUnder_perform]
  unfold executed
  rw [horder]
  by_cases hpays : c.pays source o
  · simp [if_pos hpays, Choice.payout]
  · simp [if_neg hpays]

theorem spent_put {k : String} {x : Option PaymentSession} :
    ((update s.db.paymentSessions k x hash).map PaymentSession.spentMicro).getD 0
      = if k = hash then (x.map PaymentSession.spentMicro).getD 0
        else s.spentUnder hash := by
  by_cases hk : k = hash
  · subst hk
    rw [if_pos rfl, update_self]
  · rw [if_neg hk, update_of_ne (Ne.symm hk)]
    rfl

variable {micro : Nat}

variable {c : Choice} {hash' : String}

theorem spent_reserve :
    ifGranted (commit c s
        (.ok (s.db.reservePaymentSessionSpend hash' micro c.clock))).2
        (if hash' = hash then micro else 0) + s.spentUnder hash
      ≤ (commit c s
        (.ok (s.db.reservePaymentSessionSpend hash' micro
          c.clock))).1.spentUnder hash := by
  have hrefused : ∀ n, ifGranted (commit c s (.ok (s.db, false))).2 n
      + s.spentUnder hash
        ≤ (commit c s (.ok (s.db, false))).1.spentUnder hash := by
    intro n
    unfold commit ifGranted
    cases c.outcome with
    | succeeds | fails | lost => exact (Nat.zero_add _).le
  unfold Db.reservePaymentSessionSpend
  cases hsession : s.db.paymentSessions hash' with
  | none => exact hrefused _
  | some x =>
    dsimp only
    split
    · have hmade : ((update s.db.paymentSessions hash' (some { x with
          spentMicro := x.spentMicro + micro }) hash).map
            PaymentSession.spentMicro).getD 0
          = (if hash' = hash then micro else 0) + s.spentUnder hash := by
        rw [spent_put]
        by_cases hk : hash' = hash
        · subst hk
          simp [Store.spentUnder, hsession, Nat.add_comm]
        · simp [if_neg hk]
      unfold commit ifGranted
      cases c.outcome with
      | succeeds => exact hmade.ge
      | fails => exact (Nat.zero_add _).le
      | lost =>
        show 0 + s.spentUnder hash ≤ _
        rw [Nat.zero_add]
        exact (Nat.le_add_left ..).trans hmade.ge
    · exact hrefused _

theorem spent_release :
    s.spentUnder hash ≤ (if hash' = hash then micro else 0) + (commit c s
      (.ok (s.db.releasePaymentSessionSpend hash' micro,
        ()))).1.spentUnder hash := by
  rcases commit_db c s
      (.ok (s.db.releasePaymentSessionSpend hash' micro, ())) with
    hsame | ⟨db, v, hx, hdb⟩
  · rw [hsame]
    omega
  · rw [hdb]
    cases hx
    show _ ≤ _ + ((update s.db.paymentSessions hash' _ hash).map
      PaymentSession.spentMicro).getD 0
    rw [spent_put]
    by_cases hk : hash' = hash
    · subst hk
      rw [if_pos rfl, if_pos rfl]
      unfold Store.spentUnder
      cases s.db.paymentSessions hash' with
      | none => simp
      | some x =>
        show x.spentMicro ≤ micro + (x.spentMicro - micro)
        omega
    · rw [if_neg hk, if_neg hk]
      omega

theorem drawn_commit {α : Type} (c : Choice) (s : Store)
    (x : Except String (Db × α)) :
    (commit c s x).1.drawnUnder hash = s.drawnUnder hash := by
  unfold Store.drawnUnder
  rw [commit_payouts]

theorem spent_revoke :
    (commit c s (.ok (s.db.revokePaymentSession hash' c.clock))).1.spentUnder
      hash = s.spentUnder hash := by
  rcases commit_db c s (.ok (s.db.revokePaymentSession hash' c.clock)) with
    hsame | ⟨db, v, hx, hdb⟩
  · rw [hsame]
  · rw [hdb]
    unfold Db.revokePaymentSession at hx
    split at hx
    · next x hsession =>
        split at hx
        · cases hx
          show ((update s.db.paymentSessions hash' _ hash).map
            PaymentSession.spentMicro).getD 0 = _
          rw [spent_put]
          by_cases hk : hash' = hash
          · subst hk
            rw [if_pos rfl]
            unfold Store.spentUnder
            rw [hsession]
            rfl
          · rw [if_neg hk]
        · cases hx
          rfl
    · cases hx
      rfl

theorem spent_insert {row : PaymentSession} :
    s.spentUnder hash
      ≤ (commit c s (s.db.insertPaymentSession hash' row)).1.spentUnder hash := by
  rcases commit_db c s (s.db.insertPaymentSession hash' row) with
    hsame | ⟨db, v, hx, hdb⟩
  · rw [hsame]
  · rw [hdb]
    obtain ⟨u, hnew, hx⟩ := bind_ok.mp hx
    have hnew := require_ok.mp hnew
    cases hx
    show _ ≤ ((update s.db.paymentSessions hash' _ hash).map
      PaymentSession.spentMicro).getD 0
    rw [spent_put]
    by_cases hk : hash' = hash
    · subst hk
      unfold Store.spentUnder
      rw [hnew]
      exact Nat.zero_le _
    · rw [if_neg hk]

theorem budget_sum {s s' : Store} {gain cost : Nat}
    (hdrawn : s'.drawnUnder hash = s.drawnUnder hash)
    (h : gain + s.spentUnder hash ≤ cost + s'.spentUnder hash) :
    s'.drawnUnder hash + gain + s.spentUnder hash
      ≤ s.drawnUnder hash + cost + s'.spentUnder hash := by
  omega

/-- Every operation is paid for by what its request holds of the budget, or
by what it has spent of it. -/
theorem budget_step (hc : c.Sure Purpose.isSession op) :
    (perform op c s).1.drawnUnder hash
        + Op.budgetGain hash op (perform op c s).2 + s.spentUnder hash
      ≤ s.drawnUnder hash + Op.budgetCost hash op (perform op c s).2
        + (perform op c s).1.spentUnder hash := by
  have hspent : op.ofSessions = false →
      (perform op c s).1.spentUnder hash = s.spentUnder hash := by
    intro hop
    unfold Store.spentUnder
    rw [(perform_frames op c s).sessions hop]
  have haside : op.ofSessions = false → op.order = none →
      Op.budgetGain hash op (perform op c s).2 = 0 →
      (perform op c s).1.drawnUnder hash
          + Op.budgetGain hash op (perform op c s).2 + s.spentUnder hash
        ≤ s.drawnUnder hash + Op.budgetCost hash op (perform op c s).2
          + (perform op c s).1.spentUnder hash := by
    intro hop horder hgain
    have hdrawn := drawn_aside hash horder c s
    have hspent := hspent hop
    omega
  have hpaid : ∀ {source : Source} {o : Order},
      op.order = some (source, o) → op.ofSessions = false →
      Op.budgetGain hash op (perform op c s).2 = 0 →
      (if c.pays source o then o.drawn hash else 0)
        ≤ Op.budgetCost hash op (perform op c s).2 →
      (perform op c s).1.drawnUnder hash
          + Op.budgetGain hash op (perform op c s).2 + s.spentUnder hash
        ≤ s.drawnUnder hash + Op.budgetCost hash op (perform op c s).2
          + (perform op c s).1.spentUnder hash := by
    intro source o horder hop hgain hcost
    have hdrawn := drawn_transfer hash op horder c s
    have hspent := hspent hop
    omega
  have hle : ∀ (source : Source) (o : Order),
      (if c.pays source o then o.drawn hash else 0) ≤ o.drawn hash := by
    intro source o
    split
    · exact Nat.le_refl _
    · exact Nat.zero_le _
  cases op with
  | settlePayment o => exact hpaid rfl rfl rfl (hle _ o)
  | createEscrow o => exact hpaid rfl rfl rfl (hle _ o)
  | settleAuthorizedPaymentBase o => exact hpaid rfl rfl rfl (hle _ o)
  | settleDelegatedPayment o =>
    have hsure : o.drawn hash ≠ 0 → c.outcome ≠ .lost := by
      intro hne
      apply hc o rfl
      unfold Order.drawn at hne
      by_cases hpurpose : o.purpose = .session hash
      · rw [hpurpose]
        rfl
      · rw [if_neg hpurpose] at hne
        exact (hne rfl).elim
    exact hpaid rfl rfl rfl (le_ifMade .payer o s hsure)
  | reservePaymentSessionSpend hash' micro =>
    exact budget_sum (drawn_commit c s _)
      (spent_reserve.trans (Nat.le_add_left _ 0))
  | releasePaymentSessionSpend hash' micro =>
    exact budget_sum (drawn_commit c s _)
      ((Nat.zero_add _).le.trans spent_release)
  | insertPaymentSession hash' row =>
    exact budget_sum (drawn_commit c s _)
      (Nat.add_le_add_left spent_insert 0)
  | revokePaymentSession hash' =>
    exact budget_sum (drawn_commit c s _)
      (Nat.add_le_add_left spent_revoke.ge 0)
  | _ => exact haside rfl rfl rfl

-- ==== routes

variable {q : PaymentRequest}

section Routes

variable {n : Nat}

/-- A request that holds `n` micro of the session's budget. -/
abbrev Spending (hash : String) (p : Handler) (n : Nat) : Prop :=
  Within (Op.budgetGain hash) (Op.budgetCost hash) p n

theorem drawn_zero {o : Order} (h : ∀ hash, o.purpose ≠ .session hash) :
    o.drawn hash = 0 := if_neg (h hash)

theorem Op.ofExact_budgetCost (r : op.Res)
    (h : op.ofExact = true) : Op.budgetCost hash op r = 0 := by
  have hexact : ∀ {o : Order}, decide (o.purpose = .exact) = true →
      o.drawn hash = 0 := by
    intro o ho
    apply drawn_zero
    intro hash' hsession
    rw [of_decide_eq_true ho] at hsession
    cases hsession
  cases op with
  | settlePayment o => exact hexact h
  | settleAuthorizedPaymentBase o => exact hexact h
  | settleDelegatedPayment | createEscrow
  | releasePaymentSessionSpend => cases h
  | _ => rfl

theorem abandonSession_spending {hash' payer nonce : String}
    {settlementId : Option Nat} {message : String}
    (hn : (if hash' = hash then micro else 0) ≤ n) : Spending hash
      (abandonSession hash' payer nonce micro settlementId message) n := by
  have hreleased : Spending hash
      (abandonSession hash' payer nonce micro none message) n := by
    apply within_attempt
    · exact fun _ _ => ⟨hn, trivial⟩
    · exact fun _ _ => ⟨hn, within_ignore (fun _ => rfl) trivial⟩
  cases settlementId with
  | none => exact hreleased
  | some id => exact within_call (fun _ => rfl) fun _ _ => hreleased

theorem paySession_spending {network hash' nonce : String}
    {session : PaymentSession} : Spending hash
      (paySession q network hash' nonce session micro)
      (if hash' = hash then micro else 0) := by
  have habandon : ∀ settlementId message, Spending hash
      (abandonSession hash' session.payerWallet nonce micro settlementId
        message) (if hash' = hash then micro else 0) :=
    fun _ _ => abandonSession_spending (Nat.le_refl _)
  unfold paySession
  dsimp only
  apply within_free (fun _ => rfl) (fun _ => habandon _ _)
  intro now settlement
  apply within_ignore (fun _ => rfl)
  apply within_free (fun _ => rfl) (fun _ => habandon _ _)
  intro now' feeBps
  apply within_attempt
  · exact fun _ _ => ⟨Nat.zero_le _, habandon _ _⟩
  · intro now'' onchain
    refine ⟨?_, recordPayment_only.within fun _ r => Op.ofExact_budgetCost r⟩
    show (if Purpose.session hash' = .session hash then micro else 0)
      ≤ (if hash' = hash then micro else 0) + 0
    by_cases hk : hash' = hash
    · rw [if_pos hk, if_pos (congrArg _ hk)]
      exact Nat.le_refl _
    · rw [if_neg hk, if_neg fun heq => hk (Purpose.session.inj heq)]

theorem settleSession_spending {network : String} :
    Spending hash (settleSession env q network) 0 := by
  apply within_check
  intro x _
  apply within_call (fun _ => rfl)
  intro now found
  apply within_check
  intro y _
  apply within_free (fun _ => rfl)
  · exact fun _ => trivial
  intro now' nonceReserved
  split
  · apply within_attempt
    · exact fun _ _ => ⟨Nat.zero_le _, trivial⟩
    · intro now'' budgetReserved
      refine ⟨Nat.zero_le _, ?_⟩
      cases budgetReserved with
      | false => exact within_ignore (fun _ => rfl) trivial
      | true =>
        have hheld : 0 + Op.budgetGain hash (.reservePaymentSessionSpend
            x.1 y.2) ⟨now'', .ok true⟩ - 0
              = if x.1 = hash then y.2 else 0 := Nat.zero_add _
        show Spending hash _ (0 + Op.budgetGain hash _ _ - 0)
        rw [hheld]
        exact paySession_spending
  · exact replayPayment_only.within fun _ r => Op.ofExact_budgetCost r

theorem plain_spending (q : PaymentRequest) (now : Nat) :
    Spending hash (settlePlain env q now) 0 := by
  apply within_check
  intro x _
  dsimp only
  split
  · exact settleSession_spending
  · exact settleExact_only.within fun _ r => Op.ofExact_budgetCost r

theorem Op.ofSettle_budgetCost (r : op.Res)
    (h : op.ofSettle = true) : Op.budgetCost hash op r = 0 := by
  cases op with
  | settlePayment o =>
    have hcredit : o.purpose.reservation ≠ none := of_decide_eq_true h
    apply drawn_zero
    intro hash' hsession
    rw [hsession] at hcredit
    exact hcredit rfl
  | settleAuthorizedPaymentBase | settleDelegatedPayment | createEscrow
  | releasePaymentSessionSpend => cases h
  | _ => rfl

theorem Op.ofEscrow_budgetCost (r : op.Res)
    (h : op.ofEscrow = true) : Op.budgetCost hash op r = 0 := by
  cases op with
  | createEscrow o =>
    have hescrow : o.purpose.isEscrow = true := h
    apply drawn_zero
    intro hash' hsession
    rw [hsession] at hescrow
    cases hescrow
  | reservePaymentNonce | insertEscrowRecord | insertFeeLedger => rfl
  | _ => cases h

theorem route_spending (q : Request) (now : Nat) :
    Spending hash (route env now q) 0 := by
  have hnone : (∀ op r, q.uses op = true → Op.budgetCost hash op r = 0) →
      Spending hash (route env now q) 0 :=
    fun huses => (route_only q now).within huses
  cases q with
  | pay q => exact plain_spending q now
  | settle q => exact hnone fun _ r => Op.ofSettle_budgetCost r
  | escrow q => exact hnone fun _ r => Op.ofEscrow_budgetCost r
  | _ =>
    apply hnone
    intro op r hop
    cases op with
    | settlePayment | settleAuthorizedPaymentBase | settleDelegatedPayment
    | createEscrow | releasePaymentSessionSpend => cases hop
    | _ => rfl

end Routes

-- ==== terms

/-- A session under the terms of another one. -/
def PaymentSession.continues (x y : PaymentSession) : Prop :=
  y = { x with spentMicro := y.spentMicro, revokedAt := y.revokedAt }

/-- Sessions keep their terms. -/
def SameTerms (s s' : Store) : Prop :=
  ∀ hash x, s.db.paymentSessions hash = some x →
    ∃ y, s'.db.paymentSessions hash = some y ∧ x.continues y

theorem SameTerms.refl (s : Store) : SameTerms s s :=
  fun _ x hx => ⟨x, hx, rfl⟩

theorem SameTerms.trans {a b c : Store} (h₁ : SameTerms a b)
    (h₂ : SameTerms b c) : SameTerms a c := by
  intro hash x hx
  obtain ⟨y, hy, hxy⟩ := h₁ hash x hx
  obtain ⟨z, hz, hyz⟩ := h₂ hash y hy
  unfold PaymentSession.continues at hxy hyz
  exact ⟨z, hz, by unfold PaymentSession.continues; rw [hyz, hxy]⟩

/-- No session has more spent than its budget. -/
def Budgets (s : Store) : Prop :=
  ∀ hash x, s.db.paymentSessions hash = some x → x.spentMicro ≤ x.maxTotalMicro

/-- One session is put in the place of one under the same terms, or of
none. -/
theorem sessions_put {s : Store} {hash : String} {y : PaymentSession}
    (hterms : ∀ x, s.db.paymentSessions hash = some x → x.continues y)
    (hbudget : Budgets s → y.spentMicro ≤ y.maxTotalMicro) :
    SameTerms s { s with db := { s.db with
        paymentSessions := update s.db.paymentSessions hash (some y) } }
      ∧ (Budgets s → Budgets { s with db := { s.db with
        paymentSessions := update s.db.paymentSessions hash (some y) } }) := by
  constructor
  · intro k x hx
    by_cases hk : k = hash
    · subst hk
      exact ⟨y, update_self .., hterms x hx⟩
    · refine ⟨x, ?_, rfl⟩
      show update s.db.paymentSessions hash _ k = _
      rw [update_of_ne hk]
      exact hx
  · intro hs k x hx
    change update s.db.paymentSessions hash (some y) k = some x at hx
    by_cases hk : k = hash
    · subst hk
      rw [update_self] at hx
      cases hx
      exact hbudget hs
    · rw [update_of_ne hk] at hx
      exact hs k x hx

theorem perform_terms (op : Op) (c : Choice) (s : Store) :
    SameTerms s (perform op c s).1
      ∧ (Budgets s → Budgets (perform op c s).1) := by
  have hsame : ∀ {s' : Store}, s'.db.paymentSessions = s.db.paymentSessions →
      SameTerms s s' ∧ (Budgets s → Budgets s') := by
    intro s' heq
    refine ⟨fun hash x hx => ⟨x, by rw [heq]; exact hx, rfl⟩, ?_⟩
    intro h hash x hx
    rw [heq] at hx
    exact h hash x hx
  have hcommit : ∀ {α : Type} {x : Except String (Db × α)},
      (∀ db v, x = .ok (db, v) → SameTerms s { s with db := db }
        ∧ (Budgets s → Budgets { s with db := db })) →
      SameTerms s (commit c s x).1 ∧ (Budgets s → Budgets (commit c s x).1) := by
    intro α x h
    rcases commit_db c s x with heq | ⟨db, v, hx, hdb⟩
    · rw [heq]
      exact hsame rfl
    · rw [hdb]
      exact h db v hx
  cases op with
  | reservePaymentSessionSpend hash micro =>
    apply hcommit
    intro db v hx
    unfold Db.reservePaymentSessionSpend at hx
    split at hx
    · next x hsession =>
        split at hx
        · next hroom =>
            cases hx
            apply sessions_put
            · intro x' hx'
              rw [hsession] at hx'
              cases hx'
              rfl
            · exact fun _ => hroom.2.2
        · cases hx
          exact hsame rfl
    · cases hx
      exact hsame rfl
  | releasePaymentSessionSpend hash micro =>
    apply hcommit
    intro db v hx
    cases hx
    unfold Db.releasePaymentSessionSpend
    cases hsession : s.db.paymentSessions hash with
    | none =>
      apply hsame
      show update s.db.paymentSessions hash none = _
      funext k
      by_cases hk : k = hash
      · subst hk
        rw [update_self, hsession]
      · rw [update_of_ne hk]
    | some x =>
      apply sessions_put
      · intro x' hx'
        rw [hsession] at hx'
        cases hx'
        rfl
      · intro hs
        exact (Nat.sub_le ..).trans (hs hash x hsession)
  | insertPaymentSession hash row =>
    apply hcommit
    intro db v hx
    obtain ⟨u, hnew, hx⟩ := bind_ok.mp hx
    have hnew := require_ok.mp hnew
    cases hx
    apply sessions_put
    · intro x hx
      rw [hnew] at hx
      cases hx
    · exact fun _ => Nat.zero_le _
  | revokePaymentSession hash =>
    apply hcommit
    intro db v hx
    unfold Db.revokePaymentSession at hx
    split at hx
    · next x hsession =>
        split at hx
        · cases hx
          apply sessions_put
          · intro x' hx'
            rw [hsession] at hx'
            cases hx'
            rfl
          · exact fun hs => hs hash x hsession
        · cases hx
          exact hsame rfl
    · cases hx
      exact hsame rfl
  | _ => exact hsame ((perform_frames _ c s).sessions rfl)

-- ==== limits

/-- The session is the payer's, and allows the amount at once. -/
def Store.Allows (hash payer : String) (micro : Nat) (s : Store) : Prop :=
  ∃ x, s.db.paymentSessions hash = some x ∧ x.payerWallet = payer
    ∧ ∀ m ∈ x.maxSingleMicro, micro ≤ m

theorem Store.Allows.later {payer : String}
    (h : s.Allows hash payer micro) (hs : SameTerms s s') :
    s'.Allows hash payer micro := by
  obtain ⟨x, hx, hpayer, hsingle⟩ := h
  obtain ⟨y, hy, hxy⟩ := hs hash x hx
  unfold PaymentSession.continues at hxy
  refine ⟨y, hy, ?_, ?_⟩
  · rw [hxy]
    exact hpayer
  · rw [hxy]
    exact hsingle

/-- The session of an order allows it. -/
def Store.Limits (s : Store) (o : Order) : Prop :=
  ∀ hash, o.purpose = .session hash → s.Allows hash o.payerWallet o.amount

/-- A transfer keeps to the terms of its session. -/
def limitDuty : Contract Store Choice Op Op.Res Response where
  rely := SameTerms
  refl := SameTerms.refl
  trans _ _ _ := SameTerms.trans
  allowed _ _ _ := True
  owes op _ s := ∀ x ∈ op.order, s.Limits x.2
  ends _ _ := True
  lasts _ _ _ _ _ := trivial

theorem limitDuty_other {k : op.Res → Handler}
    (h : ∀ x ∈ op.order, x.2.purpose.isSession = false) :
    limitDuty.owes op k s := by
  intro x hx hash hpurpose
  have hnone := h x hx
  rw [hpurpose] at hnone
  cases hnone

theorem limitDuty_only {f : Op → Bool} {g : Response → Bool} {p : Handler}
    (hf : ∀ op, f op = true → ∀ x ∈ op.order, x.2.purpose.isSession = false)
    (h : Only f g p) : Safe perform limitDuty p s := by
  apply h.safe
  · exact fun op k s hop _ => limitDuty_other (hf op hop)
  · exact fun _ _ _ => trivial

theorem Op.ofExact_sessionless (h : op.ofExact = true) :
    ∀ x ∈ op.order, x.2.purpose.isSession = false := by
  intro x hx
  cases op with
  | settlePayment o =>
    cases hx
    rw [of_decide_eq_true h]
    rfl
  | settleAuthorizedPaymentBase o =>
    cases hx
    rw [of_decide_eq_true h]
    rfl
  | settleDelegatedPayment o => cases h
  | createEscrow o => cases h
  | _ => cases hx

theorem Op.ofSettle_sessionless (h : op.ofSettle = true) :
    ∀ x ∈ op.order, x.2.purpose.isSession = false := by
  intro x hx
  cases op with
  | settlePayment o =>
    cases hx
    have hcredit : o.purpose.reservation ≠ none := of_decide_eq_true h
    cases hpurpose : o.purpose with
    | session hash => exact (hcredit (by rw [hpurpose]; rfl)).elim
    | _ => rfl
  | settleAuthorizedPaymentBase | settleDelegatedPayment
  | createEscrow => cases h
  | _ => cases hx

theorem Op.ofEscrow_sessionless (h : op.ofEscrow = true) :
    ∀ x ∈ op.order, x.2.purpose.isSession = false := by
  intro x hx
  cases op with
  | createEscrow o =>
    cases hx
    have hescrow : o.purpose.isEscrow = true := h
    cases hpurpose : o.purpose with
    | session hash =>
      rw [hpurpose] at hescrow
      cases hescrow
    | _ => rfl
  | settlePayment | settleAuthorizedPaymentBase
  | settleDelegatedPayment => cases h
  | _ => cases hx

theorem checkSession_ok {network : String}
    {found : Option PaymentSession} {now : Nat} {x : PaymentSession}
    (h : checkSession env q network found now = .ok (x, micro)) :
    found = some x ∧ ∀ m ∈ x.maxSingleMicro, micro ≤ m := by
  unfold checkSession at h
  obtain ⟨y, hy, u₁, -, u₂, -, u₃, -, h⟩ := bind_ok₄.mp h
  obtain ⟨u₄, -, raw, -, m, -, u₅, -, h⟩ := bind_ok₄.mp h
  obtain ⟨u₆, -, u₇, hsingle, u₈, -, u₉, -, h⟩ := bind_ok₄.mp h
  cases h
  exact ⟨okOr_ok.mp hy, require_ok.mp hsingle⟩

theorem allows_carried (hash payer : String) (micro : Nat) :
    Carried limitDuty (Store.Allows hash payer micro) where
  later _ _ hs h := h.later hs
  moves op c s _ := (perform_terms op c s).1

theorem limitDuty_free {k : op.Res → Handler}
    (hop : op.order = none) : limitDuty.owes op k s := by
  intro y hy
  rw [hop] at hy
  cases hy

theorem abandonSession_limitDuty {hash payer nonce : String}
    {settlementId : Option Nat} {message : String} : Safe perform limitDuty
      (abandonSession hash payer nonce micro settlementId message) s := by
  have hreleased : ∀ s, Safe perform limitDuty
      (abandonSession hash payer nonce micro none message) s := fun s =>
    safe_call (fun _ _ => limitDuty_free rfl) (fun _ _ => trivial)
      fun _ _ _ _ _ _ => safe_ignore (fun _ _ => limitDuty_free rfl)
        fun _ _ _ _ => trivial
  cases settlementId with
  | none => exact hreleased s
  | some id =>
    exact safe_call (fun _ _ => limitDuty_free rfl) (fun _ _ => trivial)
      fun _ _ _ _ _ _ => hreleased _

theorem paySession_limitDuty {network hash nonce : String} {x : PaymentSession}
    (h : s.Allows hash x.payerWallet micro) :
    Safe perform limitDuty (paySession q network hash nonce x micro) s := by
  have hcarried := allows_carried hash x.payerWallet micro
  unfold paySession
  dsimp only
  apply carry_attempt hcarried h (fun _ _ => limitDuty_free rfl)
  · exact fun _ _ _ => abandonSession_limitDuty
  intro now₁ settlement s₁ h₁
  apply carry_ignore hcarried h₁ (fun _ _ => limitDuty_free rfl)
  intro s₂ h₂
  apply carry_attempt hcarried h₂ (fun _ _ => limitDuty_free rfl)
  · exact fun _ _ _ => abandonSession_limitDuty
  intro now₃ feeBps s₃ h₃
  apply carry_attempt hcarried h₃
  · intro s₄ h₄ y hy hash' hpurpose
    cases hy
    obtain rfl := Purpose.session.inj hpurpose
    exact h₄
  · exact fun _ _ _ => abandonSession_limitDuty
  · exact fun _ _ _ _ =>
      limitDuty_only (fun _ => Op.ofExact_sessionless) recordPayment_only

theorem plain_limitDuty (q : PaymentRequest) (now : Nat) (s : Store) :
    Safe perform limitDuty (settlePlain env q now) s := by
  apply safe_check (fun _ => trivial)
  intro x _
  dsimp only
  split
  · apply safe_check (fun _ => trivial)
    intro y _
    apply safe_call (fun _ _ => limitDuty_free rfl) (fun _ _ => trivial)
    intro s₁ c₁ found _ _ hfound
    have hfound := inquire_value hfound
    apply safe_check (fun _ => trivial)
    intro z hz
    obtain ⟨hsome, hsingle⟩ := checkSession_ok hz
    have hcarried := allows_carried y.1 z.1.payerWallet z.2
    have h₁ : (perform (.getPaymentSessionByTokenHash y.1) c₁ s₁).1.Allows
        y.1 z.1.payerWallet z.2 :=
      ⟨z.1, hfound.symm.trans hsome, rfl, hsingle⟩
    apply carry_attempt hcarried h₁ (fun _ _ => limitDuty_free rfl)
    · exact fun _ _ _ => trivial
    intro now₂ nonceReserved s₂ h₂
    split
    · apply carry_call hcarried h₂ (fun _ _ => limitDuty_free rfl)
      · exact fun _ _ => trivial
      intro now₃ budgetReserved s₃ h₃
      split
      · exact paySession_limitDuty h₃
      · exact safe_ignore (fun _ _ => limitDuty_free rfl)
          fun _ _ _ _ => trivial
    · exact limitDuty_only (fun _ => Op.ofExact_sessionless)
        replayPayment_only
  · exact limitDuty_only (fun _ => Op.ofExact_sessionless) settleExact_only

theorem limitDuty_safe (q : Request) (now : Nat) (s : Store) :
    Safe perform limitDuty (route env now q) s := by
  cases q with
  | pay q => exact plain_limitDuty q now s
  | settle q =>
    exact limitDuty_only (fun _ => Op.ofSettle_sessionless)
      (settle_only q now)
  | escrow q =>
    exact limitDuty_only (fun _ => Op.ofEscrow_sessionless)
      (escrow_only q now)
  | _ =>
    refine limitDuty_only ?_ (route_only _ now)
    intro op hop x hx
    cases op with
    | settlePayment | settleAuthorizedPaymentBase | settleDelegatedPayment
    | createEscrow => cases hop
    | _ => cases hx

-- ==== runs

/-- What is taken from the payer under the session. -/
def Store.movedUnder (hash : String) (s : Store) : Nat :=
  (s.payouts.map fun o =>
    if o.order.purpose = .session hash then o.moved else 0).sum

/-- How often the payer is debited under the session and a nonce. -/
def Store.debitsUnder (hash nonce : String) (s : Store) : Nat :=
  (s.payouts.map fun o => if o.order.purpose = .session hash
    ∧ o.order.nonce = nonce then 1 else 0).sum

/-- The transfers of every session keep to its budget and its single
limit, at most one a nonce, and are spent of the budget. -/
structure SessionsKept (s : Store) : Prop where
  total : ∀ hash x, s.db.paymentSessions hash = some x →
    s.movedUnder hash ≤ x.maxTotalMicro
  single : ∀ o ∈ s.payouts, ∀ hash, o.order.purpose = .session hash →
    ∃ x, s.db.paymentSessions hash = some x
      ∧ ∀ m ∈ x.maxSingleMicro, o.moved ≤ m
  once : ∀ hash nonce, s.debitsUnder hash nonce ≤ 1
  spent : ∀ hash x, s.db.paymentSessions hash = some x →
    s.movedUnder hash ≤ x.spentMicro

/-- Every payment moves at most its amount, and its session allows it. -/
def LimitedPayouts (s : Store) : Prop :=
  ∀ o ∈ s.payouts, o.moved ≤ o.order.amount ∧ s.Limits o.order

/-- A transfer of known outcome. -/
def Confirmed (a : Action) (w : World) : Prop :=
  AtOp (fun c op _ => c.Sure Purpose.isSession op) a w
  deriving Decidable

variable {w₀ w : World} {tr : List Action}

theorem run_limited (h₀ : Genesis w₀)
    (hrun : run (step env) w₀ tr = .ok w) : LimitedPayouts w.store := by
  have hany : ∀ {p : List Action}, Meets (step env) (fun _ _ => True) w₀ p :=
    meets_of_forall fun _ _ => trivial
  have hduty : ∀ {p : List Action} {m : World},
      run (step env) w₀ p = .ok m → AllSafe perform limitDuty m := by
    intro p m hp
    refine run_safe ?_ ?_ ?_ h₀.progs hany hp
    · exact fun op c s _ => (perform_terms op c s).1
    · exact fun q now w _ => limitDuty_safe q now w.store
    · exact fun _ _ _ _ _ _ => trivial
  refine run_induct_cut (P := fun w => AllSafe perform limitDuty w)
    (I := fun w => LimitedPayouts w.store)
    (fun p q m _ _ hp => hduty hp) ?_ ?_ hany hrun
  · intro a m m' hsafe _ h _ hstep
    rcases step_ok hstep with
      ⟨q, now, -, rfl⟩ | ⟨i, c, op, k, -, hi, hy⟩
    · exact h
    · obtain ⟨op', k', hi', hs, -⟩ := resume_some.mp hy
      have howes := (hsafe _ (List.mem_of_getElem? hi')).owed
      have hterms := (perform_terms op' c m.store).1
      rw [hs]
      intro o ho
      rcases mem_payouts ho with hold | ⟨source, order, horder, hpays, rfl⟩
      · exact ⟨(h o hold).1, fun hash hpurpose =>
          ((h o hold).2 hash hpurpose).later hterms⟩
      · exact ⟨moved_le hpays, fun hash hpurpose =>
          (howes _ horder hash hpurpose).later hterms⟩
  · intro o ho
    rw [h₀.payouts] at ho
    cases ho

theorem run_budgets (h₀ : Genesis w₀) (hm : Meets (step env) Confirmed w₀ tr)
    (hrun : run (step env) w₀ tr = .ok w) (hash : String) :
    w.store.drawnUnder hash ≤ w.store.spentUnder hash := by
  have hstart : Held (Op.budgetGain hash) (Op.budgetCost hash)
      (Store.drawnUnder hash) (Store.spentUnder hash) w₀ := by
    apply held_start h₀.progs
    unfold Store.drawnUnder
    rw [h₀.payouts]
    exact Nat.zero_le _
  refine (run_induct_meets (I := Held (Op.budgetGain hash)
    (Op.budgetCost hash) (Store.drawnUnder hash) (Store.spentUnder hash))
    ?_ hstart hm hrun).le
  intro a w w' h hcond hstep
  rcases step_ok hstep with
    ⟨q, now, -, rfl⟩ | ⟨i, c, op, k, rfl, hi, hy⟩
  · exact held_arrive h (route_spending q now)
  · exact held_resume h hi hy (budget_step (hcond op (awaited_of hi)))

/-- While no transfer takes effect and reports failure, every session
keeps its budget. -/
theorem sessions_kept (h₀ : Genesis w₀) (hm : Meets (step env) Confirmed w₀ tr)
    (hrun : run (step env) w₀ tr = .ok w) : SessionsKept w.store := by
  have hlimited := run_limited h₀ hrun
  have hbudgets : Budgets w.store := by
    refine run_store (I := Budgets) ?_ ?_ hm hrun
    · exact fun op c w _ h => (perform_terms op c w.store).2 h
    · intro hash x hx
      rw [h₀.sessions] at hx
      cases hx
  have hmoved : ∀ hash, w.store.movedUnder hash ≤ w.store.drawnUnder hash := by
    intro hash
    apply List.sum_le_sum
    intro o ho
    unfold Order.drawn
    split
    · exact (hlimited o ho).1
    · exact Nat.le_refl _
  have hspent : ∀ hash x, w.store.db.paymentSessions hash = some x →
      w.store.movedUnder hash ≤ x.spentMicro := by
    intro hash x hx
    have hdrawn := run_budgets h₀ hm hrun hash
    unfold Store.spentUnder at hdrawn
    rw [hx] at hdrawn
    exact (hmoved hash).trans hdrawn
  refine ⟨?_, ?_, ?_, hspent⟩
  · exact fun hash x hx => (hspent hash x hx).trans (hbudgets hash x hx)
  · intro o ho hash hpurpose
    obtain ⟨hle, hlimits⟩ := hlimited o ho
    obtain ⟨x, hx, -, hsingle⟩ := hlimits hash hpurpose
    exact ⟨x, hx, fun m hm => hle.trans (hsingle m hm)⟩
  · intro hash nonce
    cases hx : w.store.db.paymentSessions hash with
    | none =>
      -- nothing was paid under a session that is not there
      have hzero : w.store.debitsUnder hash nonce = 0 := by
        apply List.sum_eq_zero
        intro n hn
        obtain ⟨o, ho, rfl⟩ := List.mem_map.mp hn
        apply if_neg
        rintro ⟨hpurpose, -⟩
        obtain ⟨x, hx', -⟩ := (hlimited o ho).2 hash hpurpose
        rw [hx] at hx'
        cases hx'
      omega
    | some x =>
      have hguarded := run_guarded (fun _ => rfl) h₀ hm hrun
        (x.payerWallet, nonce)
      have hle : w.store.debitsUnder hash nonce
          ≤ w.store.paidUnder Purpose.isSession (x.payerWallet, nonce) := by
        apply List.sum_le_sum
        intro o ho
        by_cases hunder : o.order.purpose = .session hash
            ∧ o.order.nonce = nonce
        · obtain ⟨hpurpose, hnonce⟩ := hunder
          obtain ⟨y, hy, hpayer, -⟩ := (hlimited o ho).2 hash hpurpose
          rw [hx] at hy
          cases hy
          have hkey : o.order.key = (x.payerWallet, nonce) := by
            unfold Order.key
            rw [hpayer, hnonce]
          unfold Order.tokens token
          simp [hpurpose, hnonce, hkey, Purpose.isSession]
        · rw [if_neg hunder]
          exact Nat.zero_le _
      have hone : w.store.guarded (x.payerWallet, nonce) ≤ 1 := by
        unfold Store.guarded
        split
        · exact Nat.le_refl _
        · exact Nat.zero_le _
      omega

/-- A session and its payment. -/
theorem sessions_kept_paid :
    ∃ w, run (step Concrete.sessionEnv) Concrete.start Concrete.sessionRun
        = .ok w
      ∧ w.store.movedUnder "token" = 1000000
      ∧ SessionsKept w.store := by
  obtain ⟨w, hrun, hmoved⟩ := check_ok (show Exec.check (fun w : World =>
      decide (w.store.movedUnder "token" = 1000000))
      (run (step Concrete.sessionEnv) Concrete.start Concrete.sessionRun)
        = true by decide)
  have hm : Meets (step Concrete.sessionEnv) Confirmed Concrete.start
      Concrete.sessionRun := by
    apply meets_of_check fun a w h => of_decide_eq_true (p := Confirmed a w) h
    decide
  exact ⟨w, hrun, of_decide_eq_true hmoved,
    sessions_kept Concrete.start_genesis hm hrun⟩

/-- The first transfer takes effect and is confirmed too late: budget and
nonce are given back, and the payment made again takes twice the budget. -/
theorem session_overspends :
    ∃ w, Genesis Concrete.start
      ∧ run (step Concrete.sessionEnv) Concrete.start Concrete.lostRun = .ok w
      ∧ (∃ x, w.store.db.paymentSessions "token" = some x
        ∧ x.maxTotalMicro = 1000000)
      ∧ w.store.movedUnder "token" = 2000000
      ∧ w.store.debitsUnder "token" "n1" = 2
      ∧ ¬ SessionsKept w.store := by
  obtain ⟨w, hrun, htest⟩ := check_ok (show Exec.check (fun w : World =>
      decide ((w.store.db.paymentSessions "token").map
          PaymentSession.maxTotalMicro = some 1000000)
        && decide (w.store.movedUnder "token" = 2000000)
        && decide (w.store.debitsUnder "token" "n1" = 2))
      (run (step Concrete.sessionEnv) Concrete.start Concrete.lostRun) = true
    by decide)
  simp only [Bool.and_eq_true, decide_eq_true_eq] at htest
  obtain ⟨⟨hlimit, hmoved⟩, hdebits⟩ := htest
  obtain ⟨x, hx, hmax⟩ := Option.map_eq_some_iff.mp hlimit
  refine ⟨w, Concrete.start_genesis, hrun, ⟨x, hx, hmax⟩, hmoved, hdebits, ?_⟩
  intro h
  have honce := h.once "token" "n1"
  omega

end KamiyoProtocol.Facilitator
