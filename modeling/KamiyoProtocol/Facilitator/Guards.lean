/-
Nonce guards.

A guard that is new hands its request one payment under the nonce. The
request spends it when it pays, or gives it back with the guard; a
payment that reports failure is taken for one that did not happen, where
the route gives the guard back then. So while no such payment took effect
after all, every nonce is paid under at most once.
-/
import KamiyoProtocol.Lib.Allowance
import KamiyoProtocol.Facilitator.Routes
import KamiyoProtocol.Facilitator.Effects

namespace KamiyoProtocol.Facilitator

open Exec Await Function

-- ==== combinators

section Combinators

variable {gain cost : (op : Op) → op.Res → Nat} {n : Nat}

theorem within_check {α : Type} {x : Except Failure α} {k : α → Handler}
    (hk : ∀ a, x = .ok a → Within gain cost (k a) n) :
    Within gain cost (check x k) n := by
  cases x with
  | error f => trivial
  | ok a => exact hk a rfl

theorem within_attempt {op : Op} {onError : String → Handler}
    {k : Nat → op.Value → Handler}
    (herr : ∀ now e, cost op ⟨now, .error e⟩ ≤ n + gain op ⟨now, .error e⟩
      ∧ Within gain cost (onError e)
        (n + gain op ⟨now, .error e⟩ - cost op ⟨now, .error e⟩))
    (hk : ∀ now v, cost op ⟨now, .ok v⟩ ≤ n + gain op ⟨now, .ok v⟩
      ∧ Within gain cost (k now v)
        (n + gain op ⟨now, .ok v⟩ - cost op ⟨now, .ok v⟩)) :
    Within gain cost (attempt op onError k) n := by
  intro r
  obtain ⟨now, value⟩ := r
  cases value with
  | error e => exact herr now e
  | ok v => exact hk now v

theorem within_free {op : Op} {onError : String → Handler}
    {k : Nat → op.Value → Handler} (hop : ∀ r, cost op r = 0)
    (herr : ∀ e, Within gain cost (onError e) n)
    (hk : ∀ now v, Within gain cost (k now v) n) :
    Within gain cost (attempt op onError k) n := by
  apply within_attempt
  · intro now e
    rw [hop]
    exact ⟨Nat.zero_le _, (herr e).mono (by omega)⟩
  · intro now v
    rw [hop]
    exact ⟨Nat.zero_le _, (hk now v).mono (by omega)⟩

theorem within_call {op : Op} {k : Nat → op.Value → Handler}
    (hop : ∀ r, cost op r = 0)
    (hk : ∀ now v, Within gain cost (k now v) n) :
    Within gain cost (call op k) n :=
  within_free hop (fun _ => trivial) hk

theorem within_ignore {op : Op} {k : Handler} (hop : ∀ r, cost op r = 0)
    (hk : Within gain cost k n) : Within gain cost (ignore op k) n := by
  intro r
  rw [hop]
  exact ⟨Nat.zero_le _, hk.mono (by omega)⟩

theorem within_spend {op : Op} {f : Failure} {m : Nat}
    (hop : ∀ r, cost op r ≤ m) (hm : m ≤ n) :
    Within gain cost (ignore op (fail f)) n := by
  intro r
  have := hop r
  exact ⟨by omega, trivial⟩

end Combinators

-- ==== frames

theorem commit_frame {α β : Type} (f : Db → β) (c : Choice) (s : Store)
    {x : Except String (Db × α)}
    (h : ∀ db v, x = .ok (db, v) → f db = f s.db) :
    f (commit c s x).1.db = f s.db := by
  rcases commit_db c s x with hsame | ⟨db, v, hx, hdb⟩
  · rw [hsame]
  · rw [hdb]
    exact h db v hx

/-- The operations that record a settlement or update one. -/
def Op.booksSettlement : Op → Bool
  | .insertSettlement _ | .updateSettlementStatus _ _
  | .updateSettlementConfirmed _ _ _ | .finalizeKizunaSettlement _ => true
  | _ => false

/-- The statements on the guards of nonces. -/
def Op.ofGuards : Op → Bool
  | .reservePaymentNonce _ _ | .setPaymentNonceSettlementId _ _ _
  | .setPaymentNonceTxHash _ _ _ | .deletePaymentNonceGuard _ _ => true
  | _ => false

/-- The statements on sessions. -/
def Op.ofSessions : Op → Bool
  | .reservePaymentSessionSpend _ _ | .releasePaymentSessionSpend _ _
  | .insertPaymentSession _ _ | .revokePaymentSession _ => true
  | _ => false

/-- The tables of settlements, guards and sessions that an operation is not
of are as they were. -/
structure Op.Frames (op : Op) (db db' : Db) : Prop where
  settlements : op.booksSettlement = false → db'.settlements = db.settlements
  guards : op.ofGuards = false → db'.nonceGuards = db.nonceGuards
  sessions : op.ofSessions = false → db'.paymentSessions = db.paymentSessions

theorem perform_frames (op : Op) (c : Choice) (s : Store) :
    op.Frames s.db (perform op c s).1.db := by
  have hsame : ∀ {db : Db}, db = s.db → op.Frames s.db db := by
    intro db hdb
    rw [hdb]
    exact ⟨fun _ => rfl, fun _ => rfl, fun _ => rfl⟩
  have hcommit : ∀ {α : Type} {x : Except String (Db × α)},
      (∀ db v, x = .ok (db, v) → op.Frames s.db db) →
      op.Frames s.db (commit c s x).1.db := by
    intro α x hx
    rcases commit_db c s x with heq | ⟨db, v, hok, hdb⟩
    · exact hsame (congrArg Store.db heq)
    · rw [hdb]
      exact hx db v hok
  cases op with
  | settlePayment | settleAuthorizedPaymentBase | settleDelegatedPayment
  | createEscrow => exact hsame (transfer_db c s _ _)
  | debitKizunaCredits p => exact hsame (debit_db c s p)
  | insertKizunaUnderwriteDecision row =>
    apply hcommit
    intro db v hx
    obtain ⟨u, -, hx⟩ := bind_ok.mp hx
    cases hx
    exact ⟨fun _ => rfl, fun _ => rfl, fun _ => rfl⟩
  | createKizunaReservation p sent =>
    apply hcommit
    intro db v hx
    obtain ⟨-, -, ⟨_, _, hdb⟩, -⟩ := Db.create_ok hx
    rw [hdb]
    exact ⟨fun _ => rfl, fun _ => rfl, fun _ => rfl⟩
  | releaseKizunaReservation id status =>
    apply hcommit
    intro db v hx
    rcases Db.release_ok hx with heq | ⟨_, _, _, ⟨_, _, hdb⟩, -⟩
    · exact hsame heq
    · rw [hdb]
      exact ⟨fun _ => rfl, fun _ => rfl, fun _ => rfl⟩
  | applyKizunaRepayment p =>
    apply hcommit
    intro db v hx
    obtain ⟨_, _, _, hdb, -⟩ := s.db.repay_eq p
    have hmade : s.db.applyKizunaRepayment p = (db, v) :=
      Except.ok.inj hx
    rw [hmade] at hdb
    change db = _ at hdb
    rw [hdb]
    exact ⟨fun _ => rfl, fun _ => rfl, fun _ => rfl⟩
  | applyKizunaFundingEvent p =>
    apply hcommit
    intro db v hx
    rcases Db.fund_booked hx with heq | ⟨⟨_, hdb⟩, -⟩
    · exact hsame heq
    · rw [hdb]
      exact ⟨fun _ => rfl, fun _ => rfl, fun _ => rfl⟩
  | applyKizunaCollateralEvent p =>
    apply hcommit
    intro db v hx
    rcases Db.collateral_ok hx with heq | ⟨_, _, _, _, -, hdb⟩
    · exact hsame heq
    · rw [hdb]
      exact ⟨fun _ => rfl, fun _ => rfl, fun _ => rfl⟩
  | insertSettlement | updateSettlementStatus | updateSettlementConfirmed =>
    apply hcommit
    intro db v hx
    cases hx
    exact ⟨nofun, fun _ => rfl, fun _ => rfl⟩
  | finalizeKizunaSettlement p =>
    apply hcommit
    intro db v hx
    obtain ⟨_, _, _, -, -, -, ⟨_, _, _, _, hdb⟩, -⟩ := Db.finalize_ok hx
    rw [hdb]
    exact ⟨nofun, fun _ => rfl, fun _ => rfl⟩
  | reservePaymentNonce payer nonce =>
    apply hcommit
    intro db v hx
    obtain ⟨guards, hdb⟩ := Db.reserveNonce_same (Except.ok.inj hx)
    rw [hdb]
    exact ⟨fun _ => rfl, nofun, fun _ => rfl⟩
  | setPaymentNonceSettlementId | setPaymentNonceTxHash
  | deletePaymentNonceGuard =>
    apply hcommit
    intro db v hx
    cases hx
    exact ⟨fun _ => rfl, nofun, fun _ => rfl⟩
  | reservePaymentSessionSpend hash micro =>
    apply hcommit
    intro db v hx
    obtain ⟨sessions, hdb⟩ := Db.reserveSpend_same (Except.ok.inj hx)
    rw [hdb]
    exact ⟨fun _ => rfl, fun _ => rfl, nofun⟩
  | releasePaymentSessionSpend hash micro =>
    apply hcommit
    intro db v hx
    cases hx
    exact ⟨fun _ => rfl, fun _ => rfl, nofun⟩
  | insertPaymentSession hash row =>
    apply hcommit
    intro db v hx
    obtain ⟨sessions, hdb⟩ := Db.insertSession_same hx
    rw [hdb]
    exact ⟨fun _ => rfl, fun _ => rfl, nofun⟩
  | revokePaymentSession hash =>
    apply hcommit
    intro db v hx
    obtain ⟨sessions, hdb⟩ := Db.revoke_same (Except.ok.inj hx)
    rw [hdb]
    exact ⟨fun _ => rfl, fun _ => rfl, nofun⟩
  | _ => exact hsame rfl

-- ==== tokens

/-- One for the key itself. -/
def token (key key' : String × String) : Nat := if key' = key then 1 else 0

def Order.key (o : Order) : String × String := (o.payerWallet, o.nonce)

/-- A payment for a signed header, under a nonce guard. -/
def Purpose.isSigned : Purpose → Bool
  | .exact => true
  | .escrow _ => true
  | _ => false

def Purpose.isSession : Purpose → Bool
  | .session _ => true
  | _ => false

/-- One for a payment of the kind under the key. -/
def Order.tokens (kind : Purpose → Bool) (key : String × String)
    (o : Order) : Nat :=
  if kind o.purpose then token key o.key else 0

/-- The payments of the kind under the key. -/
def Store.paidUnder (kind : Purpose → Bool) (key : String × String)
    (s : Store) : Nat :=
  (s.payouts.map fun o => o.order.tokens kind key).sum

/-- One for a guarded nonce. -/
def Store.guarded (key : String × String) (s : Store) : Nat :=
  if (s.db.nonceGuards key).isSome then 1 else 0

/-- What an answer of success is worth. -/
def ifMade {α : Type} (r : Answer α) (n : Nat) : Nat :=
  match r.value with
  | .ok _ => n
  | .error _ => 0

/-- What an answer of `true` is worth. -/
def ifGranted (r : Answer Bool) (n : Nat) : Nat :=
  match r.value with
  | .ok granted => if granted then n else 0
  | .error _ => 0

/-- A new guard hands out one payment. -/
def Op.guardGain (key : String × String) : (op : Op) → op.Res → Nat
  | .reservePaymentNonce payer nonce, r => ifGranted r (token key (payer, nonce))
  | _, _ => 0

/-- A payment takes it, even one that fails, if its failure gives nothing
back. So does the deletion of the guard. -/
def Op.guardCost (kind : Purpose → Bool) (key : String × String) :
    (op : Op) → op.Res → Nat
  | .settlePayment o, _ => o.tokens kind key
  | .createEscrow o, _ => o.tokens kind key
  | .settleAuthorizedPaymentBase o, r => ifMade r (o.tokens kind key)
  | .settleDelegatedPayment o, r => ifMade r (o.tokens kind key)
  | .deletePaymentNonceGuard payer nonce, _ => token key (payer, nonce)
  | _, _ => 0

/-- A payment whose failure gives the guard back. -/
def Op.refundable : Op → Option Order
  | .settleAuthorizedPaymentBase o => some o
  | .settleDelegatedPayment o => some o
  | _ => none

/-- Such a payment of the kind does not take effect and report failure. -/
def Choice.Sure (kind : Purpose → Bool) (c : Choice) (op : Op) : Prop :=
  ∀ o ∈ op.refundable, kind o.purpose = true → c.outcome ≠ .lost
  deriving Decidable

section Tokens

variable {kind : Purpose → Bool} {key : String × String} {s : Store}

theorem paidUnder_perform (op : Op) (c : Choice) (s : Store) :
    (perform op c s).1.paidUnder kind key = s.paidUnder kind key
      + ((executed op c).map fun o => o.order.tokens kind key).sum := by
  unfold Store.paidUnder
  rw [perform_payouts, List.map_append, List.sum_append]

theorem guarded_put {k : String × String} {g : Option NonceGuard} :
    (if (update s.db.nonceGuards k g key).isSome then 1 else 0)
      = if k = key then (if g.isSome then 1 else 0) else s.guarded key := by
  by_cases hk : k = key
  · subst hk
    rw [if_pos rfl, update_self]
  · rw [if_neg hk, update_of_ne (Ne.symm hk)]
    rfl

theorem guard_aside (kind : Purpose → Bool) (key : String × String) {op : Op}
    (hguards : op.ofGuards = false) (horder : op.order = none) (c : Choice)
    (s : Store) :
    (perform op c s).1.paidUnder kind key = s.paidUnder kind key
      ∧ (perform op c s).1.guarded key = s.guarded key := by
  constructor
  · rw [paidUnder_perform]
    unfold executed
    rw [horder]
    simp
  · unfold Store.guarded
    rw [(perform_frames op c s).guards hguards]

theorem guard_transfer (kind : Purpose → Bool) (key : String × String)
    {source : Source} (op : Op) {o : Order}
    (horder : op.order = some (source, o)) (hguards : op.ofGuards = false)
    (c : Choice) (s : Store) :
    (perform op c s).1.paidUnder kind key = s.paidUnder kind key
        + (if c.pays source o then o.tokens kind key else 0)
      ∧ (perform op c s).1.guarded key = s.guarded key := by
  constructor
  · rw [paidUnder_perform]
    unfold executed
    rw [horder]
    by_cases hpays : c.pays source o
    · simp [if_pos hpays, Choice.payout]
    · simp [if_neg hpays]
  · unfold Store.guarded
    rw [(perform_frames op c s).guards hguards]

variable {c : Choice}

theorem le_ifMade (source : Source) (o : Order) (s : Store)
    {n : Nat} (hc : n ≠ 0 → c.outcome ≠ .lost) :
    (if c.pays source o then n else 0) ≤ ifMade (transfer c s source o).2 n := by
  by_cases hpays : c.pays source o
  · by_cases hlost : c.outcome = .lost
    · have hzero : n = 0 := by
        by_contra hne
        exact hc hne hlost
      simp [hzero]
    · have hsucceeds : c.outcome = .succeeds := by
        cases hout : c.outcome with
        | succeeds => rfl
        | fails => exact (hpays.1 hout).elim
        | lost => exact (hlost hout).elim
      unfold transfer ifMade
      simp [hpays, hsucceeds]
  · rw [if_neg hpays]
    exact Nat.zero_le _

theorem tokens_ne_zero {o : Order} (h : o.tokens kind key ≠ 0) :
    kind o.purpose = true := by
  unfold Order.tokens at h
  by_contra hkind
  rw [if_neg hkind] at h
  exact h rfl

theorem guarded_update {payer nonce : String} {f : NonceGuard → NonceGuard} :
    (commit c s (.ok (s.db.updateNonceGuard payer nonce f, ()))).1.guarded key
      = s.guarded key := by
  rcases commit_db c s (.ok (s.db.updateNonceGuard payer nonce f, ())) with
    hsame | ⟨db, v, hx, hdb⟩
  · rw [hsame]
  · rw [hdb]
    cases hx
    show (if (update s.db.nonceGuards (payer, nonce) _ key).isSome then 1 else 0)
      = _
    rw [guarded_put]
    by_cases hk : (payer, nonce) = key
    · subst hk
      simp [Store.guarded]
    · rw [if_neg hk]

theorem guarded_reserve {payer nonce : String} :
    ifGranted (commit c s (.ok (s.db.reservePaymentNonce payer nonce))).2
        (token key (payer, nonce)) + s.guarded key
      ≤ (commit c s (.ok (s.db.reservePaymentNonce payer nonce))).1.guarded
        key := by
  unfold Db.reservePaymentNonce
  cases hguard : s.db.nonceGuards (payer, nonce) with
  | some g =>
    have hsame : ∀ c : Choice, (commit c s (.ok (s.db, false))).1 = s
        ∧ ifGranted (commit c s (.ok (s.db, false))).2
          (token key (payer, nonce)) = 0 := by
      intro c
      unfold commit ifGranted
      cases c.outcome with
      | succeeds | fails | lost => exact ⟨rfl, rfl⟩
    obtain ⟨hstore, hgranted⟩ := hsame c
    dsimp only
    rw [hstore, hgranted, Nat.zero_add]
  | none =>
    have hmade : (if (update s.db.nonceGuards (payer, nonce)
        (some ⟨none, none⟩) key).isSome then 1 else 0)
        = token key (payer, nonce) + s.guarded key := by
      rw [guarded_put]
      unfold token
      by_cases hk : (payer, nonce) = key
      · subst hk
        simp [Store.guarded, hguard]
      · simp [if_neg hk]
    unfold commit ifGranted
    cases c.outcome with
    | succeeds => exact hmade.ge
    | fails => simp
    | lost =>
      show 0 + s.guarded key ≤ _
      rw [Nat.zero_add]
      exact (Nat.le_add_left ..).trans hmade.ge

theorem le_guarded_delete {payer nonce : String} :
    s.guarded key ≤ token key (payer, nonce) + (commit c s
      (.ok (s.db.deletePaymentNonceGuard payer nonce, ()))).1.guarded key := by
  rcases commit_db c s (.ok (s.db.deletePaymentNonceGuard payer nonce, ()))
    with hsame | ⟨db, v, hx, hdb⟩
  · rw [hsame]
    omega
  · rw [hdb]
    cases hx
    show _ ≤ _ + if (update s.db.nonceGuards (payer, nonce) _ key).isSome
      then 1 else 0
    rw [guarded_put]
    unfold token Store.guarded
    by_cases hk : (payer, nonce) = key
    · rw [if_pos hk]
      split
      · omega
      · omega
    · rw [if_neg hk, if_neg hk]
      omega

theorem paidUnder_commit {α : Type} (c : Choice) (s : Store)
    (x : Except String (Db × α)) :
    (commit c s x).1.paidUnder kind key = s.paidUnder kind key := by
  unfold Store.paidUnder
  rw [commit_payouts]

theorem guarded_frame {α : Type} {x : Except String (Db × α)}
    (h : ∀ db v, x = .ok (db, v) → db.nonceGuards = s.db.nonceGuards) :
    (commit c s x).1.guarded key = s.guarded key := by
  unfold Store.guarded
  rw [commit_frame Db.nonceGuards c s h]

theorem guard_sum {s s' : Store} {gain cost : Nat}
    (hpaid : s'.paidUnder kind key = s.paidUnder kind key)
    (h : gain + s.guarded key ≤ cost + s'.guarded key) :
    s'.paidUnder kind key + gain + s.guarded key
      ≤ s.paidUnder kind key + cost + s'.guarded key := by
  omega

theorem guard_same {s s' : Store}
    (hpaid : s'.paidUnder kind key = s.paidUnder kind key)
    (hguarded : s'.guarded key = s.guarded key) :
    s'.paidUnder kind key + 0 + s.guarded key
      ≤ s.paidUnder kind key + 0 + s'.guarded key :=
  guard_sum hpaid (by omega)

/-- Every operation is paid for by what its request holds, or by the guard
it makes. -/
theorem guard_step {op : Op} (hc : c.Sure kind op) :
    (perform op c s).1.paidUnder kind key
        + Op.guardGain key op (perform op c s).2 + s.guarded key
      ≤ s.paidUnder kind key + Op.guardCost kind key op (perform op c s).2
        + (perform op c s).1.guarded key := by
  have haside : op.ofGuards = false → op.order = none →
      Op.guardGain key op (perform op c s).2 = 0 →
      (perform op c s).1.paidUnder kind key
          + Op.guardGain key op (perform op c s).2 + s.guarded key
        ≤ s.paidUnder kind key + Op.guardCost kind key op (perform op c s).2
          + (perform op c s).1.guarded key := by
    intro hguards horder hgain
    obtain ⟨hpaid, hguarded⟩ :=
      guard_aside kind key hguards horder c s
    omega
  cases op with
  | settlePayment o =>
    obtain ⟨hpaid, hguarded⟩ := guard_transfer kind key (.settlePayment o)
      rfl rfl c s
    rw [hpaid, hguarded]
    show _ + 0 + _ ≤ _ + o.tokens kind key + _
    split
    · omega
    · omega
  | createEscrow o =>
    obtain ⟨hpaid, hguarded⟩ := guard_transfer kind key (.createEscrow o)
      rfl rfl c s
    rw [hpaid, hguarded]
    show _ + 0 + _ ≤ _ + o.tokens kind key + _
    split
    · omega
    · omega
  | settleAuthorizedPaymentBase o =>
    obtain ⟨hpaid, hguarded⟩ := guard_transfer kind key (.settleAuthorizedPaymentBase o)
      rfl rfl c s
    rw [hpaid, hguarded]
    have hsure : o.tokens kind key ≠ 0 → c.outcome ≠ .lost :=
      fun hne => hc o rfl (tokens_ne_zero hne)
    have hmade := le_ifMade .payer o s hsure
    show _ + 0 + _ ≤ _ + ifMade (transfer c s .payer o).2 _ + _
    omega
  | settleDelegatedPayment o =>
    obtain ⟨hpaid, hguarded⟩ := guard_transfer kind key (.settleDelegatedPayment o)
      rfl rfl c s
    rw [hpaid, hguarded]
    have hsure : o.tokens kind key ≠ 0 → c.outcome ≠ .lost :=
      fun hne => hc o rfl (tokens_ne_zero hne)
    have hmade := le_ifMade .payer o s hsure
    show _ + 0 + _ ≤ _ + ifMade (transfer c s .payer o).2 _ + _
    omega
  | reservePaymentNonce payer nonce =>
    exact guard_sum (paidUnder_commit c s _)
      (guarded_reserve.trans (Nat.le_add_left _ 0))
  | deletePaymentNonceGuard payer nonce =>
    exact guard_sum (paidUnder_commit c s _)
      ((Nat.zero_add _).le.trans le_guarded_delete)
  | setPaymentNonceSettlementId payer nonce id =>
    exact guard_same (paidUnder_commit c s _) guarded_update
  | setPaymentNonceTxHash payer nonce txHash =>
    exact guard_same (paidUnder_commit c s _) guarded_update
  | reservePaymentSessionSpend hash micro =>
    refine guard_same (paidUnder_commit c s _) (guarded_frame ?_)
    intro db v hx
    obtain ⟨sessions, hdb⟩ := Db.reserveSpend_same (Except.ok.inj hx)
    rw [hdb]
  | releasePaymentSessionSpend hash micro =>
    refine guard_same (paidUnder_commit c s _) (guarded_frame ?_)
    intro db v hx
    cases hx
    rfl
  | insertPaymentSession hash row =>
    refine guard_same (paidUnder_commit c s _) (guarded_frame ?_)
    intro db v hx
    obtain ⟨sessions, hdb⟩ := Db.insertSession_same hx
    rw [hdb]
  | revokePaymentSession hash =>
    refine guard_same (paidUnder_commit c s _) (guarded_frame ?_)
    intro db v hx
    obtain ⟨sessions, hdb⟩ := Db.revoke_same (Except.ok.inj hx)
    rw [hdb]
  | _ => exact haside rfl rfl rfl

end Tokens

-- ==== routes

section Routes

variable {env : Env} {kind : Purpose → Bool} {key : String × String}
variable {n : Nat}

/-- A request that holds `n` payments under the key. -/
abbrev Guarding (kind : Purpose → Bool) (key : String × String)
    (p : Handler) (n : Nat) : Prop :=
  Within (Op.guardGain key) (Op.guardCost kind key) p n

theorem tokens_le (o : Order) : o.tokens kind key ≤ token key o.key := by
  unfold Order.tokens
  split
  · exact Nat.le_refl _
  · exact Nat.zero_le _

theorem recordPayment_guarding {payer nonce network : String}
    {amount id : Nat} {onchain : Onchain} : Guarding kind key
      (recordPayment payer nonce network amount id onchain) n := by
  unfold recordPayment
  dsimp only
  apply within_free (fun _ => rfl)
  · exact fun _ => within_ignore (fun _ => rfl) trivial
  intro now u
  apply within_free (fun _ => rfl)
  · exact fun _ => within_ignore (fun _ => rfl) trivial
  intro now' u'
  apply within_free (fun _ => rfl)
  · exact fun _ => within_ignore (fun _ => rfl) trivial
  · exact fun _ _ => trivial

theorem replayPayment_guarding {payer nonce network : String}
    {amount : Nat} : Guarding kind key
      (replayPayment payer nonce network amount) n := by
  unfold replayPayment
  dsimp only
  apply within_free (fun _ => rfl)
  · exact fun _ => trivial
  intro now guard
  split
  · trivial
  · split
    · trivial
    · apply within_free (fun _ => rfl)
      · exact fun _ => trivial
      · exact fun _ _ => trivial

theorem abandonSession_guarding {hash payer nonce : String} {micro : Nat}
    {settlementId : Option Nat} {message : String}
    (hn : token key (payer, nonce) ≤ n) : Guarding kind key
      (abandonSession hash payer nonce micro settlementId message) n := by
  have hreleased : Guarding kind key
      (abandonSession hash payer nonce micro none message) n :=
    within_call (fun _ => rfl) fun _ _ =>
      within_spend (fun _ => Nat.le_refl _) hn
  cases settlementId with
  | none => exact hreleased
  | some id => exact within_call (fun _ => rfl) fun _ _ => hreleased

theorem paySession_guarding {q : PaymentRequest} {network hash nonce : String}
    {session : PaymentSession} {micro : Nat} : Guarding kind key
      (paySession q network hash nonce session micro)
      (token key (session.payerWallet, nonce)) := by
  have habandon : ∀ settlementId message, Guarding kind key
      (abandonSession hash session.payerWallet nonce micro settlementId
        message) (token key (session.payerWallet, nonce)) :=
    fun _ _ => abandonSession_guarding (Nat.le_refl _)
  unfold paySession
  dsimp only
  apply within_free (fun _ => rfl) (fun _ => habandon _ _)
  intro now settlement
  apply within_ignore (fun _ => rfl)
  apply within_free (fun _ => rfl) (fun _ => habandon _ _)
  intro now' feeBps
  apply within_attempt
  · exact fun _ _ => ⟨Nat.zero_le _, habandon _ _⟩
  · intro now'' onchain
    exact ⟨tokens_le _, recordPayment_guarding⟩

theorem settleSession_guarding {q : PaymentRequest} {network : String} :
    Guarding kind key (settleSession env q network) 0 := by
  apply within_check
  intro x _
  apply within_call (fun _ => rfl)
  intro now found
  apply within_check
  intro y _
  apply within_attempt
  · exact fun _ _ => ⟨Nat.zero_le _, trivial⟩
  · intro now' nonceReserved
    refine ⟨Nat.zero_le _, ?_⟩
    cases nonceReserved with
    | false => exact replayPayment_guarding
    | true =>
      have hheld : 0 + Op.guardGain key (.reservePaymentNonce
          y.1.payerWallet x.2) ⟨now', .ok true⟩
            - 0 = token key (y.1.payerWallet, x.2) := Nat.zero_add _
      show Guarding kind key _ (0 + Op.guardGain key _ _ - 0)
      rw [hheld]
      apply within_call (fun _ => rfl)
      intro now'' budgetReserved
      split
      · exact paySession_guarding
      · exact within_spend (fun _ => Nat.le_refl _) (Nat.le_refl _)

theorem failExact_guarding {id : Nat} {message : String} :
    Guarding kind key (failExact id message) n :=
  within_call (fun _ => rfl) fun _ _ => trivial

theorem refuse_guarding {payment : Payment} {id : Nat} {f : Failure}
    (hn : token key (payment.payer, payment.nonce) ≤ n) :
    Guarding kind key (refuseAuthorization payment id f) n :=
  within_free (fun _ => rfl) (fun _ => failExact_guarding)
    fun _ _ => within_spend (fun _ => Nat.le_refl _) hn

theorem payExact_guarding {q : PaymentRequest} {network : String}
    {payment : Payment} {amount id : Nat} : Guarding kind key
      (payExact env q network payment amount id)
      (token key (payment.payer, payment.nonce)) := by
  have hrefuse : ∀ f, Guarding kind key (refuseAuthorization payment id f)
      (token key (payment.payer, payment.nonce)) :=
    fun _ => refuse_guarding (Nat.le_refl _)
  have hfront : ∀ order : Order,
      order.key = (payment.payer, payment.nonce) → Guarding kind key
        (attempt (.settlePayment order) (failExact id)
          fun _ (onchain : Onchain) => recordPayment payment.payer
            payment.nonce network amount id onchain)
        (token key (payment.payer, payment.nonce)) := by
    intro order hkey
    have hcost : order.tokens kind key
        ≤ token key (payment.payer, payment.nonce) + 0 := by
      rw [← hkey]
      exact tokens_le order
    apply within_attempt
    · exact fun _ _ => ⟨hcost, failExact_guarding⟩
    · exact fun _ _ => ⟨hcost, recordPayment_guarding⟩
  unfold payExact
  dsimp only
  apply within_free (fun _ => rfl) (fun _ => failExact_guarding)
  intro now feeBps
  split
  · split
    · exact hrefuse _
    · exact hfront _ rfl
    · unfold payAuthorized
      dsimp only
      apply within_free (fun _ => rfl) (fun _ => hrefuse _)
      intro now' hasCode
      split
      · exact hrefuse _
      · next order horder =>
          obtain ⟨total, rfl⟩ := checkAuthorization_ok horder
          apply within_free (fun _ => rfl) (fun _ => hrefuse _)
          intro now'' verifyingContract
          split
          · exact hrefuse _
          · apply within_attempt
            · exact fun _ _ => ⟨Nat.zero_le _, hrefuse _⟩
            · exact fun _ _ => ⟨tokens_le _, recordPayment_guarding⟩
  · exact hfront _ rfl

theorem plain_guarding (q : PaymentRequest) (now : Nat) :
    Guarding kind key (settlePlain env q now) 0 := by
  apply within_check
  intro x _
  dsimp only
  split
  · exact settleSession_guarding
  · apply within_check
    intro y _
    apply within_attempt
    · exact fun _ _ => ⟨Nat.zero_le _, trivial⟩
    · intro now' nonceReserved
      refine ⟨Nat.zero_le _, ?_⟩
      cases nonceReserved with
      | false => exact replayPayment_guarding
      | true =>
        have hheld : 0 + Op.guardGain key (.reservePaymentNonce
            y.1.payer y.1.nonce) ⟨now', .ok true⟩
              - 0 = token key (y.1.payer, y.1.nonce) := Nat.zero_add _
        show Guarding kind key _ (0 + Op.guardGain key _ _ - 0)
        rw [hheld]
        apply within_call (fun _ => rfl)
        intro now'' settlement
        exact within_ignore (fun _ => rfl) payExact_guarding

theorem escrow_guarding (q : EscrowRequest) (now : Nat) :
    Guarding kind key (createEscrowRoute env q now) 0 := by
  apply within_check
  intro x _
  apply within_attempt
  · exact fun _ _ => ⟨Nat.zero_le _, trivial⟩
  · intro now' nonceReserved
    refine ⟨Nat.zero_le _, ?_⟩
    cases nonceReserved with
    | false => trivial
    | true =>
      have hheld : 0 + Op.guardGain key (.reservePaymentNonce
          x.1.payer x.1.nonce) ⟨now', .ok true⟩
            - 0 = token key (x.1.payer, x.1.nonce) := Nat.zero_add _
      show Guarding kind key _ (0 + Op.guardGain key _ _ - 0)
      rw [hheld]
      dsimp only
      rw [if_neg (by decide)]
      split
      · trivial
      · split
        · trivial
        · have hrecorded : ∀ (o : Order) (created : Onchain) m,
              Guarding kind key
                (attempt (.insertEscrowRecord o)
                  (fun message => fail ⟨500, "", message⟩)
                  fun _ (_ : Unit) =>
                  attempt (.insertFeeLedger 0 created.txHash)
                    (fun message => fail ⟨500, "", message⟩)
                    fun _ (_ : Unit) => .done (.escrowed created.txHash))
                m :=
            fun _ _ _ => within_free (fun _ => rfl) (fun _ => trivial)
              fun _ _ => within_free (fun _ => rfl) (fun _ => trivial)
                fun _ _ => trivial
          apply within_attempt
          · exact fun _ _ => ⟨tokens_le _, trivial⟩
          · exact fun _ _ => ⟨tokens_le _, hrecorded _ _ _⟩

theorem Op.ofSettle_guardCost (hkind : ∀ id, kind (.credit id) = false)
    {op : Op} (r : op.Res) (h : op.ofSettle = true) :
    Op.guardCost kind key op r = 0 := by
  cases op with
  | settlePayment o =>
    have hcredit : o.purpose.reservation ≠ none := of_decide_eq_true h
    apply if_neg
    cases hpurpose : o.purpose with
    | credit id => simp [hkind]
    | exact | session | escrow => exact (hcredit (by rw [hpurpose]; rfl)).elim
  | settleAuthorizedPaymentBase | settleDelegatedPayment | createEscrow
  | deletePaymentNonceGuard => cases h
  | _ => rfl

theorem route_guarding (hkind : ∀ id, kind (.credit id) = false)
    (q : Request) (now : Nat) : Guarding kind key (route env now q) 0 := by
  have hnone : (∀ op r, q.uses op = true → Op.guardCost kind key op r = 0) →
      Guarding kind key (route env now q) 0 :=
    fun huses => (route_only q now).within huses
  cases q with
  | settle q => exact hnone fun _ r => Op.ofSettle_guardCost hkind r
  | pay q => exact plain_guarding q now
  | escrow q => exact escrow_guarding q now
  | _ =>
    apply hnone
    intro op r hop
    cases op with
    | settlePayment | settleAuthorizedPaymentBase | settleDelegatedPayment
    | createEscrow | deletePaymentNonceGuard => cases hop
    | _ => rfl

end Routes

-- ==== runs

/-- While no payment of the kind takes effect and reports failure, where
that gives its guard back, every nonce is paid under at most once, and
only while it is guarded. -/
theorem run_guarded {env : Env} {kind : Purpose → Bool}
    (hkind : ∀ id, kind (.credit id) = false) {w₀ w : World}
    {tr : List Action} (h₀ : Genesis w₀)
    (hm : Meets (step env) (AtOp fun c op _ => c.Sure kind op) w₀ tr)
    (hrun : run (step env) w₀ tr = .ok w) (key : String × String) :
    w.store.paidUnder kind key ≤ w.store.guarded key := by
  have hstart : Held (Op.guardGain key) (Op.guardCost kind key)
      (Store.paidUnder kind key) (Store.guarded key) w₀ := by
    apply held_start h₀.progs
    unfold Store.paidUnder
    rw [h₀.payouts]
    exact Nat.zero_le _
  refine (run_induct_meets (I := Held (Op.guardGain key)
    (Op.guardCost kind key) (Store.paidUnder kind key) (Store.guarded key))
    ?_ hstart hm hrun).le
  intro a w w' h hcond hstep
  rcases step_ok hstep with
    ⟨q, now, -, rfl⟩ | ⟨i, c, op, k, rfl, hi, hy⟩
  · exact held_arrive h (route_guarding hkind q now)
  · exact held_resume h hi hy (guard_step (hcond op (awaited_of hi)))

end KamiyoProtocol.Facilitator
