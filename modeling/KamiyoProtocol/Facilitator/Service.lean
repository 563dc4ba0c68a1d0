/-
The running service: its store and the requests in flight.

Requests arrive and run concurrently; a step either admits a request or
lets one of those in flight get the answer it awaits. The order of the
steps, every answer from outside, every failure and every clock reading
is free, so a run is any interleaving at the await points.
-/
import KamiyoProtocol.Facilitator.Settle
import KamiyoProtocol.Facilitator.Verify
import KamiyoProtocol.Facilitator.Pay
import KamiyoProtocol.Facilitator.Accounts

namespace KamiyoProtocol.Facilitator

open Await

/-- A statement another route ends in, answered when it is done. -/
def job (op : Op) : Handler := call op fun _ _ => .done .applied

/-- A request. Of the session routes there is what they write. -/
inductive Request
  | verify (q : VerifyRequest)
  | settle (q : SettleRequest)
  | pay (q : PaymentRequest)
  | escrow (q : EscrowRequest)
  | authorize (tokenHash : String) (session : PaymentSession)
  | revoke (tokenHash : String)
  | repay (q : RepayRequest)
  | deposit (q : TransferRequest)
  | withdraw (q : TransferRequest)
  | fund (q : TransferRequest) (eventType : FundingEventType)
  | reserveJob (q : JobRequest)
  | releaseJob (reservationId : Nat) (status : ReleaseStatus)
  | settleJob (q : JobSettleRequest)

/-- The route of a request, begun at `now`. -/
def route (env : Env) (now : Nat) : Request → Handler
  | .verify q => verifyKizuna env q now
  | .settle q => settleKizuna env q now
  | .pay q => settlePlain env q now
  | .escrow q => createEscrowRoute env q now
  | .authorize tokenHash session => job (.insertPaymentSession tokenHash session)
  | .revoke tokenHash => job (.revokePaymentSession tokenHash)
  | .repay q => repayKizuna env q
  | .deposit q => depositCollateral env q
  | .withdraw q => withdrawCollateral env q
  | .fund q eventType => fundKizuna env q eventType
  | .reserveJob q => reserveJob env q
  | .releaseJob id status => job (.releaseKizunaReservation id status)
  | .settleJob q => settleJob env q

inductive Action
  | arrive (q : Request) (now : Nat)
  | resume (i : Nat) (c : Choice)

/-- The store, and how far each request has come. -/
abbrev World := Pool Store Op Op.Res Response

/-- One step of the service. -/
def step (env : Env) (a : Action) (w : World) : Except Unit World :=
  match a with
  | .arrive q now => .ok (arrive (route env now q) w)
  | .resume i c =>
    match resume perform i c w with
    | some w' => .ok w'
    | none => .error ()

theorem step_ok {env : Env} {a : Action} {w w' : World}
    (h : step env a w = .ok w') :
    (∃ q now, a = .arrive q now ∧ w' = arrive (route env now q) w)
    ∨ ∃ i c op k, a = .resume i c ∧ w.progs[i]? = some (.await op k)
      ∧ resume perform i c w = some w' := by
  cases a with
  | arrive q now =>
    cases h
    exact Or.inl ⟨q, now, rfl, rfl⟩
  | resume i c =>
    simp only [step] at h
    split at h
    · next w₁ hw =>
        cases h
        obtain ⟨op, k, hi, -, -⟩ := resume_some.mp hw
        exact Or.inr ⟨i, c, op, k, rfl, hi, hw⟩
    · cases h

/-- What is asked of every operation that is performed. -/
def AtOp (P : Choice → Op → World → Prop) (a : Action) (w : World) : Prop :=
  match a with
  | .arrive _ _ => True
  | .resume i c => ∀ op ∈ w.awaited i, P c op w

instance (P : Choice → Op → World → Prop) [∀ c op w, Decidable (P c op w)] :
    ∀ a w, Decidable (AtOp P a w)
  | .arrive _ _, _ => isTrue trivial
  | .resume i c, w => inferInstanceAs (Decidable (∀ op ∈ w.awaited i, P c op w))

/-- Before any request: no decision, reservation, debt, settlement, event,
guard or session is recorded and nothing has been paid or debited.
Accounts, pools, assets, positions, reserves and balances are any. -/
structure Genesis (w : World) : Prop where
  decisions : w.store.db.decisions = []
  reservations : w.store.db.reservations = []
  debts : w.store.db.debts = []
  settlements : w.store.db.settlements = []
  billable : w.store.db.billableEvents = []
  repayments : w.store.db.repayments = []
  collateralEvents : w.store.db.collateralEvents = []
  fundingEvents : w.store.db.fundingEvents = []
  nonceGuards : ∀ key, w.store.db.nonceGuards key = none
  sessions : ∀ hash, w.store.db.paymentSessions hash = none
  payouts : w.store.payouts = []
  debits : w.store.debits = []
  progs : w.progs = []

/-- Every request has been answered. -/
def Quiet (w : World) : Prop := ∀ p ∈ w.progs, Returned p

end KamiyoProtocol.Facilitator
