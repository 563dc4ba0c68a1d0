/-
Replayed payments.

A nonce that was paid under is answered with the payment on record. The
guard that is read for it is keyed by payer and nonce alone, so nothing
says that the payment was one to this merchant, on this network or of
this amount. The answer is about the payment this request asks for if
and only if the request that made it asked for the same.

Each request is noted: what it asks for, the settlement it recorded, the
hash it was answered with. The trace of a run keeps the notes, and for
each payer and nonce the request whose hash the guard holds.
-/
import KamiyoProtocol.Lib.Observer
import KamiyoProtocol.Facilitator.Guards
import KamiyoProtocol.Facilitator.Concrete

namespace KamiyoProtocol.Facilitator

open Exec Await Keyed Function

-- ==== frames

/-- What a settlement is of. -/
def Settlement.terms (s : Settlement) : String × String × Nat :=
  (s.merchantWallet, s.network, s.amount)

/-- Settlements are only ever added, and none of them is of anything else
later. -/
theorem perform_settlements (op : Op) (c : Choice) (s : Store) :
    s.db.settlements.map Settlement.terms
      <+: (perform op c s).1.db.settlements.map Settlement.terms := by
  have hcommit : ∀ {α : Type} {x : Except String (Db × α)},
      (∀ db v, x = .ok (db, v) → s.db.settlements.map Settlement.terms
        <+: db.settlements.map Settlement.terms) →
      s.db.settlements.map Settlement.terms
        <+: (commit c s x).1.db.settlements.map Settlement.terms := by
    intro α x hx
    rcases commit_db c s x with hsame | ⟨db, v, hok, hdb⟩
    · rw [hsame]
    · rw [hdb]
      exact hx db v hok
  have hmodify : ∀ {id : Nat} {f : Settlement → Settlement} {db : Db},
      db.settlements = s.db.settlements.modify id f →
      (∀ x, (f x).terms = x.terms) →
      s.db.settlements.map Settlement.terms
        <+: db.settlements.map Settlement.terms := by
    intro id f db hdb hf
    rw [hdb, map_modify hf]
  by_cases h : op.booksSettlement = false
  · rw [(perform_frames op c s).settlements h]
  · cases op with
    | insertSettlement row =>
      apply hcommit
      intro db v hx
      cases hx
      show _ <+: (s.db.settlements ++ [row]).map _
      rw [List.map_append]
      exact List.prefix_append _ _
    | updateSettlementStatus id status =>
      apply hcommit
      intro db v hx
      cases hx
      exact hmodify rfl fun _ => rfl
    | updateSettlementConfirmed id txHash fee =>
      apply hcommit
      intro db v hx
      cases hx
      exact hmodify rfl fun _ => rfl
    | finalizeKizunaSettlement p =>
      apply hcommit
      intro db v hx
      obtain ⟨_, _, -, -, -, -, ⟨_, _, _, _, hsame⟩, -⟩ :=
        Db.finalize_ok hx
      exact hmodify (congrArg Db.settlements hsame) fun _ => rfl
    | _ => exact (h rfl).elim

-- ==== hashes

/-- The hash of the payment a nonce was paid with. -/
def Db.paidHash (db : Db) (key : String × String) : Option String :=
  (db.nonceGuards key).bind NonceGuard.txHash

/-- The nonce and the hash an operation puts on its guard, where there is
one. -/
def stamped (op : Op) (c : Choice) (s : Store) :
    Option ((String × String) × String) :=
  match op with
  | .setPaymentNonceTxHash payer nonce txHash =>
    if c.outcome ≠ .fails ∧ (s.db.nonceGuards (payer, nonce)).isSome then
      some ((payer, nonce), txHash)
    else none
  | _ => none

/-- What a stamp leaves. -/
def stamp {α : Type} (x : Option ((String × String) × String))
    (mark : String → α) (paid : String × String → Option α) :
    String × String → Option α :=
  match x with
  | some (key, txHash) => update paid key (some (mark txHash))
  | none => paid

theorem paidHash_put {db : Db} {key : String × String}
    {guard : Option NonceGuard}
    (h : guard.bind NonceGuard.txHash = db.paidHash key) :
    Db.paidHash { db with nonceGuards := update db.nonceGuards key guard }
      = db.paidHash := by
  funext k
  unfold Db.paidHash at h ⊢
  by_cases hk : k = key
  · subst hk
    rw [← h]
    show (update db.nonceGuards k guard k).bind _ = _
    rw [update_self]
  · show (update db.nonceGuards key guard k).bind _ = _
    rw [update_of_ne hk]

/-- A guard's hash changes with a stamp only: it is kept by an update and
spares its guard from deletion. -/
theorem perform_paidHash (op : Op) (c : Choice) (s : Store) :
    (perform op c s).1.db.paidHash = stamp (stamped op c s) id s.db.paidHash := by
  have hcommit : ∀ {α : Type} {x : Except String (Db × α)},
      (∀ db v, x = .ok (db, v) → db.paidHash = s.db.paidHash) →
      (commit c s x).1.db.paidHash = s.db.paidHash :=
    fun hx => commit_frame Db.paidHash c s hx
  have hsame : ∀ {db : Db}, db.nonceGuards = s.db.nonceGuards →
      db.paidHash = s.db.paidHash := by
    intro db hdb
    unfold Db.paidHash
    rw [hdb]
  cases op with
  | setPaymentNonceTxHash payer nonce txHash =>
    show (commit c s (.ok (s.db.setPaymentNonceTxHash payer nonce txHash,
      ()))).1.db.paidHash = stamp (if _ then _ else _) id _
    by_cases hfails : c.outcome = .fails
    · rw [if_neg fun h => h.1 hfails]
      unfold commit
      rw [hfails]
      rfl
    · have hdb : (commit c s (.ok (s.db.setPaymentNonceTxHash payer nonce
          txHash, ()))).1.db = s.db.setPaymentNonceTxHash payer nonce txHash := by
        unfold commit
        cases hc : c.outcome with
        | succeeds => rfl
        | fails => exact (hfails hc).elim
        | lost => rfl
      rw [hdb]
      cases hguard : s.db.nonceGuards (payer, nonce) with
      | none =>
        rw [if_neg fun h => by simp at h]
        refine paidHash_put ?_
        unfold Db.paidHash
        rw [hguard]
        rfl
      | some guard =>
        rw [if_pos ⟨hfails, rfl⟩]
        funext k
        show (update s.db.nonceGuards (payer, nonce) _ k).bind _
          = update s.db.paidHash (payer, nonce) (some txHash) k
        rw [hguard]
        by_cases hk : k = (payer, nonce)
        · subst hk
          rw [update_self, update_self]
          rfl
        · rw [update_of_ne hk, update_of_ne hk]
          rfl
  | reservePaymentNonce payer nonce =>
    apply hcommit
    intro db v hx
    have hmade : s.db.reservePaymentNonce payer nonce = (db, v) :=
      Except.ok.inj hx
    unfold Db.reservePaymentNonce at hmade
    split at hmade
    · next hguard =>
        cases hmade
        refine paidHash_put ?_
        unfold Db.paidHash
        rw [hguard]
        rfl
    · cases hmade
      rfl
  | setPaymentNonceSettlementId payer nonce id =>
    apply hcommit
    intro db v hx
    cases hx
    refine paidHash_put ?_
    unfold Db.paidHash
    cases s.db.nonceGuards (payer, nonce) with
    | none => rfl
    | some guard => rfl
  | deletePaymentNonceGuard payer nonce =>
    apply hcommit
    intro db v hx
    cases hx
    refine paidHash_put ?_
    unfold Db.paidHash
    cases s.db.nonceGuards (payer, nonce) with
    | none => rfl
    | some guard =>
      obtain ⟨settlementId, txHash⟩ := guard
      cases txHash with
      | none => rfl
      | some txHash => rfl
  | _ => exact hsame ((perform_frames _ c s).guards rfl)

-- ==== asks

/-- What a payment request asks for: who pays under which nonce, and to
whom, where and how much. -/
structure Ask where
  payer : String
  nonce : String
  merchantWallet : String
  network : String
  amount : Nat

def Ask.key (a : Ask) : String × String := (a.payer, a.nonce)

def Ask.terms (a : Ask) : String × String × Nat :=
  (a.merchantWallet, a.network, a.amount)

/-- The amount a signed payment is asked for: the one signed, or the legacy
body's. -/
def PaymentRequest.signedAmount (env : Env) (q : PaymentRequest)
    (payment : Payment) : Option Nat :=
  match q.mode with
  | .x402 => env.parseSignedUsdcAmount payment.amount q.requirementAmountRaw
  | .legacy => q.amount

/-- What the request asks for, with the session found for its token, if it
is one for a session. -/
def PaymentRequest.ask (env : Env) (q : PaymentRequest)
    (found : Option PaymentSession) : Option Ask :=
  match acceptScheme env q.paymentHeader q.requirementNetwork with
  | .error _ => none
  | .ok (scheme, network) =>
    if scheme.scheme = "session" then do
      let (_, nonce) ← (acceptSession env q network).toOption
      let session ← found
      let raw ← q.requirementAmountRaw
      let amount ← env.parseUsdcMicroAmountBigint raw
      return ⟨session.payerWallet, nonce, q.merchantWallet, network, amount⟩
    else do
      let payment ← env.decodePaymentHeader q.paymentHeader
      let amount ← q.signedAmount env payment
      return ⟨payment.payer, payment.nonce, q.merchantWallet, network, amount⟩

def Request.isPlain : Request → Bool
  | .pay _ => true
  | _ => false

def Request.ask (env : Env) (found : Option PaymentSession) :
    Request → Option Ask
  | .pay q => q.ask env found
  | _ => none

section Asks

variable {env : Env} {q : PaymentRequest} {scheme : Scheme} {network : String}

/-- A request for a session asks for nothing before the session is
found. -/
theorem ask_session
    (h : acceptScheme env q.paymentHeader q.requirementNetwork
      = .ok (scheme, network)) (hscheme : scheme.scheme = "session") :
    q.ask env none = none := by
  unfold PaymentRequest.ask
  rw [h]
  dsimp only
  rw [if_pos hscheme]
  cases acceptSession env q network with
  | error f => rfl
  | ok x => rfl

/-- A session's payment is the one asked for. -/
theorem ask_found {tokenHash nonce : String} {found : Option PaymentSession}
    {now : Nat} {session : PaymentSession} {amountMicro : Nat}
    (h : acceptScheme env q.paymentHeader q.requirementNetwork
      = .ok (scheme, network)) (hscheme : scheme.scheme = "session")
    (hsession : acceptSession env q network = .ok (tokenHash, nonce))
    (hfound : checkSession env q network found now
      = .ok (session, amountMicro)) :
    q.ask env found = some ⟨session.payerWallet, nonce, q.merchantWallet,
      network, amountMicro⟩ := by
  unfold checkSession at hfound
  obtain ⟨y, hy, u₁, -, u₂, -, u₃, -, hfound⟩ := bind_ok₄.mp hfound
  obtain ⟨u₄, -, raw, hraw, m, hm, u₅, -, hfound⟩ := bind_ok₄.mp hfound
  obtain ⟨u₆, -, u₇, -, u₈, -, u₉, -, hfound⟩ := bind_ok₄.mp hfound
  cases hfound
  unfold PaymentRequest.ask
  rw [h]
  dsimp only
  rw [if_pos hscheme, hsession, okOr_ok.mp hy, okOr_ok.mp hraw]
  show (env.parseUsdcMicroAmountBigint raw).bind _ = _
  rw [okOr_ok.mp hm]
  rfl

theorem ask_signed {now : Nat} {payment : Payment} {amount : Nat}
    (h : acceptScheme env q.paymentHeader q.requirementNetwork
      = .ok (scheme, network)) (hscheme : scheme.scheme ≠ "session")
    (hlegacy : q.mode = .legacy → ∃ amount ∈ q.amount, amount ≠ 0)
    (hsigned : acceptExact env q network now = .ok (payment, amount)) :
    q.ask env none = some ⟨payment.payer, payment.nonce, q.merchantWallet,
      network, amount⟩ := by
  unfold acceptExact at hsigned
  obtain ⟨payment', hpayment, u₁, -, signedAmount, hamount, u₂, -, hsigned⟩ :=
    bind_ok₄.mp hsigned
  obtain ⟨u₃, -, u₄, -, u₅, -, hsigned⟩ := bind_ok₃.mp hsigned
  cases hsigned
  obtain ⟨decoded, hdecoded, u₆, -, u₇, -, u₈, -, hpayment⟩ :=
    bind_ok₄.mp hpayment
  cases hpayment
  have hasked : q.signedAmount env payment = some (match q.mode with
      | .x402 => signedAmount
      | .legacy => q.amount.getD 0) := by
    unfold PaymentRequest.signedAmount
    cases hmode : q.mode with
    | x402 =>
      rw [hmode] at hamount
      exact okOr_ok.mp hamount
    | legacy =>
      obtain ⟨m, hm, -⟩ := hlegacy hmode
      rw [Option.mem_def.mp hm]
      rfl
  unfold PaymentRequest.ask
  rw [h]
  dsimp only
  rw [if_neg hscheme, okOr_ok.mp hdecoded]
  show (q.signedAmount env payment).bind _ = _
  rw [hasked]
  rfl

end Asks

-- ==== notes

/-- What is noted of a request: what it asks for, once that is known,
whether its nonce was in use, the settlement it recorded, and the hash of
the payment on record that it was told of. -/
structure Note where
  request : Request
  ask : Option Ask
  denied : Bool
  inserted : Option Nat
  told : Option String

def Note.start (env : Env) (q : Request) : Note :=
  ⟨q, q.ask env none, false, none, none⟩

/-- The request was not told that its nonce is in use. -/
def Note.Fresh (n : Note) : Prop := n.told = none ∧ n.denied = false

/-- The note once an operation is answered. -/
def Note.hear (env : Env) (n : Note) : (op : Op) → op.Res → Note
  | .getPaymentSessionByTokenHash _, r =>
    match r.value with
    | .ok found => { n with ask := n.request.ask env found }
    | .error _ => n
  | .reservePaymentNonce _ _, r =>
    match r.value with
    | .ok granted => { n with denied := !granted }
    | .error _ => n
  | .insertSettlement _, r =>
    match r.value with
    | .ok settlement => { n with inserted := some settlement.id }
    | .error _ => n
  | .getPaymentNonceGuard _ _, r =>
    match r.value with
    | .ok guard => { n with told := guard.bind NonceGuard.txHash }
    | .error _ => n
  | _, _ => n

/-- What a plain request awaits only once it knows what it asks for: it
records the settlement it asks for, and only one; it reads and stamps the
guard of its own payer and nonce, and stamps it once it has recorded a
settlement. -/
def Note.permits (n : Note) : Op → Prop
  | .getPaymentSessionByTokenHash _ => n.ask = none
  | .insertSettlement row =>
    n.request.isPlain = true →
      n.inserted = none ∧ n.ask.map Ask.terms = some row.terms
  | .setPaymentNonceTxHash payer nonce _ =>
    n.inserted.isSome = true ∧ n.ask.map Ask.key = some (payer, nonce)
  | .getPaymentNonceGuard payer nonce =>
    n.told = none ∧ n.ask.map Ask.key = some (payer, nonce)
  | _ => True

/-- The hash of the payment a request is answered with that is on record
already. -/
def Response.replayed : Response → Option String
  | .settled s => if s.idempotent then some s.txHash else none
  | _ => none

/-- Requests that await what they are permitted to. A plain one is answered
with the payment it was told of; it is refused if its nonce is in use and
it was told of none. -/
def watch (env : Env) : Observer Op Op.Res Response Note where
  permits op n := n.permits op
  note op r n := n.hear env op r
  ends r n := n.request.isPlain = true → r.replayed = n.told
    ∧ (n.denied = true → n.told = none → ∃ f, r = .failed f)

section Routes

variable {env : Env} {n : Note} {q : PaymentRequest} {network : String}

abbrev Noted (env : Env) (p : Handler) (n : Note) : Prop := Obeys (watch env) p n

theorem noted_fail {f : Failure} (h : n.told = none) : Noted env (fail f) n :=
  fun _ => ⟨h.symm, fun _ _ => ⟨f, rfl⟩⟩

theorem noted_done {r : Response} (h : n.Fresh) (hr : r.replayed = none) :
    Noted env (.done r) n := by
  intro _
  refine ⟨by rw [hr, h.1], ?_⟩
  intro hdenied
  rw [h.2] at hdenied
  cases hdenied

theorem noted_check {α : Type} {x : Except Failure α} {k : α → Handler}
    (h : n.told = none) (hk : ∀ a, x = .ok a → Noted env (k a) n) :
    Noted env (check x k) n := by
  cases x with
  | error f => exact noted_fail h
  | ok a => exact hk a rfl

theorem noted_attempt {op : Op} {onError : String → Handler}
    {k : Nat → op.Value → Handler} (hop : n.permits op)
    (herr : ∀ now e, Noted env (onError e) (n.hear env op ⟨now, .error e⟩))
    (hk : ∀ now v, Noted env (k now v) (n.hear env op ⟨now, .ok v⟩)) :
    Noted env (attempt op onError k) n := by
  refine ⟨hop, ?_⟩
  intro r
  obtain ⟨now, value⟩ := r
  cases value with
  | error e => exact herr now e
  | ok v => exact hk now v

theorem noted_aside {op : Op} {onError : String → Handler}
    {k : Nat → op.Value → Handler} (hop : n.permits op)
    (hsame : ∀ r, n.hear env op r = n)
    (herr : ∀ e, Noted env (onError e) n)
    (hk : ∀ now v, Noted env (k now v) n) :
    Noted env (attempt op onError k) n := by
  apply noted_attempt hop
  · intro now e
    rw [hsame]
    exact herr e
  · intro now v
    rw [hsame]
    exact hk now v

theorem noted_ignore {op : Op} {k : Handler} (hop : n.permits op)
    (hsame : ∀ r, n.hear env op r = n) (hk : Noted env k n) :
    Noted env (ignore op k) n := by
  refine ⟨hop, ?_⟩
  intro r
  show Noted env k (n.hear env op r)
  rw [hsame]
  exact hk

theorem recordPayment_noted {payer nonce : String} {amount id : Nat}
    {onchain : Onchain} (h : n.Fresh)
    (hinserted : n.inserted.isSome = true)
    (hkey : n.ask.map Ask.key = some (payer, nonce)) : Noted env
      (recordPayment payer nonce network amount id onchain) n := by
  have hanswer : Noted env (.done (.settled ⟨some id, onchain.txHash, payer,
      amount, onchain.fee, network, false, none⟩)) n := noted_done h rfl
  have hrescue : Noted env
      (ignore (.setPaymentNonceTxHash payer nonce onchain.txHash)
        (.done (.settled ⟨some id, onchain.txHash, payer, amount,
          onchain.fee, network, false, none⟩))) n :=
    noted_ignore ⟨hinserted, hkey⟩ (fun _ => rfl) hanswer
  unfold recordPayment
  dsimp only
  refine noted_aside trivial (fun _ => rfl) (fun _ => hrescue) ?_
  intro now u
  refine noted_aside trivial (fun _ => rfl) (fun _ => hrescue) ?_
  intro now' u'
  exact noted_aside ⟨hinserted, hkey⟩ (fun _ => rfl) (fun _ => hrescue)
    fun _ _ => hanswer

theorem replayPayment_noted {payer nonce : String} {amount : Nat}
    (htold : n.told = none) (hkey : n.ask.map Ask.key = some (payer, nonce)) :
    Noted env (replayPayment payer nonce network amount) n := by
  unfold replayPayment
  dsimp only
  refine noted_attempt ⟨htold, hkey⟩ ?_ ?_
  · exact fun _ _ => noted_fail htold
  intro now guard
  change Option NonceGuard at guard
  show Noted env _ { n with told := guard.bind NonceGuard.txHash }
  cases hguard : guard.bind NonceGuard.txHash with
  | none => exact noted_fail rfl
  | some txHash =>
    have hanswer : ∀ settlement : Option Settlement, Noted env
        (.done (.settled ⟨none, txHash, payer,
          (settlement.map Settlement.amount).getD amount,
          (settlement.map Settlement.feeAmount).getD 0, network, true,
          none⟩)) { n with told := some txHash } :=
      fun _ _ => ⟨rfl, fun _ hnone => by cases hnone⟩
    dsimp only
    cases guard.bind NonceGuard.settlementId with
    | none => exact hanswer _
    | some id =>
      exact noted_aside trivial (fun _ => rfl) (fun _ => hanswer _)
        fun _ _ => hanswer _

theorem abandonSession_noted {hash payer nonce : String} {micro : Nat}
    {settlementId : Option Nat} {message : String} (h : n.Fresh) :
    Noted env
      (abandonSession hash payer nonce micro settlementId message) n := by
  have hreleased : Noted env
      (abandonSession hash payer nonce micro none message) n :=
    noted_aside trivial (fun _ => rfl) (fun _ => noted_done h rfl) fun _ _ =>
      noted_ignore trivial (fun _ => rfl) (noted_fail h.1)
  cases settlementId with
  | none => exact hreleased
  | some id =>
    exact noted_aside trivial (fun _ => rfl)
      (fun _ => noted_done h rfl) fun _ _ => hreleased

theorem paySession_noted {hash nonce : String} {session : PaymentSession}
    {micro : Nat} (h : n.Fresh) (hinserted : n.inserted = none)
    (hask : n.ask = some ⟨session.payerWallet, nonce, q.merchantWallet,
      network, micro⟩) :
    Noted env (paySession q network hash nonce session micro) n := by
  unfold paySession
  dsimp only
  refine noted_attempt ?_ ?_ ?_
  · intro _
    refine ⟨hinserted, ?_⟩
    rw [hask]
    rfl
  · exact fun _ _ => abandonSession_noted h
  intro now settlement
  change Stored Settlement at settlement
  show Noted env _ { n with inserted := some settlement.id }
  refine noted_ignore trivial (fun _ => rfl) ?_
  refine noted_aside trivial (fun _ => rfl)
    (fun _ => abandonSession_noted h) ?_
  intro now' feeBps
  refine noted_aside trivial (fun _ => rfl)
    (fun _ => abandonSession_noted h) ?_
  intro now'' onchain
  refine recordPayment_noted h rfl ?_
  show n.ask.map Ask.key = _
  rw [hask]
  rfl

theorem settleSession_noted {scheme : Scheme} {q : PaymentRequest}
    (h : acceptScheme env q.paymentHeader q.requirementNetwork
      = .ok (scheme, network)) (hscheme : scheme.scheme = "session") :
    Noted env (settleSession env q network) (Note.start env (.pay q)) := by
  unfold settleSession
  refine noted_check rfl ?_
  intro x hx
  obtain ⟨tokenHash, nonce⟩ := x
  refine noted_attempt (ask_session h hscheme)
    (fun _ _ => noted_done ⟨rfl, rfl⟩ rfl) ?_
  intro now found
  change Option PaymentSession at found
  show Noted env _ ⟨.pay q, q.ask env found, false, none, none⟩
  refine noted_check rfl ?_
  intro y hy
  obtain ⟨session, micro⟩ := y
  have hask := ask_found h hscheme hx hy
  have hkey : (q.ask env found).map Ask.key
      = some (session.payerWallet, nonce) := by
    rw [hask]
    rfl
  refine noted_attempt trivial (fun _ _ => noted_fail rfl) ?_
  intro now' nonceReserved
  cases nonceReserved with
  | false => exact replayPayment_noted rfl hkey
  | true =>
    refine noted_aside trivial (fun _ => rfl)
      (fun _ => noted_done ⟨rfl, rfl⟩ rfl) ?_
    intro now'' budgetReserved
    split
    · exact paySession_noted ⟨rfl, rfl⟩ rfl hask
    · exact noted_ignore trivial (fun _ => rfl) (noted_fail rfl)

theorem failExact_noted {id : Nat} {message : String} (h : n.Fresh) :
    Noted env (failExact id message) n :=
  noted_aside trivial (fun _ => rfl) (fun _ => noted_done h rfl)
    fun _ _ => noted_fail h.1

theorem refuse_noted {payment : Payment} {id : Nat} {f : Failure}
    (h : n.Fresh) : Noted env (refuseAuthorization payment id f) n :=
  noted_aside trivial (fun _ => rfl) (fun _ => failExact_noted h)
    fun _ _ => noted_ignore trivial (fun _ => rfl) (noted_fail h.1)

theorem payExact_noted {payment : Payment} {amount id : Nat}
    (h : n.Fresh) (hinserted : n.inserted.isSome = true)
    (hkey : n.ask.map Ask.key = some (payment.payer, payment.nonce)) :
    Noted env (payExact env q network payment amount id) n := by
  have hrecord : ∀ onchain, Noted env (recordPayment payment.payer
      payment.nonce network amount id onchain) n :=
    fun _ => recordPayment_noted h hinserted hkey
  have hfront : ∀ order : Order, Noted env
      (attempt (.settlePayment order) (failExact id)
        fun _ (onchain : Onchain) => recordPayment payment.payer
          payment.nonce network amount id onchain) n :=
    fun _ => noted_aside trivial (fun _ => rfl)
      (fun _ => failExact_noted h) fun _ _ => hrecord _
  unfold payExact
  dsimp only
  refine noted_aside trivial (fun _ => rfl) (fun _ => failExact_noted h) ?_
  intro now feeBps
  split
  · split
    · exact refuse_noted h
    · exact hfront _
    · unfold payAuthorized
      dsimp only
      refine noted_aside trivial (fun _ => rfl) (fun _ => refuse_noted h) ?_
      intro now' hasCode
      split
      · exact refuse_noted h
      · refine noted_aside trivial (fun _ => rfl) (fun _ => refuse_noted h) ?_
        intro now'' verifyingContract
        split
        · exact refuse_noted h
        · exact noted_aside trivial (fun _ => rfl)
            (fun _ => refuse_noted h) fun _ _ => hrecord _
  · exact hfront _

theorem settleExact_noted {scheme : Scheme} {now : Nat}
    (h : acceptScheme env q.paymentHeader q.requirementNetwork
      = .ok (scheme, network)) (hscheme : scheme.scheme ≠ "session")
    (hlegacy : q.mode = .legacy → ∃ amount ∈ q.amount, amount ≠ 0) :
    Noted env (settleExact env q network now) (Note.start env (.pay q)) := by
  unfold settleExact
  refine noted_check rfl ?_
  intro x hx
  obtain ⟨payment, amount⟩ := x
  have hask := ask_signed h hscheme hlegacy hx
  have hkey : (q.ask env none).map Ask.key
      = some (payment.payer, payment.nonce) := by
    rw [hask]
    rfl
  refine noted_attempt trivial (fun _ _ => noted_done ⟨rfl, rfl⟩ rfl) ?_
  intro now' nonceReserved
  cases nonceReserved with
  | false => exact replayPayment_noted rfl hkey
  | true =>
    refine noted_attempt ?_ ?_ ?_
    · intro _
      refine ⟨rfl, ?_⟩
      show (q.ask env none).map Ask.terms = _
      rw [hask]
      rfl
    · exact fun _ _ => noted_done ⟨rfl, rfl⟩ rfl
    intro now'' settlement
    exact noted_ignore trivial (fun _ => rfl)
      (payExact_noted ⟨rfl, rfl⟩ rfl hkey)

theorem plain_noted (q : PaymentRequest) (now : Nat) :
    Noted env (settlePlain env q now) (Note.start env (.pay q)) := by
  unfold settlePlain
  dsimp only
  refine noted_check rfl ?_
  intro x hx
  obtain ⟨scheme, network⟩ := x
  obtain ⟨u, -, y, hy, u', hlegacy, hx⟩ := bind_ok₃.mp hx
  cases hx
  dsimp only
  split
  · next hscheme => exact settleSession_noted hy hscheme
  · next hscheme =>
      exact settleExact_noted hy hscheme (require_ok.mp hlegacy)

/-- What an answer adds to the note. -/
inductive Heard (env : Env) (n : Note) : (op : Op) → op.Res → Note → Prop
  | same {op : Op} {r : op.Res} : Heard env n op r n
  | asked {hash : String} {now : Nat} {found : Option PaymentSession} :
      Heard env n (.getPaymentSessionByTokenHash hash) ⟨now, .ok found⟩
        { n with ask := n.request.ask env found }
  | denied {payer nonce : String} {now : Nat} {granted : Bool} :
      Heard env n (.reservePaymentNonce payer nonce) ⟨now, .ok granted⟩
        { n with denied := !granted }
  | inserted {row : Settlement} {now : Nat} {settlement : Stored Settlement} :
      Heard env n (.insertSettlement row) ⟨now, .ok settlement⟩
        { n with inserted := some settlement.id }
  | told {payer nonce : String} {now : Nat} {guard : Option NonceGuard} :
      Heard env n (.getPaymentNonceGuard payer nonce) ⟨now, .ok guard⟩
        { n with told := guard.bind NonceGuard.txHash }

theorem hear_heard (op : Op) (r : op.Res) :
    Heard env n op r (n.hear env op r) := by
  obtain ⟨now, value⟩ := r
  cases value with
  | error e => cases op <;> exact .same
  | ok v =>
    cases op with
    | getPaymentSessionByTokenHash hash => exact .asked
    | reservePaymentNonce payer nonce => exact .denied
    | insertSettlement row => exact .inserted
    | getPaymentNonceGuard payer nonce => exact .told
    | _ => exact .same

theorem hear_request (op : Op) (r : op.Res) :
    (n.hear env op r).request = n.request := by
  have h := @hear_heard env n op r
  generalize n.hear env op r = n' at h
  cases h with
  | _ => rfl

theorem uses_permitted {q : Request} {op : Op} (hplain : q.isPlain = false)
    (hop : q.uses op = true) (h : n.request.isPlain = false) :
    n.permits op := by
  cases op with
  | insertSettlement row =>
    intro hyes
    rw [h] at hyes
    cases hyes
  | getPaymentSessionByTokenHash hash =>
    cases q with
    | pay q => cases hplain
    | _ => cases hop
  | setPaymentNonceTxHash payer nonce txHash =>
    cases q with
    | pay q => cases hplain
    | _ => cases hop
  | getPaymentNonceGuard payer nonce =>
    cases q with
    | pay q => cases hplain
    | _ => cases hop
  | _ => trivial

theorem route_noted (q : Request) (now : Nat) :
    Noted env (route env now q) (Note.start env q) := by
  by_cases hplain : q.isPlain = true
  · cases q with
    | pay q => exact plain_noted q now
    | _ => cases hplain
  · have hnot : q.isPlain = false := Bool.eq_false_iff.mpr hplain
    refine Only.obeys (J := fun n => n.request.isPlain = false) ?_ ?_ ?_
      (route_only q now) hnot
    · exact fun op n hop hn => uses_permitted hnot hop hn
    · intro op r n _ hn
      show (n.hear env op r).request.isPlain = false
      rw [hear_request]
      exact hn
    · intro r n _ hn hyes
      rw [hn] at hyes
      cases hyes

end Routes

-- ==== trace

/-- The notes of the requests, in the order they arrived; for each payer
and nonce the request that put the hash on its guard, and the hash; for
each request the payment on record it was told of. -/
structure Trace where
  notes : List Note
  paidBy : String × String → Option (Nat × String)
  reported : Nat → Option (Nat × String)

/-- Before any request. -/
def Trace.empty : Trace := ⟨[], fun _ => none, fun _ => none⟩

/-- The payment whose hash an answer tells of. -/
def Trace.report (g : Trace) (i : Nat) :
    (op : Op) → op.Res → Nat → Option (Nat × String)
  | .getPaymentNonceGuard payer nonce, r =>
    match r.value with
    | .ok _ => update g.reported i (g.paidBy (payer, nonce))
    | .error _ => g.reported
  | _, _ => g.reported

/-- Request `i` is answered. -/
def Trace.answer (env : Env) (g : Trace) (i : Nat) (op : Op) (c : Choice)
    (s : Store) : Trace where
  notes := g.notes.modify i fun n => n.hear env op (perform op c s).2
  paidBy := stamp (stamped op c s) (fun txHash => (i, txHash)) g.paidBy
  reported := g.report i op (perform op c s).2

/-- The trace after a step. -/
def Trace.track (env : Env) (a : Action) (w : World) (g : Trace) : Trace :=
  match a with
  | .arrive q _ => { g with notes := g.notes ++ [Note.start env q] }
  | .resume i c =>
    match w.awaited i with
    | some op => g.answer env i op c w.store
    | none => g

/-- What request `i` asks for. -/
def Trace.ask (g : Trace) (i : Nat) : Option Ask := g.notes[i]?.bind Note.ask

/-- The settlement it recorded. -/
def Trace.inserted (g : Trace) (i : Nat) : Option Nat :=
  g.notes[i]?.bind Note.inserted

section Traces

variable {env : Env} {n : Note}

/-- What is known of a request stays known. -/
structure Note.Grows (n n' : Note) : Prop where
  request : n'.request = n.request
  ask : ∀ a, n.ask = some a → n'.ask = some a
  inserted : n.request.isPlain = true →
    ∀ id, n.inserted = some id → n'.inserted = some id

theorem Note.Grows.refl (n : Note) : n.Grows n := ⟨rfl, fun _ => id, fun _ _ => id⟩

theorem hear_grows {op : Op} (h : n.permits op) (r : op.Res) :
    n.Grows (n.hear env op r) := by
  have hheard := @hear_heard env n op r
  generalize n.hear env op r = n' at hheard
  cases hheard with
  | same => exact Note.Grows.refl n
  | asked =>
    have hnone : n.ask = none := h
    refine ⟨rfl, ?_, fun _ _ => id⟩
    intro a ha
    rw [hnone] at ha
    cases ha
  | denied => exact ⟨rfl, fun _ => id, fun _ _ => id⟩
  | inserted =>
    refine ⟨rfl, fun _ => id, ?_⟩
    intro hplain id hid
    rw [(h hplain).1] at hid
    cases hid
  | told => exact ⟨rfl, fun _ => id, fun _ _ => id⟩

/-- Only plain requests are known to ask for anything. -/
def Note.Plain (n : Note) : Prop :=
  ∀ a, n.ask = some a → n.request.isPlain = true

theorem start_plain (q : Request) : (Note.start env q).Plain := by
  intro a ha
  cases q with
  | pay q => rfl
  | _ => cases ha

theorem hear_plain (h : n.Plain) (op : Op) (r : op.Res) :
    (n.hear env op r).Plain := by
  have hheard := @hear_heard env n op r
  generalize n.hear env op r = n' at hheard
  cases hheard with
  | asked =>
    intro a ha
    change n.request.ask env _ = some a at ha
    show n.request.isPlain = true
    cases hq : n.request with
    | pay q => rfl
    | _ =>
      rw [hq] at ha
      cases ha
  | _ => exact h

/-- A settlement on note is one that was there, or the one recorded
now. -/
theorem hear_inserted {op : Op} {c : Choice} {s : Store} {id : Nat}
    (h : (n.hear env op (perform op c s).2).inserted = some id) :
    n.inserted = some id ∨ ∃ row, op = .insertSettlement row
      ∧ (perform op c s).1.db.settlements[id]? = some row := by
  have hheard := @hear_heard env n op (perform op c s).2
  generalize hn : n.hear env op (perform op c s).2 = n' at h hheard
  generalize hr : (perform op c s).2 = r at hheard
  cases hheard with
  | @inserted row now settlement =>
    cases h
    refine Or.inr ⟨row, rfl, ?_⟩
    have hok : (commit c s (.ok (s.db.insertSettlement row))).2.value
        = .ok settlement := congrArg Answer.value hr
    obtain ⟨db, hdb, hs⟩ := commit_ok hok
    cases hdb
    have hadded : (perform (.insertSettlement row) c s).1.db.settlements
        = s.db.settlements ++ [row] :=
      congrArg (fun s : Store => s.db.settlements) hs
    rw [hadded]
    exact List.getElem?_concat_length
  | _ => exact Or.inl h

/-- Request `j` recorded a settlement of a payment under the key. -/
def Trace.Paid (g : Trace) (key : String × String) (j : Nat) : Prop :=
  ∃ n a id, g.notes[j]? = some n ∧ n.request.isPlain = true
    ∧ n.ask = some a ∧ a.key = key ∧ n.inserted = some id

/-- The notes of one trace grow into those of the other. -/
def Trace.Grows (g g' : Trace) : Prop :=
  ∀ (j : Nat) (n : Note), g.notes[j]? = some n →
    ∃ n', g'.notes[j]? = some n' ∧ n.Grows n'

theorem Trace.Paid.grows {g g' : Trace} {key : String × String} {j : Nat}
    (h : g.Paid key j) (hg : g.Grows g') : g'.Paid key j := by
  obtain ⟨n, a, id, hj, hplain, hask, hkey, hid⟩ := h
  obtain ⟨n', hj', hn⟩ := hg j n hj
  refine ⟨n', a, id, hj', ?_, hn.ask a hask, hkey, hn.inserted hplain id hid⟩
  rw [hn.request]
  exact hplain

theorem Trace.Grows.ask {g g' : Trace} (hg : g.Grows g') {i : Nat} {a : Ask}
    (h : g.ask i = some a) : g'.ask i = some a := by
  obtain ⟨n, hi, ha⟩ := Option.bind_eq_some_iff.mp h
  obtain ⟨n', hi', hn⟩ := hg i n hi
  unfold Trace.ask
  rw [hi']
  exact hn.ask a ha

/-- What holds of the service and the trace of its run: the settlements on
note are on record as they were asked for, the hashes on the guards are
those of payments on note, and what a request was told of is one of
these, under its own payer and nonce. -/
structure OnRecord (env : Env) (w : World) (g : Trace) : Prop where
  observed : Observed (watch env) w g.notes
  plain : ∀ (i : Nat) (n : Note), g.notes[i]? = some n → n.Plain
  recorded : ∀ (i : Nat) (n : Note) (id : Nat), g.notes[i]? = some n →
    n.request.isPlain = true → n.inserted = some id →
    ∃ a, n.ask = some a
      ∧ (w.store.db.settlements.map Settlement.terms)[id]? = some a.terms
  hashes : ∀ key, w.store.db.paidHash key = (g.paidBy key).map Prod.snd
  paid : ∀ (key : String × String) (x : Nat × String),
    g.paidBy key = some x → g.Paid key x.1
  told : ∀ (i : Nat) (n : Note), g.notes[i]? = some n →
    n.told = (g.reported i).map Prod.snd
  reported : ∀ (i : Nat) (x : Nat × String), g.reported i = some x →
    ∃ a, g.ask i = some a ∧ g.Paid a.key x.1

theorem onRecord_genesis {w : World} (h : Genesis w) :
    OnRecord env w Trace.empty where
  observed := by
    unfold Observed
    rw [h.progs]
    exact List.Forall₂.nil
  plain i n hi := by cases hi
  recorded i n id hi := by cases hi
  hashes key := by
    unfold Db.paidHash
    rw [h.nonceGuards key]
    rfl
  paid key x hx := by cases hx
  told i n hi := by cases hi
  reported i x hx := by cases hx

theorem getElem?_snoc {α : Type} {l : List α} {x y : α} {i : Nat}
    (h : (l ++ [x])[i]? = some y) :
    l[i]? = some y ∨ (i = l.length ∧ y = x) := by
  rcases Nat.lt_or_ge i l.length with hlt | hge
  · rw [List.getElem?_append_left hlt] at h
    exact Or.inl h
  · rw [List.getElem?_append_right hge] at h
    rw [List.getElem?_singleton] at h
    split at h
    · cases h
      exact Or.inr ⟨by omega, rfl⟩
    · cases h

theorem OnRecord.arrive {w : World} {g : Trace} (h : OnRecord env w g) (q : Request)
    (now : Nat) :
    OnRecord env (Await.arrive (route env now q) w)
      { g with notes := g.notes ++ [Note.start env q] } := by
  have hgrows : g.Grows { g with notes := g.notes ++ [Note.start env q] } := by
    intro j n hj
    obtain ⟨hlt, -⟩ := List.getElem?_eq_some_iff.mp hj
    refine ⟨n, ?_, Note.Grows.refl n⟩
    show (g.notes ++ [Note.start env q])[j]? = some n
    rw [List.getElem?_append_left hlt]
    exact hj
  refine ⟨observed_arrive h.observed (route_noted q now), ?_, ?_, h.hashes,
    ?_, ?_, ?_⟩
  · intro i n hi
    rcases getElem?_snoc hi with hold | ⟨-, rfl⟩
    · exact h.plain i n hold
    · exact start_plain q
  · intro i n id hi hplain hid
    rcases getElem?_snoc hi with hold | ⟨-, rfl⟩
    · exact h.recorded i n id hold hplain hid
    · cases hid
  · intro key x hx
    exact (h.paid key x hx).grows hgrows
  · intro i n hi
    rcases getElem?_snoc hi with hold | ⟨rfl, rfl⟩
    · exact h.told i n hold
    · -- nothing was told to a request that was not there
      cases hreported : g.reported g.notes.length with
      | none =>
        rfl
      | some x =>
        obtain ⟨a, ha, -⟩ := h.reported _ x hreported
        unfold Trace.ask at ha
        rw [List.getElem?_eq_none (Nat.le_refl _)] at ha
        cases ha
  · intro i x hx
    obtain ⟨a, ha, hpaid⟩ := h.reported i x hx
    exact ⟨a, hgrows.ask ha, hpaid.grows hgrows⟩

/-- A note of the list with one of them changed is that one or an old
one. -/
theorem getElem?_modified {α : Type} {l : List α} {f : α → α} {i j : Nat}
    {y : α} (h : (l.modify i f)[j]? = some y) :
    (i = j ∧ ∃ x, l[i]? = some x ∧ y = f x) ∨ (i ≠ j ∧ l[j]? = some y) := by
  by_cases hij : i = j
  · subst hij
    rw [List.getElem?_modify_eq] at h
    obtain ⟨x, hx, hy⟩ := Option.map_eq_some_iff.mp h
    exact Or.inl ⟨rfl, x, hx, hy.symm⟩
  · rw [List.getElem?_modify_ne _ _ hij] at h
    exact Or.inr ⟨hij, h⟩

theorem stamped_some {op : Op} {c : Choice} {s : Store}
    {x : (String × String) × String} (h : stamped op c s = some x) :
    op = .setPaymentNonceTxHash x.1.1 x.1.2 x.2 := by
  cases op with
  | setPaymentNonceTxHash payer nonce txHash =>
    unfold stamped at h
    dsimp only at h
    split at h
    · cases h
      rfl
    · cases h
  | _ => cases h

theorem stamp_map {x : Option ((String × String) × String)} {i : Nat}
    {paidHash : String × String → Option String}
    {paidBy : String × String → Option (Nat × String)}
    (h : ∀ key, paidHash key = (paidBy key).map Prod.snd)
    (key : String × String) : stamp x id paidHash key
      = (stamp x (fun txHash => (i, txHash)) paidBy key).map Prod.snd := by
  cases x with
  | none => exact h key
  | some x =>
    show update paidHash x.1 _ key = (update paidBy x.1 _ key).map Prod.snd
    by_cases hk : key = x.1
    · rw [hk, update_self, update_self]
      rfl
    · rw [update_of_ne hk, update_of_ne hk]
      exact h key

variable {w : World} {g : Trace} {i : Nat} {op : Op} {c : Choice} {s : Store}

theorem answer_grows (hn : g.notes[i]? = some n) (hop : n.permits op) :
    g.Grows (g.answer env i op c s) := by
  intro j m hj
  by_cases hij : i = j
  · subst hij
    rw [hn] at hj
    cases hj
    refine ⟨n.hear env op (perform op c s).2, ?_, hear_grows hop _⟩
    show (g.notes.modify i _)[i]? = _
    rw [List.getElem?_modify_eq, hn]
    rfl
  · refine ⟨m, ?_, Note.Grows.refl m⟩
    show (g.notes.modify i _)[j]? = _
    rw [List.getElem?_modify_ne _ _ hij]
    exact hj

theorem terms_perform {id : Nat} {x : String × String × Nat}
    (h : (s.db.settlements.map Settlement.terms)[id]? = some x) :
    ((perform op c s).1.db.settlements.map Settlement.terms)[id]? = some x := by
  obtain ⟨added, hadded⟩ := perform_settlements op c s
  obtain ⟨hlt, -⟩ := List.getElem?_eq_some_iff.mp h
  rw [← hadded, List.getElem?_append_left hlt]
  exact h

theorem answer_recorded (h : OnRecord env w g) (hn : g.notes[i]? = some n)
    (hop : n.permits op) (j : Nat) (m : Note) (id : Nat)
    (hj : (g.answer env i op c w.store).notes[j]? = some m)
    (hplain : m.request.isPlain = true) (hid : m.inserted = some id) :
    ∃ a, m.ask = some a
      ∧ ((perform op c w.store).1.db.settlements.map Settlement.terms)[id]?
        = some a.terms := by
  rcases getElem?_modified hj with ⟨rfl, n', hn', rfl⟩ | ⟨-, hold⟩
  · rw [hn] at hn'
    cases hn'
    rw [hear_request] at hplain
    have hgrows := @hear_grows env n op hop (perform op c w.store).2
    rcases hear_inserted hid with hbefore | ⟨row, rfl, hrow⟩
    · obtain ⟨a, ha, hterms⟩ := h.recorded i n id hn hplain hbefore
      exact ⟨a, hgrows.ask a ha, terms_perform hterms⟩
    · obtain ⟨-, hterms⟩ := hop hplain
      obtain ⟨a, ha, hsame⟩ := Option.map_eq_some_iff.mp hterms
      refine ⟨a, hgrows.ask a ha, ?_⟩
      rw [List.getElem?_map, hrow, hsame]
      rfl
  · obtain ⟨a, ha, hterms⟩ := h.recorded j m id hold hplain hid
    exact ⟨a, ha, terms_perform hterms⟩

theorem answer_paid (h : OnRecord env w g) (hn : g.notes[i]? = some n)
    (hop : n.permits op) (key : String × String) (x : Nat × String)
    (hx : (g.answer env i op c s).paidBy key = some x) :
    (g.answer env i op c s).Paid key x.1 := by
  have hgrows := @answer_grows env n g i op c s hn hop
  change stamp (stamped op c s) _ g.paidBy key = some x at hx
  cases hstamped : stamped op c s with
  | none =>
    rw [hstamped] at hx
    exact (h.paid key x hx).grows hgrows
  | some y =>
    rw [hstamped] at hx
    change update g.paidBy y.1 _ key = some x at hx
    by_cases hk : key = y.1
    · rw [hk, update_self] at hx
      cases hx
      rw [stamped_some hstamped] at hop
      obtain ⟨hinserted, hkey⟩ := hop
      obtain ⟨a, ha, hsame⟩ := Option.map_eq_some_iff.mp hkey
      obtain ⟨id, hid⟩ := Option.isSome_iff_exists.mp hinserted
      have hpaid : g.Paid key i :=
        ⟨n, a, id, hn, h.plain i n hn a ha, ha, by rw [hsame, hk], hid⟩
      exact hpaid.grows hgrows
    · rw [update_of_ne hk] at hx
      exact (h.paid key x hx).grows hgrows

theorem hear_told (hop : ∀ payer nonce, op ≠ .getPaymentNonceGuard payer nonce)
    (r : op.Res) : (n.hear env op r).told = n.told := by
  have hheard := @hear_heard env n op r
  generalize n.hear env op r = n' at hheard
  cases hheard with
  | told => exact (hop _ _ rfl).elim
  | _ => rfl

theorem report_ne {j : Nat} (hij : i ≠ j) (r : op.Res) :
    g.report i op r j = g.reported j := by
  cases op with
  | getPaymentNonceGuard payer nonce =>
    obtain ⟨now, value⟩ := r
    cases value with
    | error e => rfl
    | ok guard => exact update_of_ne (Ne.symm hij) ..
  | _ => rfl

theorem answer_told (h : OnRecord env w g) (hn : g.notes[i]? = some n)
    (j : Nat) (m : Note)
    (hj : (g.answer env i op c w.store).notes[j]? = some m) :
    m.told = ((g.answer env i op c w.store).reported j).map Prod.snd := by
  show m.told = (g.report i op (perform op c w.store).2 j).map Prod.snd
  rcases getElem?_modified hj with ⟨rfl, n', hn', rfl⟩ | ⟨hij, hold⟩
  · rw [hn] at hn'
    cases hn'
    have htold := h.told i n hn
    cases op with
    | getPaymentNonceGuard payer nonce =>
      by_cases hc : c.outcome = .succeeds
      · have hr : (perform (.getPaymentNonceGuard payer nonce) c w.store).2
            = ⟨c.now, .ok (w.store.db.getPaymentNonceGuard payer nonce)⟩ :=
          congrArg (Answer.mk c.now) (if_pos hc)
        rw [hr]
        show w.store.db.paidHash (payer, nonce)
          = (update g.reported i (g.paidBy (payer, nonce)) i).map Prod.snd
        rw [update_self]
        exact h.hashes (payer, nonce)
      · have hr : (perform (.getPaymentNonceGuard payer nonce) c w.store).2
            = ⟨c.now, .error "unavailable"⟩ :=
          congrArg (Answer.mk c.now) (if_neg hc)
        rw [hr]
        exact htold
    | _ => exact (hear_told (fun _ _ hop => by cases hop) _).trans htold
  · rw [report_ne hij]
    exact h.told j m hold

theorem answer_reported (h : OnRecord env w g) (hn : g.notes[i]? = some n)
    (hop : n.permits op) (j : Nat) (x : Nat × String)
    (hx : (g.answer env i op c s).reported j = some x) :
    ∃ a, (g.answer env i op c s).ask j = some a
      ∧ (g.answer env i op c s).Paid a.key x.1 := by
  have hgrows := @answer_grows env n g i op c s hn hop
  have hold : g.reported j = some x →
      ∃ a, (g.answer env i op c s).ask j = some a
        ∧ (g.answer env i op c s).Paid a.key x.1 := by
    intro hx
    obtain ⟨a, ha, hpaid⟩ := h.reported j x hx
    exact ⟨a, hgrows.ask ha, hpaid.grows hgrows⟩
  change g.report i op (perform op c s).2 j = some x at hx
  cases op with
  | getPaymentNonceGuard payer nonce =>
    generalize (perform (.getPaymentNonceGuard payer nonce) c s).2 = r at hx
    obtain ⟨now, value⟩ := r
    cases value with
    | error e => exact hold hx
    | ok guard =>
      change update g.reported i (g.paidBy (payer, nonce)) j = some x at hx
      by_cases hij : j = i
      · subst hij
        rw [update_self] at hx
        obtain ⟨-, hkey⟩ := hop
        obtain ⟨a, ha, hsame⟩ := Option.map_eq_some_iff.mp hkey
        have hask : g.ask j = some a := by
          unfold Trace.ask
          rw [hn]
          exact ha
        refine ⟨a, hgrows.ask hask, ?_⟩
        rw [hsame]
        exact (h.paid _ x hx).grows hgrows
      · rw [update_of_ne hij] at hx
        exact hold hx
  | _ => exact hold hx

theorem OnRecord.resume {w' : World} {k : op.Res → Handler}
    (h : OnRecord env w g) (hi : w.progs[i]? = some (.await op k))
    (hy : Await.resume perform i c w = some w') :
    OnRecord env w' (g.answer env i op c w.store) := by
  obtain ⟨n, hn, hobeys⟩ := h.observed.at hi
  have hop : n.permits op := hobeys.1
  have hs := resume_store hi hy
  refine ⟨observed_resume h.observed hi hy, ?_, ?_, ?_, answer_paid h hn hop,
    answer_told h hn, answer_reported h hn hop⟩
  · intro j m hj
    rcases getElem?_modified hj with ⟨rfl, n', hn', rfl⟩ | ⟨-, hold⟩
    · exact hear_plain (h.plain i n' hn') _ _
    · exact h.plain j m hold
  · rw [hs]
    exact answer_recorded h hn hop
  · intro key
    rw [hs, perform_paidHash]
    exact stamp_map h.hashes key

theorem run_onRecord {w₀ : World} {tr : List Action} (h₀ : Genesis w₀)
    (hrun : run (tracked (step env) (Trace.track env)) (w₀, Trace.empty) tr
      = .ok (w, g)) : OnRecord env w g := by
  refine run_induct (I := fun x : World × Trace => OnRecord env x.1 x.2) ?_
    (onRecord_genesis h₀) hrun
  intro a x y h hstep
  obtain ⟨hw, hg⟩ := tracked_ok.mp hstep
  rw [hg]
  rcases step_ok hw with
    ⟨q, now, rfl, heq⟩ | ⟨i, c, op, k, rfl, hi, hy⟩
  · rw [heq]
    exact h.arrive q now
  · show OnRecord env y.1 (match x.1.awaited i with
      | some op => x.2.answer env i op c x.1.store
      | none => x.2)
    rw [awaited_of hi]
    exact h.resume hi hy

end Traces

-- ==== answers

/-- What request `i` asks to be paid: to whom, where and how much. -/
def Trace.terms (g : Trace) (i : Nat) : Option (String × String × Nat) :=
  (g.ask i).map Ask.terms

/-- The nonce of request `i` was in use. -/
def Trace.denied (g : Trace) (i : Nat) : Bool := g.notes[i]?.any Note.denied

/-- An answer with a payment on record is about a settlement with the
merchant, on the network and of the amount that the request asks for. -/
def Faithful (w : World) (g : Trace) (i : Nat) (r : Response) : Prop :=
  ∀ txHash, r.replayed = some txHash →
    ∃ j id s, g.reported i = some (j, txHash) ∧ g.inserted j = some id
      ∧ w.store.db.settlements[id]? = some s ∧ g.terms i = some s.terms

/-- A request under a nonce in use is refused, unless it asks for what was
paid under it. -/
def Refuses (g : Trace) (i : Nat) (r : Response) : Prop :=
  g.denied i = true → (∀ x, g.reported i = some x → g.terms x.1 ≠ g.terms i) →
    ∃ f, r = .failed f

/-- The payment the request is told of, if any, was asked for in the same
terms. -/
def Repeats (g : Trace) (i : Nat) : Prop :=
  ∀ x, g.reported i = some x → g.terms x.1 = g.terms i

section Answers

variable {env : Env} {w₀ w : World} {g : Trace} {tr : List Action} {i : Nat}
variable {n : Note} {q : PaymentRequest} {r : Response}

/-- A payment a request is told of was recorded in the terms it was asked
for in, under the payer and nonce of the request. -/
theorem OnRecord.source {x : Nat × String} (h : OnRecord env w g)
    (hx : g.reported i = some x) :
    ∃ id s, g.inserted x.1 = some id ∧ w.store.db.settlements[id]? = some s
      ∧ g.terms x.1 = some s.terms
      ∧ (g.ask x.1).map Ask.key = (g.ask i).map Ask.key := by
  obtain ⟨a, ha, n, b, id, hn, hplain, hb, hkey, hid⟩ := h.reported i x hx
  obtain ⟨b', hb', hterms⟩ := h.recorded x.1 n id hn hplain hid
  rw [hb] at hb'
  cases hb'
  rw [List.getElem?_map] at hterms
  obtain ⟨s, hs, hsame⟩ := Option.map_eq_some_iff.mp hterms
  have hask : g.ask x.1 = some b := by
    unfold Trace.ask
    rw [hn]
    exact hb
  refine ⟨id, s, ?_, hs, ?_, ?_⟩
  · unfold Trace.inserted
    rw [hn]
    exact hid
  · unfold Trace.terms
    rw [hask, hsame]
    rfl
  · rw [hask, ha]
    exact congrArg some hkey

/-- The answers to the payments of a run are faithful, and refused where
they cannot be, if and only if the payments they tell of were asked for in
the same terms. -/
theorem replay_faithful_iff (h₀ : Genesis w₀)
    (hrun : run (tracked (step env) (Trace.track env)) (w₀, Trace.empty) tr
      = .ok (w, g))
    (hn : g.notes[i]? = some n) (hq : n.request = .pay q)
    (hr : w.progs[i]? = some (.done r)) :
    Faithful w g i r ∧ Refuses g i r ↔ Repeats g i := by
  have h := run_onRecord h₀ hrun
  obtain ⟨n', hn', hends⟩ := h.observed.at hr
  rw [hn] at hn'
  cases hn'
  have hplain : n.request.isPlain = true := by
    rw [hq]
    rfl
  obtain ⟨hreplayed, hrefused⟩ := hends hplain
  have htold := h.told i n hn
  constructor
  · intro hboth x hx
    obtain ⟨payer, txHash⟩ := x
    have hhash : r.replayed = some txHash := by
      rw [hreplayed, htold, hx]
      rfl
    obtain ⟨j, id, s, hj, hid, hs, hterms⟩ := hboth.1 txHash hhash
    rw [hx] at hj
    cases hj
    obtain ⟨id', s', hid', hs', hsource, -⟩ := h.source hx
    rw [hid] at hid'
    cases hid'
    rw [hs] at hs'
    cases hs'
    rw [hsource, hterms]
  · intro hrepeats
    constructor
    · intro txHash hhash
      rw [hreplayed, htold] at hhash
      obtain ⟨x, hx, rfl⟩ := Option.map_eq_some_iff.mp hhash
      obtain ⟨id, s, hid, hs, hsource, -⟩ := h.source hx
      refine ⟨x.1, id, s, hx, hid, hs, ?_⟩
      rw [← hrepeats x hx]
      exact hsource
    · intro hdenied hother
      have hnone : g.reported i = none := by
        cases hx : g.reported i with
        | none => rfl
        | some x => exact (hother x hx (hrepeats x hx)).elim
      apply hrefused
      · unfold Trace.denied at hdenied
        rw [hn] at hdenied
        exact hdenied
      · rw [htold, hnone]
        rfl

end Answers

namespace Concrete

/-- The same header, from a merchant of any name. -/
def payTo (merchantWallet : String) : Action :=
  .arrive (.pay {
    mode := .x402
    paymentHeader := "n1"
    merchantWallet := merchantWallet
    amount := none
    asset := "USDC"
    requirementAmountRaw := some "1000000"
    requirementNetwork := some solana
    requirementResource := none
    apiMerchantWallet := merchantWallet
    usdcAuthorization := .ok none
    usdcFeeAuthorization := .ok none }) 1700000001000

/-- A merchant's payment is made, then another request has its header. -/
def headerRun (merchantWallet : String) : List Action :=
  [payTo "merchant"] ++ advance (well .enterprise 1000000) 0 8
    ++ [payTo merchantWallet] ++ advance (well .enterprise 1000000) 1 3

/-- The second request is answered with the payment of the first. -/
def answeredOnRecord (merchantWallet : String) (x : World × Trace) : Bool :=
  (match x.1.progs[1]? with
    | some (Prog.done r) => r.replayed == some "tx"
    | _ => false)
  && decide (x.2.reported 1 = some (0, "tx"))
  && decide (x.2.inserted 0 = some 0)
  && decide (x.1.store.db.settlements.map Settlement.terms
    = [("merchant", solana, 1000000)])
  && decide (x.2.terms 0 = some ("merchant", solana, 1000000))
  && decide (x.2.terms 1 = some (merchantWallet, solana, 1000000))

/-- The run, whoever sends the second request. -/
theorem answered_of_check {merchantWallet : String}
    (h : Exec.check (answeredOnRecord merchantWallet)
      (run (tracked (step env) (Trace.track env)) (start, Trace.empty)
        (headerRun merchantWallet)) = true) :
    ∃ w g r, run (tracked (step env) (Trace.track env)) (start, Trace.empty)
        (headerRun merchantWallet) = .ok (w, g)
      ∧ w.progs[1]? = some (.done r) ∧ r.replayed = some "tx"
      ∧ g.reported 1 = some (0, "tx") ∧ g.inserted 0 = some 0
      ∧ w.store.db.settlements.map Settlement.terms
        = [("merchant", solana, 1000000)]
      ∧ g.terms 0 = some ("merchant", solana, 1000000)
      ∧ g.terms 1 = some (merchantWallet, solana, 1000000) := by
  obtain ⟨⟨w, g⟩, hrun, hlast⟩ := check_ok h
  unfold answeredOnRecord at hlast
  simp only [Bool.and_eq_true, decide_eq_true_eq] at hlast
  obtain ⟨⟨⟨⟨⟨hdone, hreported⟩, hinserted⟩, hsettled⟩, hfirst⟩, hsecond⟩ :=
    hlast
  split at hdone
  · next r hr =>
      exact ⟨w, g, r, hrun, hr, eq_of_beq hdone, hreported, hinserted,
        hsettled, hfirst, hsecond⟩
  · cases hdone

/-- Another merchant sends the header of a payment made already, and is
told that it succeeded. -/
theorem replayed_for_another : ∃ w g r,
    run (tracked (step env) (Trace.track env)) (start, Trace.empty)
      (headerRun "other") = .ok (w, g)
    ∧ w.progs[1]? = some (.done r) ∧ r.replayed = some "tx"
    ∧ w.store.db.settlements.map Settlement.terms
      = [("merchant", solana, 1000000)]
    ∧ g.terms 1 = some ("other", solana, 1000000)
    ∧ ¬ Faithful w g 1 r := by
  obtain ⟨w, g, r, hrun, hr, hreplayed, hreported, hinserted, hsettled,
    -, hsecond⟩ := @answered_of_check "other" (by decide)
  refine ⟨w, g, r, hrun, hr, hreplayed, hsettled, hsecond, ?_⟩
  intro hfaithful
  obtain ⟨j, id, s, hj, hid, hs, hterms⟩ := hfaithful "tx" hreplayed
  rw [hreported] at hj
  cases hj
  rw [hinserted] at hid
  cases hid
  have hof : (w.store.db.settlements.map Settlement.terms)[0]?
      = some s.terms := by
    rw [List.getElem?_map, hs]
    rfl
  rw [hsettled] at hof
  rw [hsecond, ← hof] at hterms
  exact absurd hterms (by decide)

/-- The merchant itself sends it again. -/
theorem replayed_faithfully : ∃ w g r,
    run (tracked (step env) (Trace.track env)) (start, Trace.empty)
      (headerRun "merchant") = .ok (w, g)
    ∧ r.replayed = some "tx" ∧ Faithful w g 1 r ∧ Refuses g 1 r := by
  obtain ⟨w, g, r, hrun, hr, hreplayed, hreported, -, -, hfirst, hsecond⟩ :=
    @answered_of_check "merchant" (by decide)
  obtain ⟨a, ha, -⟩ := Option.map_eq_some_iff.mp hsecond
  obtain ⟨n, hn, hask⟩ := Option.bind_eq_some_iff.mp ha
  have hplain := (run_onRecord start_genesis hrun).plain 1 n hn a hask
  obtain ⟨q, hq⟩ : ∃ q, n.request = .pay q := by
    cases hq : n.request with
    | pay q => exact ⟨q, rfl⟩
    | _ =>
      rw [hq] at hplain
      cases hplain
  have hrepeats : Repeats g 1 := by
    intro x hx
    rw [hreported] at hx
    cases hx
    rw [hfirst, hsecond]
  exact ⟨w, g, r, hrun, hreplayed,
    (replay_faithful_iff start_genesis hrun hn hq hr).mpr hrepeats⟩

end Concrete

end KamiyoProtocol.Facilitator
