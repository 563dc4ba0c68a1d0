/-
The trust events of the facilitator on their way out (`db/queries.ts` and
`services/fairscale-trust-sync.ts`).

Events are queued in a table. A flush leases a batch of those that are
due, posts it, and marks it delivered or each of its events failed; it
may crash at any point, and any number of flushes runs at once. A lease
is a time in the row, with no owner, which expires, and which delivering,
failing and requeueing clear.

Statements are atomic and read the clock of the database; a flush reads
its own when it fixes the time of a retry. The id of an event is its
position.
-/
import KamiyoProtocol.Lib.Exec
import KamiyoProtocol.Lib.Lease
import Mathlib.Data.List.Sort

namespace KamiyoProtocol.TrustSync

open Exec

-- ==== table

/-- `kizuna_fairscale_event_outbox`. -/
structure OutboxRow where
  idempotencyKey : String
  attemptCount : Nat
  nextAttemptAt : Nat
  leasedUntil : Option Nat
  deliveredAt : Option Nat
  createdAt : Nat

/-- A row and its id. -/
abbrev Entry := Nat × OutboxRow

/-- `delivered_at IS NULL AND next_attempt_at <= NOW() AND (leased_until IS
NULL OR leased_until <= NOW())`. -/
def OutboxRow.Due (r : OutboxRow) (now : Nat) : Prop :=
  r.deliveredAt = none ∧ r.nextAttemptAt ≤ now ∧ ∀ u ∈ r.leasedUntil, u ≤ now
  deriving Decidable

/-- `ORDER BY next_attempt_at ASC, created_at ASC`. -/
def Entry.before (x y : Entry) : Prop :=
  x.2.nextAttemptAt < y.2.nextAttemptAt
    ∨ x.2.nextAttemptAt = y.2.nextAttemptAt ∧ x.2.createdAt ≤ y.2.createdAt

instance : DecidableRel Entry.before := fun _ _ =>
  inferInstanceAs (Decidable (_ ∨ _))

def entries (rows : List OutboxRow) : List Entry :=
  rows.mapIdx fun i r => (i, r)

/-- The first `limit` of the rows that pass, in order. -/
def select (pass : Entry → Bool) (limit : Nat) (rows : List OutboxRow) :
    List Entry :=
  (((entries rows).filter pass).insertionSort Entry.before).take limit

/-- `UPDATE ... WHERE id = ANY(ids)`. -/
def update (ids : List Nat) (f : OutboxRow → OutboxRow)
    (rows : List OutboxRow) : List OutboxRow :=
  rows.mapIdx fun i r => if i ∈ ids then f r else r

def queueFairscaleTrustEventOutbox (idempotencyKey : String) (now : Nat)
    (rows : List OutboxRow) : List OutboxRow :=
  if rows.any fun r => r.idempotencyKey = idempotencyKey then rows
  else rows ++ [⟨idempotencyKey, 0, now, none, none, now⟩]

/-- The due rows that a lease takes; those that other statements have
locked are skipped. -/
def leaseTarget (limit now : Nat) (skipped : List Nat)
    (rows : List OutboxRow) : List Entry :=
  select (fun x => x.2.Due now ∧ x.1 ∉ skipped)
    (max 1 (min limit 100)) rows

def OutboxRow.lease (leaseMs now : Nat) (r : OutboxRow) : OutboxRow :=
  { r with leasedUntil := some (now + max 1 leaseMs) }

/-- `leaseFairscaleTrustEventBatch`: the rows after it, and those it
returns. -/
def leaseFairscaleTrustEventBatch (limit leaseMs now : Nat)
    (skipped : List Nat) (rows : List OutboxRow) :
    List OutboxRow × List Entry :=
  let due := leaseTarget limit now skipped rows
  (update (due.map Prod.fst) (OutboxRow.lease leaseMs now) rows,
    due.map fun x => (x.1, x.2.lease leaseMs now))

def markFairscaleTrustEventsDelivered (ids : List Nat) (now : Nat) :
    List OutboxRow → List OutboxRow :=
  update ids fun r => { r with deliveredAt := some now, leasedUntil := none }

def markFairscaleTrustEventAttemptFailed (id nextAttemptAt : Nat) :
    List OutboxRow → List OutboxRow :=
  update [id] fun r => { r with
    attemptCount := r.attemptCount + 1
    leasedUntil := none
    nextAttemptAt := nextAttemptAt }

def requeueTarget (limit : Option Nat) (failedOnly : Bool)
    (rows : List OutboxRow) : List Entry :=
  select (fun x => x.2.deliveredAt = none
      ∧ (failedOnly = false ∨ 0 < x.2.attemptCount))
    (max 1 (min (limit.getD 50) 200)) rows

def requeueFairscaleTrustEvents (limit : Option Nat) (failedOnly : Bool)
    (now : Nat) (rows : List OutboxRow) : List OutboxRow :=
  update ((requeueTarget limit failedOnly rows).map Prod.fst)
    (fun r => { r with nextAttemptAt := now, leasedUntil := none }) rows

-- ==== flushes

structure Config where
  batchSize : Nat
  leaseMs : Nat
  maxRetryMs : Nat

/-- Where a flush stands: before its `POST`, after one that succeeded, or
with events left to mark failed. -/
inductive Stage where
  | posting
  | posted
  | failing (left : List Nat)
  | ended
  deriving DecidableEq

/-- A run of `flushFairscaleTrustEventsOnce`. -/
structure Flush where
  batch : List Entry
  stage : Stage

def Flush.ids (f : Flush) : List Nat := f.batch.map Prod.fst

/-- The ids of a batch that a flush is not done with. -/
def Flush.open (f : Flush) : List Entry :=
  match f.stage with
  | .posting | .posted => f.batch
  | .failing left => f.batch.filter fun x => x.1 ∈ left
  | .ended => []

/-- A returned row as its flush reads it. -/
def claim (x : Entry) : Lease.Claim Nat := ⟨x.1, x.2.leasedUntil.getD 0⟩

/-- The leases a flush believes to hold. -/
def Flush.held (f : Flush) : List (Lease.Claim Nat) := f.open.map claim

/-- What became of a statement: it is committed, committed without the
caller learning of it, or not committed. -/
inductive Outcome where
  | done
  | lost
  | failed
  deriving DecidableEq

/-- `posts` are the batches whose `POST` succeeded. -/
structure World where
  rows : List OutboxRow
  flushes : List Flush
  posts : List (List Nat)
  clock : Nat

inductive Action where
  | queue (idempotencyKey : String)
  | flush (skipped : List Nat)
  | post (i : Nat) (ok : Bool)
  | deliver (i : Nat) (outcome : Outcome)
  | fail (i id : Nat) (dateNow : Nat) (outcome : Outcome)
  | crash (i : Nat)
  | requeue (limit : Option Nat) (failedOnly : Bool)
  | tick (ms : Nat)

def computeNextAttemptAt (cfg : Config) (dateNow attemptCount : Nat) : Nat :=
  dateNow + min cfg.maxRetryMs (5000 * 2 ^ attemptCount)

/-- A flush moves on. -/
def World.put (w : World) (i : Nat) (f : Flush) : World :=
  { w with flushes := w.flushes.set i f }

/-- The stage of a flush. -/
def World.find (w : World) (i : Nat) : Except String Flush :=
  okOr w.flushes[i]? "no such flush"

/-- One transition, of any flush. -/
def step (cfg : Config) : Action → World → Except String World
  | .queue key, w =>
    .ok { w with rows := queueFairscaleTrustEventOutbox key w.clock w.rows }
  | .flush skipped, w =>
    let leased := leaseFairscaleTrustEventBatch cfg.batchSize cfg.leaseMs
      w.clock skipped w.rows
    .ok { w with
      rows := leased.1
      flushes := w.flushes
        ++ [⟨leased.2, if leased.2 = [] then .ended else .posting⟩] }
  | .post i ok, w => do
      let f ← w.find i
      require (f.stage = .posting) "not posting"
      if ok then
        return { w.put i { f with stage := .posted } with
          posts := w.posts ++ [f.ids] }
      else
        return w.put i { f with stage := .failing f.ids }
  | .deliver i outcome, w => do
      let f ← w.find i
      require (f.stage = .posted) "not posted"
      let rows := markFairscaleTrustEventsDelivered f.ids w.clock w.rows
      match outcome with
      | .done => return { w.put i { f with stage := .ended } with rows := rows }
      | .lost => return { w.put i { f with stage := .failing f.ids } with
          rows := rows }
      | .failed => return w.put i { f with stage := .failing f.ids }
  | .fail i id dateNow outcome, w => do
      let f ← w.find i
      match f.stage, f.batch.find? fun x => x.1 = id with
      | .failing left, some x => do
          require (id ∈ left) "marked already"
          let w' := w.put i
            { f with stage := .failing (left.filter fun j => j ≠ id) }
          match outcome with
          | .failed => return w'
          | .done | .lost => return { w' with
              rows := markFairscaleTrustEventAttemptFailed id
                (computeNextAttemptAt cfg dateNow x.2.attemptCount) w.rows }
      | _, _ => throw "not failing"
  | .crash i, w => do
      let f ← w.find i
      return w.put i { f with stage := .ended }
  | .requeue limit failedOnly, w =>
    .ok { w with
      rows := requeueFairscaleTrustEvents limit failedOnly w.clock w.rows }
  | .tick ms, w => .ok { w with clock := w.clock + ms }

/-- Nothing is queued. -/
structure Genesis (w : World) : Prop where
  rows : w.rows = []
  flushes : w.flushes = []
  posts : w.posts = []

/-- What the flushes believe to hold, in the order they started. -/
def World.claims (w : World) : List (Lease.Claim Nat) :=
  w.flushes.flatMap Flush.held

end KamiyoProtocol.TrustSync
