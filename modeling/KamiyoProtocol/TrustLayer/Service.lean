/-
`api.rs` of `trust-layer-service`: requests to ingest events, side by side.

A request is a transaction at read committed. It takes an advisory lock on
the hash of its subject, reads, applies the event to a layer of that one
subject, and writes; what it wrote is seen when it commits. Two rows with
one key are not both written: an insert waits for the other transaction,
and fails if that commits. Row locks only make a transaction wait, so they
are left out, and the table's ids are drawn and not given back.
-/
import KamiyoProtocol.TrustLayer.Rows

namespace KamiyoProtocol.Trust

open Exec Std

-- ==== answers

/-- What a request is answered with. -/
inductive Answer
  | receipt (idempotentReplay : Bool) (receipt : TrustReceipt)
  | conflict (message : String)
  | badRequest (message : String)
  | internal
  deriving DecidableEq

/-- `Display`. -/
def TrustLayerError.message : TrustLayerError → String
  | .invalidPolicy reason => "invalid trust policy: " ++ reason
  | .invalidPolicyVersion current next =>
    "invalid policy version transition (current " ++ toString current
      ++ ", next " ++ toString next ++ ")"
  | .invalidWeight weight => "invalid event weight: " ++ toString weight
  | .invalidEventId eventId => "invalid event id: " ++ eventId
  | .invalidContextField field value =>
    "invalid context field " ++ field ++ ": " ++ value
  | .eventIdConflict eventId => "event id conflict for id " ++ eventId
  | .invalidSequenceStart actual =>
    "first event sequence must be 1, got " ++ toString actual
  | .nonMonotonicSequence expected actual =>
    "event sequence must be monotonic (expected " ++ toString expected
      ++ ", got " ++ toString actual ++ ")"
  | .clockWentBackwards last next =>
    "event timestamp must be monotonic (last " ++ toString last
      ++ ", got " ++ toString next ++ ")"
  | .stakeUnderflow stake delta =>
    "stake underflow for stake " ++ toString stake
      ++ " with delta " ++ toString delta
  | .stakeOverflow stake delta =>
    "stake overflow for stake " ++ toString stake
      ++ " with delta " ++ toString delta
  | .snapshotCorrupted reason => "snapshot corrupted: " ++ reason

def mapIngestError (e : TrustLayerError) : Answer :=
  match e with
  | .eventIdConflict _ | .nonMonotonicSequence _ _ | .invalidSequenceStart _ =>
    .conflict e.message
  | .invalidWeight _ | .invalidEventId _ | .invalidContextField _ _ =>
    .badRequest e.message
  | _ => .internal

-- ==== checks

def isWhitespace (c : Char) : Bool :=
  let n := c.toNat
  (9 ≤ n && n ≤ 13) || n == 0x20 || n == 0x85 || n == 0xa0 || n == 0x1680
    || (0x2000 ≤ n && n ≤ 0x200a) || n == 0x2028 || n == 0x2029
    || n == 0x202f || n == 0x205f || n == 0x3000

/-- `value.trim().is_empty()`. -/
def isBlank (value : String) : Bool := value.toList.all isWhitespace

/-- What `ingest_event_inner` checks before anything is read. -/
def checkRequest (subject : String) (event : TrustEvent) :
    Except String Unit := do
  require (isBlank event.eventId = false) "event_id must be non-empty"
  require (event.eventId.utf8ByteSize ≤ 128)
    "event_id exceeds max length of 128 bytes"
  require (isBlank subject = false) "subject must be non-empty"
  require (subject.utf8ByteSize ≤ 256)
    "subject exceeds max length of 256 bytes"
  match event.validate with
  | .ok () => .ok ()
  | .error e => .error ("invalid event: " ++ e.message)

def eventsEquivalent (stored : StoredEvent) (subject : String)
    (event : TrustEvent) : Bool :=
  stored.subject = subject && stored.event = event

/-- The text columns take no zero character. -/
def storable (text : String) : Bool := !text.toList.contains '\x00'

-- ==== state

/-- How far a request has got. With a read goes how many events were
committed by then. -/
inductive Phase
  /-- The transaction has begun. -/
  | waiting
  /-- It has the lock. -/
  | locked
  /-- No event has the id. -/
  | absent (seen : Nat)
  /-- The layer took the event. -/
  | applied (receipt : TrustReceipt) (state : SubjectState)
  | inserted (row : EventRow) (receipt : TrustReceipt) (state : SubjectState)
  /-- The event id was written by another. -/
  | collided
  /-- With the answer, if the connection held. -/
  | done (answer : Option Answer) (finished : Nat)
  deriving DecidableEq

/-- A request that passed the checks, and how many events were committed
when it arrived. -/
structure Ticket where
  subject : String
  event : TrustEvent
  arrived : Nat
  phase : Phase

abbrev SubjectTable := ExtTreeMap String SubjectRow

/-- The policy row, the two tables in the order of the commits, the
requests, and what was committed. -/
structure Service where
  policy : TrustPolicy
  policyVersion : Nat
  events : List EventRow
  subjects : SubjectTable
  nextId : Nat
  requests : List Ticket
  log : List (String × TrustEvent)

/-- The transaction has its lock. -/
def Phase.holds : Phase → Bool
  | .locked | .absent _ | .applied _ _ | .inserted _ _ _ => true
  | _ => false

/-- The row of an insert that is not committed. -/
def Phase.pending : Phase → Option EventRow
  | .inserted row _ _ => some row
  | _ => none

def Phase.isDone : Phase → Bool
  | .done _ _ => true
  | _ => false

namespace Service

variable (s : Service)

def setPhase (i : Nat) (t : Ticket) (phase : Phase) : Service :=
  { s with requests := s.requests.set i { t with phase := phase } }

/-- The request ends, and its transaction with it. -/
def finish (i : Nat) (t : Ticket) (answer : Option Answer) : Service :=
  s.setPhase i t (.done answer s.log.length)

/-- `load_existing_event`, once the row is decoded. -/
def loadExistingEvent (eventId : String) :
    Except String (Option StoredEvent) :=
  match s.events.find? fun row => row.eventId = eventId with
  | some row => do
      let stored ← decodeEventRow row
      return some stored
  | none => .ok none

def loadSubjectState (subject : String) :
    Except String (Option SubjectState) :=
  match s.subjects[subject]? with
  | some row => do
      let state ← decodeSubjectRow row
      return some state
  | none => .ok none

/-- The layer of the one subject. -/
def layerOf (subject : String) (state : Option SubjectState) :
    Except TrustLayerError TrustLayer :=
  TrustLayer.fromSnapshot {
    policy := s.policy
    policyVersion := s.policyVersion
    subjects := match state with
      | some state => [(subject, state)]
      | none => []
    journal := [] }

/-- `pg_advisory_xact_lock(hashtext(subject))`. -/
def lock (hashtext : String → Int) (i : Nat) (t : Ticket) :
    Except String Service :=
  if storable t.subject = false then
    .ok (s.finish i t (some .internal))
  else do
    require (∀ u ∈ s.requests, u.phase.holds = true →
      hashtext u.subject ≠ hashtext t.subject) "waits for the lock"
    return s.setPhase i t .locked

/-- Whether there is an event with the id, and the same one. -/
def find (i : Nat) (t : Ticket) : Service :=
  match s.loadExistingEvent t.event.eventId with
  | .error _ => s.finish i t (some .internal)
  | .ok (some stored) =>
    if eventsEquivalent stored t.subject t.event then
      s.finish i t (some (.receipt true stored.receipt))
    else s.finish i t (some (mapIngestError
      (.eventIdConflict t.event.eventId)))
  | .ok none => s.setPhase i t (.absent s.log.length)

/-- `from_snapshot` and `apply_event`. -/
def apply (i : Nat) (t : Ticket) : Service :=
  match s.loadSubjectState t.subject with
  | .error _ => s.finish i t (some .internal)
  | .ok state =>
    match s.layerOf t.subject state with
    | .error e => s.finish i t (some (mapIngestError e))
    | .ok layer =>
      match layer.applyEvent t.subject t.event with
      | (.error e, _) => s.finish i t (some (mapIngestError e))
      | (.ok receipt, layer) =>
        match layer.subjects[t.subject]? with
        | some state => s.setPhase i t (.applied receipt state)
        | none => s.finish i t (some .internal)

/-- `insert_event_tx`. -/
def insert (i : Nat) (t : Ticket) (receipt : TrustReceipt)
    (state : SubjectState) : Except String Service :=
  match encodeEvent t.subject t.event receipt s.nextId with
  | .error _ => .ok (s.finish i t (some .internal))
  | .ok row => do
      require (∀ u ∈ s.requests, ∀ other ∈ u.phase.pending,
        other.eventId ≠ row.eventId
          ∧ (other.subject, other.sequence) ≠ (row.subject, row.sequence))
        "waits for the other insert"
      let s' := { s with nextId := s.nextId + 1 }
      if s.events.any fun r => r.eventId = row.eventId then
        return s'.setPhase i t .collided
      else if s.events.any fun r =>
          (r.subject, r.sequence) = (row.subject, row.sequence) then
        return s'.finish i t (some (.conflict
          "subject sequence already exists with a different event"))
      else return s'.setPhase i t (.inserted row receipt state)

/-- `upsert_subject_state_tx`, the outbox, and the commit. -/
def commit (i : Nat) (t : Ticket) (row : EventRow) (receipt : TrustReceipt)
    (state : SubjectState) : Service :=
  match encodeSubject state with
  | .error _ => s.finish i t (some .internal)
  | .ok subjectRow =>
    { s.setPhase i t
        (.done (some (.receipt false receipt)) (s.log.length + 1)) with
      events := s.events ++ [row]
      subjects := s.subjects.insert t.subject subjectRow
      log := s.log ++ [(t.subject, t.event)] }

/-- After a unique violation on the event id. -/
def reload (i : Nat) (t : Ticket) : Service :=
  match s.loadExistingEvent t.event.eventId with
  | .error _ => s.finish i t (some .internal)
  | .ok (some stored) =>
    if eventsEquivalent stored t.subject t.event then
      s.finish i t (some (.receipt true stored.receipt))
    else s.finish i t (some (.conflict
      "event_id already exists with a different payload"))
  | .ok none => s.finish i t (some .internal)

end Service

-- ==== steps

/-- What can happen to the requests. -/
inductive ServiceAction
  | arrive (subject : String) (event : TrustEvent)
  /-- The request's next statement. -/
  | next (i : Nat)
  /-- Its connection is lost, and its transaction rolled back. -/
  | lose (i : Nat)

def Service.next (hashtext : String → Int) (s : Service) (i : Nat)
    (t : Ticket) : Except String Service :=
  match t.phase with
  | .waiting => s.lock hashtext i t
  | .locked => .ok (s.find i t)
  | .absent _ => .ok (s.apply i t)
  | .applied receipt state => s.insert i t receipt state
  | .inserted row receipt state => .ok (s.commit i t row receipt state)
  | .collided => .ok (s.reload i t)
  | .done _ _ => .error "done"

/-- Requests interleave at their statements. -/
def Service.step (hashtext : String → Int) (a : ServiceAction)
    (s : Service) : Except String Service :=
  match a with
  | .arrive subject event => do
      -- a request that fails the checks is answered at once
      checkRequest subject event
      return { s with requests := s.requests
        ++ [⟨subject, event, s.log.length, .waiting⟩] }
  | .next i => do
      let t ← okOr s.requests[i]? "no request"
      s.next hashtext i t
  | .lose i => do
      let t ← okOr s.requests[i]? "no request"
      require (t.phase.isDone = false) "done"
      return s.finish i t none

/-- The tables as they are created, under a policy. -/
def Service.start (policy : TrustPolicy) (policyVersion : Nat) : Service where
  policy := policy
  policyVersion := policyVersion
  events := []
  subjects := ∅
  nextId := 1
  requests := []
  log := []

end KamiyoProtocol.Trust
