/-
`engine.rs`: the trust layer.

Its maps are ordered by key, which nothing sees but a snapshot, and that
sorts them. A call that fails may still have changed the layer, so a call
gives its result and the layer it leaves.
-/
import KamiyoProtocol.TrustLayer.Model

namespace KamiyoProtocol.Trust

open Exec Std

-- ==== the decision

/-- Like the other gate, of how long ago the last event was, which
`evaluate_state` has computed before either. -/
def passesAllowGate (policy : TrustPolicy) (state : SubjectState)
    (inactive : Nat) : Bool :=
  policy.allowScoreFloor ≤ state.score
    && policy.allowMinStake ≤ state.stake
    && failureBps state.successCount state.failureCount
      ≤ policy.allowMaxFailureBps
    && inactive ≤ policy.allowMaxInactiveSecs

def passesReviewGate (policy : TrustPolicy) (state : SubjectState)
    (inactive : Nat) : Bool :=
  policy.reviewScoreFloor ≤ state.score
    && policy.reviewMinStake ≤ state.stake
    && failureBps state.successCount state.failureCount
      ≤ policy.reviewMaxFailureBps
    && inactive ≤ policy.reviewMaxInactiveSecs

/-- The reason is pushed if the condition holds, and not twice. -/
def pushReason (condition : Bool) (reason : DecisionReason)
    (reasons : List DecisionReason) : List DecisionReason :=
  if condition && !reasons.contains reason then reasons ++ [reason]
  else reasons

/-- The rest of `evaluate_state`, once that is known. -/
def evaluateInactive (policy : TrustPolicy) (state : SubjectState)
    (inactive : Nat) : TrustEvaluation :=
  let failure := failureBps state.successCount state.failureCount
  let reasons : List DecisionReason := []
  let reasons := pushReason (state.score < policy.allowScoreFloor)
    .scoreBelowAllow reasons
  let reasons := pushReason (state.stake < policy.allowMinStake)
    .stakeBelowAllow reasons
  let reasons := pushReason (policy.allowMaxFailureBps < failure)
    .failureRateTooHighForAllow reasons
  let reasons := pushReason (policy.allowMaxInactiveSecs < inactive)
    .inactiveTooLongForAllow reasons
  if passesAllowGate policy state inactive then {
    decision := .allow
    reasons := []
    score := state.score
    stake := state.stake
    failureBps := failure
    inactiveSecs := inactive }
  else
    let reasons := pushReason (state.score < policy.reviewScoreFloor)
      .scoreBelowReview reasons
    let reasons := pushReason (state.stake < policy.reviewMinStake)
      .stakeBelowReview reasons
    let reasons := pushReason (policy.reviewMaxFailureBps < failure)
      .failureRateTooHighForReview reasons
    let reasons := pushReason (policy.reviewMaxInactiveSecs < inactive)
      .inactiveTooLongForReview reasons
    { decision := if passesReviewGate policy state inactive then .review else .deny
      reasons := reasons
      score := state.score
      stake := state.stake
      failureBps := failure
      inactiveSecs := inactive }

/-- There is no evaluation where the difference of the times panics. -/
def evaluateState (policy : TrustPolicy) (state : SubjectState)
    (now : Int) : Option TrustEvaluation :=
  (inactiveSecs now state.lastEventAt).map (evaluateInactive policy state)

theorem evaluateState_self (policy : TrustPolicy) (state : SubjectState) :
    evaluateState policy state state.lastEventAt
      = some (evaluateInactive policy state 0) := by
  rw [evaluateState, inactiveSecs, if_pos (Int.le_refl _)]
  rfl

-- ==== hashes

def hashEvent (prevHash : UInt64) (subject : String) (event : TrustEvent) :
    UInt64 :=
  let hash := hashString prevHash subject
  let hash := hashString hash event.eventId
  let hash := hashU64 hash event.sequence
  let hash := hashI64 hash event.observedAt
  let hash := hashU8 hash event.kind.code
  let hash := hashU16 hash event.weight
  let hash := hashI64 hash event.stakeDelta
  hashU64 hash (contextFingerprint event.context).toNat

def hashState (subject : String) (state : SubjectState) : UInt64 :=
  let hash := hashString 0xcbf29ce484222325 subject
  let hash := hashU16 hash state.score
  let hash := hashU64 hash state.stake
  let hash := hashU64 hash state.successCount
  let hash := hashU64 hash state.failureCount
  let hash := hashU64 hash state.lastSequence
  let hash := hashI64 hash state.lastEventAt
  hashU64 hash state.chainHash.toNat

-- ==== subjects

/-- A subject with no event yet. -/
def SubjectState.fresh (subject : String) : SubjectState :=
  { SubjectState.empty with chainHash := newChainSeed subject }

/-- Whether the event may come next. -/
def SubjectState.checkNext (state : SubjectState) (event : TrustEvent) :
    Except TrustLayerError Unit := do
  require (¬ (state.lastSequence = 0 ∧ event.sequence ≠ 1))
    (.invalidSequenceStart event.sequence)
  require (¬ (state.lastSequence ≠ 0
      ∧ isValidNextSequence state.lastSequence event.sequence = false))
    (.nonMonotonicSequence (saturatingAdd state.lastSequence 1) event.sequence)
  require (¬ (state.lastEventAt ≠ 0 ∧ event.observedAt < state.lastEventAt))
    (.clockWentBackwards state.lastEventAt event.observedAt)

/-- The state after the event. -/
def SubjectState.advance (state : SubjectState) (subject : String)
    (event : TrustEvent) : Except TrustLayerError SubjectState := do
  let stake ← applyStakeDelta state.stake event.stakeDelta
  return {
    score := applyScoreDelta state.score (scoreDelta event.kind event.weight)
    stake := stake
    successCount :=
      if event.kind.isPositive then saturatingAdd state.successCount 1
      else state.successCount
    failureCount :=
      if event.kind.isPositive then state.failureCount
      else if event.kind.isNegative then saturatingAdd state.failureCount 1
      else state.failureCount
    lastSequence := event.sequence
    lastEventAt := event.observedAt
    chainHash := hashEvent state.chainHash subject event }

/-- Both, as in `apply_event`. -/
def SubjectState.take (state : SubjectState) (subject : String)
    (event : TrustEvent) : Except TrustLayerError SubjectState := do
  state.checkNext event
  state.advance subject event

-- ==== the layer

structure EventRecord where
  subject : String
  event : TrustEvent
  receipt : TrustReceipt

abbrev SubjectMap := ExtTreeMap String SubjectState

abbrev EventMap := ExtTreeMap String EventRecord

/-- Subjects and events by key, and the journal of both. -/
structure TrustLayer where
  policy : TrustPolicy
  policyVersion : Nat
  subjects : SubjectMap
  eventIndex : EventMap
  journal : List JournalEntry

def JournalEntry.record (entry : JournalEntry) : EventRecord where
  subject := entry.subject
  event := entry.event
  receipt := entry.receipt

namespace TrustLayer

def new (policy : TrustPolicy) : Except TrustLayerError TrustLayer := do
  policy.validate
  return {
    policy := policy
    policyVersion := initialPolicyVersion
    subjects := ∅
    eventIndex := ∅
    journal := [] }

def setPolicyWithVersion (l : TrustLayer) (policy : TrustPolicy)
    (nextVersion : Nat) : Except TrustLayerError TrustLayer := do
  policy.validate
  require (isNextPolicyVersion l.policyVersion nextVersion = true)
    (.invalidPolicyVersion l.policyVersion nextVersion)
  return { l with policy := policy, policyVersion := nextVersion }

def setPolicy (l : TrustLayer) (policy : TrustPolicy) :
    Except TrustLayerError TrustLayer := do
  require (l.policyVersion + 1 < 2 ^ 64)
    (.invalidPolicyVersion l.policyVersion l.policyVersion)
  l.setPolicyWithVersion policy (l.policyVersion + 1)

def seedSubject (l : TrustLayer) (subject : String) (score stake : Nat)
    (now : Int) : TrustLayer :=
  { l with subjects := l.subjects.insert subject {
      SubjectState.fresh subject with
      score := min score maxScore
      stake := stake
      lastEventAt := now } }

/-- The state of a subject, which is fresh until it is known. -/
def stateOf (l : TrustLayer) (subject : String) : SubjectState :=
  l.subjects[subject]?.getD (SubjectState.fresh subject)

/-- The receipt for the event that led from one state to the next. It is
evaluated at the time of the event, which is the state's last
(`evaluateState_self`). -/
def receiptFor (l : TrustLayer) (subject : String) (event : TrustEvent)
    (state next : SubjectState) : TrustReceipt :=
  let stateHash := hashState subject next
  { subject := subject
    eventId := event.eventId
    sequence := event.sequence
    prevHash := state.chainHash
    eventHash := next.chainHash
    stateHash := stateHash
    policyVersion := l.policyVersion
    decisionId :=
      decisionIdHash l.policyVersion event.sequence next.chainHash stateHash
    evaluation := evaluateInactive l.policy next 0
    issuedAt := event.observedAt }

/-- The next journal entry, for the event that led to the state. -/
def entryFor (l : TrustLayer) (subject : String) (event : TrustEvent)
    (next : SubjectState) : JournalEntry where
  offset := l.journal.length + 1
  subject := subject
  event := event
  receipt := l.receiptFor subject event (l.stateOf subject) next

/-- `subjects.entry(subject).or_insert_with(..)`. -/
def touch (l : TrustLayer) (subject : String) : TrustLayer :=
  { l with subjects := l.subjects.insert subject (l.stateOf subject) }

/-- The entry is journalled, and the subject is in its new state. -/
def push (l : TrustLayer) (entry : JournalEntry) (next : SubjectState) :
    TrustLayer :=
  { l with
    subjects := l.subjects.insert entry.subject next
    eventIndex := l.eventIndex.insert entry.event.eventId entry.record
    journal := l.journal ++ [entry] }

/-- A known event is answered from the index; a new one is journaled. -/
def applyEvent (l : TrustLayer) (subject : String) (event : TrustEvent) :
    Except TrustLayerError TrustReceipt × TrustLayer :=
  match event.validate with
  | .error e => (.error e, l)
  | .ok () =>
    match l.eventIndex[event.eventId]? with
    | some existing =>
      if existing.subject = subject ∧ existing.event = event then
        (.ok existing.receipt, l)
      else (.error (.eventIdConflict event.eventId), l)
    | none =>
      match (l.stateOf subject).take subject event with
      -- the subject is known from here on, though the event is refused
      | .error e => (.error e, l.touch subject)
      | .ok next =>
        let entry := l.entryFor subject event next
        (.ok entry.receipt, l.push entry next)

def evaluateSubject (l : TrustLayer) (subject : String) (now : Int) :
    Option TrustEvaluation :=
  match l.subjects[subject]? with
  | some state => evaluateState l.policy state now
  | none => evaluateState l.policy SubjectState.empty now

-- ==== snapshots

/-- The index is left out: the journal has it. -/
def snapshot (l : TrustLayer) : TrustLayerSnapshot where
  policy := l.policy
  policyVersion := l.policyVersion
  subjects := l.subjects.toList
  journal := l.journal

end TrustLayer

/-- What `from_snapshot` has built from the journal so far. -/
structure Replay where
  replayed : SubjectMap
  eventIndex : EventMap
  journal : List JournalEntry

/-- Nothing replayed yet. -/
def Replay.start : Replay := ⟨∅, ∅, []⟩

def corrupted (c : Prop) [Decidable c] (reason : String) :
    Except TrustLayerError Unit :=
  require (¬ c) (.snapshotCorrupted reason)

def validateReplayedReceipt (policy : TrustPolicy) (policyVersion : Nat)
    (subject : String) (state : SubjectState) (event : TrustEvent)
    (receipt : TrustReceipt) : Except TrustLayerError Unit := do
  corrupted (receipt.policyVersion ≠ policyVersion)
    "journal receipt policy_version must equal snapshot policy_version"
  corrupted (receipt.issuedAt ≠ event.observedAt)
    "receipt issued_at must match event observed_at"
  corrupted (some receipt.evaluation
      ≠ evaluateState policy state event.observedAt)
    "journal receipt evaluation mismatch while replaying"
  corrupted (receipt.subject ≠ subject)
    "journal subject does not match receipt subject"

/-- Whether the receipt is one for the entry's event. -/
def JournalEntry.checkReceipt (entry : JournalEntry) (policyVersion : Nat) :
    Except TrustLayerError Unit := do
  corrupted (entry.subject ≠ entry.receipt.subject)
    "journal subject does not match receipt subject"
  corrupted (entry.event.eventId ≠ entry.receipt.eventId)
    "journal event id does not match receipt event id"
  corrupted (entry.event.sequence ≠ entry.receipt.sequence)
    "journal event sequence does not match receipt sequence"
  corrupted (entry.receipt.policyVersion ≠ policyVersion)
    "journal receipt policy_version must equal snapshot policy_version"
  corrupted (decisionIdHash entry.receipt.policyVersion entry.receipt.sequence
      entry.receipt.eventHash entry.receipt.stateHash
        ≠ entry.receipt.decisionId)
    "decision_id does not match receipt hash inputs"

/-- Whether the event may come next, in the words of `from_snapshot`. -/
def SubjectState.checkReplayed (state : SubjectState) (event : TrustEvent) :
    Except TrustLayerError Unit := do
  corrupted (state.lastSequence = 0 ∧ event.sequence ≠ 1)
    "first subject event sequence must be 1"
  corrupted (state.lastSequence ≠ 0
      ∧ isValidNextSequence state.lastSequence event.sequence = false)
    "subject event sequence is non-monotonic"
  corrupted (state.lastEventAt ≠ 0 ∧ event.observedAt < state.lastEventAt)
    "subject event timestamps are non-monotonic"

/-- One entry of the journal is replayed. -/
def Replay.entry (policy : TrustPolicy) (policyVersion : Nat) (r : Replay)
    (entry : JournalEntry) : Except TrustLayerError Replay := do
  corrupted (entry.offset ≠ r.journal.length + 1)
    "journal offsets must be contiguous and start at 1"
  entry.event.validate
  entry.checkReceipt policyVersion
  corrupted (r.eventIndex[entry.event.eventId]?.isSome = true)
    "duplicate event id in journal"
  let state :=
    r.replayed[entry.subject]?.getD (SubjectState.fresh entry.subject)
  state.checkReplayed entry.event
  let next ← state.advance entry.subject entry.event
  corrupted (entry.receipt.prevHash ≠ state.chainHash)
    "receipt prev_hash mismatch while replaying"
  corrupted (entry.receipt.eventHash ≠ next.chainHash)
    "receipt event_hash mismatch while replaying"
  corrupted (entry.receipt.stateHash ≠ hashState entry.subject next)
    "receipt state_hash mismatch while replaying"
  validateReplayedReceipt policy policyVersion entry.subject next entry.event
    entry.receipt
  return {
    replayed := r.replayed.insert entry.subject next
    eventIndex := r.eventIndex.insert entry.event.eventId entry.record
    journal := r.journal ++ [entry] }

def replayJournal (policy : TrustPolicy) (policyVersion : Nat)
    (journal : List JournalEntry) : Except TrustLayerError Replay :=
  journal.foldlM (Replay.entry policy policyVersion) Replay.start

/-- No subject is there twice. -/
def insertSubject (subjects : SubjectMap) (s : String × SubjectState) :
    Except TrustLayerError SubjectMap := do
  corrupted (subjects[s.1]?.isSome = true)
    "duplicate subject in snapshot subjects"
  return subjects.insert s.1 s.2

/-- A replayed subject is in the state that the snapshot has. -/
def checkSubject (subjects : SubjectMap) (s : String × SubjectState) :
    Except TrustLayerError Unit := do
  let state ← okOr subjects[s.1]? (.snapshotCorrupted
    "snapshot missing subject state for replayed journal entry")
  corrupted (state ≠ s.2)
    "snapshot subject state does not match journal replay"

/-- A subject has both an event and its hash, or neither. -/
def SubjectState.checkBaseline (state : SubjectState) :
    Except TrustLayerError Unit :=
  if state.lastSequence = 0 ∧ state.chainHash = 0 then .ok ()
  else corrupted (state.lastSequence = 0 ∨ state.chainHash = 0)
    "subject state has inconsistent sequence/hash baseline"

def TrustLayer.fromSnapshot (s : TrustLayerSnapshot) :
    Except TrustLayerError TrustLayer := do
  s.policy.validate
  corrupted (s.policyVersion < initialPolicyVersion)
    "policy_version must be >= INITIAL_POLICY_VERSION"
  let subjects ← s.subjects.foldlM insertSubject ∅
  let r ← replayJournal s.policy s.policyVersion s.journal
  r.replayed.toList.forM (checkSubject subjects)
  subjects.toList.forM fun s => s.2.checkBaseline
  return {
    policy := s.policy
    policyVersion := s.policyVersion
    subjects := subjects
    eventIndex := r.eventIndex
    journal := r.journal }

end KamiyoProtocol.Trust
