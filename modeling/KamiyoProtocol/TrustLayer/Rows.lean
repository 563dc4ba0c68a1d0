/-
The rows of `trust_events` and `trust_subject_state`, and what `db.rs`
makes of them.

`BIGINT` holds no more than an `i64`, so a number that does not fit is
refused before anything is written; hashes are kept as decimal text. What
was written is read back.
-/
import KamiyoProtocol.TrustLayer.Engine

namespace KamiyoProtocol.Trust

open Exec

-- ==== codes

def TrustProvider.asStr : TrustProvider → String
  | .openClaw => "openclaw"
  | .nanoClaw => "nanoclaw"
  | .ironClaw => "ironclaw"
  | .xai => "xai"
  | .openAi => "openai"
  | .anthropic => "anthropic"
  | .local => "local"
  | .custom => "custom"

def TrustProvider.parse (value : String) : Option TrustProvider :=
  if value = "openclaw" then some .openClaw
  else if value = "nanoclaw" then some .nanoClaw
  else if value = "ironclaw" then some .ironClaw
  else if value = "xai" then some .xai
  else if value = "openai" then some .openAi
  else if value = "anthropic" then some .anthropic
  else if value = "local" then some .local
  else if value = "custom" then some .custom
  else none

/-- `evidence_kind_from_code`. -/
def EvidenceKind.fromCode : Int → Option EvidenceKind
  | 1 => some .verifiedSuccess
  | 2 => some .disputeWon
  | 3 => some .disputeLost
  | 4 => some .slash
  | 5 => some .manualCredit
  | 6 => some .manualDebit
  | 7 => some .poCHVerified
  | 8 => some .poCHRejected
  | 9 => some .poCHDisputed
  | _ => none

/-- `decision_to_code`. -/
def TrustDecision.code : TrustDecision → Int
  | .allow => 1
  | .review => 2
  | .deny => 3

def TrustDecision.fromCode : Int → Option TrustDecision
  | 1 => some .allow
  | 2 => some .review
  | 3 => some .deny
  | _ => none

/-- `reason_to_code`. -/
def DecisionReason.code : DecisionReason → Int
  | .scoreBelowAllow => 1
  | .scoreBelowReview => 2
  | .stakeBelowAllow => 3
  | .stakeBelowReview => 4
  | .failureRateTooHighForAllow => 5
  | .failureRateTooHighForReview => 6
  | .inactiveTooLongForAllow => 7
  | .inactiveTooLongForReview => 8

def DecisionReason.fromCode : Int → Option DecisionReason
  | 1 => some .scoreBelowAllow
  | 2 => some .scoreBelowReview
  | 3 => some .stakeBelowAllow
  | 4 => some .stakeBelowReview
  | 5 => some .failureRateTooHighForAllow
  | 6 => some .failureRateTooHighForReview
  | 7 => some .inactiveTooLongForAllow
  | 8 => some .inactiveTooLongForReview
  | _ => none

theorem kind_fromCode (kind : EvidenceKind) :
    EvidenceKind.fromCode kind.code = some kind := by
  cases kind with
  | _ => rfl

theorem decision_fromCode (decision : TrustDecision) :
    TrustDecision.fromCode decision.code = some decision := by
  cases decision with
  | _ => rfl

theorem reason_fromCode (reason : DecisionReason) :
    DecisionReason.fromCode reason.code = some reason := by
  cases reason with
  | _ => rfl

theorem provider_parse (provider : TrustProvider) :
    TrustProvider.parse provider.asStr = some provider := by
  cases provider with
  | _ => rfl

-- ==== numbers

def toI64 (value : Nat) : Except String Int :=
  if value < 2 ^ 63 then .ok value
  else .error "u64 to i64 conversion overflow"

def fromI64U64 (value : Int) (field : String) : Except String Nat :=
  if value < 0 then .error (field ++ " is negative")
  else .ok value.toNat

def fromI32U16 (value : Int) (field : String) : Except String Nat :=
  if value < 0 then .error (field ++ " is negative")
  else if value < 2 ^ 16 then .ok value.toNat
  else .error (field ++ " overflows u16")

/-- `to_string` of a hash. -/
def hashText (hash : UInt64) : String := Nat.repr hash.toNat

/-- `value.parse::<u64>()` of digits. -/
def parseU64Str (value field : String) : Except String UInt64 :=
  let digits := value.toList
  let n := Nat.ofDigitChars 10 digits 0
  if digits ≠ [] ∧ digits.all Char.isDigit = true ∧ n < 2 ^ 64 then
    .ok (UInt64.ofNat n)
  else .error ("invalid " ++ field ++ ": " ++ value)

section Numbers

variable {n : Nat} {x : Int} {field : String}

theorem toI64_ok : toI64 n = .ok x ↔ n < 2 ^ 63 ∧ x = n := by
  unfold toI64
  by_cases h : n < 2 ^ 63
  · rw [if_pos h]
    constructor
    · intro hx
      cases hx
      exact ⟨h, rfl⟩
    · rintro ⟨-, rfl⟩
      rfl
  · rw [if_neg h]
    constructor
    · intro hx
      cases hx
    · rintro ⟨hn, -⟩
      exact absurd hn h

theorem fromI64U64_cast : fromI64U64 n field = .ok n := by
  unfold fromI64U64
  rw [if_neg (Int.not_lt.mpr (Int.natCast_nonneg n))]
  rfl

theorem fromI32U16_cast (h : n < 2 ^ 16) : fromI32U16 n field = .ok n := by
  unfold fromI32U16
  rw [if_neg (Int.not_lt.mpr (Int.natCast_nonneg n)),
    if_pos (by exact_mod_cast h)]
  rfl

theorem parseU64Str_text (hash : UInt64) :
    parseU64Str (hashText hash) field = .ok hash := by
  have hdigits : (Nat.toDigits 10 hash.toNat).all Char.isDigit = true := by
    rw [List.all_eq_true]
    exact fun c hc => Nat.isDigit_of_mem_toDigits (by decide) (by decide) hc
  have hnumber : Nat.ofDigitChars 10 (Nat.toDigits 10 hash.toNat) 0
      = hash.toNat := Nat.ofDigitChars_ten_toDigits
  unfold parseU64Str hashText
  simp only [Nat.toList_repr, hnumber]
  rw [if_pos ⟨Nat.toDigits_ne_nil, hdigits, hash.toNat_lt⟩, UInt64.ofNat_toNat]

end Numbers

-- ==== subjects

structure SubjectRow where
  score : Int
  stake : Int
  successCount : Int
  failureCount : Int
  lastSequence : Int
  lastEventAt : Int
  chainHash : String

/-- What `upsert_subject_state_tx` binds. -/
def encodeSubject (state : SubjectState) : Except String SubjectRow := do
  let stake ← toI64 state.stake
  let successCount ← toI64 state.successCount
  let failureCount ← toI64 state.failureCount
  let lastSequence ← toI64 state.lastSequence
  return {
    score := state.score
    stake := stake
    successCount := successCount
    failureCount := failureCount
    lastSequence := lastSequence
    lastEventAt := state.lastEventAt
    chainHash := hashText state.chainHash }

def decodeSubjectRow (row : SubjectRow) : Except String SubjectState := do
  let score ← fromI32U16 row.score "state.score"
  let stake ← fromI64U64 row.stake "state.stake"
  let successCount ← fromI64U64 row.successCount "state.success_count"
  let failureCount ← fromI64U64 row.failureCount "state.failure_count"
  let lastSequence ← fromI64U64 row.lastSequence "state.last_sequence"
  let chainHash ← parseU64Str row.chainHash "chain_hash in subject state"
  return {
    score := score
    stake := stake
    successCount := successCount
    failureCount := failureCount
    lastSequence := lastSequence
    lastEventAt := row.lastEventAt
    chainHash := chainHash }

/-- The numbers of a state are within what `BIGINT` holds. -/
def SubjectState.Fits (state : SubjectState) : Prop :=
  state.stake < 2 ^ 63 ∧ state.successCount < 2 ^ 63
    ∧ state.failureCount < 2 ^ 63 ∧ state.lastSequence < 2 ^ 63

instance (state : SubjectState) : Decidable state.Fits :=
  inferInstanceAs (Decidable (_ ∧ _ ∧ _ ∧ _))

theorem encodeSubject_isOk {state : SubjectState} :
    (∃ row, encodeSubject state = .ok row) ↔ state.Fits := by
  constructor
  · rintro ⟨row, h⟩
    obtain ⟨_, hstake, _, hsuccess, _, hfailure, _, hsequence, -⟩ :=
      bind_ok₄.mp h
    exact ⟨(toI64_ok.mp hstake).1, (toI64_ok.mp hsuccess).1,
      (toI64_ok.mp hfailure).1, (toI64_ok.mp hsequence).1⟩
  · rintro ⟨hstake, hsuccess, hfailure, hsequence⟩
    exact bind_isOk (toI64_ok.mpr ⟨hstake, rfl⟩)
      (bind_isOk (toI64_ok.mpr ⟨hsuccess, rfl⟩)
        (bind_isOk (toI64_ok.mpr ⟨hfailure, rfl⟩)
          (bind_isOk (toI64_ok.mpr ⟨hsequence, rfl⟩) ⟨_, rfl⟩)))

theorem decode_encodeSubject {state : SubjectState} {row : SubjectRow}
    (hscore : state.score < 2 ^ 16) (h : encodeSubject state = .ok row) :
    decodeSubjectRow row = .ok state := by
  obtain ⟨_, hstake, _, hsuccess, _, hfailure, _, hsequence, h⟩ := bind_ok₄.mp h
  obtain ⟨-, rfl⟩ := toI64_ok.mp hstake
  obtain ⟨-, rfl⟩ := toI64_ok.mp hsuccess
  obtain ⟨-, rfl⟩ := toI64_ok.mp hfailure
  obtain ⟨-, rfl⟩ := toI64_ok.mp hsequence
  cases h
  refine bind_ok.mpr ⟨_, fromI32U16_cast hscore, ?_⟩
  refine bind_ok.mpr ⟨_, fromI64U64_cast, ?_⟩
  refine bind_ok.mpr ⟨_, fromI64U64_cast, ?_⟩
  refine bind_ok.mpr ⟨_, fromI64U64_cast, ?_⟩
  refine bind_ok.mpr ⟨_, fromI64U64_cast, ?_⟩
  exact bind_ok.mpr ⟨_, parseU64Str_text _, rfl⟩

theorem encodeSubject_chainHash {state : SubjectState} {row : SubjectRow}
    (h : encodeSubject state = .ok row) :
    row.chainHash = hashText state.chainHash := by
  iterate 4 obtain ⟨_, -, h⟩ := bind_ok.mp h
  cases h
  rfl

-- ==== events

structure EventRow where
  id : Nat
  eventId : String
  subject : String
  sequence : Int
  observedAt : Int
  kind : Int
  weight : Int
  stakeDelta : Int
  requestId : Option String
  traceId : Option String
  spanId : Option String
  provider : Option String
  receiptPolicyVersion : Int
  receiptDecisionId : String
  receiptPrevHash : String
  receiptEventHash : String
  receiptStateHash : String
  receiptDecision : Int
  receiptReasons : List Int
  receiptScore : Int
  receiptStake : Int
  receiptFailureBps : Int
  receiptInactiveSecs : Int
  receiptIssuedAt : Int
  deriving DecidableEq

structure StoredEvent where
  offset : Nat
  subject : String
  event : TrustEvent
  receipt : TrustReceipt

/-- What `insert_event_tx` binds; the row gets its id from the table. -/
def encodeEvent (subject : String) (event : TrustEvent)
    (receipt : TrustReceipt) (id : Nat) : Except String EventRow := do
  let sequence ← toI64 event.sequence
  let policyVersion ← toI64 receipt.policyVersion
  let stake ← toI64 receipt.evaluation.stake
  let inactiveSecs ← toI64 receipt.evaluation.inactiveSecs
  return {
    id := id
    eventId := event.eventId
    subject := subject
    sequence := sequence
    observedAt := event.observedAt
    kind := event.kind.code
    weight := event.weight
    stakeDelta := event.stakeDelta
    requestId := event.context.requestId
    traceId := event.context.traceId
    spanId := event.context.spanId
    provider := event.context.provider.map TrustProvider.asStr
    receiptPolicyVersion := policyVersion
    receiptDecisionId := hashText receipt.decisionId
    receiptPrevHash := hashText receipt.prevHash
    receiptEventHash := hashText receipt.eventHash
    receiptStateHash := hashText receipt.stateHash
    receiptDecision := receipt.evaluation.decision.code
    receiptReasons := receipt.evaluation.reasons.map DecisionReason.code
    receiptScore := receipt.evaluation.score
    receiptStake := stake
    receiptFailureBps := receipt.evaluation.failureBps
    receiptInactiveSecs := inactiveSecs
    receiptIssuedAt := receipt.issuedAt }

def decodeProvider : Option String → Except String (Option TrustProvider)
  | some value => do
      let provider ← okOr (TrustProvider.parse value)
        ("unknown provider: " ++ value)
      return some provider
  | none => .ok none

def decodeReason (code : Int) : Except String DecisionReason :=
  okOr (DecisionReason.fromCode code) ("unknown reason code: " ++ toString code)

def decodeEventRow (row : EventRow) : Except String StoredEvent := do
  let kind ← okOr (EvidenceKind.fromCode row.kind)
    ("unknown evidence kind code: " ++ toString row.kind)
  let decision ← okOr (TrustDecision.fromCode row.receiptDecision)
    ("unknown decision code: " ++ toString row.receiptDecision)
  let reasons ← row.receiptReasons.mapM decodeReason
  let sequence ← fromI64U64 row.sequence "event.sequence"
  let weight ← fromI32U16 row.weight "event.weight"
  let provider ← decodeProvider row.provider
  let prevHash ← parseU64Str row.receiptPrevHash "receipt_prev_hash"
  let eventHash ← parseU64Str row.receiptEventHash "receipt_event_hash"
  let stateHash ← parseU64Str row.receiptStateHash "receipt_state_hash"
  let policyVersion ←
    fromI64U64 row.receiptPolicyVersion "receipt_policy_version"
  let decisionId ← parseU64Str row.receiptDecisionId "receipt_decision_id"
  let score ← fromI32U16 row.receiptScore "receipt_score"
  let stake ← fromI64U64 row.receiptStake "receipt_stake"
  let failureBps ← fromI32U16 row.receiptFailureBps "receipt_failure_bps"
  let inactiveSecs ← fromI64U64 row.receiptInactiveSecs "receipt_inactive_secs"
  let event : TrustEvent := {
    eventId := row.eventId
    sequence := sequence
    observedAt := row.observedAt
    kind := kind
    weight := weight
    stakeDelta := row.stakeDelta
    context := ⟨row.requestId, row.traceId, row.spanId, provider⟩ }
  return {
    offset := row.id
    subject := row.subject
    event := event
    receipt := {
      subject := row.subject
      eventId := event.eventId
      sequence := event.sequence
      prevHash := prevHash
      eventHash := eventHash
      stateHash := stateHash
      policyVersion := policyVersion
      decisionId := decisionId
      evaluation := ⟨decision, reasons, score, stake, failureBps, inactiveSecs⟩
      issuedAt := row.receiptIssuedAt } }

/-- A receipt that says of the subject and the event what the row does. -/
structure TrustReceipt.Of (receipt : TrustReceipt) (subject : String)
    (event : TrustEvent) : Prop where
  subject : receipt.subject = subject
  eventId : receipt.eventId = event.eventId
  sequence : receipt.sequence = event.sequence
  score : receipt.evaluation.score < 2 ^ 16
  failureBps : receipt.evaluation.failureBps < 2 ^ 16

section Events

variable {subject : String} {event : TrustEvent} {receipt : TrustReceipt}
  {id : Nat} {row : EventRow}

theorem encodeEvent_key (h : encodeEvent subject event receipt id = .ok row) :
    row.id = id ∧ row.eventId = event.eventId ∧ row.subject = subject
      ∧ row.sequence = event.sequence := by
  obtain ⟨_, hsequence, h⟩ := bind_ok.mp h
  iterate 3 obtain ⟨_, -, h⟩ := bind_ok.mp h
  cases h
  exact ⟨rfl, rfl, rfl, (toI64_ok.mp hsequence).2⟩

theorem encodeEvent_isOk (hsequence : event.sequence < 2 ^ 63)
    (hversion : receipt.policyVersion < 2 ^ 63)
    (hstake : receipt.evaluation.stake < 2 ^ 63)
    (hinactive : receipt.evaluation.inactiveSecs < 2 ^ 63) :
    ∃ row, encodeEvent subject event receipt id = .ok row :=
  bind_isOk (toI64_ok.mpr ⟨hsequence, rfl⟩)
    (bind_isOk (toI64_ok.mpr ⟨hversion, rfl⟩)
      (bind_isOk (toI64_ok.mpr ⟨hstake, rfl⟩)
        (bind_isOk (toI64_ok.mpr ⟨hinactive, rfl⟩) ⟨_, rfl⟩)))

theorem decodeReasons (reasons : List DecisionReason) :
    (reasons.map DecisionReason.code).mapM decodeReason = .ok reasons := by
  induction reasons with
  | nil => rfl
  | cons reason rest ih =>
    rw [List.map_cons, List.mapM_cons]
    refine bind_ok.mpr ⟨reason, okOr_ok.mpr (reason_fromCode reason), ?_⟩
    exact bind_ok.mpr ⟨rest, ih, rfl⟩

theorem decodeProvider_asStr (provider : Option TrustProvider) :
    decodeProvider (provider.map TrustProvider.asStr) = .ok provider := by
  cases provider with
  | none => rfl
  | some provider =>
    exact bind_ok.mpr ⟨provider, okOr_ok.mpr (provider_parse provider), rfl⟩

theorem decode_encodeEvent (hweight : event.weight < 2 ^ 16)
    (hof : receipt.Of subject event)
    (h : encodeEvent subject event receipt id = .ok row) :
    decodeEventRow row = .ok ⟨id, subject, event, receipt⟩ := by
  obtain ⟨_, hsequence, _, hversion, _, hstake, _, hinactive, h⟩ :=
    bind_ok₄.mp h
  obtain ⟨-, rfl⟩ := toI64_ok.mp hsequence
  obtain ⟨-, rfl⟩ := toI64_ok.mp hversion
  obtain ⟨-, rfl⟩ := toI64_ok.mp hstake
  obtain ⟨-, rfl⟩ := toI64_ok.mp hinactive
  cases h
  refine bind_ok.mpr ⟨_, okOr_ok.mpr (kind_fromCode _), ?_⟩
  refine bind_ok.mpr ⟨_, okOr_ok.mpr (decision_fromCode _), ?_⟩
  refine bind_ok.mpr ⟨_, decodeReasons _, ?_⟩
  refine bind_ok.mpr ⟨_, fromI64U64_cast, ?_⟩
  refine bind_ok.mpr ⟨_, fromI32U16_cast hweight, ?_⟩
  refine bind_ok.mpr ⟨_, decodeProvider_asStr _, ?_⟩
  refine bind_ok.mpr ⟨_, parseU64Str_text _, ?_⟩
  refine bind_ok.mpr ⟨_, parseU64Str_text _, ?_⟩
  refine bind_ok.mpr ⟨_, parseU64Str_text _, ?_⟩
  refine bind_ok.mpr ⟨_, fromI64U64_cast, ?_⟩
  refine bind_ok.mpr ⟨_, parseU64Str_text _, ?_⟩
  refine bind_ok.mpr ⟨_, fromI32U16_cast hof.score, ?_⟩
  refine bind_ok.mpr ⟨_, fromI64U64_cast, ?_⟩
  refine bind_ok.mpr ⟨_, fromI32U16_cast hof.failureBps, ?_⟩
  refine bind_ok.mpr ⟨_, fromI64U64_cast, ?_⟩
  have hsubject := hof.subject
  have heventId := hof.eventId
  have hsame := hof.sequence
  obtain ⟨rsubject, reventId, rsequence, _, _, _, _, _, _, _⟩ := receipt
  cases hsubject
  cases heventId
  cases hsame
  rfl

end Events

end KamiyoProtocol.Trust
