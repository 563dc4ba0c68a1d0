/-
`model.rs`, `hash.rs` and `error.rs` of `kamiyo-trust-layer`: events,
policies, subject states and receipts, the arithmetic on them, and the
hashes.

Counters and amounts are natural numbers, with the bounds of their Rust
types where an operation checks them; hash values wrap, and are `UInt64`.
-/
import KamiyoProtocol.Lib.Bytes
import KamiyoProtocol.Lib.Exec
import KamiyoProtocol.Lib.Fixed
import Mathlib.Data.List.Sort

namespace KamiyoProtocol.Trust

open Exec

-- ==== constants

def maxScore : Nat := 1000

def baseScore : Nat := 500

def basisPointsDenominator : Nat := 10000

def maxEventWeight : Nat := 100

def initialPolicyVersion : Nat := 1

def maxEventIdLen : Nat := 128

def maxContextFieldLen : Nat := 128

-- ==== errors

inductive TrustLayerError
  | invalidPolicy (reason : String)
  | invalidPolicyVersion (current next : Nat)
  | invalidWeight (weight : Nat)
  | invalidEventId (eventId : String)
  | invalidContextField (field value : String)
  | eventIdConflict (eventId : String)
  | invalidSequenceStart (actual : Nat)
  | nonMonotonicSequence (expected actual : Nat)
  | clockWentBackwards (last next : Int)
  | stakeUnderflow (stake : Nat) (delta : Int)
  | stakeOverflow (stake : Nat) (delta : Int)
  | snapshotCorrupted (reason : String)
  deriving DecidableEq

-- ==== hashes

def fnvOffsetBasis : UInt64 := 0xcbf29ce484222325

def fnvPrime : UInt64 := 0x100000001b3

def hashBytes (seed : UInt64) (bytes : List UInt8) : UInt64 :=
  bytes.foldl (fun hash byte => (hash ^^^ byte.toUInt64) * fnvPrime) seed

def hashU8 (seed : UInt64) (value : Nat) : UInt64 :=
  hashBytes seed (Bytes.le 1 value)

def hashU16 (seed : UInt64) (value : Nat) : UInt64 :=
  hashBytes seed (Bytes.le 2 value)

def hashU64 (seed : UInt64) (value : Nat) : UInt64 :=
  hashBytes seed (Bytes.le 8 value)

/-- In two's complement. -/
def hashI64 (seed : UInt64) (value : Int) : UInt64 :=
  hashBytes seed (Bytes.le 8 (value % 2 ^ 64).toNat)

def hashString (seed : UInt64) (value : String) : UInt64 :=
  hashBytes seed value.toUTF8.toList

def newChainSeed (subject : String) : UInt64 :=
  hashString fnvOffsetBasis subject

-- ==== events

inductive TrustProvider
  | openClaw | nanoClaw | ironClaw | xai | openAi | anthropic | «local» | custom
  deriving DecidableEq

/-- `provider as u8`. -/
def TrustProvider.code : TrustProvider → Nat
  | .openClaw => 1
  | .nanoClaw => 2
  | .ironClaw => 3
  | .xai => 4
  | .openAi => 5
  | .anthropic => 6
  | .local => 7
  | .custom => 8

inductive EvidenceKind
  | verifiedSuccess | disputeWon | disputeLost | slash | manualCredit
  | manualDebit | poCHVerified | poCHRejected | poCHDisputed
  deriving DecidableEq

/-- `kind as u8`. -/
def EvidenceKind.code : EvidenceKind → Nat
  | .verifiedSuccess => 1
  | .disputeWon => 2
  | .disputeLost => 3
  | .slash => 4
  | .manualCredit => 5
  | .manualDebit => 6
  | .poCHVerified => 7
  | .poCHRejected => 8
  | .poCHDisputed => 9

def EvidenceKind.isPositive : EvidenceKind → Bool
  | .verifiedSuccess | .disputeWon | .manualCredit | .poCHVerified => true
  | _ => false

def EvidenceKind.isNegative : EvidenceKind → Bool
  | .disputeLost | .slash | .manualDebit | .poCHRejected | .poCHDisputed =>
    true
  | _ => false

structure EventContext where
  requestId : Option String
  traceId : Option String
  spanId : Option String
  provider : Option TrustProvider
  deriving DecidableEq

structure TrustEvent where
  eventId : String
  sequence : Nat
  observedAt : Int
  kind : EvidenceKind
  weight : Nat
  stakeDelta : Int
  context : EventContext
  deriving DecidableEq

def isIdentifierByte (byte : UInt8) : Bool :=
  (48 ≤ byte && byte ≤ 57) || (65 ≤ byte && byte ≤ 90)
    || (97 ≤ byte && byte ≤ 122)
    -- `-`, `_`, `:` and `.`
    || byte == 45 || byte == 95 || byte == 58 || byte == 46

def isValidIdentifier (value : String) (maxLen : Nat) : Bool :=
  let bytes := value.toUTF8.toList
  !(bytes.isEmpty || decide (maxLen < bytes.length))
    && bytes.all isIdentifierByte

def isValidEventId (value : String) : Bool :=
  isValidIdentifier value maxEventIdLen

def isValidContextField (value : String) : Bool :=
  isValidIdentifier value maxContextFieldLen

def validateOptionalContext (field : String) :
    Option String → Except TrustLayerError Unit
  | some current => require (isValidContextField current = true)
      (.invalidContextField field current)
  | none => .ok ()

def EventContext.validate (c : EventContext) : Except TrustLayerError Unit := do
  validateOptionalContext "request_id" c.requestId
  validateOptionalContext "trace_id" c.traceId
  validateOptionalContext "span_id" c.spanId

def TrustEvent.validate (e : TrustEvent) : Except TrustLayerError Unit := do
  require (isValidEventId e.eventId = true) (.invalidEventId e.eventId)
  require (e.weight ≠ 0 ∧ e.weight ≤ maxEventWeight) (.invalidWeight e.weight)
  e.context.validate

-- ==== policy

structure TrustPolicy where
  allowScoreFloor : Nat
  reviewScoreFloor : Nat
  allowMinStake : Nat
  reviewMinStake : Nat
  allowMaxFailureBps : Nat
  reviewMaxFailureBps : Nat
  allowMaxInactiveSecs : Nat
  reviewMaxInactiveSecs : Nat

/-- `TrustPolicy::default`. -/
def TrustPolicy.standard : TrustPolicy where
  allowScoreFloor := 700
  reviewScoreFloor := 550
  allowMinStake := 10000
  reviewMinStake := 1000
  allowMaxFailureBps := 1500
  reviewMaxFailureBps := 3500
  allowMaxInactiveSecs := 3 * 24 * 60 * 60
  reviewMaxInactiveSecs := 14 * 24 * 60 * 60

def TrustPolicy.validate (p : TrustPolicy) : Except TrustLayerError Unit := do
  require (p.allowScoreFloor ≤ maxScore)
    (.invalidPolicy "allow_score_floor exceeds MAX_SCORE")
  require (p.reviewScoreFloor ≤ maxScore)
    (.invalidPolicy "review_score_floor exceeds MAX_SCORE")
  require (p.reviewScoreFloor ≤ p.allowScoreFloor)
    (.invalidPolicy "allow_score_floor must be >= review_score_floor")
  require (p.reviewMinStake ≤ p.allowMinStake)
    (.invalidPolicy "allow_min_stake must be >= review_min_stake")
  require (p.allowMaxFailureBps ≤ basisPointsDenominator)
    (.invalidPolicy "allow_max_failure_bps exceeds basis-point denominator")
  require (p.reviewMaxFailureBps ≤ basisPointsDenominator)
    (.invalidPolicy "review_max_failure_bps exceeds basis-point denominator")
  require (p.allowMaxFailureBps ≤ p.reviewMaxFailureBps)
    (.invalidPolicy "allow_max_failure_bps must be <= review_max_failure_bps")
  require (p.allowMaxInactiveSecs ≤ p.reviewMaxInactiveSecs)
    (.invalidPolicy
      "allow_max_inactive_secs must be <= review_max_inactive_secs")

theorem standard_valid : TrustPolicy.standard.validate = .ok () := by
  decide

-- ==== decisions

inductive TrustDecision
  | allow | review | deny
  deriving DecidableEq

inductive DecisionReason
  | scoreBelowAllow | scoreBelowReview | stakeBelowAllow | stakeBelowReview
  | failureRateTooHighForAllow | failureRateTooHighForReview
  | inactiveTooLongForAllow | inactiveTooLongForReview
  deriving DecidableEq

structure TrustEvaluation where
  decision : TrustDecision
  reasons : List DecisionReason
  score : Nat
  stake : Nat
  failureBps : Nat
  inactiveSecs : Nat
  deriving DecidableEq

structure SubjectState where
  score : Nat
  stake : Nat
  successCount : Nat
  failureCount : Nat
  lastSequence : Nat
  lastEventAt : Int
  chainHash : UInt64
  deriving DecidableEq

/-- `SubjectState::default`. -/
def SubjectState.empty : SubjectState where
  score := baseScore
  stake := 0
  successCount := 0
  failureCount := 0
  lastSequence := 0
  lastEventAt := 0
  chainHash := 0

structure TrustReceipt where
  subject : String
  eventId : String
  sequence : Nat
  prevHash : UInt64
  eventHash : UInt64
  stateHash : UInt64
  policyVersion : Nat
  decisionId : UInt64
  evaluation : TrustEvaluation
  issuedAt : Int
  deriving DecidableEq

structure JournalEntry where
  offset : Nat
  subject : String
  event : TrustEvent
  receipt : TrustReceipt

structure TrustLayerSnapshot where
  policy : TrustPolicy
  policyVersion : Nat
  subjects : List (String × SubjectState)
  journal : List JournalEntry

-- ==== arithmetic

/-- `saturating_add` of two `u64`. -/
def saturatingAdd (a b : Nat) : Nat := min (a + b) (2 ^ 64 - 1)

def scoreDelta (kind : EvidenceKind) (weight : Nat) : Int :=
  match kind with
  | .verifiedSuccess => 4 * weight
  | .disputeWon => 2 * weight
  | .disputeLost => -6 * weight
  | .slash => -8 * weight
  | .manualCredit => 10 * weight
  | .manualDebit => -10 * weight
  | .poCHVerified => 3 * weight
  | .poCHRejected => -6 * weight
  | .poCHDisputed => -3 * weight

def applyScoreDelta (score : Nat) (delta : Int) : Nat :=
  (max 0 (min ((min score maxScore : Nat) + delta) maxScore)).toNat

def failureBps (successCount failureCount : Nat) : Nat :=
  let total := saturatingAdd successCount failureCount
  if total = 0 then 0
  else min (failureCount * basisPointsDenominator / total)
    basisPointsDenominator

/-- `checked_add(1)` gives the next one. -/
def isSuccessor (current next : Nat) : Bool :=
  current + 1 < 2 ^ 64 && next == current + 1

def isValidNextSequence (lastSequence nextSequence : Nat) : Bool :=
  if lastSequence = 0 then nextSequence == 1
  else isSuccessor lastSequence nextSequence

def isNextPolicyVersion (currentVersion nextVersion : Nat) : Bool :=
  isSuccessor currentVersion nextVersion

def rotateLeft (x : UInt64) (n : UInt64) : UInt64 :=
  (x <<< n) ||| (x >>> (64 - n))

def decisionIdHash (policyVersion sequence : Nat)
    (eventHash stateHash : UInt64) : UInt64 :=
  let hash : UInt64 := 0x9e3779b97f4a7c15
  let hash := hash ^^^ (UInt64.ofNat policyVersion * 0xbf58476d1ce4e5b9)
  let hash := rotateLeft hash 27 * 0x94d049bb133111eb
  let hash := hash ^^^ (UInt64.ofNat sequence * 0x369dea0f31a53f85)
  let hash := rotateLeft hash 31 * 0xbf58476d1ce4e5b9
  let hash := hash ^^^ (eventHash * 0x94d049bb133111eb)
  let hash := rotateLeft hash 33 * 0x369dea0f31a53f85
  let hash := hash ^^^ stateHash
  rotateLeft hash 29 ^^^ 0x27bb2ee687b0b0fd

def applyStakeDelta (stake : Nat) (delta : Int) :
    Except TrustLayerError Nat :=
  if 0 ≤ delta then
    if stake + delta.toNat < 2 ^ 64 then .ok (stake + delta.toNat)
    else .error (.stakeOverflow stake delta)
  else if delta.natAbs ≤ stake then .ok (stake - delta.natAbs)
  else .error (.stakeUnderflow stake delta)

/-- How long ago the last event was. The difference of two `i64` panics if
it is none: the workspace is built with overflow checks. -/
def inactiveSecs (now lastEventAt : Int) : Option Nat :=
  if now ≤ lastEventAt then some 0
  else (Fixed.checkedSubI 64 now lastEventAt).map Int.toNat

def hashOptionalString (seed : UInt64) : Option String → UInt64
  | some value => hashString seed value
  | none => hashBytes seed [0]

def contextFingerprint (context : EventContext) : UInt64 :=
  let hash := hashOptionalString fnvOffsetBasis context.requestId
  let hash := hashOptionalString hash context.traceId
  let hash := hashOptionalString hash context.spanId
  match context.provider with
  | some provider => hashBytes hash [0xff, UInt8.ofNat provider.code]
  | none => hash

end KamiyoProtocol.Trust
