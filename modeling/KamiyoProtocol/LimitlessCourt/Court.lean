/-
`limitless-court.ts` of the settlement package: the registry of oracles,
commitments and their reveals, and the verdict on a settlement.

What the engine brings is a parameter: SHA-256, the collation order, the texts
of numbers, and arithmetic. Numbers are rationals, and a sum of weights is what
the engine's addition makes of them in the order in which the code adds
(`Host.total`): binary64 rounds each time, so the order matters. The results of
the verdict callback and the metadata of oracles are types of their own, which
nothing here looks into.

`finalize` awaits the verdict callback. It is cut there: `finalize` runs up to
the call, and `afterVerdict` from the callback's outcome on.
-/
import KamiyoProtocol.Lib.Ecma
import Mathlib.Data.List.Dedup
import Mathlib.Data.List.Sort
import Mathlib.Data.Rat.Floor

namespace KamiyoProtocol.LimitlessCourt

open Ecma (Dict trim)

/-- What the code has of the engine it runs on. -/
structure Host where
  sha256 : List UInt8 → List UInt8
  toLowerCase : String → String
  localeCompare : String → String → Int
  numberText : ℚ → String
  toFixed : ℚ → Nat → String
  add : ℚ → ℚ → ℚ
  sub : ℚ → ℚ → ℚ
  mul : ℚ → ℚ → ℚ
  div : ℚ → ℚ → ℚ

/-- `reduce((sum, x) => sum + x, 0)`. -/
def Host.total (host : Host) (l : List ℚ) : ℚ := l.foldl host.add 0

variable {M R : Type}

-- ==== types

structure LimitlessCourtOracle (M : Type) where
  id : String
  provider : Option String
  weight : Option ℚ
  active : Option Bool
  metadata : Option M

structure LimitlessCourtCommitmentSubmission where
  settlementId : String
  oracleId : String
  commitmentHash : List UInt8
  committedAt : Option ℚ

structure LimitlessCourtAttestationSubmission (M : Type) where
  settlementId : String
  oracleId : String
  score : ℚ
  confidence : ℚ
  evidenceHash : String
  salt : List UInt8
  metadata : Option M
  revealedAt : Option ℚ

structure LimitlessCourtAttestation (M : Type) where
  oracleId : String
  provider : String
  weight : ℚ
  score : ℚ
  confidence : ℚ
  evidenceHash : String
  revealedAt : ℚ
  metadata : Option M

structure LimitlessCourtProgress where
  settlementId : String
  threshold : Nat
  minWeight : ℚ
  minProviderCount : Nat
  commitmentCount : Nat
  attestationCount : Nat
  attestationWeight : ℚ
  providerCount : Nat
  pendingAttestations : Nat
  pendingWeight : ℚ
  missingProviders : Nat
  countMet : Bool
  weightMet : Bool
  providerMet : Bool
  quorumMet : Bool
  settled : Bool
  finalizing : Bool
  attestedOracles : List String

structure LimitlessCourtVerdict (M : Type) where
  settlementId : String
  oracleScore : ℚ
  confidence : ℚ
  attestationCount : Nat
  attestationWeight : ℚ
  providerCount : Nat
  disagreement : ℚ
  includedOracles : List String
  outlierOracles : List String
  attestationRoot : String
  transcriptHash : String
  createdAt : ℚ
  attestations : List (LimitlessCourtAttestation M)

structure LimitlessCourtResult (M R : Type) where
  progress : LimitlessCourtProgress
  settlementTriggered : Bool
  verdict : Option (LimitlessCourtVerdict M)
  settlementResult : Option R

structure OracleProfileState (M : Type) where
  id : String
  provider : String
  weight : ℚ
  active : Bool
  metadata : Option M

structure OracleCommitmentState (M : Type) where
  commitmentHash : List UInt8
  committedAt : ℚ
  attestation : Option (LimitlessCourtAttestation M)

structure SettlementState (M R : Type) where
  commitments : Dict String (OracleCommitmentState M)
  settled : Bool
  finalizing : Bool
  verdict : Option (LimitlessCourtVerdict M)
  settlementResult : Option R

-- ==== normal inputs

def HASH_BYTE_LENGTH : Nat := 32
def SALT_BYTE_LENGTH : Nat := 32
def CONFIDENCE_SCALE : ℚ := 10000
def COURT_COMMITMENT_DOMAIN : String := "limitless-court:v1:commit"

def isHexDigit (c : Char) : Bool :=
  c.isDigit || ('a' ≤ c && c ≤ 'f') || ('A' ≤ c && c ≤ 'F')

/-- `/^0x[a-fA-F0-9]\x7b40\x7d$/`. -/
def isAddress (s : String) : Bool :=
  s.toList.take 2 = ['0', 'x'] && (s.toList.drop 2).length = 40
    && (s.toList.drop 2).all isHexDigit

def defaultNormalizeOracleId (host : Host) (oracleId : String) :
    Except String String :=
  let normalized := trim oracleId
  if normalized = "" then .error "oracleId is required"
  else if isAddress normalized then .ok (host.toLowerCase normalized)
  else .ok normalized

def normalizeSettlementId (settlementId : String) : Except String String :=
  let normalized := trim settlementId
  if normalized = "" then .error "settlementId is required"
  else .ok normalized

def normalizeProvider (host : Host) (provider : Option String)
    (fallback : String) : String :=
  match provider.map fun p => host.toLowerCase (trim p) with
  | some normalized => if normalized ≠ "" then normalized else fallback
  | none => fallback

def normalizeEvidenceHash (host : Host) (evidenceHash : String) :
    Except String String :=
  let normalized := (host.toLowerCase (trim evidenceHash)).toList
  let stripped :=
    if normalized.take 2 = ['0', 'x'] then normalized.drop 2 else normalized
  if stripped.length = 64
      ∧ stripped.all fun c => c.isDigit || ('a' ≤ c && c ≤ 'f') then
    .ok (String.ofList stripped)
  else .error "evidenceHash must be a 32-byte hex string"

def normalizeCommitmentHash (commitmentHash : List UInt8) :
    Except String (List UInt8) :=
  if commitmentHash.length ≠ HASH_BYTE_LENGTH then
    .error "commitmentHash must be 32 bytes"
  else .ok commitmentHash

def normalizeSalt (salt : List UInt8) : Except String (List UInt8) :=
  if salt.length ≠ SALT_BYTE_LENGTH then .error "salt must be 32 bytes"
  else .ok salt

def validateScore (score : ℚ) : Except String Unit :=
  if score.den ≠ 1 ∨ score < 0 ∨ 100 < score then
    .error "score must be an integer between 0 and 100"
  else .ok ()

def normalizeConfidence (confidence : ℚ) : Except String ℚ :=
  if confidence < 0 ∨ 1 < confidence then
    .error "confidence must be a number between 0 and 1"
  else .ok confidence

def normalizeWeight (weight : ℚ) : Except String ℚ :=
  if weight ≤ 0 then .error "oracle weight must be a positive number"
  else .ok weight

/-- `Math.round(confidence * CONFIDENCE_SCALE)`. -/
def confidenceToBasisPoints (host : Host) (confidence : ℚ) :
    Except String Nat := do
  let confidence ← normalizeConfidence confidence
  return (⌊host.mul confidence CONFIDENCE_SCALE + 1 / 2⌋).toNat

-- ==== hashes

/-- `writeUInt32BE` and `writeUInt16BE`: the low `width` bytes, high first. -/
def bigEndian (width n : Nat) : List UInt8 :=
  (List.range width).reverse.map fun i => UInt8.ofNat (n / 256 ^ i)

def encodeField (value : List UInt8) : List UInt8 :=
  bigEndian 4 value.length ++ value

def utf8 (s : String) : List UInt8 := s.toUTF8.data.toList

def hexDigit (n : Nat) : Char :=
  "0123456789abcdef".toList.getD n '0'

def toHex (value : List UInt8) : String :=
  String.ofList
    (value.flatMap fun b => [hexDigit (b.toNat / 16), hexDigit (b.toNat % 16)])

/-- Sorted by a comparison, as `sort` does: stable, the lesser first. -/
def sortBy {α : Type} (compare : α → α → ℚ) (l : List α) : List α :=
  l.insertionSort fun a b => compare a b ≤ 0

def computeAttestationRoot (host : Host)
    (attestations : List (LimitlessCourtAttestation M)) : String :=
  let sorted := sortBy
    (fun a b => host.localeCompare a.oracleId b.oracleId) attestations
  toHex (host.sha256 (sorted.flatMap fun attestation =>
    encodeField (utf8 ("|".intercalate
      [attestation.oracleId, attestation.provider,
       host.numberText attestation.weight,
       host.numberText attestation.score,
       host.toFixed attestation.confidence 6,
       attestation.evidenceHash,
       host.numberText attestation.revealedAt]))))

def computeTranscriptHash (host : Host) (settlementId : String)
    (threshold : Nat) (minWeight : ℚ) (minProviderCount : Nat)
    (commitments : Dict String (OracleCommitmentState M))
    (verdict : LimitlessCourtVerdict M) : String :=
  let sortedCommitments := sortBy (fun a b => host.localeCompare a.1 b.1)
    commitments.entries
  toHex (host.sha256
    (encodeField (utf8 settlementId)
      ++ encodeField (utf8 (host.numberText threshold))
      ++ encodeField (utf8 (host.numberText minWeight))
      ++ encodeField (utf8 (host.numberText minProviderCount))
      ++ encodeField (utf8 verdict.attestationRoot)
      ++ sortedCommitments.flatMap fun e =>
        encodeField (utf8 e.1) ++ encodeField e.2.commitmentHash
          ++ encodeField (utf8 (host.numberText e.2.committedAt))
          ++ match e.2.attestation with
            | some attestation =>
              encodeField (utf8 (host.numberText attestation.revealedAt))
            | none => []))

def computeLimitlessCourtCommitmentHash (host : Host)
    (normalizeOracleId : String → Except String String)
    (settlementId oracleId : String) (score confidence : ℚ)
    (evidenceHash : String) (salt : List UInt8) :
    Except String (List UInt8) := do
  let normalizedSettlementId ← normalizeSettlementId settlementId
  let normalizedOracleId ← normalizeOracleId oracleId
  validateScore score
  let confidenceBasis ← confidenceToBasisPoints host confidence
  let normalizedEvidenceHash ← normalizeEvidenceHash host evidenceHash
  let normalizedSalt ← normalizeSalt salt
  return host.sha256
    (encodeField (utf8 COURT_COMMITMENT_DOMAIN)
      ++ encodeField (utf8 normalizedSettlementId)
      ++ encodeField (utf8 normalizedOracleId)
      ++ [UInt8.ofNat score.num.toNat]
      ++ bigEndian 2 confidenceBasis
      ++ encodeField (utf8 normalizedEvidenceHash)
      ++ normalizedSalt)

-- ==== averages

/-- The score at which the running weight reaches the midpoint. -/
def medianScan (host : Host) (midpoint cumulative : ℚ) :
    List (ℚ × ℚ) → Option ℚ
  | [] => none
  | entry :: rest =>
    let cumulative := host.add cumulative entry.2
    if midpoint ≤ cumulative then some entry.1
    else medianScan host midpoint cumulative rest

/-- The weighted median of entries of a score and a weight. -/
def weightedMedian (host : Host) (entries : List (ℚ × ℚ)) : ℚ :=
  let sorted := sortBy (fun a b => a.1 - b.1) entries
  let totalWeight := host.total (sorted.map Prod.snd)
  (medianScan host (host.div totalWeight 2) 0 sorted).getD
    ((sorted.getLast?.map Prod.fst).getD 0)

/-- The weighted average of entries of a value and a weight. -/
def weightedAverage (host : Host) (values : List (ℚ × ℚ)) : ℚ :=
  let weightedTotal := host.total (values.map fun e => host.mul e.1 e.2)
  let totalWeight := host.total (values.map Prod.snd)
  if totalWeight ≤ 0 then 0 else host.div weightedTotal totalWeight

-- ==== settings

structure LimitlessCourtConfig (M : Type) where
  threshold : ℚ
  oracles : List (LimitlessCourtOracle M)
  minWeight : Option ℚ
  minProviderCount : Option ℚ
  maxOutlierDeviation : Option ℚ
  normalizeOracleId : Option (String → Except String String)

def MAX_SAFE_INTEGER : ℚ := 2 ^ 53 - 1

/-- The read-only fields of a court, as its constructor has checked them. -/
structure CourtSettings where
  threshold : Nat
  minWeight : ℚ
  minProviderCount : Nat
  maxOutlierDeviation : ℚ
  normalizeOracleId : String → Except String String
  threshold_range : 1 ≤ threshold ∧ threshold ≤ 255
  minWeight_range : 0 < minWeight ∧ minWeight ≤ MAX_SAFE_INTEGER
  minProviderCount_range : 1 ≤ minProviderCount ∧ minProviderCount ≤ 255
  maxOutlierDeviation_range :
    0 ≤ maxOutlierDeviation ∧ maxOutlierDeviation ≤ 100

/-- The integer that a number is. -/
def integerOf (x : ℚ) : Option Nat :=
  if x.den = 1 ∧ 0 ≤ x then some x.num.toNat else none

def checkSettings (host : Host) (config : LimitlessCourtConfig M) :
    Except String CourtSettings :=
  let minWeight := config.minWeight.getD config.threshold
  let maxOutlierDeviation := config.maxOutlierDeviation.getD 20
  match integerOf config.threshold with
  | none => .error "threshold must be an integer between 1 and 255"
  | some threshold =>
    if hthreshold : 1 ≤ threshold ∧ threshold ≤ 255 then
      if hweight : 0 < minWeight ∧ minWeight ≤ MAX_SAFE_INTEGER then
        match integerOf (config.minProviderCount.getD 1) with
        | none =>
          .error "minProviderCount must be an integer between 1 and 255"
        | some minProviderCount =>
          if hproviders : 1 ≤ minProviderCount ∧ minProviderCount ≤ 255 then
            if hdeviation :
                0 ≤ maxOutlierDeviation ∧ maxOutlierDeviation ≤ 100 then
              .ok ⟨threshold, minWeight, minProviderCount, maxOutlierDeviation,
                config.normalizeOracleId.getD (defaultNormalizeOracleId host),
                hthreshold, hweight, hproviders, hdeviation⟩
            else .error "maxOutlierDeviation must be between 0 and 100"
          else .error "minProviderCount must be an integer between 1 and 255"
      else .error "minWeight must be a positive number"
    else .error "threshold must be an integer between 1 and 255"

-- ==== the court

/-- The registry and the settlements of one court. -/
structure Court (M R : Type) where
  settings : CourtSettings
  oracleRegistry : Dict String (OracleProfileState M)
  settlements : Dict String (SettlementState M R)

/-- The number of distinct texts of a list. -/
def distinctCount (l : List String) : Nat := l.dedup.length

def validateOracleRegistryCoverage (host : Host) (court : Court M R) :
    Except String Unit :=
  let activeOracles := court.oracleRegistry.values.filter (·.active)
  if activeOracles.length < court.settings.threshold then
    .error "Not enough active oracles to satisfy threshold"
  else if host.total (activeOracles.map (·.weight))
      < court.settings.minWeight then
    .error "Active oracle weight is below minWeight"
  else if distinctCount (activeOracles.map (·.provider))
      < court.settings.minProviderCount then
    .error "Not enough active oracle providers to satisfy minProviderCount"
  else .ok ()

/-- `registerOracle`, up to the check of the coverage, which the constructor
leaves out. -/
def addOracle (host : Host) (oracle : LimitlessCourtOracle M)
    (court : Court M R) : Except String (Court M R) := do
  let id ← court.settings.normalizeOracleId oracle.id
  if court.oracleRegistry.has id then
    .error ("Oracle already registered: " ++ id)
  else
    let weight ← normalizeWeight (oracle.weight.getD 1)
    return { court with
      oracleRegistry := court.oracleRegistry.set id
        { id := id
          provider := normalizeProvider host oracle.provider id
          weight := weight
          active := oracle.active.getD true
          metadata := oracle.metadata } }

/-- A change of the registry is taken back unless it leaves it covered. -/
def covered (host : Host) (court : Court M R) :
    Except String (Court M R) := do
  validateOracleRegistryCoverage host court
  return court

def registerOracle (host : Host) (oracle : LimitlessCourtOracle M)
    (court : Court M R) : Except String (Court M R) := do
  let court ← addOracle host oracle court
  covered host court

/-- The constructor. -/
def LimitlessVerdictCourt (host : Host) (config : LimitlessCourtConfig M) :
    Except String (Court M R) := do
  let settings ← checkSettings host config
  let court ← config.oracles.foldlM (fun court oracle =>
    addOracle host oracle court) ⟨settings, Dict.empty, Dict.empty⟩
  if court.oracleRegistry.size = 0 then
    .error "At least one oracle must be configured"
  else covered host court

/-- The profile registered under an id is changed, under the coverage. -/
def changeOracle (host : Host) (oracleId : String)
    (change : OracleProfileState M → Except String (OracleProfileState M))
    (court : Court M R) : Except String (Court M R) := do
  let id ← court.settings.normalizeOracleId oracleId
  match court.oracleRegistry.get id with
  | none => .error ("Unknown oracle: " ++ id)
  | some oracle =>
    let oracle ← change oracle
    covered host { court with
      oracleRegistry := court.oracleRegistry.set id oracle }

def setOracleActive (host : Host) (oracleId : String) (active : Bool)
    (court : Court M R) : Except String (Court M R) :=
  changeOracle host oracleId
    (fun oracle => .ok { oracle with active := active }) court

def updateOracleWeight (host : Host) (oracleId : String) (weight : ℚ)
    (court : Court M R) : Except String (Court M R) :=
  changeOracle host oracleId (fun oracle => do
    let normalizedWeight ← normalizeWeight weight
    return { oracle with weight := normalizedWeight }) court

def requireActiveOracle (oracleId : String) (court : Court M R) :
    Except String (OracleProfileState M) :=
  match court.oracleRegistry.get oracleId with
  | none => .error ("Oracle is not registered: " ++ oracleId)
  | some oracle =>
    if oracle.active then .ok oracle
    else .error ("Oracle is inactive: " ++ oracleId)

def noSettlement : SettlementState M R :=
  ⟨Dict.empty, false, false, none, none⟩

-- ==== quorum

/-- The order of `getAttestations`: by time, then by oracle. -/
def revealOrder (host : Host) (a b : LimitlessCourtAttestation M) : ℚ :=
  if a.revealedAt ≠ b.revealedAt then a.revealedAt - b.revealedAt
  else host.localeCompare a.oracleId b.oracleId

def getAttestations (host : Host) (state : SettlementState M R) :
    List (LimitlessCourtAttestation M) :=
  sortBy (revealOrder host)
    (state.commitments.values.filterMap (·.attestation))

structure Quorum where
  countMet : Bool
  weightMet : Bool
  providerMet : Bool
  attestationWeight : ℚ
  providerCount : Nat

def meetsQuorum (host : Host) (settings : CourtSettings)
    (attestations : List (LimitlessCourtAttestation M)) : Quorum :=
  let attestationWeight := host.total (attestations.map (·.weight))
  let providerCount := distinctCount (attestations.map (·.provider))
  { countMet := settings.threshold ≤ attestations.length
    weightMet := settings.minWeight ≤ attestationWeight
    providerMet := settings.minProviderCount ≤ providerCount
    attestationWeight := attestationWeight
    providerCount := providerCount }

def buildProgress (host : Host) (settings : CourtSettings)
    (settlementId : String) (state : SettlementState M R) :
    LimitlessCourtProgress :=
  let attestations := getAttestations host state
  let quorum := meetsQuorum host settings attestations
  { settlementId := settlementId
    threshold := settings.threshold
    minWeight := settings.minWeight
    minProviderCount := settings.minProviderCount
    commitmentCount := state.commitments.size
    attestationCount := attestations.length
    attestationWeight := quorum.attestationWeight
    providerCount := quorum.providerCount
    pendingAttestations := settings.threshold - attestations.length
    pendingWeight :=
      max (host.sub settings.minWeight quorum.attestationWeight) 0
    missingProviders := settings.minProviderCount - quorum.providerCount
    countMet := quorum.countMet
    weightMet := quorum.weightMet
    providerMet := quorum.providerMet
    quorumMet := quorum.countMet && quorum.weightMet && quorum.providerMet
    settled := state.settled
    finalizing := state.finalizing
    attestedOracles := attestations.map (·.oracleId) }

-- ==== verdict

/-- The attestations near the baseline score, or all where there are none. -/
def nearBaseline (host : Host) (settings : CourtSettings)
    (attestations : List (LimitlessCourtAttestation M)) :
    List (LimitlessCourtAttestation M) :=
  let baselineScore :=
    weightedMedian host (attestations.map fun e => (e.score, e.weight))
  let included := attestations.filter fun e =>
    |e.score - baselineScore| ≤ settings.maxOutlierDeviation
  if included.length = 0 then attestations else included

/-- The attestations near the baseline score, or all where these are no
quorum. -/
def includedOf (host : Host) (settings : CourtSettings)
    (attestations : List (LimitlessCourtAttestation M)) :
    List (LimitlessCourtAttestation M) :=
  let included := nearBaseline host settings attestations
  let includedQuorum := meetsQuorum host settings included
  if !includedQuorum.countMet || !includedQuorum.weightMet
      || !includedQuorum.providerMet then attestations
  else included

def buildVerdict (host : Host) (settings : CourtSettings) (now : ℚ)
    (settlementId : String) (state : SettlementState M R) :
    Except String (LimitlessCourtVerdict M) :=
  let attestations := getAttestations host state
  if (meetsQuorum host settings attestations).countMet = false then
    .error "Not enough attestations to build verdict"
  else
    let included := includedOf host settings attestations
    let oracleScore :=
      weightedMedian host (included.map fun e => (e.score, e.weight))
    let confidence :=
      weightedAverage host (included.map fun e => (e.confidence, e.weight))
    let disagreement := (included.map fun e => |e.score - oracleScore|).foldl
      (fun most diff => if most < diff then diff else most) 0
    let includedSet := included.map (·.oracleId)
    let outlierOracles := (attestations.filter fun e =>
      e.oracleId ∉ includedSet).map (·.oracleId)
    let sortedIncluded := sortBy
      (fun a b => host.localeCompare a.oracleId b.oracleId) included
    let sortedOutliers := sortBy
      (fun a b => host.localeCompare a b) outlierOracles
    let includedSummary := meetsQuorum host settings sortedIncluded
    let provisionalVerdict : LimitlessCourtVerdict M :=
      { settlementId := settlementId
        oracleScore := oracleScore
        confidence := confidence
        attestationCount := sortedIncluded.length
        attestationWeight := includedSummary.attestationWeight
        providerCount := includedSummary.providerCount
        disagreement := disagreement
        includedOracles := sortedIncluded.map (·.oracleId)
        outlierOracles := sortedOutliers
        attestationRoot := computeAttestationRoot host sortedIncluded
        transcriptHash := ""
        createdAt := now
        attestations := sortedIncluded }
    .ok { provisionalVerdict with
      transcriptHash := computeTranscriptHash host settlementId
        settings.threshold settings.minWeight settings.minProviderCount
        state.commitments provisionalVerdict }

-- ==== submissions

def submitCommitment (host : Host)
    (input : LimitlessCourtCommitmentSubmission) (now : ℚ)
    (court : Court M R) :
    Except String (Court M R × LimitlessCourtProgress) := do
  let settlementId ← normalizeSettlementId input.settlementId
  let oracleId ← court.settings.normalizeOracleId input.oracleId
  let commitmentHash ← normalizeCommitmentHash input.commitmentHash
  let oracle ← requireActiveOracle oracleId court
  let state := (court.settlements.get settlementId).getD noSettlement
  if state.settled then .error "Settlement is already resolved"
  else if state.finalizing then
    .error "Settlement finalization is in progress"
  else if state.commitments.has oracle.id then
    .error ("Commitment already submitted by oracle " ++ oracle.id)
  else
    let state := { state with
      commitments := state.commitments.set oracle.id
        ⟨commitmentHash, input.committedAt.getD now, none⟩ }
    return ({ court with
        settlements := court.settlements.set settlementId state },
      buildProgress host court.settings settlementId state)

/-- What a call of `finalize` keeps while it awaits the verdict callback. -/
structure Finalization (M : Type) where
  settlementId : String
  progress : LimitlessCourtProgress
  verdict : LimitlessCourtVerdict M

/-- What `finalize` has come to when it stops running: it returned, or it
awaits the verdict callback. -/
inductive Finalized (M R : Type)
  | returned (result : LimitlessCourtResult M R)
  | awaiting (call : Finalization M)

def finalize (host : Host) (settlementId : String) (now : ℚ)
    (court : Court M R) : Except String (Court M R × Finalized M R) := do
  let settlementId ← normalizeSettlementId settlementId
  match court.settlements.get settlementId with
  | none => .error ("No commitments found for settlement " ++ settlementId)
  | some state =>
    let progress := buildProgress host court.settings settlementId state
    if state.settled then
      return (court, .returned
        ⟨progress, false, state.verdict, state.settlementResult⟩)
    else if progress.quorumMet = false ∨ state.finalizing = true then
      return (court, .returned ⟨progress, false, none, none⟩)
    else
      let state := { state with finalizing := true }
      let verdict ←
        buildVerdict host court.settings now settlementId state
      return ({ court with
          settlements := court.settlements.set settlementId state },
        .awaiting ⟨settlementId, progress, verdict⟩)

/-- The rest of `finalize`, from the outcome of the verdict callback on. The
error of a rejected callback is thrown on. -/
def afterVerdict (host : Host) (call : Finalization M)
    (outcome : Except String R) (court : Court M R) :
    Court M R × Except String (LimitlessCourtResult M R) :=
  match court.settlements.get call.settlementId with
  | none => (court, .error "")
  | some state =>
    match outcome with
    | .error e =>
      ({ court with
          settlements := court.settlements.set call.settlementId
            { state with finalizing := false } },
        .error e)
    | .ok settlementResult =>
      let state := { state with
        settled := true
        verdict := some call.verdict
        settlementResult := some settlementResult }
      let finalizedProgress :=
        buildProgress host court.settings call.settlementId state
      ({ court with
          settlements := court.settlements.set call.settlementId
            { state with finalizing := false } },
        .ok ⟨finalizedProgress, true, some call.verdict, some settlementResult⟩)

/-- `now` is read for the time of the reveal, and again for the verdict. -/
def submitAttestation (host : Host)
    (input : LimitlessCourtAttestationSubmission M) (now verdictNow : ℚ)
    (court : Court M R) : Except String (Court M R × Finalized M R) := do
  let settlementId ← normalizeSettlementId input.settlementId
  let oracleId ← court.settings.normalizeOracleId input.oracleId
  validateScore input.score
  let confidence ← normalizeConfidence input.confidence
  let evidenceHash ← normalizeEvidenceHash host input.evidenceHash
  let salt ← normalizeSalt input.salt
  let oracle ← requireActiveOracle oracleId court
  match court.settlements.get settlementId with
  | none => .error ("No commitments found for settlement " ++ settlementId)
  | some state =>
    if state.settled then .error "Settlement is already resolved"
    else match state.commitments.get oracle.id with
      | none => .error ("No commitment found for oracle " ++ oracle.id)
      | some commitment =>
        if commitment.attestation.isSome then
          .error ("Attestation already revealed for oracle " ++ oracle.id)
        else
          let expectedHash ← computeLimitlessCourtCommitmentHash host
            court.settings.normalizeOracleId settlementId oracle.id
            input.score confidence evidenceHash salt
          if expectedHash ≠ commitment.commitmentHash then
            .error "Commitment hash mismatch"
          else
            let attestation : LimitlessCourtAttestation M :=
              { oracleId := oracle.id
                provider := oracle.provider
                weight := oracle.weight
                score := input.score
                confidence := confidence
                evidenceHash := evidenceHash
                revealedAt := input.revealedAt.getD now
                metadata := input.metadata }
            let state := { state with
              commitments := state.commitments.set oracle.id
                { commitment with attestation := some attestation } }
            finalize host settlementId verdictNow
              { court with
                settlements := court.settlements.set settlementId state }

-- ==== system

/-- A court and the calls of `finalize` that await the verdict callback. -/
structure System (M R : Type) where
  court : Court M R
  awaiting : List (Finalization M)

inductive CourtAction (M R : Type)
  | submitCommitment (input : LimitlessCourtCommitmentSubmission) (now : ℚ)
  | submitAttestation (input : LimitlessCourtAttestationSubmission M)
      (now verdictNow : ℚ)
  | finalize (settlementId : String) (now : ℚ)
  /-- The callback of the call at place `i`, for a settlement, settles. -/
  | onVerdict (settlementId : String) (i : Nat) (outcome : Except String R)
  | registerOracle (oracle : LimitlessCourtOracle M)
  | setOracleActive (oracleId : String) (active : Bool)
  | updateOracleWeight (oracleId : String) (weight : ℚ)

/-- The calls in flight after one of `finalize` has run. -/
def joined (x : Court M R × Finalized M R)
    (awaiting : List (Finalization M)) : System M R :=
  match x.2 with
  | .returned _ => ⟨x.1, awaiting⟩
  | .awaiting call => ⟨x.1, awaiting ++ [call]⟩

/-- One call, or one callback that settles. -/
def courtStep (host : Host) (a : CourtAction M R) (s : System M R) :
    Except String (System M R) :=
  match a with
  | .submitCommitment input now => do
      let (court, _) ← submitCommitment host input now s.court
      return ⟨court, s.awaiting⟩
  | .submitAttestation input now verdictNow => do
      let x ← submitAttestation host input now verdictNow s.court
      return joined x s.awaiting
  | .finalize settlementId now => do
      let x ← finalize host settlementId now s.court
      return joined x s.awaiting
  | .onVerdict settlementId i outcome =>
    match s.awaiting[i]? with
    | none => .error "no such call"
    | some call =>
      if call.settlementId = settlementId then
        .ok ⟨(afterVerdict host call outcome s.court).1, s.awaiting.eraseIdx i⟩
      else .error "a call for another settlement"
  | .registerOracle oracle => do
      let court ← registerOracle host oracle s.court
      return ⟨court, s.awaiting⟩
  | .setOracleActive oracleId active => do
      let court ← setOracleActive host oracleId active s.court
      return ⟨court, s.awaiting⟩
  | .updateOracleWeight oracleId weight => do
      let court ← updateOracleWeight host oracleId weight s.court
      return ⟨court, s.awaiting⟩

end KamiyoProtocol.LimitlessCourt
