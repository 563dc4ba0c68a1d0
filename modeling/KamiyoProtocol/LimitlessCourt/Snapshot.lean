/-
Snapshots of a court: what `exportSnapshot` gives, what `importSnapshot` makes
of it, and of any other snapshot.

An import writes as it reads, and an error ends it where it is. So it comes
with the court as it has been written so far (`importSnapshot`); what it
writes is a list of writes to either map that the snapshot alone determines
(`oracleWrites`, `settlementWrites`), laid over what was there.
-/
import KamiyoProtocol.LimitlessCourt.Runs

namespace KamiyoProtocol.LimitlessCourt

open Ecma (Dict trim)
open Exec

variable {M R : Type} {host : Host} {court court' : Court M R}
  {s s' : System M R}

-- ==== types

structure LimitlessCourtSnapshotOracle (M : Type) where
  id : String
  provider : String
  weight : ℚ
  active : Bool
  metadata : Option M

/-- An entry of the commitments of a settlement. -/
structure SnapshotCommitment (M : Type) where
  oracleId : String
  commitmentHashHex : String
  committedAt : ℚ
  attestation : Option (LimitlessCourtAttestation M)

structure LimitlessCourtSnapshotSettlement (M R : Type) where
  settlementId : String
  settled : Bool
  commitments : List (SnapshotCommitment M)
  verdict : Option (LimitlessCourtVerdict M)
  settlementResult : Option R

structure LimitlessCourtSnapshot (M R : Type) where
  version : ℚ
  threshold : ℚ
  minWeight : ℚ
  minProviderCount : ℚ
  maxOutlierDeviation : ℚ
  oracles : List (LimitlessCourtSnapshotOracle M)
  settlements : List (LimitlessCourtSnapshotSettlement M R)

def SNAPSHOT_VERSION : ℚ := 1

-- ==== export

def listOracles (court : Court M R) : List (LimitlessCourtSnapshotOracle M) :=
  court.oracleRegistry.values.map fun oracle =>
    { id := oracle.id
      provider := oracle.provider
      weight := oracle.weight
      active := oracle.active
      metadata := oracle.metadata }

def exportSnapshot (court : Court M R) : LimitlessCourtSnapshot M R where
  version := SNAPSHOT_VERSION
  threshold := court.settings.threshold
  minWeight := court.settings.minWeight
  minProviderCount := court.settings.minProviderCount
  maxOutlierDeviation := court.settings.maxOutlierDeviation
  oracles := listOracles court
  settlements := court.settlements.entries.map fun e =>
    { settlementId := e.1
      settled := e.2.settled
      commitments := e.2.commitments.entries.map fun e =>
        { oracleId := e.1
          commitmentHashHex := toHex e.2.commitmentHash
          committedAt := e.2.committedAt
          attestation := e.2.attestation }
      verdict := e.2.verdict
      settlementResult := e.2.settlementResult }

-- ==== import

def hexValue (c : Char) : Nat :=
  if c.isDigit then c.toNat - 48 else c.toNat - 87

/-- `Buffer.from(…, 'hex')`, of digits in pairs. -/
def hexBytes : List Char → List UInt8
  | high :: low :: rest =>
    UInt8.ofNat (16 * hexValue high + hexValue low) :: hexBytes rest
  | _ => []

def fromHex (host : Host) (value : String) : Except String (List UInt8) :=
  let normalized := (host.toLowerCase (trim value)).toList
  let stripped :=
    if normalized.take 2 = ['0', 'x'] then normalized.drop 2 else normalized
  if !(stripped.all fun c => c.isDigit || ('a' ≤ c && c ≤ 'f'))
      || stripped.length % 2 ≠ 0 then
    .error "Invalid hex string"
  else .ok (hexBytes stripped)

/-- The configuration of a snapshot is that of the court. -/
def sameConfiguration (settings : CourtSettings)
    (snapshot : LimitlessCourtSnapshot M R) : Bool :=
  snapshot.threshold = settings.threshold
    && snapshot.minWeight = settings.minWeight
    && snapshot.minProviderCount = settings.minProviderCount
    && snapshot.maxOutlierDeviation = settings.maxOutlierDeviation

/-- The profile that an entry describes. -/
def profileOf (host : Host) (oracle : LimitlessCourtSnapshotOracle M)
    (id : String) (weight : ℚ) : OracleProfileState M where
  id := id
  provider := normalizeProvider host (some oracle.provider) id
  weight := weight
  active := oracle.active
  metadata := oracle.metadata

/-- One turn of the loop over the oracles. A registered profile has its
provider before the weight is looked at. -/
def importOracle (host : Host) (oracle : LimitlessCourtSnapshotOracle M)
    (court : Court M R) : Court M R × Except String Unit :=
  match court.settings.normalizeOracleId oracle.id with
  | .error e => (court, .error e)
  | .ok id =>
    match court.oracleRegistry.get id with
    | none =>
      match normalizeWeight oracle.weight with
      | .error e => (court, .error e)
      | .ok weight =>
        ({ court with
            oracleRegistry := court.oracleRegistry.set id
              (profileOf host oracle id weight) }, .ok ())
    | some existing =>
      let existing := { existing with
        provider := normalizeProvider host (some oracle.provider) id }
      match normalizeWeight oracle.weight with
      | .error e =>
        ({ court with
            oracleRegistry := court.oracleRegistry.set id existing },
          .error e)
      | .ok weight =>
        ({ court with
            oracleRegistry := court.oracleRegistry.set id
              { existing with
                weight := weight
                active := oracle.active
                metadata := oracle.metadata } }, .ok ())

/-- A loop that ends at its first error. -/
def untilError {α : Type}
    (turn : α → Court M R → Court M R × Except String Unit) :
    List α → Court M R → Court M R × Except String Unit
  | [], court => (court, .ok ())
  | x :: rest, court =>
    match turn x court with
    | (court, .error e) => (court, .error e)
    | (court, .ok ()) => untilError turn rest court

/-- The commitments of a settlement, among the registered oracles. -/
def readCommitments (host : Host) (settings : CourtSettings)
    (known : String → Bool) (entries : List (SnapshotCommitment M)) :
    Except String (Dict String (OracleCommitmentState M)) :=
  entries.foldlM (fun commitments entry => do
    let oracleId ← settings.normalizeOracleId entry.oracleId
    if !known oracleId then
      .error ("Snapshot references unknown oracle: " ++ oracleId)
    else
      let commitmentHash ← fromHex host entry.commitmentHashHex
      if commitmentHash.length ≠ HASH_BYTE_LENGTH then
        .error ("Invalid commitment hash length for oracle " ++ oracleId)
      else
        return commitments.set oracleId
          ⟨commitmentHash, entry.committedAt, entry.attestation⟩)
    Dict.empty

/-- The settlement that an entry describes. -/
def readSettlement (host : Host) (settings : CourtSettings)
    (known : String → Bool)
    (settlement : LimitlessCourtSnapshotSettlement M R) :
    Except String (String × SettlementState M R) := do
  let settlementId ← normalizeSettlementId settlement.settlementId
  let commitments ←
    readCommitments host settings known settlement.commitments
  return (settlementId,
    { commitments := commitments
      settled := settlement.settled
      finalizing := false
      verdict := settlement.verdict
      settlementResult := settlement.settlementResult })

/-- One turn of the loop over the settlements. -/
def importSettlement (host : Host)
    (settlement : LimitlessCourtSnapshotSettlement M R)
    (court : Court M R) : Court M R × Except String Unit :=
  match readSettlement host court.settings court.oracleRegistry.has
      settlement with
  | .error e => (court, .error e)
  | .ok (settlementId, state) =>
    ({ court with
        settlements := court.settlements.set settlementId state }, .ok ())

/-- The court as the import leaves it, and whether the import throws. -/
def importSnapshot (host : Host) (snapshot : LimitlessCourtSnapshot M R)
    (replace : Bool) (court : Court M R) :
    Court M R × Except String Unit :=
  if snapshot.version ≠ SNAPSHOT_VERSION then
    (court, .error ("Unsupported snapshot version: "
      ++ host.numberText snapshot.version))
  else if !sameConfiguration court.settings snapshot then
    (court, .error
      "Snapshot configuration does not match court configuration")
  else
    let court :=
      if replace then { court with settlements := Dict.empty } else court
    match untilError (importOracle host) snapshot.oracles court with
    | (court, .error e) => (court, .error e)
    | (court, .ok ()) =>
      untilError (importSettlement host) snapshot.settlements court

-- ==== writes

/-- What the oracles of a snapshot write until one is in error: an entry of a
known oracle with a bad weight writes its provider. -/
def oracleWrites (host : Host) (settings : CourtSettings)
    (known : String → Option (OracleProfileState M)) :
    List (LimitlessCourtSnapshotOracle M) →
      List (String × OracleProfileState M) × Except String Unit
  | [] => ([], .ok ())
  | oracle :: rest =>
    match settings.normalizeOracleId oracle.id with
    | .error e => ([], .error e)
    | .ok id =>
      match normalizeWeight oracle.weight with
      | .error e =>
        ((known id).toList.map fun existing => (id, { existing with
          provider := normalizeProvider host (some oracle.provider) id }),
          .error e)
      | .ok weight =>
        let writes := oracleWrites host settings
          (Function.update known id (some (profileOf host oracle id
            weight))) rest
        ((id, profileOf host oracle id weight) :: writes.1, writes.2)

/-- What the settlements of a snapshot write until one is in error. -/
def settlementWrites (host : Host) (settings : CourtSettings)
    (known : String → Bool) :
    List (LimitlessCourtSnapshotSettlement M R) →
      List (String × SettlementState M R) × Except String Unit
  | [] => ([], .ok ())
  | settlement :: rest =>
    match readSettlement host settings known settlement with
    | .error e => ([], .error e)
    | .ok w =>
      let writes := settlementWrites host settings known rest
      (w :: writes.1, writes.2)

theorem importOracles_eq (oracles : List (LimitlessCourtSnapshotOracle M)) :
    ∀ {court : Court M R}, Registered court →
      untilError (importOracle host) oracles court
        = ({ court with
              oracleRegistry := court.oracleRegistry.overlay
                (oracleWrites host court.settings court.oracleRegistry.get
                  oracles).1 },
            (oracleWrites host court.settings court.oracleRegistry.get
              oracles).2) := by
  induction oracles with
  | nil => exact fun _ => rfl
  | cons oracle rest ih =>
    intro court hreg
    rw [untilError, importOracle, oracleWrites]
    cases hid : court.settings.normalizeOracleId oracle.id with
    | error e => rfl
    | ok id =>
      dsimp only
      have hupdate : ∀ p, (court.oracleRegistry.set id p).get
          = Function.update court.oracleRegistry.get id (some p) := by
        intro p
        funext j
        by_cases hj : j = id
        · subst hj
          rw [Dict.get_set_self, Function.update_self]
        · rw [Dict.get_set_ne _ _ hj, Function.update_of_ne hj]
      cases hget : court.oracleRegistry.get id with
      | none =>
        dsimp only
        cases hweight : normalizeWeight oracle.weight with
        | error e => rfl
        | ok weight =>
          have hreg' : Registered { court with
              oracleRegistry := court.oracleRegistry.set id
                (profileOf host oracle id weight) } :=
            registered_set hreg rfl
          dsimp only
          rw [ih hreg']
          dsimp only
          rw [hupdate]
          rfl
      | some existing =>
        have hsame := hreg id existing hget
        dsimp only
        cases hweight : normalizeWeight oracle.weight with
        | error e => rfl
        | ok weight =>
          have hreg' : Registered { court with
              oracleRegistry := court.oracleRegistry.set id
                { existing with
                  provider :=
                    normalizeProvider host (some oracle.provider) id
                  weight := weight
                  active := oracle.active
                  metadata := oracle.metadata } } :=
            registered_set hreg hsame
          dsimp only
          rw [ih hreg']
          dsimp only
          rw [hupdate, hsame]
          rfl

theorem importSettlements_eq
    (settlements : List (LimitlessCourtSnapshotSettlement M R)) :
    ∀ {court : Court M R}, untilError (importSettlement host) settlements court
        = ({ court with
              settlements := court.settlements.overlay
                (settlementWrites host court.settings
                  court.oracleRegistry.has settlements).1 },
            (settlementWrites host court.settings court.oracleRegistry.has
              settlements).2) := by
  induction settlements with
  | nil => exact rfl
  | cons settlement rest ih =>
    intro court
    rw [untilError, importSettlement, settlementWrites]
    cases readSettlement host court.settings court.oracleRegistry.has
        settlement with
    | error e => rfl
    | ok w =>
      dsimp only
      rw [ih]
      rfl

/-- The oracles of a snapshot, laid over those of a court. -/
def mergedOracles (host : Host) (snapshot : LimitlessCourtSnapshot M R)
    (court : Court M R) : Dict String (OracleProfileState M) :=
  court.oracleRegistry.overlay (oracleWrites host court.settings
    court.oracleRegistry.get snapshot.oracles).1

/-- What a snapshot writes to the settlements of a court. -/
def writtenSettlements (host : Host) (snapshot : LimitlessCourtSnapshot M R)
    (court : Court M R) :
    List (String × SettlementState M R) × Except String Unit :=
  match (oracleWrites host court.settings court.oracleRegistry.get
      snapshot.oracles).2 with
  | .error e => ([], .error e)
  | .ok () => settlementWrites host court.settings
      (mergedOracles host snapshot court).has snapshot.settlements

/-- The version and the configuration of a snapshot are the court's. -/
def Fits (court : Court M R) (snapshot : LimitlessCourtSnapshot M R) : Prop :=
  snapshot.version = SNAPSHOT_VERSION
    ∧ sameConfiguration court.settings snapshot = true

variable (host) in
theorem importSnapshot_misfit {snapshot : LimitlessCourtSnapshot M R}
    (h : ¬ Fits court snapshot) (replace : Bool) :
    ∃ e, importSnapshot host snapshot replace court = (court, .error e) := by
  unfold importSnapshot
  split
  · exact ⟨_, rfl⟩
  next hversion =>
    rw [not_not] at hversion
    have hconfiguration : sameConfiguration court.settings snapshot = false :=
      eq_false_of_ne_true fun hc => h ⟨hversion, hc⟩
    rw [hconfiguration]
    exact ⟨_, rfl⟩

/-- The two loops, as one. -/
theorem importLoops_eq (snapshot : LimitlessCourtSnapshot M R)
    (hreg : Registered court) :
    (match untilError (importOracle host) snapshot.oracles court with
      | (court, .error e) => (court, .error e)
      | (court, .ok ()) =>
        untilError (importSettlement host) snapshot.settlements court)
      = ({ court with
            oracleRegistry := mergedOracles host snapshot court
            settlements := court.settlements.overlay
              (writtenSettlements host snapshot court).1 },
          (writtenSettlements host snapshot court).2) := by
  rw [importOracles_eq snapshot.oracles hreg]
  unfold writtenSettlements mergedOracles
  cases (oracleWrites host court.settings court.oracleRegistry.get
      snapshot.oracles).2 with
  | error e => rfl
  | ok u => exact importSettlements_eq snapshot.settlements

/-- An import lays what it reads over what is there. -/
theorem importSnapshot_eq {snapshot : LimitlessCourtSnapshot M R}
    (hreg : Registered court) (h : Fits court snapshot) (replace : Bool) :
    importSnapshot host snapshot replace court
      = ({ court with
            oracleRegistry := mergedOracles host snapshot court
            settlements := (if replace then Dict.empty
              else court.settlements).overlay
                (writtenSettlements host snapshot court).1 },
          (writtenSettlements host snapshot court).2) := by
  unfold importSnapshot
  rw [if_neg (not_not.mpr h.1), h.2]
  cases replace with
  | true =>
    have hreg' : Registered
        ({ court with settlements := Dict.empty } : Court M R) := hreg
    exact importLoops_eq snapshot hreg'
  | false => exact importLoops_eq snapshot hreg

-- ==== outcomes

/-- The courts have the same oracles and the same settlements. -/
def SameCourt (a b : Court M R) : Prop :=
  (∀ id, a.oracleRegistry.get id = b.oracleRegistry.get id)
    ∧ ∀ id, a.settlements.get id = b.settlements.get id

/-- What an import of the snapshot writes up to its end or its error is what
the court has already; one that replaces has to write all of it. -/
def Restates (host : Host) (snapshot : LimitlessCourtSnapshot M R)
    (replace : Bool) (court : Court M R) : Prop :=
  (∀ id oracle, Dict.lastWrite id (oracleWrites host court.settings
      court.oracleRegistry.get snapshot.oracles).1 = some oracle →
    court.oracleRegistry.get id = some oracle)
  ∧ if replace then ∀ id, Dict.lastWrite id
        (writtenSettlements host snapshot court).1 = court.settlements.get id
    else ∀ id st, Dict.lastWrite id
        (writtenSettlements host snapshot court).1 = some st →
      court.settlements.get id = some st

theorem importSnapshot_same_iff (snapshot : LimitlessCourtSnapshot M R)
    (replace : Bool) (hreg : Registered court) :
    SameCourt (importSnapshot host snapshot replace court).1 court
      ↔ (Fits court snapshot → Restates host snapshot replace court) := by
  by_cases hfits : Fits court snapshot
  · rw [importSnapshot_eq hreg hfits]
    unfold SameCourt Restates mergedOracles
    dsimp only
    rw [Dict.get_overlay_iff, forall_prop_of_true hfits]
    refine and_congr_right fun _ => ?_
    cases replace with
    | true => simp [Dict.get_overlay]
    | false => exact Dict.get_overlay_iff
  · obtain ⟨e, he⟩ := importSnapshot_misfit host hfits replace
    rw [he]
    exact ⟨fun _ h => absurd h hfits, fun _ => ⟨fun _ => rfl, fun _ => rfl⟩⟩

/-- The profiles that a snapshot describes, under their ids. -/
def describedOracles (host : Host) (settings : CourtSettings)
    (oracles : List (LimitlessCourtSnapshotOracle M)) :
    List (String × OracleProfileState M) :=
  oracles.filterMap fun oracle =>
    match settings.normalizeOracleId oracle.id with
    | .ok id => some (id, profileOf host oracle id oracle.weight)
    | .error _ => none

theorem normalizeWeight_ok {x y : ℚ} (h : normalizeWeight x = .ok y) :
    y = x ∧ 0 < x := by
  unfold normalizeWeight at h
  split at h
  · cases h
  next hpos => exact ⟨(Except.ok.inj h).symm, not_le.mp hpos⟩

theorem oracleWrites_ok {settings : CourtSettings}
    (oracles : List (LimitlessCourtSnapshotOracle M)) :
    ∀ {known : String → Option (OracleProfileState M)},
      (oracleWrites host settings known oracles).2 = .ok () →
      (oracleWrites host settings known oracles).1
        = describedOracles host settings oracles := by
  induction oracles with
  | nil => exact fun _ => rfl
  | cons oracle rest ih =>
    intro known h
    unfold describedOracles
    rw [oracleWrites] at h ⊢
    rw [List.filterMap_cons]
    cases hid : settings.normalizeOracleId oracle.id with
    | error e =>
      rw [hid] at h
      cases h
    | ok id =>
      rw [hid] at h
      cases hweight : normalizeWeight oracle.weight with
      | error e =>
        rw [hweight] at h
        cases h
      | ok weight =>
        rw [hweight] at h
        obtain ⟨rfl, -⟩ := normalizeWeight_ok hweight
        dsimp only at h ⊢
        rw [ih h]
        rfl

/-- The court with the oracles of a snapshot laid over its own. -/
def withOracles (host : Host) (snapshot : LimitlessCourtSnapshot M R)
    (court : Court M R) : Court M R :=
  { court with
    oracleRegistry := court.oracleRegistry.overlay
      (describedOracles host court.settings snapshot.oracles) }

theorem importSnapshot_coverage {snapshot : LimitlessCourtSnapshot M R}
    {replace : Bool} (hreg : Registered court)
    (h : (importSnapshot host snapshot replace court).2 = .ok ()) :
    validateOracleRegistryCoverage host
        (importSnapshot host snapshot replace court).1
      = validateOracleRegistryCoverage host
        (withOracles host snapshot court) := by
  by_cases hfits : Fits court snapshot
  · rw [importSnapshot_eq hreg hfits] at h ⊢
    have hwritten : (oracleWrites host court.settings
        court.oracleRegistry.get snapshot.oracles).2 = .ok () := by
      dsimp only at h
      unfold writtenSettlements at h
      split at h
      · cases h
      next hok => exact hok
    unfold mergedOracles withOracles
    rw [oracleWrites_ok snapshot.oracles hwritten]
    rfl
  · obtain ⟨e, he⟩ := importSnapshot_misfit host hfits replace
    rw [he] at h
    cases h

end KamiyoProtocol.LimitlessCourt
