/-
What one action does to one settlement.

Seen from a settlement, the system is its state and the calls of `finalize`
that await its verdict callback. A `Move` is what an action does to these two,
guards included, and `courtStep_move` says that every step is one for every
settlement; the registry enters a move through what an oracle was when it
revealed.
-/
import KamiyoProtocol.Lib.Exec
import KamiyoProtocol.Lib.Keyed
import KamiyoProtocol.LimitlessCourt.Verdict

namespace KamiyoProtocol.LimitlessCourt

open Ecma (Dict trim trim_trim)
open Exec

variable {M R : Type} {host : Host} {settings : CourtSettings}
  {court court' : Court M R} {s s' : System M R} {id : String} {now : ℚ}

-- ==== the view

def stateOf (s : System M R) (id : String) : SettlementState M R :=
  (s.court.settlements.get id).getD noSettlement

def callsOf (s : System M R) (id : String) : List (Finalization M) :=
  s.awaiting.filter (·.settlementId = id)

/-- The settlement with `c` as the commitment of an oracle. -/
def recorded (st : SettlementState M R) (o : String)
    (c : OracleCommitmentState M) : SettlementState M R :=
  { st with commitments := st.commitments.set o c }

/-- The action reveals a score of the settlement. -/
def RevealsFor (id : String) : CourtAction M R → Prop
  | .submitAttestation input _ _ => trim input.settlementId = id
  | _ => False

/-- The verdict callback of a call for the settlement succeeds. -/
def SucceedsFor (id : String) : CourtAction M R → Prop
  | .onVerdict settlementId _ (.ok _) => settlementId = id
  | _ => False

instance (id : String) (a : CourtAction M R) :
    Decidable (SucceedsFor id a) := by
  unfold SucceedsFor
  split <;> infer_instance

/-- What `finalize` makes of a settlement, and the calls it adds. -/
inductive Started (host : Host) (settings : CourtSettings) (id : String)
    (now : ℚ) (st : SettlementState M R) :
    SettlementState M R → List (Finalization M) → Prop
  | idle : Started host settings id now st st []
  | call (verdict : LimitlessCourtVerdict M) (hsettled : st.settled = false)
      (hidle : st.finalizing = false)
      (hquorum : IsQuorum host settings (getAttestations host st))
      (hbuilt : buildVerdict host settings now id st = .ok verdict) :
      Started host settings id now st { st with finalizing := true }
        [⟨id, buildProgress host settings id st, verdict⟩]

/-- What an action makes of a settlement and the calls for it. -/
inductive Move (host : Host) (settings : CourtSettings) (id : String)
    (a : CourtAction M R) (st : SettlementState M R)
    (calls : List (Finalization M)) :
    SettlementState M R → List (Finalization M) → Prop
  | stays (hreveal : ¬ RevealsFor id a) (hsucceed : ¬ SucceedsFor id a) :
      Move host settings id a st calls st calls
  | commits (input : LimitlessCourtCommitmentSubmission) (now : ℚ)
      (o : String) (committedAt : ℚ) (ha : a = .submitCommitment input now)
      (hid : trim input.settlementId = id)
      (ho : settings.normalizeOracleId input.oracleId = .ok o)
      (hsettled : st.settled = false) (hidle : st.finalizing = false)
      (hnew : st.commitments.get o = none) :
      Move host settings id a st calls
        (recorded st o ⟨input.commitmentHash, committedAt, none⟩) calls
  | reveals (input : LimitlessCourtAttestationSubmission M)
      (now verdictNow : ℚ) (o : String) (c : OracleCommitmentState M)
      (attestation : LimitlessCourtAttestation M)
      (st' : SettlementState M R) (new : List (Finalization M))
      (ha : a = .submitAttestation input now verdictNow)
      (hid : trim input.settlementId = id)
      (ho : settings.normalizeOracleId input.oracleId = .ok o)
      (hsettled : st.settled = false)
      (hc : st.commitments.get o = some c) (hfirst : c.attestation = none)
      (horacle : attestation.oracleId = o)
      (hscore : attestation.score = input.score)
      (hconfidence : attestation.confidence = input.confidence)
      (hevidence : normalizeEvidenceHash host input.evidenceHash
        = .ok attestation.evidenceHash)
      (hhash : computeLimitlessCourtCommitmentHash host
        settings.normalizeOracleId id o attestation.score
        attestation.confidence attestation.evidenceHash input.salt
          = .ok c.commitmentHash)
      (hstarted : Started host settings id verdictNow
        (recorded st o { c with attestation := some attestation }) st' new) :
      Move host settings id a st calls st' (calls ++ new)
  | finalizes (settlementId : String) (now : ℚ) (st' : SettlementState M R)
      (new : List (Finalization M)) (ha : a = .finalize settlementId now)
      (hstarted : Started host settings id now st st' new) :
      Move host settings id a st calls st' (calls ++ new)
  | rejects (i j : Nat) (e : String) (call : Finalization M)
      (ha : a = .onVerdict id i (.error e))
      (hcall : calls[j]? = some call) :
      Move host settings id a st calls { st with finalizing := false }
        (calls.eraseIdx j)
  | resolves (i j : Nat) (r : R) (call : Finalization M)
      (ha : a = .onVerdict id i (.ok r)) (hcall : calls[j]? = some call) :
      Move host settings id a st calls
        { st with
          settled := true
          finalizing := false
          verdict := some call.verdict
          settlementResult := some r } (calls.eraseIdx j)

-- ==== registry

/-- Every profile is registered under its id. -/
def Registered (court : Court M R) : Prop :=
  ∀ k oracle, court.oracleRegistry.get k = some oracle → oracle.id = k

theorem covered_ok (h : covered host court = .ok court') : court' = court := by
  obtain ⟨-, -, h⟩ := bind_ok.mp h
  exact (Except.ok.inj h).symm

theorem registered_set {k : String} {oracle : OracleProfileState M}
    (h : Registered court) (hid : oracle.id = k) :
    Registered { court with
      oracleRegistry := court.oracleRegistry.set k oracle } := by
  intro j oracle' hj
  by_cases hjk : j = k
  · subst hjk
    rw [Dict.get_set_self] at hj
    cases hj
    exact hid
  · rw [Dict.get_set_ne _ _ hjk] at hj
    exact h j oracle' hj

/-- What a registration or a change of an oracle leaves alone. -/
structure SameBook (court court' : Court M R) : Prop where
  settings : court'.settings = court.settings
  settlements : court'.settlements = court.settlements
  registered : Registered court → Registered court'

theorem addOracle_same {oracle : LimitlessCourtOracle M}
    (h : addOracle host oracle court = .ok court') :
    SameBook court court' := by
  obtain ⟨k, -, h⟩ := bind_ok.mp h
  split at h
  · cases h
  · obtain ⟨weight, -, h⟩ := bind_ok.mp h
    rw [← Except.ok.inj h]
    exact ⟨rfl, rfl, fun hreg => registered_set hreg rfl⟩

theorem registerOracle_same {oracle : LimitlessCourtOracle M}
    (h : registerOracle host oracle court = .ok court') :
    SameBook court court' := by
  obtain ⟨mid, hmid, h⟩ := bind_ok.mp h
  rw [covered_ok h]
  exact addOracle_same hmid

variable {oracleId : String}

theorem changeOracle_same
    {change : OracleProfileState M → Except String (OracleProfileState M)}
    (hchange : ∀ oracle oracle', change oracle = .ok oracle' →
      oracle'.id = oracle.id)
    (h : changeOracle host oracleId change court = .ok court') :
    SameBook court court' := by
  obtain ⟨k, -, h⟩ := bind_ok.mp h
  split at h
  · cases h
  next oracle hget =>
    obtain ⟨oracle', horacle, h⟩ := bind_ok.mp h
    rw [covered_ok h]
    refine ⟨rfl, rfl, fun hreg => registered_set hreg ?_⟩
    rw [hchange oracle oracle' horacle]
    exact hreg k oracle hget

theorem setOracleActive_same {active : Bool}
    (h : setOracleActive host oracleId active court = .ok court') :
    SameBook court court' := by
  refine changeOracle_same ?_ h
  intro oracle oracle' horacle
  rw [← Except.ok.inj horacle]

theorem updateOracleWeight_same {weight : ℚ}
    (h : updateOracleWeight host oracleId weight court = .ok court') :
    SameBook court court' := by
  refine changeOracle_same ?_ h
  intro oracle oracle' horacle
  obtain ⟨weight', -, hset⟩ := bind_ok.mp horacle
  rw [← Except.ok.inj hset]

theorem requireActiveOracle_ok
    {oracle : OracleProfileState M} (hreg : Registered court)
    (h : requireActiveOracle oracleId court = .ok oracle) :
    oracle.id = oracleId ∧ oracle.active = true := by
  unfold requireActiveOracle at h
  split at h
  · cases h
  next found hfound =>
    split at h
    next hactive =>
      rw [← Except.ok.inj h]
      exact ⟨hreg oracleId found hfound, hactive⟩
    · cases h

-- ==== entries

theorem normalizeSettlementId_ok {x y : String}
    (h : normalizeSettlementId x = .ok y) : y = trim x := by
  unfold normalizeSettlementId at h
  dsimp only at h
  split at h
  · cases h
  · exact (Except.ok.inj h).symm

theorem normalizeSettlementId_again {x y : String}
    (h : normalizeSettlementId x = .ok y) :
    normalizeSettlementId y = .ok y := by
  rw [normalizeSettlementId_ok h]
  unfold normalizeSettlementId at h ⊢
  dsimp only at h ⊢
  split at h
  · cases h
  next hne => rw [trim_trim, if_neg hne]

/-- The court has changed in its settlement `id` only, to `st`. -/
structure Writes (court court' : Court M R) (id : String)
    (st : SettlementState M R) : Prop where
  settings : court'.settings = court.settings
  registry : court'.oracleRegistry = court.oracleRegistry
  here : court'.settlements.get id = some st
  elsewhere : ∀ j, j ≠ id → court'.settlements.get j = court.settlements.get j

theorem writes_set (court : Court M R) (id : String)
    (st : SettlementState M R) :
    Writes court
      { court with settlements := court.settlements.set id st } id st where
  settings := rfl
  registry := rfl
  here := Dict.get_set_self _ _ _
  elsewhere _ hj := Dict.get_set_ne _ _ hj

variable {st : SettlementState M R}

theorem writes_none
    (h : court.settlements.get id = some st) : Writes court court id st :=
  ⟨rfl, rfl, h, fun _ _ => rfl⟩

theorem Writes.after {mid : Court M R} {st st' : SettlementState M R}
    (h : Writes court mid id st) (h' : Writes mid court' id st') :
    Writes court court' id st' where
  settings := h'.settings.trans h.settings
  registry := h'.registry.trans h.registry
  here := h'.here
  elsewhere j hj := (h'.elsewhere j hj).trans (h.elsewhere j hj)

theorem Writes.registered
    (h : Writes court court' id st) (hreg : Registered court) :
    Registered court' := by
  intro k oracle hk
  rw [h.registry] at hk
  exact hreg k oracle hk

/-- What `finalize` does when it does not throw. -/
theorem finalize_started {settlementId : String} {x : Court M R × Finalized M R}
    (h : finalize host settlementId now court = .ok x) :
    ∃ id st st' new, normalizeSettlementId settlementId = .ok id
      ∧ court.settlements.get id = some st
      ∧ Started host court.settings id now st st' new
      ∧ Writes court x.1 id st'
      ∧ ∀ awaiting, joined x awaiting = ⟨x.1, awaiting ++ new⟩ := by
  obtain ⟨id, hid, h⟩ := bind_ok.mp h
  cases hget : court.settlements.get id with
  | none =>
    rw [hget] at h
    cases h
  | some st =>
    rw [hget] at h
    dsimp only at h
    split at h
    · -- settled already
      rw [← Except.ok.inj h]
      exact ⟨id, st, st, [], hid, hget, .idle, writes_none hget,
        fun awaiting => by simp [joined]⟩
    next hsettled =>
      split at h
      · -- no quorum, or another call is at it
        rw [← Except.ok.inj h]
        exact ⟨id, st, st, [], hid, hget, .idle, writes_none hget,
          fun awaiting => by simp [joined]⟩
      next hgo =>
        obtain ⟨verdict, hverdict, h⟩ := bind_ok.mp h
        rw [not_or] at hgo
        have hquorum : IsQuorum host court.settings
            (getAttestations host st) :=
          buildProgress_quorum.mp (by simpa using hgo.1)
        rw [← Except.ok.inj h]
        refine ⟨id, st, _, _, hid, hget,
          .call verdict (by simpa using hsettled)
            (by simpa using hgo.2) hquorum ?_,
          writes_set court id _, fun awaiting => rfl⟩
        rw [← hverdict]
        exact buildVerdict_congr rfl

/-- What an accepted commitment does. -/
theorem submitCommitment_ok {input : LimitlessCourtCommitmentSubmission}
    {x : Court M R × LimitlessCourtProgress} (hreg : Registered court)
    (h : submitCommitment host input now court = .ok x) :
    ∃ o committedAt, court.settings.normalizeOracleId input.oracleId = .ok o
      ∧ ((court.settlements.get (trim input.settlementId)).getD
          noSettlement).settled = false
      ∧ ((court.settlements.get (trim input.settlementId)).getD
          noSettlement).finalizing = false
      ∧ ((court.settlements.get (trim input.settlementId)).getD
          noSettlement).commitments.get o = none
      ∧ Writes court x.1 (trim input.settlementId)
          (recorded ((court.settlements.get
            (trim input.settlementId)).getD noSettlement) o
            ⟨input.commitmentHash, committedAt, none⟩) := by
  obtain ⟨id, hid, o, ho, hash, hhash, oracle, horacle, hrest⟩ := bind_ok₄.mp h
  obtain ⟨hoid, -⟩ := requireActiveOracle_ok hreg horacle
  have hhash' : hash = input.commitmentHash := by
    unfold normalizeCommitmentHash at hhash
    split at hhash
    · cases hhash
    · exact (Except.ok.inj hhash).symm
  have hid' := normalizeSettlementId_ok hid
  subst hid' hhash' hoid
  dsimp only at hrest
  split at hrest
  · cases hrest
  next hsettled =>
    split at hrest
    · cases hrest
    next hidle =>
      split at hrest
      · cases hrest
      next hnew =>
        rw [← Except.ok.inj hrest]
        refine ⟨oracle.id, _, ho, by simpa using hsettled,
          by simpa using hidle, ?_, writes_set court _ _⟩
        simpa [Dict.has] using hnew

/-- What an accepted reveal does. -/
theorem submitAttestation_ok
    {input : LimitlessCourtAttestationSubmission M} {verdictNow : ℚ}
    {x : Court M R × Finalized M R} (hreg : Registered court)
    (h : submitAttestation host input now verdictNow court = .ok x) :
    ∃ o st c attestation st' new,
      court.settings.normalizeOracleId input.oracleId = .ok o
      ∧ court.settlements.get (trim input.settlementId) = some st
      ∧ st.settled = false ∧ st.commitments.get o = some c
      ∧ c.attestation = none ∧ attestation.oracleId = o
      ∧ attestation.score = input.score
      ∧ attestation.confidence = input.confidence
      ∧ normalizeEvidenceHash host input.evidenceHash
          = .ok attestation.evidenceHash
      ∧ computeLimitlessCourtCommitmentHash host
          court.settings.normalizeOracleId (trim input.settlementId) o
          attestation.score attestation.confidence attestation.evidenceHash
          input.salt = .ok c.commitmentHash
      ∧ Started host court.settings (trim input.settlementId) verdictNow
          (recorded st o { c with attestation := some attestation }) st' new
      ∧ Writes court x.1 (trim input.settlementId) st'
      ∧ ∀ awaiting, joined x awaiting = ⟨x.1, awaiting ++ new⟩ := by
  obtain ⟨id, hid, o, ho, -, -, confidence, hconfidence, h₄⟩ := bind_ok₄.mp h
  obtain ⟨evidenceHash, hevidence, salt, hsalt, oracle, horacle, hrest⟩ :=
    bind_ok₃.mp h₄
  obtain ⟨hoid, -⟩ := requireActiveOracle_ok hreg horacle
  have hconfidence' : confidence = input.confidence := by
    unfold normalizeConfidence at hconfidence
    split at hconfidence
    · cases hconfidence
    · exact (Except.ok.inj hconfidence).symm
  have hsalt' : salt = input.salt := by
    unfold normalizeSalt at hsalt
    split at hsalt
    · cases hsalt
    · exact (Except.ok.inj hsalt).symm
  have hid' := normalizeSettlementId_ok hid
  have hagain := normalizeSettlementId_again hid
  subst hid' hsalt' hconfidence' hoid
  split at hrest
  · cases hrest
  next st hst =>
    split at hrest
    · cases hrest
    next hsettled =>
      split at hrest
      · cases hrest
      next c hc =>
        split at hrest
        · cases hrest
        next hfirst =>
          obtain ⟨expectedHash, hexpected, hlast⟩ := bind_ok.mp hrest
          split at hlast
          · cases hlast
          next hsame =>
            obtain ⟨id, st₁, st', new, hid₁, hget, hstarted,
              hwrites, hjoined⟩ := finalize_started hlast
            rw [hagain] at hid₁
            cases hid₁
            rw [Dict.get_set_self] at hget
            cases hget
            rw [not_not] at hsame
            exact ⟨oracle.id, st, c, _, st', new, ho, hst,
              by simpa using hsettled, hc, by simpa using hfirst,
              rfl, rfl, rfl, hevidence, hsame ▸ hexpected,
              hstarted, (writes_set court _ _).after hwrites,
              hjoined⟩

variable (host) in
/-- What the outcome of a verdict callback does. -/
theorem afterVerdict_writes {call : Finalization M}
    (hget : court.settlements.get call.settlementId = some st)
    (outcome : Except String R) :
    Writes court (afterVerdict host call outcome court).1 call.settlementId
      (match outcome with
        | .error _ => { st with finalizing := false }
        | .ok r =>
          { st with
            settled := true
            finalizing := false
            verdict := some call.verdict
            settlementResult := some r }) := by
  unfold afterVerdict
  rw [hget]
  cases outcome with
  | error e => exact writes_set court _ _
  | ok r => exact writes_set court _ _

-- ==== steps

theorem Writes.stateOf_here
    {awaiting : List (Finalization M)} (h : Writes court court' id st) :
    stateOf ⟨court', awaiting⟩ id = st := by
  rw [stateOf, h.here]
  rfl

theorem Writes.stateOf_ne {j : String}
    (h : Writes s.court court' id st) (hj : j ≠ id)
    (awaiting : List (Finalization M)) :
    stateOf ⟨court', awaiting⟩ j = stateOf s j := by
  rw [stateOf, h.elsewhere j hj]
  rfl

theorem Started.calls {st st' : SettlementState M R}
    {new : List (Finalization M)}
    (h : Started host settings id now st st' new) (j : String) :
    new.filter (·.settlementId = j) = if id = j then new else [] := by
  cases h with
  | idle => simp
  | call verdict hsettled hidle hquorum hbuilt =>
    by_cases hj : id = j
    · simp [hj]
    · simp [hj]

theorem SameBook.moves {a : CourtAction M R}
    (h : SameBook s.court court') (hreveal : ∀ id, ¬ RevealsFor id a)
    (hsucceed : ∀ id, ¬ SucceedsFor id a) (hreg : Registered s.court) :
    court'.settings = s.court.settings ∧ Registered court'
      ∧ ∀ id, Move host s.court.settings id a (stateOf s id) (callsOf s id)
        (stateOf ⟨court', s.awaiting⟩ id)
        (callsOf ⟨court', s.awaiting⟩ id) := by
  refine ⟨h.settings, h.registered hreg, fun id => ?_⟩
  have hstate : stateOf ⟨court', s.awaiting⟩ id = stateOf s id := by
    rw [stateOf, h.settlements]
    rfl
  rw [hstate]
  exact .stays (hreveal id) (hsucceed id)

theorem courtStep_move {a : CourtAction M R} (hreg : Registered s.court)
    (hlive : ∀ id, callsOf s id ≠ [] → (stateOf s id).finalizing = true)
    (h : courtStep host a s = .ok s') :
    s'.court.settings = s.court.settings ∧ Registered s'.court
      ∧ ∀ id, Move host s.court.settings id a (stateOf s id) (callsOf s id)
        (stateOf s' id) (callsOf s' id) := by
  cases a with
  | submitCommitment input now =>
    obtain ⟨x, hx, hs'⟩ := bind_ok.mp h
    obtain rfl := Except.ok.inj hs'
    obtain ⟨o, committedAt, ho, hsettled, hidle, hnew, hwrites⟩ :=
      submitCommitment_ok hreg hx
    refine ⟨hwrites.settings, hwrites.registered hreg, fun id => ?_⟩
    by_cases hid : id = trim input.settlementId
    · subst hid
      rw [hwrites.stateOf_here]
      exact .commits input now o committedAt rfl rfl ho hsettled hidle hnew
    · rw [hwrites.stateOf_ne hid]
      exact .stays (fun h => h) (fun h => h)
  | submitAttestation input now verdictNow =>
    obtain ⟨x, hx, hs'⟩ := bind_ok.mp h
    obtain rfl := Except.ok.inj hs'
    obtain ⟨o, st, c, attestation, st', new, ho, hst, hsettled, hc, hfirst,
      horacle, hscore, hconfidence, hevidence, hhash, hstarted, hwrites,
      hjoined⟩ := submitAttestation_ok hreg hx
    rw [hjoined]
    refine ⟨hwrites.settings, hwrites.registered hreg, fun id => ?_⟩
    have hcalls : callsOf ⟨x.1, s.awaiting ++ new⟩ id = callsOf s id
        ++ if trim input.settlementId = id then new else [] := by
      rw [callsOf, List.filter_append, hstarted.calls]
      rfl
    rw [hcalls]
    by_cases hid : id = trim input.settlementId
    · subst hid
      rw [hwrites.stateOf_here, if_pos rfl]
      have hstate : stateOf s (trim input.settlementId) = st := by
        rw [stateOf, hst]
        rfl
      rw [hstate]
      exact .reveals input now verdictNow o c attestation st' new rfl rfl
        ho hsettled hc hfirst horacle hscore hconfidence hevidence hhash
        hstarted
    · rw [hwrites.stateOf_ne hid, if_neg (Ne.symm hid), List.append_nil]
      exact .stays (fun h => hid h.symm) (fun h => h)
  | finalize settlementId now =>
    obtain ⟨x, hx, hs'⟩ := bind_ok.mp h
    obtain rfl := Except.ok.inj hs'
    obtain ⟨sid, st, st', new, -, hst, hstarted, hwrites, hjoined⟩ :=
      finalize_started hx
    rw [hjoined]
    refine ⟨hwrites.settings, hwrites.registered hreg, fun id => ?_⟩
    have hcalls : callsOf ⟨x.1, s.awaiting ++ new⟩ id = callsOf s id
        ++ if sid = id then new else [] := by
      rw [callsOf, List.filter_append, hstarted.calls]
      rfl
    rw [hcalls]
    by_cases hid : id = sid
    · subst hid
      rw [hwrites.stateOf_here, if_pos rfl]
      have hstate : stateOf s id = st := by
        rw [stateOf, hst]
        rfl
      rw [hstate]
      exact .finalizes settlementId now st' new rfl hstarted
    · rw [hwrites.stateOf_ne hid, if_neg (Ne.symm hid), List.append_nil]
      exact .stays (fun h => h) (fun h => h)
  | onVerdict settlementId i outcome =>
    dsimp only [courtStep] at h
    split at h
    · cases h
    next call hcall =>
      split at h
      next hfor =>
        obtain rfl := Except.ok.inj h
        subst hfor
        obtain ⟨j, hj, herase⟩ := Keyed.filter_eraseIdx_pos
          (p := fun c => decide (c.settlementId = call.settlementId))
          hcall (by simp)
        -- the settlement of a call in flight is there
        have hfinalizing := hlive call.settlementId
          (fun hnone => by
            rw [callsOf] at hnone
            rw [hnone] at hj
            cases hj)
        obtain ⟨st, hst⟩ : ∃ st, s.court.settlements.get
            call.settlementId = some st := by
          cases hget : s.court.settlements.get call.settlementId with
          | none =>
            rw [stateOf, hget] at hfinalizing
            cases hfinalizing
          | some st => exact ⟨st, rfl⟩
        have hwrites := afterVerdict_writes host hst outcome
        have hstate : stateOf s call.settlementId = st := by
          rw [stateOf, hst]
          rfl
        refine ⟨hwrites.settings, hwrites.registered hreg, fun id => ?_⟩
        by_cases hid : id = call.settlementId
        · subst hid
          have hcalls : callsOf ⟨(afterVerdict host call outcome
              s.court).1, s.awaiting.eraseIdx i⟩ call.settlementId
                = (callsOf s call.settlementId).eraseIdx j := herase
          rw [hwrites.stateOf_here, hstate, hcalls]
          cases outcome with
          | error e => exact .rejects i j e call rfl hj
          | ok r => exact .resolves i j r call rfl hj
        · have hcalls : callsOf ⟨(afterVerdict host call outcome
              s.court).1, s.awaiting.eraseIdx i⟩ id = callsOf s id :=
            Keyed.filter_eraseIdx_neg hcall
              (by simpa using Ne.symm hid)
          rw [hwrites.stateOf_ne hid, hcalls]
          refine .stays (fun h => h) ?_
          cases outcome with
          | error e => exact fun h => h
          | ok r => exact fun h => hid h.symm
      · cases h
  | registerOracle oracle =>
    obtain ⟨court, hcourt, hs'⟩ := bind_ok.mp h
    obtain rfl := Except.ok.inj hs'
    exact (registerOracle_same hcourt).moves (fun _ h => h) (fun _ h => h)
      hreg
  | setOracleActive oracleId active =>
    obtain ⟨court, hcourt, hs'⟩ := bind_ok.mp h
    obtain rfl := Except.ok.inj hs'
    exact (setOracleActive_same hcourt).moves (fun _ h => h) (fun _ h => h)
      hreg
  | updateOracleWeight oracleId weight =>
    obtain ⟨court, hcourt, hs'⟩ := bind_ok.mp h
    obtain rfl := Except.ok.inj hs'
    exact (updateOracleWeight_same hcourt).moves (fun _ h => h)
      (fun _ h => h) hreg

end KamiyoProtocol.LimitlessCourt
