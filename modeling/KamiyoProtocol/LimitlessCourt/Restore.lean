/-
What comes back from the snapshot of a court.

`Fit` is what every run keeps of a court, imports that throw included: ids are
normal, weights are positive, commitments are hashes of registered oracles.
The snapshot of a court that is fit is read without an error, entry by entry,
and gives its settlements back as they are; its oracles come with their
providers put into normal form, over those of the importing court
(`importSnapshot_export`).
-/
import KamiyoProtocol.Lib.Double
import KamiyoProtocol.LimitlessCourt.Snapshot

namespace KamiyoProtocol.LimitlessCourt

open Ecma (Dict trim trim_eq isSpace)
open Exec

variable {M R : Type} {host : Host} {settings : CourtSettings}
  {court court' : Court M R} {s s' : System M R} {id : String}

-- ==== texts

/-- `toLowerCase`, of texts in ASCII. -/
def LowersAscii (host : Host) : Prop :=
  ∀ s : String, (∀ c ∈ s.toList, c.toNat < 128) →
    host.toLowerCase s = String.ofList (s.toList.map Char.toLower)

/-- What the normal form of an id is stays so. -/
def Idempotent (normalize : String → Except String String) : Prop :=
  ∀ x y, normalize x = .ok y → normalize y = .ok y

theorem dropWhile_eq_self {p : Char → Bool} {l : List Char}
    (h : ∀ c ∈ l, p c = false) : l.dropWhile p = l := by
  cases l with
  | nil => rfl
  | cons c rest => simp [h c List.mem_cons_self]

theorem trim_solid {s : String} (h : ∀ c ∈ s.toList, isSpace c = false) :
    trim s = s := by
  unfold trim
  rw [dropWhile_eq_self h, dropWhile_eq_self, List.reverse_reverse,
    String.ofList_toList]
  intro c hc
  exact h c (List.mem_reverse.mp hc)

theorem hexDigit_plain : ∀ n < 16, isSpace (hexDigit n) = false
    ∧ (hexDigit n).toNat < 128 ∧ (hexDigit n).toLower = hexDigit n
    ∧ hexDigit n ≠ 'x'
    ∧ ((hexDigit n).isDigit
      || ('a' ≤ hexDigit n && hexDigit n ≤ 'f')) = true := by
  decide

theorem hexValue_hexDigit : ∀ n < 16, hexValue (hexDigit n) = n := by
  decide

theorem isHexDigit_lt {c : Char} (h : isHexDigit c = true) :
    c.toNat < 128 := by
  simp [isHexDigit, Char.isDigit, Char.le_def, UInt32.le_iff_toNat_le] at h
  have hval : c.toNat = c.val.toNat := rfl
  omega

theorem isHexDigit_lower : ∀ n < 128, isHexDigit (Char.ofNat n) = true →
    isHexDigit (Char.ofNat n).toLower = true
      ∧ isSpace (Char.ofNat n).toLower = false
      ∧ (Char.ofNat n).toLower.toLower = (Char.ofNat n).toLower := by
  decide

/-- The digits of bytes in hex. -/
def hexText (value : List UInt8) : List Char :=
  value.flatMap fun b => [hexDigit (b.toNat / 16), hexDigit (b.toNat % 16)]

theorem mem_hexText {value : List UInt8} {c : Char} (h : c ∈ hexText value) :
    ∃ n < 16, c = hexDigit n := by
  obtain ⟨b, -, hc⟩ := List.mem_flatMap.mp h
  have hb := b.toNat_lt
  simp only [List.mem_cons, List.not_mem_nil, or_false] at hc
  rcases hc with rfl | rfl
  · exact ⟨_, by omega, rfl⟩
  · exact ⟨_, by omega, rfl⟩

theorem length_hexText (value : List UInt8) :
    (hexText value).length = 2 * value.length := by
  induction value with
  | nil => rfl
  | cons b rest ih =>
    unfold hexText at ih ⊢
    rw [List.flatMap_cons, List.length_append, ih]
    simp only [List.length_cons, List.length_nil]
    omega

theorem hexBytes_hexText (value : List UInt8) :
    hexBytes (hexText value) = value := by
  induction value with
  | nil => rfl
  | cons b rest ih =>
    unfold hexText at ih ⊢
    rw [List.flatMap_cons, List.cons_append, List.cons_append,
      List.nil_append, hexBytes, ih]
    have hb := b.toNat_lt
    rw [hexValue_hexDigit _ (by omega), hexValue_hexDigit _ (by omega),
      Nat.div_add_mod]
    simp

theorem fromHex_toHex (hlower : LowersAscii host) (value : List UInt8) :
    fromHex host (toHex value) = .ok value := by
  have hplain : ∀ c ∈ hexText value, isSpace c = false ∧ c.toNat < 128
      ∧ c.toLower = c ∧ c ≠ 'x'
      ∧ (c.isDigit || ('a' ≤ c && c ≤ 'f')) = true := by
    intro c hc
    obtain ⟨n, hn, rfl⟩ := mem_hexText hc
    exact hexDigit_plain n hn
  have htext : (toHex value).toList = hexText value := by
    unfold toHex
    rw [String.toList_ofList]
    rfl
  have hnormal : host.toLowerCase (trim (toHex value))
      = String.ofList (hexText value) := by
    rw [trim_solid fun c hc => (hplain c (htext ▸ hc)).1,
      hlower _ fun c hc => (hplain c (htext ▸ hc)).2.1, htext]
    rw [List.map_congr_left fun c hc => (hplain c hc).2.2.1, List.map_id']
  have hbare : (hexText value).take 2 ≠ ['0', 'x'] := by
    intro h
    have hx : 'x' ∈ (hexText value).take 2 := by
      rw [h]
      simp
    exact (hplain 'x' (List.mem_of_mem_take hx)).2.2.2.1 rfl
  have hall : (hexText value).all
      (fun c => c.isDigit || ('a' ≤ c && c ≤ 'f')) = true :=
    List.all_eq_true.mpr fun c hc => (hplain c hc).2.2.2.2
  unfold fromHex
  rw [hnormal, String.toList_ofList]
  dsimp only
  rw [if_neg hbare, hall, length_hexText, hexBytes_hexText]
  simp

theorem isAddress_iff {s : String} :
    isAddress s = true ↔ ∃ digits, s.toList = '0' :: 'x' :: digits
      ∧ digits.length = 40 ∧ ∀ c ∈ digits, isHexDigit c = true := by
  unfold isAddress
  simp only [Bool.and_eq_true, decide_eq_true_eq, List.all_eq_true]
  constructor
  · rintro ⟨⟨htake, hlength⟩, hall⟩
    refine ⟨s.toList.drop 2, ?_, hlength, hall⟩
    rw [← List.take_append_drop 2 s.toList, htake]
    rfl
  · rintro ⟨digits, hs, hlength, hall⟩
    rw [hs]
    exact ⟨⟨rfl, hlength⟩, hall⟩

theorem isHexDigit_toLower {c : Char} (h : isHexDigit c = true) :
    isHexDigit c.toLower = true ∧ isSpace c.toLower = false
      ∧ c.toLower.toLower = c.toLower := by
  have hc := isHexDigit_lower c.toNat (isHexDigit_lt h)
  rw [Char.ofNat_toNat] at hc
  exact hc h

theorem isAddress_lower (hlower : LowersAscii host) {s : String}
    (h : isAddress s = true) :
    isAddress (host.toLowerCase s) = true
      ∧ trim (host.toLowerCase s) = host.toLowerCase s
      ∧ host.toLowerCase (host.toLowerCase s) = host.toLowerCase s := by
  obtain ⟨digits, hs, hlength, hall⟩ := isAddress_iff.mp h
  have hascii : ∀ c ∈ s.toList, c.toNat < 128 := by
    intro c hc
    rw [hs, List.mem_cons, List.mem_cons] at hc
    rcases hc with rfl | rfl | hc
    · decide
    · decide
    · exact isHexDigit_lt (hall c hc)
  have hlow : (host.toLowerCase s).toList
      = '0' :: 'x' :: digits.map Char.toLower := by
    rw [hlower s hascii, String.toList_ofList, hs]
    rfl
  have haddress : isAddress (host.toLowerCase s) = true := by
    refine isAddress_iff.mpr ⟨_, hlow, by rw [List.length_map, hlength], ?_⟩
    intro c hc
    obtain ⟨d, hd, rfl⟩ := List.mem_map.mp hc
    exact (isHexDigit_toLower (hall d hd)).1
  obtain ⟨digits', hs', -, hall'⟩ := isAddress_iff.mp haddress
  have hascii' : ∀ c ∈ (host.toLowerCase s).toList, c.toNat < 128 := by
    intro c hc
    rw [hs', List.mem_cons, List.mem_cons] at hc
    rcases hc with rfl | rfl | hc
    · decide
    · decide
    · exact isHexDigit_lt (hall' c hc)
  refine ⟨haddress, trim_solid ?_, ?_⟩
  · intro c hc
    rw [hlow, List.mem_cons, List.mem_cons] at hc
    rcases hc with rfl | rfl | hc
    · decide
    · decide
    · obtain ⟨d, hd, rfl⟩ := List.mem_map.mp hc
      exact (isHexDigit_toLower (hall d hd)).2.1
  · have htwice : (digits.map Char.toLower).map Char.toLower
        = digits.map Char.toLower := by
      rw [List.map_map]
      exact List.map_congr_left fun c hc =>
        (isHexDigit_toLower (hall c hc)).2.2
    rw [hlower _ hascii', ← String.toList_inj, String.toList_ofList, hlow,
      List.map_cons, List.map_cons, htwice]
    rfl

theorem defaultNormalizeOracleId_idempotent (hlower : LowersAscii host) :
    Idempotent (defaultNormalizeOracleId host) := by
  intro x y h
  unfold defaultNormalizeOracleId at h ⊢
  dsimp only at h ⊢
  split at h
  · cases h
  next hne =>
    split at h
    next haddress =>
      obtain rfl := Except.ok.inj h
      obtain ⟨haddress', htrim, hagain⟩ :=
        isAddress_lower hlower haddress
      have hne' : host.toLowerCase (trim x) ≠ "" := by
        intro hempty
        rw [hempty] at haddress'
        revert haddress'
        decide
      rw [htrim, if_neg hne', if_pos haddress', hagain]
    next haddress =>
      obtain rfl := Except.ok.inj h
      rw [Ecma.trim_trim, if_neg hne, if_neg haddress]

/-- The ids of a court are normal if those that its configuration makes
are. -/
theorem normalizeOracleId_idempotent {config : LimitlessCourtConfig M}
    (hlower : LowersAscii host)
    (hcustom : ∀ normalize, config.normalizeOracleId = some normalize →
      Idempotent normalize)
    (h : checkSettings host config = .ok settings) :
    Idempotent settings.normalizeOracleId := by
  have hnormalize : settings.normalizeOracleId
      = config.normalizeOracleId.getD (defaultNormalizeOracleId host) := by
    unfold checkSettings at h
    dsimp only at h
    split at h
    · cases h
    · split at h
      · split at h
        · split at h
          · cases h
          · split at h
            · split at h
              · rw [← Except.ok.inj h]
              · cases h
            · cases h
        · cases h
      · cases h
  rw [hnormalize]
  cases hconfig : config.normalizeOracleId with
  | none => exact defaultNormalizeOracleId_idempotent hlower
  | some normalize => exact hcustom normalize hconfig

-- ==== courts

/-- The commitments are hashes, of registered oracles. -/
def Grounded (court : Court M R) (st : SettlementState M R) : Prop :=
  ∀ o c, st.commitments.get o = some c →
    court.oracleRegistry.has o = true
      ∧ c.commitmentHash.length = HASH_BYTE_LENGTH

/-- What every run keeps of a court. -/
structure Fit (settings : CourtSettings) (court : Court M R) : Prop where
  configured : court.settings = settings
  registered : Registered court
  named : ∀ id oracle, court.oracleRegistry.get id = some oracle →
    ∃ x, settings.normalizeOracleId x = .ok id
  weighed : ∀ id oracle, court.oracleRegistry.get id = some oracle →
    0 < oracle.weight
  normal : ∀ id st, court.settlements.get id = some st →
    normalizeSettlementId id = .ok id
  grounded : ∀ id st, court.settlements.get id = some st → Grounded court st

theorem has_set {k j : String} {oracle : OracleProfileState M}
    (h : court.oracleRegistry.has j = true) :
    (court.oracleRegistry.set k oracle).has j = true := by
  unfold Dict.has at h ⊢
  by_cases hj : j = k
  · subst hj
    rw [Dict.get_set_self]
    rfl
  · rw [Dict.get_set_ne _ _ hj]
    exact h

theorem Fit.register (h : Fit settings court) {k x : String}
    {oracle : OracleProfileState M} (hid : oracle.id = k)
    (hname : settings.normalizeOracleId x = .ok k)
    (hweight : 0 < oracle.weight) :
    Fit settings { court with
      oracleRegistry := court.oracleRegistry.set k oracle } where
  configured := h.configured
  registered := registered_set h.registered hid
  named j found hj := by
    by_cases hjk : j = k
    · exact ⟨x, hjk ▸ hname⟩
    · rw [Dict.get_set_ne _ _ hjk] at hj
      exact h.named j found hj
  weighed j found hj := by
    by_cases hjk : j = k
    · subst hjk
      rw [Dict.get_set_self] at hj
      cases hj
      exact hweight
    · rw [Dict.get_set_ne _ _ hjk] at hj
      exact h.weighed j found hj
  normal := h.normal
  grounded id st hst o c hc :=
    ⟨has_set (h.grounded id st hst o c hc).1, (h.grounded id st hst o c hc).2⟩

theorem Fit.write (h : Fit settings court) {st : SettlementState M R}
    (hwrites : Writes court court' id st)
    (hid : normalizeSettlementId id = .ok id) (hst : Grounded court st) :
    Fit settings court' where
  configured := hwrites.settings.trans h.configured
  registered := hwrites.registered h.registered
  named j oracle hj := h.named j oracle (hwrites.registry ▸ hj)
  weighed j oracle hj := h.weighed j oracle (hwrites.registry ▸ hj)
  normal j found hj := by
    by_cases hjid : j = id
    · rw [hjid, hid]
    · rw [hwrites.elsewhere j hjid] at hj
      exact h.normal j found hj
  grounded j found hj := by
    unfold Grounded
    rw [hwrites.registry]
    by_cases hjid : j = id
    · subst hjid
      rw [hwrites.here] at hj
      cases hj
      exact hst
    · rw [hwrites.elsewhere j hjid] at hj
      exact h.grounded j found hj

/-- With fewer settlements, a court stays fit. -/
theorem Fit.fewer (h : Fit settings court)
    {settlements : Dict String (SettlementState M R)}
    (hfewer : ∀ id st, settlements.get id = some st →
      court.settlements.get id = some st) :
    Fit settings { court with settlements := settlements } where
  configured := h.configured
  registered := h.registered
  named := h.named
  weighed := h.weighed
  normal id st hst := h.normal id st (hfewer id st hst)
  grounded id st hst := h.grounded id st (hfewer id st hst)

-- ==== actions

theorem Grounded.recorded {st : SettlementState M R} {o : String}
    {c : OracleCommitmentState M} (h : Grounded court st)
    (ho : court.oracleRegistry.has o = true)
    (hlength : c.commitmentHash.length = HASH_BYTE_LENGTH) :
    Grounded court (recorded st o c) := by
  intro j d hd
  by_cases hj : j = o
  · subst hj
    unfold LimitlessCourt.recorded at hd
    rw [Dict.get_set_self] at hd
    cases hd
    exact ⟨ho, hlength⟩
  · unfold LimitlessCourt.recorded at hd
    rw [Dict.get_set_ne _ _ hj] at hd
    exact h j d hd

theorem Started.commitments {now : ℚ} {st st' : SettlementState M R}
    {new : List (Finalization M)}
    (h : Started host settings id now st st' new) :
    st'.commitments = st.commitments := by
  cases h with
  | idle => rfl
  | call verdict hsettled hidle hquorum hbuilt => rfl

/-- What a commitment has to be to be accepted. -/
theorem submitCommitment_checked {now : ℚ}
    {input : LimitlessCourtCommitmentSubmission}
    {x : Court M R × LimitlessCourtProgress}
    (h : submitCommitment host input now court = .ok x) :
    normalizeSettlementId input.settlementId = .ok (trim input.settlementId)
      ∧ input.commitmentHash.length = HASH_BYTE_LENGTH
      ∧ ∀ o, court.settings.normalizeOracleId input.oracleId = .ok o →
        court.oracleRegistry.has o = true := by
  obtain ⟨id, hid, o, ho, hash, hhash, oracle, horacle, -⟩ := bind_ok₄.mp h
  refine ⟨?_, ?_, ?_⟩
  · rw [hid, normalizeSettlementId_ok hid]
  · unfold normalizeCommitmentHash at hhash
    split at hhash
    · cases hhash
    next hlength => exact not_not.mp hlength
  · intro o' ho'
    rw [ho] at ho'
    cases ho'
    unfold requireActiveOracle at horacle
    unfold Dict.has
    cases hget : court.oracleRegistry.get o with
    | none =>
      rw [hget] at horacle
      cases horacle
    | some found => rfl

theorem submitCommitment_fit {now : ℚ}
    {input : LimitlessCourtCommitmentSubmission}
    {x : Court M R × LimitlessCourtProgress} (hfit : Fit settings court)
    (h : submitCommitment host input now court = .ok x) :
    Fit settings x.1 := by
  obtain ⟨hid, hlength, hknown⟩ := submitCommitment_checked h
  obtain ⟨o, committedAt, ho, -, -, -, hwrites⟩ :=
    submitCommitment_ok hfit.registered h
  have hid' : normalizeSettlementId (trim input.settlementId)
      = .ok (trim input.settlementId) := normalizeSettlementId_again hid
  refine hfit.write hwrites hid' (Grounded.recorded ?_ (hknown o ho) hlength)
  cases hget : court.settlements.get (trim input.settlementId) with
  | none => exact fun o c hc => by cases hc
  | some st => exact hfit.grounded _ st hget

theorem finalize_fit {settlementId : String} {now : ℚ}
    {x : Court M R × Finalized M R} (hfit : Fit settings court)
    (h : finalize host settlementId now court = .ok x) :
    Fit settings x.1 := by
  obtain ⟨id, st, st', new, hid, hget, hstarted, hwrites, -⟩ :=
    finalize_started h
  refine hfit.write hwrites (normalizeSettlementId_again hid) ?_
  unfold Grounded
  rw [hstarted.commitments]
  exact hfit.grounded id st hget

theorem submitAttestation_fit {now verdictNow : ℚ}
    {input : LimitlessCourtAttestationSubmission M}
    {x : Court M R × Finalized M R} (hfit : Fit settings court)
    (h : submitAttestation host input now verdictNow court = .ok x) :
    Fit settings x.1 := by
  obtain ⟨o, st, c, attestation, st', new, -, hst, -, hc, -, -, -, -, -, -,
    hstarted, hwrites, -⟩ := submitAttestation_ok hfit.registered h
  have hgrounded := hfit.grounded _ st hst
  obtain ⟨hknown, hlength⟩ := hgrounded o c hc
  refine hfit.write hwrites (hfit.normal _ st hst) ?_
  have hrecorded : Grounded court
      (recorded st o { c with attestation := some attestation }) :=
    Grounded.recorded hgrounded hknown hlength
  unfold Grounded at hrecorded ⊢
  rw [hstarted.commitments]
  exact hrecorded

theorem afterVerdict_fit {call : Finalization M} {outcome : Except String R}
    (hfit : Fit settings court) :
    Fit settings (afterVerdict host call outcome court).1 := by
  cases hget : court.settlements.get call.settlementId with
  | none =>
    unfold afterVerdict
    rw [hget]
    exact hfit
  | some st =>
    refine hfit.write (afterVerdict_writes host hget outcome)
      (hfit.normal _ st hget) ?_
    cases outcome with
    | error e => exact hfit.grounded _ st hget
    | ok r => exact hfit.grounded _ st hget

theorem addOracle_fit {oracle : LimitlessCourtOracle M}
    (hfit : Fit settings court)
    (h : addOracle host oracle court = .ok court') :
    Fit settings court' := by
  obtain ⟨k, hk, h⟩ := bind_ok.mp h
  rw [hfit.configured] at hk
  split at h
  · cases h
  · obtain ⟨weight, hweight, h⟩ := bind_ok.mp h
    obtain ⟨rfl, hpos⟩ := normalizeWeight_ok hweight
    rw [← Except.ok.inj h]
    exact hfit.register rfl hk hpos

theorem changeOracle_fit {oracleId : String}
    {change : OracleProfileState M → Except String (OracleProfileState M)}
    (hchange : ∀ oracle oracle', change oracle = .ok oracle' →
      oracle'.id = oracle.id ∧ (0 < oracle.weight → 0 < oracle'.weight))
    (hfit : Fit settings court)
    (h : changeOracle host oracleId change court = .ok court') :
    Fit settings court' := by
  obtain ⟨k, hk, h⟩ := bind_ok.mp h
  rw [hfit.configured] at hk
  split at h
  · cases h
  next oracle hget =>
    obtain ⟨oracle', horacle, h⟩ := bind_ok.mp h
    obtain ⟨hsame, hpos⟩ := hchange oracle oracle' horacle
    rw [covered_ok h]
    refine hfit.register ?_ hk (hpos (hfit.weighed k oracle hget))
    rw [hsame]
    exact hfit.registered k oracle hget

theorem courtStep_fit {a : CourtAction M R} (hfit : Fit settings s.court)
    (h : courtStep host a s = .ok s') : Fit settings s'.court := by
  have hjoined : ∀ (x : Court M R × Finalized M R) awaiting,
      (joined x awaiting).court = x.1 := by
    rintro ⟨court, _ | call⟩ awaiting
    · rfl
    · rfl
  cases a with
  | submitCommitment input now =>
    obtain ⟨x, hx, hs'⟩ := bind_ok.mp h
    obtain rfl := Except.ok.inj hs'
    exact submitCommitment_fit hfit hx
  | submitAttestation input now verdictNow =>
    obtain ⟨x, hx, hs'⟩ := bind_ok.mp h
    obtain rfl := Except.ok.inj hs'
    rw [hjoined]
    exact submitAttestation_fit hfit hx
  | finalize settlementId now =>
    obtain ⟨x, hx, hs'⟩ := bind_ok.mp h
    obtain rfl := Except.ok.inj hs'
    rw [hjoined]
    exact finalize_fit hfit hx
  | onVerdict settlementId i outcome =>
    dsimp only [courtStep] at h
    split at h
    · cases h
    · split at h
      · obtain rfl := Except.ok.inj h
        exact afterVerdict_fit hfit
      · cases h
  | registerOracle oracle =>
    obtain ⟨court, hcourt, hs'⟩ := bind_ok.mp h
    obtain rfl := Except.ok.inj hs'
    obtain ⟨mid, hmid, hcovered⟩ := bind_ok.mp hcourt
    rw [covered_ok hcovered]
    exact addOracle_fit hfit hmid
  | setOracleActive oracleId active =>
    obtain ⟨court, hcourt, hs'⟩ := bind_ok.mp h
    obtain rfl := Except.ok.inj hs'
    refine changeOracle_fit ?_ hfit hcourt
    intro oracle oracle' horacle
    rw [← Except.ok.inj horacle]
    exact ⟨rfl, fun hpos => hpos⟩
  | updateOracleWeight oracleId weight =>
    obtain ⟨court, hcourt, hs'⟩ := bind_ok.mp h
    obtain rfl := Except.ok.inj hs'
    refine changeOracle_fit ?_ hfit hcourt
    intro oracle oracle' horacle
    obtain ⟨weight', hweight, hset⟩ := bind_ok.mp horacle
    obtain ⟨rfl, hpos⟩ := normalizeWeight_ok hweight
    rw [← Except.ok.inj hset]
    exact ⟨rfl, fun _ => hpos⟩

-- ==== imports

theorem untilError_fit {α : Type}
    {turn : α → Court M R → Court M R × Except String Unit}
    (hturn : ∀ (x : α) (court : Court M R), Fit settings court →
      Fit settings (turn x court).1) (l : List α) :
    ∀ {court : Court M R}, Fit settings court →
      Fit settings (untilError turn l court).1 := by
  induction l with
  | nil => exact fun hfit => hfit
  | cons x rest ih =>
    intro court hfit
    have hnext := hturn x court hfit
    rw [untilError]
    split
    next court' e heq =>
      rw [heq] at hnext
      exact hnext
    next court' heq =>
      rw [heq] at hnext
      exact ih hnext

variable (host) in
theorem importOracle_fit (oracle : LimitlessCourtSnapshotOracle M)
    (hfit : Fit settings court) :
    Fit settings (importOracle host oracle court).1 := by
  unfold importOracle
  cases hid : court.settings.normalizeOracleId oracle.id with
  | error e => exact hfit
  | ok id =>
    rw [hfit.configured] at hid
    dsimp only
    cases hget : court.oracleRegistry.get id with
    | none =>
      dsimp only
      cases hweight : normalizeWeight oracle.weight with
      | error e => exact hfit
      | ok weight =>
        obtain ⟨rfl, hpos⟩ := normalizeWeight_ok hweight
        refine hfit.register ?_ hid ?_
        · rfl
        · exact hpos
    | some existing =>
      have hsame := hfit.registered id existing hget
      dsimp only
      cases hweight : normalizeWeight oracle.weight with
      | error e =>
        refine hfit.register ?_ hid ?_
        · exact hsame
        · exact hfit.weighed id existing hget
      | ok weight =>
        obtain ⟨rfl, hpos⟩ := normalizeWeight_ok hweight
        refine hfit.register ?_ hid ?_
        · exact hsame
        · exact hpos

theorem readCommitments_ok {known : String → Bool}
    {entries : List (SnapshotCommitment M)}
    {commitments : Dict String (OracleCommitmentState M)}
    (h : readCommitments host settings known entries = .ok commitments) :
    ∀ o c, commitments.get o = some c →
      known o = true ∧ c.commitmentHash.length = HASH_BYTE_LENGTH := by
  unfold readCommitments at h
  generalize hstart : (Dict.empty : Dict String (OracleCommitmentState M))
    = start at h
  have hgood : ∀ o c, start.get o = some c →
      known o = true ∧ c.commitmentHash.length = HASH_BYTE_LENGTH := by
    rw [← hstart]
    exact fun o c hc => by cases hc
  clear hstart
  induction entries generalizing start with
  | nil =>
    obtain rfl := pure_ok.mp h
    exact hgood
  | cons entry rest ih =>
    rw [List.foldlM_cons] at h
    obtain ⟨next, hnext, hrest⟩ := bind_ok.mp h
    refine ih next hrest ?_
    obtain ⟨oracleId, -, hentry⟩ := bind_ok.mp hnext
    split at hentry
    · cases hentry
    next hknown =>
      obtain ⟨hash, -, hlast⟩ := bind_ok.mp hentry
      split at hlast
      · cases hlast
      next hlength =>
        obtain rfl := pure_ok.mp hlast
        intro o c hc
        by_cases ho : o = oracleId
        · subst ho
          rw [Dict.get_set_self] at hc
          cases hc
          exact ⟨by simpa using hknown, not_not.mp hlength⟩
        · rw [Dict.get_set_ne _ _ ho] at hc
          exact hgood o c hc

theorem importSettlement_fit (settlement : LimitlessCourtSnapshotSettlement M R)
    (hfit : Fit settings court) :
    Fit settings (importSettlement host settlement court).1 := by
  unfold importSettlement
  cases hread : readSettlement host court.settings court.oracleRegistry.has
      settlement with
  | error e => exact hfit
  | ok w =>
    obtain ⟨settlementId, hid, commitments, hcommitments, hlast⟩ :=
      bind_ok₂.mp hread
    obtain rfl := pure_ok.mp hlast
    exact hfit.write (writes_set court _ _)
      (normalizeSettlementId_again hid) (readCommitments_ok hcommitments)

theorem importLoops_fit (snapshot : LimitlessCourtSnapshot M R)
    (hfit : Fit settings court) : Fit settings
      (match untilError (importOracle host) snapshot.oracles court with
        | (court, Except.error e) => (court, Except.error e)
        | (court, .ok ()) => untilError (importSettlement host)
            snapshot.settlements court).1 := by
  have horacles := untilError_fit
    (fun oracle _ h => importOracle_fit host oracle h)
    snapshot.oracles hfit
  split
  next court' e heq =>
    rw [heq] at horacles
    exact horacles
  next court' heq =>
    rw [heq] at horacles
    exact untilError_fit (fun _ _ h => importSettlement_fit _ h)
      snapshot.settlements horacles

theorem importSnapshot_fit (snapshot : LimitlessCourtSnapshot M R)
    (replace : Bool) (hfit : Fit settings court) :
    Fit settings (importSnapshot host snapshot replace court).1 := by
  unfold importSnapshot
  split
  · exact hfit
  · split
    · exact hfit
    · cases replace with
      | true =>
        refine importLoops_fit snapshot (hfit.fewer ?_)
        intro id st hst
        cases hst
      | false => exact importLoops_fit snapshot hfit

-- ==== runs

/-- A call of a court: one that `courtStep` has, or of the others that change
it. -/
inductive CourtCall (M R : Type)
  | act (a : CourtAction M R)
  | clear (settlementId : Option String)
  | importSnapshot (snapshot : LimitlessCourtSnapshot M R) (replace : Bool)

def clear (settlementId : Option String) (court : Court M R) :
    Except String (Court M R) :=
  match settlementId with
  | none => .ok { court with settlements := Dict.empty }
  | some settlementId => do
      let settlementId ← normalizeSettlementId settlementId
      return { court with
        settlements := court.settlements.delete settlementId }

/-- The calls of `finalize` whose settlement is still the court's. One that
is no longer there writes to nothing the court has. -/
def attached (court : Court M R) (awaiting : List (Finalization M)) :
    System M R :=
  ⟨court, awaiting.filter fun call =>
    (court.settlements.get call.settlementId).any (·.finalizing)⟩

/-- An import that throws is a step as well: it may have written. -/
def callStep (host : Host) (c : CourtCall M R) (s : System M R) :
    Except String (System M R) :=
  match c with
  | .act a => courtStep host a s
  | .clear settlementId => do
      let court ← clear settlementId s.court
      return attached court s.awaiting
  | .importSnapshot snapshot replace =>
    .ok (attached (importSnapshot host snapshot replace s.court).1
      s.awaiting)

theorem clear_fit {settlementId : Option String} (hfit : Fit settings court)
    (h : clear settlementId court = .ok court') : Fit settings court' := by
  cases settlementId with
  | none =>
    obtain rfl := Except.ok.inj h
    exact hfit.fewer fun id st hst => by cases hst
  | some settlementId =>
    obtain ⟨id, -, h⟩ := bind_ok.mp h
    obtain rfl := pure_ok.mp h
    exact hfit.fewer fun id st hst => Dict.get_delete hst

theorem callStep_fit {c : CourtCall M R} (hfit : Fit settings s.court)
    (h : callStep host c s = .ok s') : Fit settings s'.court := by
  cases c with
  | act a => exact courtStep_fit hfit h
  | clear settlementId =>
    obtain ⟨court, hcourt, hs'⟩ := bind_ok.mp h
    obtain rfl := pure_ok.mp hs'
    exact clear_fit hfit hcourt
  | importSnapshot snapshot replace =>
    obtain rfl := Except.ok.inj h
    exact importSnapshot_fit snapshot replace hfit

theorem LimitlessVerdictCourt_fit {config : LimitlessCourtConfig M}
    {court : Court M R} (h : LimitlessVerdictCourt host config = .ok court) :
    checkSettings host config = .ok court.settings
      ∧ Fit court.settings court := by
  obtain ⟨settings, hsettings, built, hbuilt, hlast⟩ := bind_ok₂.mp h
  have hloop : ∀ (oracles : List (LimitlessCourtOracle M))
      (court court' : Court M R), Fit settings court →
      oracles.foldlM (fun court oracle => addOracle host oracle court) court
        = .ok court' → Fit settings court' := by
    intro oracles
    induction oracles with
    | nil =>
      intro court court' hfit hfold
      obtain rfl := pure_ok.mp hfold
      exact hfit
    | cons oracle rest ih =>
      intro court court' hfit hfold
      rw [List.foldlM_cons] at hfold
      obtain ⟨mid, hmid, hfold⟩ := bind_ok.mp hfold
      exact ih mid court' (addOracle_fit hfit hmid) hfold
  have hbare : Fit settings (⟨settings, Dict.empty, Dict.empty⟩
      : Court M R) :=
    { configured := rfl
      registered := fun k oracle hk => by cases hk
      named := fun k oracle hk => by cases hk
      weighed := fun k oracle hk => by cases hk
      normal := fun k st hk => by cases hk
      grounded := fun k st hk => by cases hk }
  have hfit := hloop config.oracles _ built hbare hbuilt
  split at hlast
  · cases hlast
  · obtain rfl := covered_ok hlast
    rw [hfit.configured]
    exact ⟨hsettings, hfit⟩

theorem run_fit {config : LimitlessCourtConfig M} {court : Court M R}
    {tr : List (CourtCall M R)}
    (hnew : LimitlessVerdictCourt host config = .ok court)
    (hrun : run (callStep host) ⟨court, []⟩ tr = .ok s) :
    Fit court.settings s.court :=
  run_induct (I := fun s : System M R => Fit court.settings s.court)
    (fun _ _ _ hfit hstep => callStep_fit hfit hstep)
    (LimitlessVerdictCourt_fit hnew).2 hrun

-- ==== round trip

/-- A profile as it comes back: with its provider in normal form. -/
def restored (host : Host) (oracle : OracleProfileState M) :
    OracleProfileState M :=
  { oracle with
    provider := normalizeProvider host (some oracle.provider) oracle.id }

theorem normalizeWeight_pos {weight : ℚ} (h : 0 < weight) :
    normalizeWeight weight = .ok weight :=
  if_neg (not_le.mpr h)

theorem oracleWrites_export (l : List (String × OracleProfileState M))
    (hl : ∀ e ∈ l, e.2.id = e.1 ∧ settings.normalizeOracleId e.1 = .ok e.1
      ∧ 0 < e.2.weight) :
    ∀ known, oracleWrites host settings known
        (l.map fun e => ⟨e.2.id, e.2.provider, e.2.weight, e.2.active,
          e.2.metadata⟩)
      = (l.map fun e => (e.1, restored host e.2), .ok ()) := by
  induction l with
  | nil => exact fun _ => rfl
  | cons e rest ih =>
    intro known
    obtain ⟨hid, hnormal, hpos⟩ := hl e List.mem_cons_self
    rw [List.map_cons, List.map_cons, oracleWrites]
    dsimp only
    rw [hid, hnormal, normalizeWeight_pos hpos]
    dsimp only
    rw [ih fun e' he' => hl e' (List.mem_cons_of_mem e he')]
    unfold profileOf restored
    rw [hid]

theorem readCommitments_export (hlower : LowersAscii host)
    {known : String → Bool} (l : List (String × OracleCommitmentState M))
    (hl : ∀ e ∈ l, settings.normalizeOracleId e.1 = .ok e.1
      ∧ known e.1 = true ∧ e.2.commitmentHash.length = HASH_BYTE_LENGTH) :
    ∀ start : Dict String (OracleCommitmentState M),
      (l.map fun e => SnapshotCommitment.mk e.1 (toHex e.2.commitmentHash)
          e.2.committedAt e.2.attestation).foldlM (fun commitments entry => do
        let oracleId ← settings.normalizeOracleId entry.oracleId
        if !known oracleId then
          .error ("Snapshot references unknown oracle: " ++ oracleId)
        else
          let commitmentHash ← fromHex host entry.commitmentHashHex
          if commitmentHash.length ≠ HASH_BYTE_LENGTH then
            .error ("Invalid commitment hash length for oracle " ++ oracleId)
          else
            return commitments.set oracleId
              ⟨commitmentHash, entry.committedAt, entry.attestation⟩) start
        = .ok (start.overlay l) := by
  induction l with
  | nil => exact fun _ => rfl
  | cons e rest ih =>
    intro start
    obtain ⟨hnormal, hknown, hlength⟩ := hl e List.mem_cons_self
    rw [List.map_cons, List.foldlM_cons]
    refine bind_ok.mpr ⟨start.set e.1 e.2, ?_, ih
      (fun e' he' => hl e' (List.mem_cons_of_mem e he')) _⟩
    refine bind_ok.mpr ⟨e.1, hnormal, ?_⟩
    rw [hknown]
    refine bind_ok.mpr ⟨e.2.commitmentHash, fromHex_toHex hlower _, ?_⟩
    rw [if_neg (not_not.mpr hlength)]
    rfl

theorem settlementWrites_export (hlower : LowersAscii host)
    {known : String → Bool} (l : List (String × SettlementState M R))
    (hl : ∀ e ∈ l, normalizeSettlementId e.1 = .ok e.1 ∧ e.2.finalizing = false
      ∧ ∀ o c, e.2.commitments.get o = some c →
        settings.normalizeOracleId o = .ok o ∧ known o = true
          ∧ c.commitmentHash.length = HASH_BYTE_LENGTH) :
    settlementWrites host settings known
        (l.map fun e => ⟨e.1, e.2.settled,
          e.2.commitments.entries.map fun e => ⟨e.1,
            toHex e.2.commitmentHash, e.2.committedAt, e.2.attestation⟩,
          e.2.verdict, e.2.settlementResult⟩)
      = (l, .ok ()) := by
  induction l with
  | nil => rfl
  | cons e rest ih =>
    obtain ⟨hnormal, hidle, hgrounded⟩ := hl e List.mem_cons_self
    rw [List.map_cons, settlementWrites]
    have hread : readSettlement host settings known
        (⟨e.1, e.2.settled,
          e.2.commitments.entries.map fun e => ⟨e.1,
            toHex e.2.commitmentHash, e.2.committedAt, e.2.attestation⟩,
          e.2.verdict, e.2.settlementResult⟩) = .ok e := by
      refine bind_ok.mpr ⟨e.1, hnormal, ?_⟩
      refine bind_ok.mpr ⟨e.2.commitments, ?_, ?_⟩
      · unfold readCommitments
        rw [readCommitments_export hlower _ fun c hc =>
          hgrounded c.1 c.2 (Dict.get_some.mpr hc), Dict.overlay_entries]
      · rw [← hidle]
        rfl
    rw [hread]
    dsimp only
    rw [ih fun e' he' => hl e' (List.mem_cons_of_mem e he')]

/-- No settlement of the court is being finalized. -/
def Idle (court : Court M R) : Prop :=
  ∀ id st, court.settlements.get id = some st → st.finalizing = false

theorem Fit.normalId (h : Fit settings court)
    (hnormal : Idempotent settings.normalizeOracleId)
    {oracle : OracleProfileState M}
    (hget : court.oracleRegistry.get id = some oracle) :
    settings.normalizeOracleId id = .ok id := by
  obtain ⟨x, hx⟩ := h.named id oracle hget
  exact hnormal x id hx

/-- The snapshot of an idle court is imported without an error; what comes
back are the settlements, and the oracles with their providers in normal
form. -/
theorem importSnapshot_export (hlower : LowersAscii host)
    (hnormal : Idempotent settings.normalizeOracleId)
    {source target : Court M R} (hsource : Fit settings source)
    (htarget : Fit settings target) (hidle : Idle source) :
    importSnapshot host (exportSnapshot source) true target
      = ({ target with
            oracleRegistry := target.oracleRegistry.overlay
              (source.oracleRegistry.entries.map fun e =>
                (e.1, restored host e.2))
            settlements := source.settlements }, .ok ()) := by
  have hfits : Fits target (exportSnapshot source) := by
    refine ⟨rfl, ?_⟩
    unfold sameConfiguration exportSnapshot
    rw [hsource.configured, htarget.configured]
    simp
  have horacles : ∀ known, oracleWrites host settings known
      (exportSnapshot source).oracles
        = (source.oracleRegistry.entries.map fun e =>
          (e.1, restored host e.2), .ok ()) := by
    intro known
    have hlist : (exportSnapshot source).oracles
        = source.oracleRegistry.entries.map fun e => ⟨e.2.id, e.2.provider,
          e.2.weight, e.2.active, e.2.metadata⟩ :=
      List.map_map
    rw [hlist]
    refine oracleWrites_export _ (fun e he => ?_) known
    have hget := Dict.get_some.mpr he
    exact ⟨hsource.registered _ _ hget, hsource.normalId hnormal hget,
      hsource.weighed _ _ hget⟩
  have hknown : ∀ o, source.oracleRegistry.has o = true →
      (mergedOracles host (exportSnapshot source) target).has o = true := by
    intro o ho
    obtain ⟨oracle, hget⟩ := Option.isSome_iff_exists.mp ho
    unfold mergedOracles Dict.has
    rw [htarget.configured, horacles, Dict.get_overlay, Dict.lastWrite_map,
      Dict.lastWrite_entries, hget]
    rfl
  have hwritten : writtenSettlements host (exportSnapshot source) target
      = (source.settlements.entries, .ok ()) := by
    unfold writtenSettlements
    rw [htarget.configured, horacles]
    refine settlementWrites_export hlower _ fun e he => ?_
    have hget := Dict.get_some.mpr he
    refine ⟨hsource.normal _ _ hget, hidle _ _ hget, fun o c hc => ?_⟩
    obtain ⟨ho, hlength⟩ := hsource.grounded _ _ hget o c hc
    obtain ⟨oracle, horacle⟩ := Option.isSome_iff_exists.mp ho
    exact ⟨hsource.normalId hnormal horacle, hknown o ho, hlength⟩
  rw [importSnapshot_eq htarget.registered hfits, hwritten]
  unfold mergedOracles
  rw [htarget.configured, horacles, if_pos rfl, Dict.overlay_entries]

/-- What a snapshot of `source` gives `target` is `source`: the providers of
`source` are normal, and `target` has no oracle that `source` has not. -/
def Restorable (host : Host) (source target : Court M R) : Prop :=
  (∀ id oracle, source.oracleRegistry.get id = some oracle →
    normalizeProvider host (some oracle.provider) id = oracle.provider)
  ∧ ∀ id, target.oracleRegistry.has id = true →
    source.oracleRegistry.has id = true

theorem importSnapshot_export_same (hlower : LowersAscii host)
    (hnormal : Idempotent settings.normalizeOracleId)
    {source target : Court M R} (hsource : Fit settings source)
    (htarget : Fit settings target) (hidle : Idle source) :
    SameCourt (importSnapshot host (exportSnapshot source) true target).1
        source
      ↔ Restorable host source target := by
  rw [importSnapshot_export hlower hnormal hsource htarget hidle]
  unfold SameCourt Restorable
  dsimp only
  rw [and_iff_left (fun _ => rfl)]
  have hget : ∀ id, (target.oracleRegistry.overlay
      (source.oracleRegistry.entries.map fun e =>
        (e.1, restored host e.2))).get id
      = ((source.oracleRegistry.get id).map (restored host)).or
        (target.oracleRegistry.get id) := by
    intro id
    rw [Dict.get_overlay, Dict.lastWrite_map, Dict.lastWrite_entries]
  simp only [hget]
  constructor
  · intro h
    refine ⟨fun id oracle horacle => ?_, fun id hid => ?_⟩
    · have hsame := h id
      rw [horacle] at hsame
      have hprovider := congrArg OracleProfileState.provider
        (Option.some.inj hsame)
      rw [← hsource.registered id oracle horacle]
      exact hprovider
    · have hsame := h id
      unfold Dict.has at hid ⊢
      cases hid' : source.oracleRegistry.get id with
      | none =>
        rw [hid', Option.map_none, Option.none_or] at hsame
        rw [hsame] at hid
        cases hid
      | some oracle => rfl
  · rintro ⟨hproviders, hknown⟩ id
    cases horacle : source.oracleRegistry.get id with
    | none =>
      rw [Option.map_none, Option.none_or]
      cases htaken : target.oracleRegistry.get id with
      | none => rfl
      | some oracle =>
        have hhas := hknown id (by simp [Dict.has, htaken])
        simp [Dict.has, horacle] at hhas
    | some oracle =>
      have hprovider := hproviders id oracle horacle
      rw [← hsource.registered id oracle horacle] at hprovider
      rw [Option.map_some, Option.some_or]
      unfold restored
      rw [hprovider]

/-- What snapshots do in every run. The snapshot of an idle court, where what
is normal stays so, is imported by any court of the same configuration, which
then is that court exactly if it could be restored. An import that throws
leaves a court as it was exactly if what it wrote was there before; one that
succeeds leaves the coverage exactly if the oracles it brings do, over those
there are. -/
theorem snapshot_iff {config config' : LimitlessCourtConfig M}
    {court₀ court₁ : Court M R} (hlower : LowersAscii host)
    (hnew : LimitlessVerdictCourt host config = .ok court₀)
    (hnew' : LimitlessVerdictCourt host config' = .ok court₁)
    (hconfig : court₁.settings = court₀.settings) :
    ((∀ normalize, config.normalizeOracleId = some normalize →
        Idempotent normalize) → ∀ tr tr' (s s' : System M R),
      run (callStep host) ⟨court₀, []⟩ tr = .ok s →
      run (callStep host) ⟨court₁, []⟩ tr' = .ok s' → Idle s.court →
      (importSnapshot host (exportSnapshot s.court) true s'.court).2 = .ok ()
      ∧ (SameCourt (importSnapshot host (exportSnapshot s.court) true
            s'.court).1 s.court
          ↔ Restorable host s.court s'.court))
    ∧ ∀ tr (s : System M R) snapshot replace,
      run (callStep host) ⟨court₀, []⟩ tr = .ok s →
      (∀ e, (importSnapshot host snapshot replace s.court).2 = .error e →
        (SameCourt (importSnapshot host snapshot replace s.court).1 s.court
          ↔ (Fits s.court snapshot → Restates host snapshot replace s.court)))
      ∧ ((importSnapshot host snapshot replace s.court).2 = .ok () →
        (validateOracleRegistryCoverage host
            (importSnapshot host snapshot replace s.court).1 = .ok ()
          ↔ validateOracleRegistryCoverage host
            (withOracles host snapshot s.court) = .ok ())) := by
  refine ⟨fun hcustom tr tr' s s' hrun hrun' hidle => ?_,
    fun tr s snapshot replace hrun => ?_⟩
  · have hnormal : Idempotent court₀.settings.normalizeOracleId :=
      normalizeOracleId_idempotent hlower hcustom
        (LimitlessVerdictCourt_fit hnew).1
    have hsource := run_fit hnew hrun
    have htarget := run_fit hnew' hrun'
    rw [hconfig] at htarget
    refine ⟨?_, importSnapshot_export_same hlower hnormal hsource htarget
      hidle⟩
    rw [importSnapshot_export hlower hnormal hsource htarget hidle]
  · have hreg := (run_fit hnew hrun).registered
    refine ⟨fun e _ => importSnapshot_same_iff snapshot replace hreg,
      fun hok => ?_⟩
    rw [importSnapshot_coverage hreg hok]

namespace Concrete

/-- An engine that knows ASCII; its digests and texts do not matter. -/
def ascii : Host where
  sha256 _ := []
  toLowerCase s := String.ofList (s.toList.map Char.toLower)
  localeCompare a b := if a < b then -1 else if b < a then 1 else 0
  numberText _ := ""
  toFixed _ _ := ""
  add := Double.add
  sub := Double.sub
  mul := Double.mul
  div := Double.div

/-- One oracle, which is its own provider. -/
def oneOracle (id : String) : LimitlessCourtConfig Unit where
  threshold := 1
  oracles := [⟨id, none, none, none, none⟩]
  minWeight := none
  minProviderCount := none
  maxOutlierDeviation := none
  normalizeOracleId := none

def oneCommitment (id : String) : List (CourtCall Unit Unit) :=
  [.act (.submitCommitment ⟨"s", id, List.replicate 32 1, none⟩ 1)]

/-- The court of one oracle, new and with its commitment made, passes the
test. -/
def passesOne (config : LimitlessCourtConfig Unit) (id : String)
    (test : Court Unit Unit → Court Unit Unit → Bool) : Bool :=
  check (fun court : Court Unit Unit =>
    check (fun s => test court s.court)
      (run (callStep ascii) ⟨court, []⟩ (oneCommitment id)))
    (LimitlessVerdictCourt ascii config)

theorem passesOne_ok {config : LimitlessCourtConfig Unit} {id : String}
    {test : Court Unit Unit → Court Unit Unit → Bool}
    (h : passesOne config id test = true) :
    ∃ court s, LimitlessVerdictCourt ascii config = .ok court
      ∧ run (callStep ascii) ⟨court, []⟩ (oneCommitment id) = .ok s
      ∧ test court s.court = true := by
  obtain ⟨court, hcourt, hrun⟩ := check_ok h
  obtain ⟨s, hs, htest⟩ := check_ok hrun
  exact ⟨court, s, hcourt, hs, htest⟩

/-- A snapshot for the court of one oracle, without settlements. -/
def snapshotOf (oracle : LimitlessCourtSnapshotOracle Unit) :
    LimitlessCourtSnapshot Unit Unit :=
  ⟨1, 1, 1, 1, 20, [oracle], []⟩

/-- The one oracle, where an id is taken as it is but for the blanks around
it. -/
def customOracle : LimitlessCourtConfig Unit :=
  { oneOracle "a" with
    normalizeOracleId := some fun x => .ok (trim x) }

/-- The commitment is restored to a new court. -/
theorem snapshot_restored :
    ∃ court s, LimitlessVerdictCourt ascii customOracle = .ok court
      ∧ run (callStep ascii) ⟨court, []⟩ (oneCommitment "a") = .ok s
      ∧ SameCourt (importSnapshot ascii (exportSnapshot s.court) true
          court).1 s.court := by
  have hpasses : passesOne customOracle "a" (fun court last =>
      last.settlements.values.all (fun st => !st.finalizing)
        && last.oracleRegistry.entries.all (fun e =>
          normalizeProvider ascii (some e.2.provider) e.1 = e.2.provider)
        && court.oracleRegistry.keys.all last.oracleRegistry.has) = true := by
    decide +kernel
  obtain ⟨court, s, hcourt, hs, htest⟩ := passesOne_ok hpasses
  simp only [Bool.and_eq_true, List.all_eq_true, decide_eq_true_eq] at htest
  obtain ⟨⟨hfinal, hproviders⟩, hknown⟩ := htest
  have hidle : Idle s.court := by
    intro id st hst
    have hst' := hfinal st (Dict.mem_values.mpr ⟨id, hst⟩)
    simpa using hst'
  have hrestorable : Restorable ascii s.court court := by
    refine ⟨fun id oracle horacle => ?_, fun id hid => ?_⟩
    · exact hproviders (id, oracle) (Dict.get_some.mp horacle)
    · obtain ⟨oracle, horacle⟩ := Option.isSome_iff_exists.mp hid
      exact hknown id (Dict.get_mem_keys horacle)
  have hlower : LowersAscii ascii := fun _ _ => rfl
  have hcustom : ∀ normalize, customOracle.normalizeOracleId = some normalize →
      Idempotent normalize := by
    rintro normalize ⟨⟩ x y hxy
    cases hxy
    exact congrArg Except.ok (Ecma.trim_trim x)
  have hall := snapshot_iff hlower hcourt hcourt rfl
  exact ⟨court, s, hcourt, hs,
    (hall.1 hcustom _ [] s _ hs rfl hidle).2.mpr hrestorable⟩

/-- A provider that its id stands for is put into lower case; an oracle of
weight zero is an error, after the commitment is gone; an inactive oracle
is none, after the coverage is. -/
theorem snapshot_loses :
    ∃ court s, LimitlessVerdictCourt ascii (oneOracle "A") = .ok court
      ∧ run (callStep ascii) ⟨court, []⟩ (oneCommitment "A") = .ok s
      ∧ ¬ SameCourt (importSnapshot ascii (exportSnapshot s.court) true
          court).1 s.court
      ∧ (∃ e, (importSnapshot ascii (snapshotOf ⟨"A", "A", 0, true, none⟩)
            true s.court).2 = .error e)
      ∧ ¬ SameCourt (importSnapshot ascii
          (snapshotOf ⟨"A", "A", 0, true, none⟩) true s.court).1 s.court
      ∧ (importSnapshot ascii (snapshotOf ⟨"A", "A", 1, false, none⟩)
            true s.court).2 = .ok ()
      ∧ validateOracleRegistryCoverage ascii (importSnapshot ascii
          (snapshotOf ⟨"A", "A", 1, false, none⟩) true s.court).1 ≠ .ok () := by
  have hpasses : passesOne (oneOracle "A") "A" (fun court last =>
      ((importSnapshot ascii (exportSnapshot last) true
          court).1.oracleRegistry.get "A").map (·.provider)
        ≠ (last.oracleRegistry.get "A").map (·.provider)
      && !check (fun _ => true) (importSnapshot ascii
          (snapshotOf ⟨"A", "A", 0, true, none⟩) true last).2
      && (((importSnapshot ascii (snapshotOf ⟨"A", "A", 0, true, none⟩)
          true last).1.settlements.get "s").isSome
        != (last.settlements.get "s").isSome)
      && check (fun _ => true) (importSnapshot ascii
          (snapshotOf ⟨"A", "A", 1, false, none⟩) true last).2
      && !check (fun _ => true) (validateOracleRegistryCoverage ascii
          (importSnapshot ascii (snapshotOf ⟨"A", "A", 1, false, none⟩)
            true last).1)) = true := by
    decide +kernel
  obtain ⟨court, s, hcourt, hs, htest⟩ := passesOne_ok hpasses
  simp only [Bool.and_eq_true, decide_eq_true_eq, bne_iff_ne] at htest
  obtain ⟨⟨⟨⟨hprovider, hthrows⟩, hgone⟩, hdone⟩, huncovered⟩ := htest
  refine ⟨court, s, hcourt, hs, ?_, ?_, ?_, ?_, ?_⟩
  · intro hsame
    exact hprovider (congrArg _ (hsame.1 "A"))
  · cases himport : (importSnapshot ascii
        (snapshotOf ⟨"A", "A", 0, true, none⟩) true s.court).2 with
    | error e => exact ⟨e, rfl⟩
    | ok u =>
      rw [himport] at hthrows
      cases hthrows
  · intro hsame
    exact hgone (congrArg _ (hsame.2 "s"))
  · obtain ⟨u, hu, -⟩ := check_ok hdone
    exact hu
  · intro hcovered
    rw [hcovered] at huncovered
    cases huncovered

end Concrete

end KamiyoProtocol.LimitlessCourt
