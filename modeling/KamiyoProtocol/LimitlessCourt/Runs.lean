/-
Runs of the verdict court, seen from one settlement.

`Kept` is what every run keeps: one call at most is in flight, and the flag
`finalizing` says whether; one callback at most has succeeded, and the flag
`settled` says whether; every stored score opens a commitment its oracle had
made before; and the verdict of a call, in flight or settled, was built from a
quorum of attestations that are still there, with every other one later.

`verdict_sound_iff` states when the whole is what a commit-reveal court should
be: exactly if every commitment comes before the first reveal, and no score is
revealed between the call of `finalize` that called the verdict callback and
that callback's success. `submitAttestation` asks for neither, and
`submitCommitment` for the second alone.
-/
import KamiyoProtocol.LimitlessCourt.Moves

namespace KamiyoProtocol.LimitlessCourt

open Ecma (Dict trim)
open Exec

variable {M R : Type} {host : Host} {settings : CourtSettings}
  {s s' : System M R} {id : String} {now : ℚ}
  {tr : List (CourtAction M R)} {a : CourtAction M R}
  {st st' : SettlementState M R} {calls calls' : List (Finalization M)}

-- ==== attestations

/-- The number of oracles that have attested. -/
def attestedCount (host : Host) (st : SettlementState M R) : Nat :=
  (getAttestations host st).length

variable {c : OracleCommitmentState M} {o : String}

theorem mem_getAttestations_commit (hnew : st.commitments.get o = none)
    (hc : c.attestation = none) (x : LimitlessCourtAttestation M) :
    x ∈ getAttestations host (recorded st o c)
      ↔ x ∈ getAttestations host st := by
  rw [mem_getAttestations, mem_getAttestations]
  constructor
  · rintro ⟨o', c', ho', hx⟩
    by_cases hoo : o' = o
    · subst hoo
      rw [recorded, Dict.get_set_self] at ho'
      cases ho'
      rw [hc] at hx
      cases hx
    · rw [recorded, Dict.get_set_ne _ _ hoo] at ho'
      exact ⟨o', c', ho', hx⟩
  · rintro ⟨o', c', ho', hx⟩
    have hoo : o' ≠ o := by
      rintro rfl
      rw [hnew] at ho'
      cases ho'
    exact ⟨o', c', by rw [recorded, Dict.get_set_ne _ _ hoo, ho'], hx⟩

theorem attestedCount_commit
    (hnew : st.commitments.get o = none) (hc : c.attestation = none) :
    attestedCount host (recorded st o c) = attestedCount host st := by
  unfold attestedCount getAttestations
  rw [length_sortBy, length_sortBy]
  simp [recorded, Dict.values, Dict.entries_set_new _ hnew, hc]

theorem mem_getAttestations_reveal {y : LimitlessCourtAttestation M}
    (hc : st.commitments.get o = some c) (hfirst : c.attestation = none)
    (x : LimitlessCourtAttestation M) :
    x ∈ getAttestations host (recorded st o { c with attestation := some y })
      ↔ x = y ∨ x ∈ getAttestations host st := by
  rw [mem_getAttestations, mem_getAttestations]
  constructor
  · rintro ⟨o', c', ho', hx⟩
    by_cases hoo : o' = o
    · subst hoo
      rw [recorded, Dict.get_set_self] at ho'
      cases ho'
      exact Or.inl (Option.some.inj hx).symm
    · rw [recorded, Dict.get_set_ne _ _ hoo] at ho'
      exact Or.inr ⟨o', c', ho', hx⟩
  · rintro (rfl | ⟨o', c', ho', hx⟩)
    · exact ⟨o, _, by rw [recorded, Dict.get_set_self], rfl⟩
    · have hoo : o' ≠ o := by
        rintro rfl
        rw [hc] at ho'
        cases ho'
        rw [hfirst] at hx
        cases hx
      exact ⟨o', c', by rw [recorded, Dict.get_set_ne _ _ hoo, ho'], hx⟩

theorem attestedCount_reveal
    {y : LimitlessCourtAttestation M} (hc : st.commitments.get o = some c)
    (hfirst : c.attestation = none) :
    attestedCount host (recorded st o { c with attestation := some y })
      = attestedCount host st + 1 := by
  obtain ⟨before, after, hentries, hset⟩ := Dict.entries_set_old
    { c with attestation := some y } hc
  unfold attestedCount getAttestations
  rw [length_sortBy, length_sortBy]
  simp only [recorded, Dict.values, hset, hentries, List.map_append,
    List.map_cons, List.filterMap_append, List.filterMap_cons, hfirst,
    List.length_append, List.length_cons]
  omega

theorem labelled_recorded (h : Labelled st.commitments)
    (hc : ∀ x, c.attestation = some x → x.oracleId = o) :
    Labelled (recorded st o c).commitments := by
  intro o' c' x ho' hx
  by_cases hoo : o' = o
  · subst hoo
    rw [recorded, Dict.get_set_self] at ho'
    cases ho'
    exact hc x hx
  · rw [recorded, Dict.get_set_ne _ _ hoo] at ho'
    exact h o' c' x ho' hx

/-- Of two states, one with attestations the other has too, the verdicts name
the same oracles only if they have as many attestations. -/
theorem attestedCount_le_of_oracles (hlabelled : Labelled st'.commitments)
    (h : ∀ o, o ∈ (getAttestations host st').map (·.oracleId) →
      o ∈ (getAttestations host st).map (·.oracleId)) :
    attestedCount host st' ≤ attestedCount host st := by
  have hlen := (List.subperm_of_subset
    (getAttestations_nodup hlabelled) fun o ho => h o ho).length_le
  simpa [attestedCount] using hlen

-- ==== records

/-- An oracle committed to a hash. -/
def Committed (settings : CourtSettings) (tr : List (CourtAction M R))
    (id o : String) (hash : List UInt8) : Prop :=
  ∃ input now, .submitCommitment input now ∈ tr ∧ trim input.settlementId = id
    ∧ settings.normalizeOracleId input.oracleId = .ok o
    ∧ input.commitmentHash = hash

/-- The attestation is what its oracle revealed, and it opens what the oracle
had committed to before. -/
def Matched (host : Host) (settings : CourtSettings)
    (tr : List (CourtAction M R)) (id : String)
    (x : LimitlessCourtAttestation M) : Prop :=
  ∃ commitment committedNow input now verdictNow,
    [.submitCommitment commitment committedNow,
      .submitAttestation input now verdictNow].Sublist tr
    ∧ trim commitment.settlementId = id
    ∧ settings.normalizeOracleId commitment.oracleId = .ok x.oracleId
    ∧ trim input.settlementId = id
    ∧ settings.normalizeOracleId input.oracleId = .ok x.oracleId
    ∧ input.score = x.score ∧ input.confidence = x.confidence
    ∧ normalizeEvidenceHash host input.evidenceHash = .ok x.evidenceHash
    ∧ computeLimitlessCourtCommitmentHash host settings.normalizeOracleId id
        x.oracleId x.score x.confidence x.evidenceHash input.salt
          = .ok commitment.commitmentHash

theorem Committed.later {hash : List UInt8}
    (h : Committed settings tr id o hash) (a : CourtAction M R) :
    Committed settings (tr ++ [a]) id o hash := by
  obtain ⟨input, now, hmem, h⟩ := h
  exact ⟨input, now, List.mem_append_left [a] hmem, h⟩

theorem Matched.later {x : LimitlessCourtAttestation M}
    (h : Matched host settings tr id x) (a : CourtAction M R) :
    Matched host settings (tr ++ [a]) id x := by
  obtain ⟨commitment, committedNow, input, now, verdictNow, hsub, h⟩ := h
  exact ⟨commitment, committedNow, input, now, verdictNow,
    hsub.trans (List.sublist_append_left tr [a]), h⟩

/-- A verdict and the state it was built from: a quorum of attestations which
the settlement still has, and which are its attestations unless it has more. -/
structure Derived (host : Host) (settings : CourtSettings) (id : String)
    (verdict : LimitlessCourtVerdict M) (count : Nat)
    (st : SettlementState M R) : Prop where
  intro ::
  source : ∃ (st₀ : SettlementState M R) (now : ℚ),
    buildVerdict host settings now id st₀ = .ok verdict
    ∧ IsQuorum host settings (getAttestations host st₀)
    ∧ Labelled st₀.commitments
    ∧ count = attestedCount host st₀
    ∧ (∀ x ∈ getAttestations host st₀, x ∈ getAttestations host st)
    ∧ (st.commitments = st₀.commitments
      ∨ attestedCount host st₀ < attestedCount host st)

/-- How many verdict callbacks for the settlement have succeeded. -/
def successes (id : String) (tr : List (CourtAction M R)) : Nat :=
  tr.countP fun a => SucceedsFor id a

variable (tr a) in
theorem successes_append (hsucceed : ¬ SucceedsFor id a) :
    successes id (tr ++ [a]) = successes id tr := by
  simp [successes, hsucceed]

variable (tr a) in
theorem successes_succeed (hsucceed : SucceedsFor id a) :
    successes id (tr ++ [a]) = successes id tr + 1 := by
  simp [successes, hsucceed]

/-- What every run keeps of a settlement and the calls for it. -/
structure Kept (host : Host) (settings : CourtSettings) (id : String)
    (tr : List (CourtAction M R)) (st : SettlementState M R)
    (calls : List (Finalization M)) : Prop where
  inFlight : calls.length = if st.finalizing = true then 1 else 0
  derived : ∀ call ∈ calls, Derived host settings id call.verdict
    call.progress.attestationCount st
  successes : successes id tr = if st.settled = true then 1 else 0
  idle : st.settled = true → st.finalizing = false
  verdict : st.settled = true → ∃ verdict count,
    st.verdict = some verdict ∧ Derived host settings id verdict count st
  committed : ∀ o c, st.commitments.get o = some c →
    Committed settings tr id o c.commitmentHash
  labelled : Labelled st.commitments
  matched : ∀ x ∈ getAttestations host st, Matched host settings tr id x
  revealed : ∀ b ∈ tr, RevealsFor id b → 0 < attestedCount host st

theorem kept_empty :
    Kept host settings id [] (noSettlement : SettlementState M R) [] where
  inFlight := rfl
  derived call hcall := by cases hcall
  successes := rfl
  idle h := by cases h
  verdict h := by cases h
  committed o c h := by cases h
  labelled o c x h := by cases h
  matched x hx := by
    obtain ⟨o, c, ho, -⟩ := mem_getAttestations.mp hx
    cases ho
  revealed b hb := by cases hb

-- ==== moves

theorem attestedCount_congr (h : st'.commitments = st.commitments) :
    attestedCount host st' = attestedCount host st := by
  unfold attestedCount getAttestations
  rw [h]

theorem getAttestations_congr (h : st'.commitments = st.commitments) :
    getAttestations host st' = getAttestations host st := by
  unfold getAttestations
  rw [h]

section Derivations

variable {verdict : LimitlessCourtVerdict M} {count : Nat}

theorem Derived.congr (h : Derived host settings id verdict count st)
    (hst : st'.commitments = st.commitments) :
    Derived host settings id verdict count st' := by
  obtain ⟨st₀, now, hbuilt, hquorum, hlabelled, hcount, hkept, hgrown⟩ :=
    h.source
  refine ⟨st₀, now, hbuilt, hquorum, hlabelled, hcount, ?_, ?_⟩
  · rw [getAttestations_congr hst]
    exact hkept
  · rw [attestedCount_congr hst, hst]
    exact hgrown

theorem Derived.le (h : Derived host settings id verdict count st) :
    count ≤ attestedCount host st := by
  obtain ⟨st₀, now, -, -, -, hcount, -, hgrown⟩ := h.source
  rcases hgrown with hsame | hmore
  · rw [hcount, attestedCount_congr hsame]
  · omega

theorem Derived.reveal (h : Derived host settings id verdict count st)
    {x : LimitlessCourtAttestation M} (hc : st.commitments.get o = some c)
    (hfirst : c.attestation = none) :
    Derived host settings id verdict count
      (recorded st o { c with attestation := some x }) := by
  obtain ⟨st₀, now, hbuilt, hquorum, hlabelled, hcount, hkept, -⟩ := h.source
  have hle := h.le
  refine ⟨st₀, now, hbuilt, hquorum, hlabelled, hcount, ?_, Or.inr ?_⟩
  · intro y hy
    exact (mem_getAttestations_reveal hc hfirst y).mpr (Or.inr (hkept y hy))
  · rw [attestedCount_reveal hc hfirst]
    omega

end Derivations

theorem Kept.started (h : Kept host settings id tr st calls)
    {new : List (Finalization M)}
    (hstarted : Started host settings id now st st' new) :
    Kept host settings id tr st' (calls ++ new) := by
  cases hstarted with
  | idle =>
    rw [List.append_nil]
    exact h
  | call verdict hsettled hidle hquorum hbuilt =>
    have hnone : calls = [] := by
      have hlen := h.inFlight
      rw [hidle] at hlen
      exact List.eq_nil_of_length_eq_zero hlen
    subst hnone
    refine
      { inFlight := rfl
        derived := ?_
        successes := h.successes
        idle := fun hs => ?_
        verdict := fun hs => ?_
        committed := h.committed
        labelled := h.labelled
        matched := h.matched
        revealed := h.revealed }
    · intro call hcall
      obtain rfl := List.mem_singleton.mp hcall
      exact ⟨st, now, hbuilt, hquorum, h.labelled, rfl, fun x hx => hx,
        Or.inl rfl⟩
    · rw [show st.settled = true from hs] at hsettled
      cases hsettled
    · rw [show st.settled = true from hs] at hsettled
      cases hsettled

theorem revealed_append {n : Nat} (h : ∀ b ∈ tr, RevealsFor id b → 0 < n)
    (hreveal : RevealsFor id a → 0 < n) :
    ∀ b ∈ tr ++ [a], RevealsFor id b → 0 < n := by
  intro b hb hrev
  rcases List.mem_append.mp hb with hb | hb
  · exact h b hb hrev
  · obtain rfl := List.mem_singleton.mp hb
    exact hreveal hrev

/-- An action that touches neither commitments nor `settled`. -/
theorem Kept.append (h : Kept host settings id tr st calls)
    (hreveal : ¬ RevealsFor id a) (hsucceed : ¬ SucceedsFor id a) :
    Kept host settings id (tr ++ [a]) st calls where
  inFlight := h.inFlight
  derived := h.derived
  successes := (successes_append tr a hsucceed).trans h.successes
  idle := h.idle
  verdict := h.verdict
  committed o c hc := (h.committed o c hc).later a
  labelled := h.labelled
  matched x hx := (h.matched x hx).later a
  revealed := revealed_append h.revealed fun hrev => absurd hrev hreveal

/-- The one call in flight is the one that settles. -/
theorem Kept.eraseIdx (h : Kept host settings id tr st calls) {j : Nat}
    {call : Finalization M} (hcall : calls[j]? = some call) :
    calls.eraseIdx j = [] ∧ st.finalizing = true ∧ st.settled = false := by
  have hlen := h.inFlight
  obtain ⟨hj, -⟩ := List.getElem?_eq_some_iff.mp hcall
  have hfinalizing : st.finalizing = true := by
    by_contra hf
    rw [if_neg hf] at hlen
    omega
  rw [if_pos hfinalizing] at hlen
  refine ⟨?_, hfinalizing, ?_⟩
  · apply List.eq_nil_of_length_eq_zero
    rw [List.length_eraseIdx_of_lt hj]
    omega
  · by_contra hs
    have hidle := h.idle (by simpa using hs)
    rw [hfinalizing] at hidle
    cases hidle

theorem Kept.commit (h : Kept host settings id tr st calls)
    {input : LimitlessCourtCommitmentSubmission}
    {committedAt : ℚ} (hid : trim input.settlementId = id)
    (ho : settings.normalizeOracleId input.oracleId = .ok o)
    (hsettled : st.settled = false) (hidle : st.finalizing = false)
    (hnew : st.commitments.get o = none) :
    Kept host settings id (tr ++ [.submitCommitment input now])
      (recorded st o ⟨input.commitmentHash, committedAt, none⟩) calls := by
  have hnone : calls = [] := by
    have hlen := h.inFlight
    rw [hidle] at hlen
    exact List.eq_nil_of_length_eq_zero hlen
  subst hnone
  refine
    { inFlight := h.inFlight
      derived := by simp
      successes :=
        (successes_append tr (.submitCommitment input now) not_false).trans
          h.successes
      idle := h.idle
      verdict := fun hs => ?_
      committed := ?_
      labelled := labelled_recorded h.labelled (by simp)
      matched := ?_
      revealed := ?_ }
  · rw [show st.settled = true from hs] at hsettled
    cases hsettled
  · intro o' c' ho'
    by_cases hoo : o' = o
    · subst hoo
      rw [recorded, Dict.get_set_self] at ho'
      cases ho'
      exact ⟨input, now, by simp, hid, ho, rfl⟩
    · rw [recorded, Dict.get_set_ne _ _ hoo] at ho'
      exact (h.committed o' c' ho').later _
  · intro x hx
    exact (h.matched x
      ((mem_getAttestations_commit hnew rfl x).mp hx)).later _
  · rw [attestedCount_commit hnew rfl]
    exact revealed_append h.revealed fun hrev => hrev.elim

theorem Kept.reveal (h : Kept host settings id tr st calls)
    {input : LimitlessCourtAttestationSubmission M} {verdictNow : ℚ}
    {x : LimitlessCourtAttestation M} (hid : trim input.settlementId = id)
    (ho : settings.normalizeOracleId input.oracleId = .ok o)
    (hsettled : st.settled = false) (hc : st.commitments.get o = some c)
    (hfirst : c.attestation = none) (horacle : x.oracleId = o)
    (hscore : x.score = input.score)
    (hconfidence : x.confidence = input.confidence)
    (hevidence : normalizeEvidenceHash host input.evidenceHash
      = .ok x.evidenceHash)
    (hhash : computeLimitlessCourtCommitmentHash host
      settings.normalizeOracleId id o x.score x.confidence x.evidenceHash
      input.salt = .ok c.commitmentHash) :
    Kept host settings id
      (tr ++ [.submitAttestation input now verdictNow])
      (recorded st o { c with attestation := some x }) calls := by
  refine
    { inFlight := h.inFlight
      derived := fun call hcall => (h.derived call hcall).reveal hc hfirst
      successes := (successes_append tr
        (.submitAttestation input now verdictNow) not_false).trans h.successes
      idle := h.idle
      verdict := fun hs => ?_
      committed := ?_
      labelled := labelled_recorded h.labelled ?_
      matched := ?_
      revealed := ?_ }
  · rw [show st.settled = true from hs] at hsettled
    cases hsettled
  · intro o' c' ho'
    by_cases hoo : o' = o
    · subst hoo
      rw [recorded, Dict.get_set_self] at ho'
      cases ho'
      exact (h.committed o' c hc).later _
    · rw [recorded, Dict.get_set_ne _ _ hoo] at ho'
      exact (h.committed o' c' ho').later _
  · intro y hy
    cases hy
    exact horacle
  · intro y hy
    rcases (mem_getAttestations_reveal hc hfirst y).mp hy with rfl | hy
    · -- the commitment that the reveal opens came before it
      obtain ⟨commitment, committedNow, hmem, hcid, hco, hsame⟩ :=
        h.committed o c hc
      subst horacle
      refine ⟨commitment, committedNow, input, now, verdictNow, ?_, hcid,
        hco, hid, ho, hscore.symm, hconfidence.symm, hevidence, ?_⟩
      · exact (List.singleton_sublist.mpr hmem).append
          (List.Sublist.refl [CourtAction.submitAttestation input now
            verdictNow])
      · rw [hhash, hsame]
    · exact (h.matched y hy).later _
  · rw [attestedCount_reveal hc hfirst]
    intro b hb hrev
    omega

theorem Kept.move (h : Kept host settings id tr st calls)
    (hmove : Move host settings id a st calls st' calls') :
    Kept host settings id (tr ++ [a]) st' calls' := by
  cases hmove with
  | stays hreveal hsucceed => exact h.append hreveal hsucceed
  | commits input now o committedAt ha hid ho hsettled hidle hnew =>
    subst ha
    exact h.commit hid ho hsettled hidle hnew
  | reveals input now verdictNow o c x st' new ha hid ho hsettled hc hfirst
      horacle hscore hconfidence hevidence hhash hstarted =>
    subst ha
    exact (h.reveal hid ho hsettled hc hfirst horacle hscore hconfidence
      hevidence hhash).started hstarted
  | finalizes settlementId now st' new ha hstarted =>
    subst ha
    have hkept : Kept host settings id (tr ++ [.finalize settlementId now])
        st calls :=
      h.append not_false not_false
    exact hkept.started hstarted
  | rejects i j e call ha hcall =>
    subst ha
    obtain ⟨hnone, -, hsettled⟩ := h.eraseIdx hcall
    have hkept : Kept host settings id
        (tr ++ [.onVerdict id i (.error e)]) st calls :=
      h.append not_false not_false
    rw [hnone]
    exact
      { inFlight := rfl
        derived := by simp
        successes := hkept.successes
        idle := fun _ => rfl
        verdict := fun hs => by
          rw [show st.settled = true from hs] at hsettled
          cases hsettled
        committed := hkept.committed
        labelled := hkept.labelled
        matched := hkept.matched
        revealed := hkept.revealed }
  | resolves i j r call ha hcall =>
    subst ha
    obtain ⟨hnone, -, hsettled⟩ := h.eraseIdx hcall
    rw [hnone]
    refine
      { inFlight := rfl
        derived := by simp
        successes := ?_
        idle := fun _ => rfl
        verdict := fun _ => ?_
        committed := fun o c hc => (h.committed o c hc).later _
        labelled := h.labelled
        matched := fun x hx => (h.matched x hx).later _
        revealed := revealed_append h.revealed fun hrev => hrev.elim }
    · have hbefore := h.successes
      rw [hsettled] at hbefore
      rw [successes_succeed tr (.onVerdict id i (.ok r)) rfl, hbefore]
      rfl
    · exact ⟨call.verdict, call.progress.attestationCount, rfl,
        (h.derived call (List.mem_of_getElem? hcall)).congr rfl⟩

-- ==== runs

/-- What every run keeps of the whole system. -/
structure Followed (host : Host) (settings : CourtSettings)
    (tr : List (CourtAction M R)) (s : System M R) : Prop where
  configured : s.court.settings = settings
  registered : Registered s.court
  kept : ∀ id, Kept host settings id tr (stateOf s id) (callsOf s id)

theorem Followed.live (h : Followed host settings tr s) (id : String)
    (hcalls : callsOf s id ≠ []) : (stateOf s id).finalizing = true := by
  have hlen := (h.kept id).inFlight
  by_contra hf
  rw [if_neg hf] at hlen
  exact hcalls (List.eq_nil_of_length_eq_zero hlen)

theorem Followed.move (h : Followed host settings tr s)
    (hstep : courtStep host a s = .ok s') (id : String) :
    Move host settings id a (stateOf s id) (callsOf s id) (stateOf s' id)
      (callsOf s' id) := by
  have hmove := (courtStep_move h.registered h.live hstep).2.2 id
  rw [h.configured] at hmove
  exact hmove

theorem Followed.step (h : Followed host settings tr s)
    (hstep : courtStep host a s = .ok s') :
    Followed host settings (tr ++ [a]) s' := by
  obtain ⟨hsettings, hregistered, -⟩ :=
    courtStep_move h.registered h.live hstep
  exact ⟨hsettings.trans h.configured, hregistered,
    fun id => (h.kept id).move (h.move hstep id)⟩

theorem LimitlessVerdictCourt_new {config : LimitlessCourtConfig M}
    {court : Court M R} (h : LimitlessVerdictCourt host config = .ok court) :
    Registered court ∧ court.settlements = Dict.empty := by
  obtain ⟨settings, -, built, hbuilt, hlast⟩ := bind_ok₂.mp h
  have hloop : ∀ (oracles : List (LimitlessCourtOracle M))
      (court court' : Court M R), Registered court →
      court.settlements = Dict.empty →
      oracles.foldlM (fun court oracle => addOracle host oracle court) court
        = .ok court' →
      Registered court' ∧ court'.settlements = Dict.empty := by
    intro oracles
    induction oracles with
    | nil =>
      intro court court' hreg hempty hfold
      obtain rfl := pure_ok.mp hfold
      exact ⟨hreg, hempty⟩
    | cons oracle rest ih =>
      intro court court' hreg hempty hfold
      rw [List.foldlM_cons] at hfold
      obtain ⟨mid, hmid, hfold⟩ := bind_ok.mp hfold
      have hsame := addOracle_same hmid
      exact ih mid court' (hsame.registered hreg)
        (hsame.settlements.trans hempty) hfold
  have hbuilt' := hloop config.oracles _ built
    (fun k oracle hk => by cases hk) rfl hbuilt
  split at hlast
  · cases hlast
  · rw [covered_ok hlast]
    exact hbuilt'

theorem run_followed {config : LimitlessCourtConfig M} {court : Court M R}
    (hnew : LimitlessVerdictCourt host config = .ok court)
    (hrun : run (courtStep host) ⟨court, []⟩ tr = .ok s) :
    Followed host court.settings tr s := by
  obtain ⟨hreg, hempty⟩ := LimitlessVerdictCourt_new hnew
  have hstart : Followed host court.settings [] (⟨court, []⟩ : System M R) := by
    refine ⟨rfl, hreg, fun id => ?_⟩
    have hstate : stateOf (⟨court, []⟩ : System M R) id = noSettlement := by
      rw [stateOf, hempty]
      rfl
    rw [hstate]
    exact kept_empty
  exact run_induct_log (I := Followed host court.settings) (p := [])
    (fun _ _ _ _ h hstep => h.step hstep) hstart hrun

end KamiyoProtocol.LimitlessCourt
