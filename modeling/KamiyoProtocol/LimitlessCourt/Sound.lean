/-
When the verdict court is sound.

`verdict_sound_iff`: a run is sound for a settlement exactly if every
commitment for it comes before the first reveal, and no score is revealed
between the call of `finalize` that called the verdict callback and that
callback's success. `submitAttestation` asks for neither, and
`submitCommitment` for the second alone.
-/
import KamiyoProtocol.Lib.Double
import KamiyoProtocol.LimitlessCourt.Runs

namespace KamiyoProtocol.LimitlessCourt

open Ecma (Dict trim)
open Exec

variable {M R : Type} {host : Host} {settings : CourtSettings}
  {s s' : System M R} {id : String} {now : ℚ}
  {tr : List (CourtAction M R)} {a : CourtAction M R}
  {st st' : SettlementState M R} {calls calls' : List (Finalization M)}

-- ==== sound

/-- A verdict was built from a settlement in which distinct oracles attest to
what they committed to before, and which is a quorum with the weights added in
the order of the reveals; so is what the verdict includes. -/
structure Counted (host : Host) (settings : CourtSettings)
    (tr : List (CourtAction M R)) (id : String)
    (verdict : LimitlessCourtVerdict M) (st : SettlementState M R) :
    Prop where
  quorum : IsQuorum host settings (getAttestations host st)
  included : IsQuorum host settings
    (includedOf host settings (getAttestations host st))
  attestations : verdict.attestations.Perm
    (includedOf host settings (getAttestations host st))
  distinct : ((getAttestations host st).map (·.oracleId)).Nodup
  matched : ∀ x ∈ getAttestations host st, Matched host settings tr id x

/-- What a run of a commit-reveal court should be for a settlement. -/
structure Sound (host : Host) (court : Court M R) (id : String)
    (tr : List (CourtAction M R)) : Prop where
  /-- No commitment is accepted once a score has been revealed. -/
  hidden : ∀ p input now q, tr = p ++ .submitCommitment input now :: q →
    trim input.settlementId = id → ∀ b ∈ p, ¬ RevealsFor id b
  /-- One verdict callback at most is in flight. -/
  single : ∀ p q m, tr = p ++ q →
    run (courtStep host) ⟨court, []⟩ p = .ok m → (callsOf m id).length ≤ 1
  /-- One verdict callback at most succeeds. -/
  once : successes id tr ≤ 1
  /-- One that succeeds has a quorum of attestations of distinct oracles, each
  of which opens a commitment made before. -/
  quorum : ∀ p i r q m, tr = p ++ .onVerdict id i (.ok r) :: q →
    run (courtStep host) ⟨court, []⟩ p = .ok m →
    ∃ call counted, m.awaiting[i]? = some call
      ∧ Counted host court.settings p id call.verdict counted
  /-- What is settled stays as it is. -/
  frozen : ∀ p q t m m', tr = p ++ (q ++ t) →
    run (courtStep host) ⟨court, []⟩ p = .ok m →
    (stateOf m id).settled = true → run (courtStep host) m q = .ok m' →
    (stateOf m' id).settled = true
      ∧ (stateOf m' id).commitments = (stateOf m id).commitments
  /-- What is settled yields its verdict again. -/
  reproduced : ∀ p q m, tr = p ++ q →
    run (courtStep host) ⟨court, []⟩ p = .ok m →
    (stateOf m id).settled = true →
    ∃ verdict, (stateOf m id).verdict = some verdict
      ∧ ∀ now, buildVerdict host court.settings now id (stateOf m id)
        = .ok { verdict with createdAt := now }

/-- Commitments come before the first reveal, and a verdict callback succeeds
while the settlement has as many attestations as its call counted. -/
def InOrder (host : Host) (id : String) (a : CourtAction M R)
    (s : System M R) : Prop :=
  match a with
  | .submitCommitment input _ =>
    trim input.settlementId = id →
      (getAttestations host (stateOf s id)).length = 0
  | .onVerdict settlementId i (.ok _) =>
    settlementId = id → ∀ call, s.awaiting[i]? = some call →
      (getAttestations host (stateOf s id)).length
        = call.progress.attestationCount
  | _ => True

-- ==== frozen

theorem Move.settled (hmove : Move host settings id a st calls st' calls')
    (hkept : Kept host settings id tr st calls) (hs : st.settled = true) :
    st'.settled = true ∧ st'.commitments = st.commitments
      ∧ st'.verdict = st.verdict := by
  cases hmove with
  | stays hreveal hsucceed => exact ⟨hs, rfl, rfl⟩
  | commits input now o committedAt ha hid ho hsettled hidle hnew =>
    rw [hs] at hsettled
    cases hsettled
  | reveals input now verdictNow o c x st' new ha hid ho hsettled =>
    rw [hs] at hsettled
    cases hsettled
  | finalizes settlementId now st' new ha hstarted =>
    cases hstarted with
    | idle => exact ⟨hs, rfl, rfl⟩
    | call verdict hsettled hidle hquorum hbuilt =>
      rw [hs] at hsettled
      cases hsettled
  | rejects i j e call ha hcall => exact ⟨hs, rfl, rfl⟩
  | resolves i j r call ha hcall =>
    have hsettled := (hkept.eraseIdx hcall).2.2
    rw [hs] at hsettled
    cases hsettled

theorem Move.settles (hmove : Move host settings id a st calls st' calls')
    (hs : st.settled = false) (hs' : st'.settled = true) :
    ∃ (i j : Nat) (r : R) (call : Finalization M),
      a = .onVerdict id i (.ok r) ∧ calls[j]? = some call
      ∧ st'.commitments = st.commitments
      ∧ st'.verdict = some call.verdict := by
  cases hmove with
  | stays hreveal hsucceed =>
    rw [hs] at hs'
    cases hs'
  | commits input now o committedAt ha hid ho hsettled hidle hnew =>
    rw [show st.settled = true from hs'] at hs
    cases hs
  | reveals input now verdictNow o c x st' new ha hid ho hsettled hc hfirst
      horacle hscore hconfidence hevidence hhash hstarted =>
    cases hstarted with
    | idle =>
      rw [show st.settled = true from hs'] at hs
      cases hs
    | call verdict =>
      rw [show st.settled = true from hs'] at hs
      cases hs
  | finalizes settlementId now st' new ha hstarted =>
    cases hstarted with
    | idle =>
      rw [hs] at hs'
      cases hs'
    | call verdict =>
      rw [show st.settled = true from hs'] at hs
      cases hs
  | rejects i j e call ha hcall =>
    rw [show st.settled = true from hs'] at hs
    cases hs
  | resolves i j r call ha hcall =>
    exact ⟨i, j, r, call, ha, hcall, rfl, rfl⟩

-- ==== reproduced

/-- The state yields its verdict again, at any time. -/
def Reproduces (host : Host) (settings : CourtSettings) (id : String)
    (st : SettlementState M R) : Prop :=
  ∃ verdict, st.verdict = some verdict
    ∧ ∀ now, buildVerdict host settings now id st
      = .ok { verdict with createdAt := now }

theorem Reproduces.congr (h : Reproduces host settings id st)
    (hcommitments : st'.commitments = st.commitments)
    (hverdict : st'.verdict = st.verdict) :
    Reproduces host settings id st' := by
  obtain ⟨verdict, hst, hbuilt⟩ := h
  refine ⟨verdict, hverdict.trans hst, fun now => ?_⟩
  rw [buildVerdict_congr hcommitments]
  exact hbuilt now

/-- A verdict is yielded again exactly if no attestation has come since the
call that built it counted them. -/
theorem Derived.reproduces_iff {verdict : LimitlessCourtVerdict M}
    {count : Nat} (h : Derived host settings id verdict count st)
    (hlabelled : Labelled st.commitments)
    (hverdict : st.verdict = some verdict) :
    Reproduces host settings id st ↔ attestedCount host st = count := by
  obtain ⟨st₀, now, hbuilt, hquorum, hlabelled₀, hcount, hkept, hgrown⟩ :=
    h.source
  constructor
  · rintro ⟨verdict', hverdict', hagain⟩
    rw [hverdict] at hverdict'
    cases hverdict'
    refine Nat.le_antisymm ?_ h.le
    rw [hcount]
    refine attestedCount_le_of_oracles hlabelled fun o ho => ?_
    -- both verdicts name the oracles that attested
    exact (verdict_oracles hbuilt o).mp
      ((verdict_oracles (hagain now) o).mpr ho)
  · intro hsame
    have hcommitments : st.commitments = st₀.commitments := by
      rcases hgrown with hcommitments | hmore
      · exact hcommitments
      · omega
    refine ⟨verdict, hverdict, fun later => ?_⟩
    rw [buildVerdict_congr hcommitments]
    exact buildVerdict_now later hbuilt

-- ==== runs

theorem Kept.revealed_iff (h : Kept host settings id tr st calls) :
    (∃ b ∈ tr, RevealsFor id b) ↔ 0 < attestedCount host st := by
  constructor
  · rintro ⟨b, hb, hrev⟩
    exact h.revealed b hb hrev
  · intro hpos
    obtain ⟨x, hx⟩ := List.exists_mem_of_length_pos hpos
    obtain ⟨commitment, committedNow, input, now, verdictNow, hsub, -, -, hid,
      -⟩ := h.matched x hx
    exact ⟨.submitAttestation input now verdictNow, hsub.subset (by simp), hid⟩

theorem Followed.the_call (h : Followed host settings tr s) {i : Nat}
    {call : Finalization M} (hi : s.awaiting[i]? = some call)
    (hid : call.settlementId = id) : callsOf s id = [call] := by
  have hmem : call ∈ callsOf s id := by
    rw [callsOf, List.mem_filter]
    exact ⟨List.mem_of_getElem? hi, by simpa using hid⟩
  have hle : (callsOf s id).length ≤ 1 := by
    have hlen := (h.kept id).inFlight
    split at hlen
    · omega
    · omega
  obtain ⟨x, hx⟩ := List.length_eq_one_iff.mp
    (Nat.le_antisymm hle (List.length_pos_of_mem hmem))
  rw [hx, List.mem_singleton] at hmem
  rw [hx, hmem]

theorem onVerdict_call {i : Nat} {outcome : Except String R}
    (h : courtStep host (.onVerdict id i outcome) s = .ok s') :
    ∃ call, s.awaiting[i]? = some call ∧ call.settlementId = id := by
  dsimp only [courtStep] at h
  split at h
  · cases h
  next call hcall =>
    split at h
    next hfor => exact ⟨call, hcall, hfor⟩
    · cases h

/-- After a success, the state yields its verdict again exactly if no
attestation has come since its call counted them. -/
theorem Followed.reproduces_iff (h : Followed host settings tr s) {i : Nat}
    {r : R} {call : Finalization M} (hi : s.awaiting[i]? = some call)
    (hstep : courtStep host (.onVerdict id i (.ok r)) s = .ok s') :
    (stateOf s' id).settled = true
      ∧ (Reproduces host settings id (stateOf s' id)
        ↔ (getAttestations host (stateOf s id)).length
          = call.progress.attestationCount) := by
  obtain ⟨call', hcall', hid⟩ := onVerdict_call hstep
  rw [hi] at hcall'
  cases hcall'
  have hone := h.the_call hi hid
  have hmove := h.move hstep id
  have hkept := (h.kept id).move hmove
  have hderived := (h.kept id).derived call (by rw [hone]; simp)
  generalize hst : stateOf s id = st at *
  generalize hst' : stateOf s' id = st' at *
  generalize callsOf s' id = calls' at *
  rw [hone] at hmove
  cases hmove with
  | stays hreveal hsucceed => exact absurd rfl hsucceed
  | commits input now o committedAt ha => cases ha
  | reveals input now verdictNow o c x st' new ha => cases ha
  | finalizes settlementId now st' new ha => cases ha
  | rejects i j e call ha => cases ha
  | resolves i j r' call' ha hcall =>
    have hsame : call' = call :=
      List.mem_singleton.mp (List.mem_of_getElem? hcall)
    subst hsame
    have hresolved : Derived host settings id call'.verdict
        call'.progress.attestationCount
        { st with
          settled := true
          finalizing := false
          verdict := some call'.verdict
          settlementResult := some r' } := hderived.congr rfl
    exact ⟨rfl, hresolved.reproduces_iff hkept.labelled rfl⟩

section Sound

variable {config : LimitlessCourtConfig M} {court : Court M R}

/-- What holds of every run. -/
theorem run_quorum (hnew : LimitlessVerdictCourt host config = .ok court)
    {m : System M R} {p : List (CourtAction M R)} {i : Nat} {r : R}
    (hp : run (courtStep host) ⟨court, []⟩ p = .ok m)
    (hstep : courtStep host (.onVerdict id i (.ok r)) m = .ok s') :
    ∃ call counted, m.awaiting[i]? = some call
      ∧ Counted host court.settings p id call.verdict counted := by
  have h := run_followed hnew hp
  obtain ⟨call, hcall, hid⟩ := onVerdict_call hstep
  have hmem : call ∈ callsOf m id := by
    rw [h.the_call hcall hid]
    exact List.mem_singleton_self call
  obtain ⟨st₀, now, hbuilt, hquorum, hlabelled, -, hkept, -⟩ :=
    ((h.kept id).derived call hmem).source
  exact ⟨call, st₀, hcall,
    { quorum := hquorum
      included := includedOf_quorum hquorum
      attestations := (verdict_attestations hbuilt).1
      distinct := getAttestations_nodup hlabelled
      matched := fun x hx => (h.kept id).matched x (hkept x hx) }⟩

theorem run_frozen (hnew : LimitlessVerdictCourt host config = .ok court)
    {m m' : System M R} {p q : List (CourtAction M R)}
    (hp : run (courtStep host) ⟨court, []⟩ p = .ok m)
    (hs : (stateOf m id).settled = true)
    (hq : run (courtStep host) m q = .ok m') :
    (stateOf m' id).settled = true
      ∧ (stateOf m' id).commitments = (stateOf m id).commitments := by
  have hstart : Followed host court.settings p m ∧ (stateOf m id).settled = true
      ∧ (stateOf m id).commitments = (stateOf m id).commitments :=
    ⟨run_followed hnew hp, hs, rfl⟩
  refine (run_induct_log (I := fun t x => Followed host court.settings t x
    ∧ (stateOf x id).settled = true
    ∧ (stateOf x id).commitments = (stateOf m id).commitments) (p := p)
    ?_ hstart hq).2
  intro t b x x' hx hstep
  obtain ⟨hfollowed, hsettled, hsame⟩ := hx
  obtain ⟨hsettled', hsame', -⟩ :=
    (hfollowed.move hstep id).settled (hfollowed.kept id) hsettled
  exact ⟨hfollowed.step hstep, hsettled', hsame'.trans hsame⟩

theorem run_reproduced (hnew : LimitlessVerdictCourt host config = .ok court)
    {m : System M R} {p : List (CourtAction M R)}
    (hp : run (courtStep host) ⟨court, []⟩ p = .ok m)
    (horder : Meets (courtStep host) (InOrder host id) ⟨court, []⟩ p)
    (hs : (stateOf m id).settled = true) :
    Reproduces host court.settings id (stateOf m id) := by
  refine run_induct_cut
    (P := fun x => ∃ t, Followed host court.settings t x)
    (I := fun x => (stateOf x id).settled = true →
      Reproduces host court.settings id (stateOf x id))
    ?_ ?_ ?_ horder hp hs
  · intro t q x _ _ ht
    exact ⟨t, run_followed hnew ht⟩
  · rintro b x x' ⟨t, ht⟩ - hI hcond hstep hs'
    have hmove := ht.move hstep id
    cases hsettled : (stateOf x id).settled with
    | true =>
      obtain ⟨-, hcommitments, hverdict⟩ :=
        hmove.settled (ht.kept id) hsettled
      exact (hI hsettled).congr hcommitments hverdict
    | false =>
      obtain ⟨i, j, r, call, rfl, hcall, -⟩ := hmove.settles hsettled hs'
      obtain ⟨call', hi, -⟩ := onVerdict_call hstep
      exact (ht.reproduces_iff hi hstep).2.mpr (hcond rfl call' hi)
  · intro hs
    have hempty := (LimitlessVerdictCourt_new hnew).2
    rw [stateOf, hempty] at hs
    cases hs

/-- A run of the court is sound for a settlement exactly if it is in order. -/
theorem verdict_sound_iff (hnew : LimitlessVerdictCourt host config = .ok court)
    (hrun : run (courtStep host) ⟨court, []⟩ tr = .ok s) (id : String) :
    Sound host court id tr
      ↔ Meets (courtStep host) (InOrder host id) ⟨court, []⟩ tr := by
  constructor
  · intro hsound
    refine meets_iff_cut.mpr fun p a q m htr hp => ?_
    have h := run_followed hnew hp
    rw [htr] at hrun
    obtain ⟨m₁, hm₁, hrest⟩ := run_append.mp hrun
    rw [hp] at hm₁
    cases hm₁
    obtain ⟨m', hstep, -⟩ := run_cons.mp hrest
    cases a with
    | submitCommitment input now =>
      intro hid
      by_contra hne
      obtain ⟨b, hb, hrev⟩ :=
        (h.kept id).revealed_iff.mpr (Nat.pos_of_ne_zero hne)
      exact hsound.hidden p input now q htr hid b hb hrev
    | onVerdict settlementId i outcome =>
      cases outcome with
      | error e => trivial
      | ok r =>
        rintro rfl call hcall
        obtain ⟨hsettled, hiff⟩ := h.reproduces_iff hcall hstep
        refine hiff.mp (hsound.reproduced
          (p ++ [.onVerdict settlementId i (.ok r)]) q m' ?_ ?_ hsettled)
        · rw [htr, List.append_assoc]
          rfl
        · exact run_append.mpr ⟨m, hp, run_cons.mpr ⟨m', hstep, rfl⟩⟩
    | submitAttestation | finalize | registerOracle | setOracleActive
    | updateOracleWeight => trivial
  · intro horder
    have hcut := meets_iff_cut.mp horder
    refine
      { hidden := ?_
        single := ?_
        once := ?_
        quorum := ?_
        frozen := fun p q t m m' _ hp hs hq => run_frozen hnew hp hs hq
        reproduced := ?_ }
    · intro p input now q htr hid b hb hrev
      rw [htr] at hrun
      obtain ⟨m, hp, -⟩ := run_append.mp hrun
      have hnone := hcut p _ q m htr hp hid
      have hsome :=
        ((run_followed hnew hp).kept id).revealed b hb hrev
      unfold attestedCount at hsome
      omega
    · intro p q m _ hp
      have hlen := ((run_followed hnew hp).kept id).inFlight
      split at hlen
      · omega
      · omega
    · have hlen := ((run_followed hnew hrun).kept id).successes
      split at hlen
      · omega
      · omega
    · intro p i r q m htr hp
      rw [htr] at hrun
      obtain ⟨m₁, hm₁, hrest⟩ := run_append.mp hrun
      rw [hp] at hm₁
      cases hm₁
      obtain ⟨m', hstep, -⟩ := run_cons.mp hrest
      exact run_quorum hnew hp hstep
    · intro p q m htr hp hs
      rw [htr] at horder
      exact run_reproduced hnew hp (meets_append horder hp).1 hs

end Sound

-- ==== runs

namespace Concrete

/-- 32 bytes that stand for the digest of a message. -/
def digest (message : List UInt8) : List UInt8 :=
  UInt8.ofNat (message.foldl (fun n b => n + b.toNat) 0)
    :: List.replicate 31 0

def node : Host where
  sha256 := digest
  toLowerCase s := s
  localeCompare a b := if a < b then -1 else if b < a then 1 else 0
  numberText x := toString x.num
  toFixed x n := toString (⌊x * 10 ^ n + 1 / 2⌋)
  add := Double.add
  sub := Double.sub
  mul := Double.mul
  div := Double.div

/-- Weights in the order of the reveals, and in that of the oracles. -/
example : node.total ([1 / 10, 1 / 5, 3 / 10].map Double.round)
    ≠ node.total ([3 / 10, 1 / 5, 1 / 10].map Double.round) := by
  decide +kernel

def commits (oracleId : String) (digest : UInt8) : CourtAction Unit Unit :=
  .submitCommitment
    ⟨"s", oracleId, digest :: List.replicate 31 0, none⟩ 1

def reveals (oracleId : String) (score : ℚ) : CourtAction Unit Unit :=
  .submitAttestation
    ⟨"s", oracleId, score, 9 / 10,
      "eeeeeeeeeeeeeeeeeeeeeeeeeeeeeeeeeeeeeeeeeeeeeeeeeeeeeeeeeeeeeeee",
      List.replicate 32 7, none, none⟩ 2 3

/-- Two oracles of weight one, each its own provider; one attests. -/
def oneOfTwo : LimitlessCourtConfig Unit where
  threshold := 1
  oracles := [⟨"a", none, none, none, none⟩, ⟨"b", none, none, none, none⟩]
  minWeight := none
  minProviderCount := none
  maxOutlierDeviation := none
  normalizeOracleId := none

/-- The court is built and the run accepted, under the tests. -/
def passes (test : CourtAction Unit Unit → System Unit Unit → Bool)
    (last : CourtSettings → System Unit Unit → Bool)
    (tr : List (CourtAction Unit Unit)) : Bool :=
  check (fun court : Court Unit Unit =>
    checkRun (courtStep node) test (last court.settings) ⟨court, []⟩ tr)
    (LimitlessVerdictCourt node oneOfTwo)

theorem passes_ok {test : CourtAction Unit Unit → System Unit Unit → Bool}
    {cond : CourtAction Unit Unit → System Unit Unit → Prop}
    {last : CourtSettings → System Unit Unit → Bool}
    {tr : List (CourtAction Unit Unit)} (h : passes test last tr = true)
    (htest : ∀ a s, test a s = true → cond a s) :
    ∃ court s, LimitlessVerdictCourt node oneOfTwo = .ok court
      ∧ run (courtStep node) ⟨court, []⟩ tr = .ok s
      ∧ last court.settings s = true
      ∧ Meets (courtStep node) cond ⟨court, []⟩ tr := by
  obtain ⟨court, hcourt, hrun⟩ := check_ok h
  obtain ⟨s, hs⟩ := run_of_check htest hrun
  exact ⟨court, s, hcourt, hs⟩

/-- One oracle commits, reveals, and the callback succeeds. -/
def ordered : List (CourtAction Unit Unit) :=
  [commits "a" 190, reveals "a" 80, .onVerdict "s" 0 (.ok ())]

def inOrder (a : CourtAction Unit Unit) (s : System Unit Unit) : Bool :=
  match a with
  | .submitCommitment _ _ =>
    (getAttestations node (stateOf s "s")).length = 0
  | .onVerdict _ i (.ok _) =>
    s.awaiting[i]?.all fun call =>
      (getAttestations node (stateOf s "s")).length
        = call.progress.attestationCount
  | _ => true

theorem inOrder_sound {a : CourtAction Unit Unit} {s : System Unit Unit}
    (h : inOrder a s = true) : InOrder node "s" a s := by
  cases a with
  | submitCommitment input now =>
    intro _
    exact of_decide_eq_true h
  | onVerdict settlementId i outcome =>
    cases outcome with
    | error e => trivial
    | ok r =>
      intro _ call hcall
      rw [inOrder, hcall] at h
      exact of_decide_eq_true h
  | submitAttestation | finalize | registerOracle | setOracleActive
  | updateOracleWeight => trivial

theorem ordered_sound :
    ∃ court s, LimitlessVerdictCourt node oneOfTwo = .ok court
      ∧ run (courtStep node) ⟨court, []⟩ ordered = .ok s
      ∧ Sound node court "s" ordered := by
  obtain ⟨court, s, hnew, hrun, -, hmeets⟩ := passes_ok
    (show passes inOrder (fun _ _ => true) ordered = true by decide +kernel)
    (fun _ _ => inOrder_sound)
  exact ⟨court, s, hnew, hrun, (verdict_sound_iff hnew hrun "s").mpr hmeets⟩

/-- The callback fails; the second oracle commits, knowing the first score,
and reveals while the callback is called again. -/
def copied : List (CourtAction Unit Unit) :=
  [commits "a" 190, reveals "a" 80, .onVerdict "s" 0 (.error "outage"),
    commits "b" 131, .finalize "s" 4, reveals "b" 20,
    .onVerdict "s" 0 (.ok ())]

/-- The state is settled with a verdict that it does not yield again. -/
def otherScore (settings : CourtSettings) (s : System Unit Unit) : Bool :=
  (stateOf s "s").settled
    && match (stateOf s "s").verdict,
        buildVerdict node settings 0 "s" (stateOf s "s") with
      | some verdict, .ok again => verdict.oracleScore ≠ again.oracleScore
      | _, _ => false

/-- A commitment is accepted after a reveal; and settled with one score, the
state yields another. -/
theorem court_unsound :
    ∃ court s, LimitlessVerdictCourt node oneOfTwo = .ok court
      ∧ run (courtStep node) ⟨court, []⟩ copied = .ok s
      ∧ (∃ p input now q, copied = p ++ .submitCommitment input now :: q
        ∧ ∃ b ∈ p, RevealsFor "s" b)
      ∧ ¬ Reproduces node court.settings "s" (stateOf s "s")
      ∧ ¬ Sound node court "s" copied := by
  obtain ⟨court, s, hnew, hrun, htest, -⟩ := passes_ok
    (show passes (fun _ _ => true) otherScore copied = true by
      decide +kernel) (fun _ _ _ => trivial)
  rw [otherScore, Bool.and_eq_true] at htest
  have hother : ¬ Reproduces node court.settings "s" (stateOf s "s") := by
    rintro ⟨verdict, hverdict, hagain⟩
    have hscores := htest.2
    rw [hverdict, hagain 0] at hscores
    simp at hscores
  refine ⟨court, s, hnew, hrun, ?_, hother, fun hsound => ?_⟩
  · exact ⟨[commits "a" 190, reveals "a" 80,
        .onVerdict "s" 0 (.error "outage")],
      _, _, _, rfl, reveals "a" 80, by simp, by
        show Ecma.trim "s" = "s"
        decide⟩
  · exact hother (hsound.reproduced copied [] s (by simp) hrun htest.1)

end Concrete

end KamiyoProtocol.LimitlessCourt
