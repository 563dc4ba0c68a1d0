/-
What a call to the layer leaves behind, and the receipts it gives.

A refused event makes its subject known, so a refusal is without a trace
only where the subject was known before, or nothing looked it up. The
receipts of a subject name its events by their numbers, so the one that
verifies is the one of the last event, and it is whole in the index.
-/
import KamiyoProtocol.TrustLayer.Snapshot

namespace KamiyoProtocol.Trust

open Exec Std

-- ==== a refused event

section Refusals

variable {l : TrustLayer} {subject : String} {event : TrustEvent}

theorem touch_eq_iff : l.touch subject = l
    ↔ l.subjects[subject]?.isSome = true := by
  constructor
  · intro h
    rw [← h]
    show (l.subjects.insert subject _)[subject]?.isSome = true
    rw [get_insert_self]
    rfl
  · intro h
    obtain ⟨state, hstate⟩ := Option.isSome_iff_exists.mp h
    have hsame : l.stateOf subject = state := by
      unfold TrustLayer.stateOf
      rw [hstate]
      rfl
    have hinsert : l.subjects.insert subject (l.stateOf subject)
        = l.subjects := by
      apply ExtTreeMap.ext_getElem?
      intro k
      by_cases hk : k = subject
      · rw [hk, get_insert_self, hstate, hsame]
      · rw [get_insert_ne hk]
    show { l with subjects := l.subjects.insert subject _ } = l
    rw [hinsert]

/-- The event is refused before its subject is looked up, or the subject
is known, or takes the event as its first. -/
def Traceless (subject : String) (event : TrustEvent) (l : TrustLayer) :
    Prop :=
  (¬ event.validate = .ok ()) ∨ l.eventIndex[event.eventId]?.isSome = true
    ∨ l.subjects[subject]?.isSome = true ∨ Opens event

instance (subject : String) (event : TrustEvent) (l : TrustLayer) :
    Decidable (Traceless subject event l) :=
  inferInstanceAs (Decidable (_ ∨ _ ∨ _ ∨ _))

/-- A first event that the subject takes has number one, and no negative
stake. -/
theorem opens_of_take {next : SubjectState}
    (h : (SubjectState.fresh subject).take subject event = .ok next) :
    Opens event := by
  obtain ⟨hcheck, hadvance⟩ := take_ok h
  obtain ⟨hfirst, -⟩ := checkNext_ok hcheck
  obtain ⟨stake, hstake, -⟩ := bind_ok.mp hadvance
  change applyStakeDelta 0 event.stakeDelta = .ok stake at hstake
  unfold applyStakeDelta at hstake
  refine ⟨hfirst, ?_⟩
  by_cases hpositive : 0 ≤ event.stakeDelta
  · rw [if_pos hpositive] at hstake
    by_cases hlt : 0 + event.stakeDelta.toNat < 2 ^ 64
    · omega
    · rw [if_neg hlt] at hstake
      cases hstake
  · rw [if_neg hpositive] at hstake
    by_cases hzero : event.stakeDelta.natAbs ≤ 0
    · omega
    · rw [if_neg hzero] at hstake
      cases hstake

theorem stateOf_unknown (h : l.subjects[subject]? = none) :
    l.stateOf subject = SubjectState.fresh subject := by
  unfold TrustLayer.stateOf
  rw [h]
  rfl

end Refusals

/-- A call that fails leaves the layer as it was exactly if the event does
not get to a subject that is not known and does not take it. -/
theorem refusal_traceless (l : TrustLayer) (subject : String)
    (event : TrustEvent) :
    (∀ e : TrustLayerError, (l.applyEvent subject event).1 = .error e →
      (l.applyEvent subject event).2 = l)
      ↔ Traceless subject event l := by
  have happlied : Applied l subject event (l.applyEvent subject event) :=
    applyEvent_applied
  constructor
  · intro h
    by_cases hvalid : event.validate = .ok ()
    · cases hfresh : l.eventIndex[event.eventId]? with
      | some existing => exact Or.inr (Or.inl (by rw [hfresh]; rfl))
      | none =>
        right; right
        rw [applyEvent_new subject hvalid hfresh] at h
        cases htake : (l.stateOf subject).take subject event with
        | error e =>
          rw [htake] at h
          exact Or.inl (touch_eq_iff.mp (h e rfl))
        | ok next =>
          cases hknown : l.subjects[subject]? with
          | some state => exact Or.inl rfl
          | none =>
            rw [stateOf_unknown hknown] at htake
            exact Or.inr (opens_of_take htake)
    · exact Or.inl hvalid
  · intro htraceless e herror
    generalize l.applyEvent subject event = x at happlied herror
    cases happlied with
    | refused => rfl
    | replayed => rfl
    | taken => cases herror
    | touched e' hvalid hfresh htake =>
      rcases htraceless with hinvalid | hindexed | hknown | hopens
      · exact absurd hvalid hinvalid
      · rw [hfresh] at hindexed
        cases hindexed
      · exact touch_eq_iff.mpr hknown
      · cases hknown : l.subjects[subject]? with
        | some state => exact touch_eq_iff.mpr (by rw [hknown]; rfl)
        | none =>
          have htaken : ∃ next, (SubjectState.fresh subject).take
              subject event = .ok next := hopens.take
          obtain ⟨next, hnext⟩ := htaken
          rw [stateOf_unknown hknown, hnext] at htake
          cases htake

/-- The first event of a subject has number two, so it is refused, and the
subject is known: the layer is not restored from its snapshot any more. -/
theorem refusal_traced :
    TrustLayer.new TrustPolicy.standard = .ok Concrete.layer
      ∧ (∃ e, (Concrete.layer.applyEvent "agent"
          (Concrete.event "evt-1" 2 5)).1 = .error e)
      ∧ (Concrete.layer.applyEvent "agent"
          (Concrete.event "evt-1" 2 5)).2.subjects.contains "agent" = true
      ∧ Concrete.layer.subjects.contains "agent" = false
      ∧ (Concrete.layer.applyEvent "agent" (Concrete.event "evt-1" 2 5)).2
        ≠ Concrete.layer
      ∧ (TrustLayer.fromSnapshot (Concrete.layer.applyEvent "agent"
          (Concrete.event "evt-1" 2 5)).2.snapshot).toOption.isNone
        = true := by
  have herror : (Concrete.layer.applyEvent "agent"
      (Concrete.event "evt-1" 2 5)).1 = .error (.invalidSequenceStart 2) := by
    decide +kernel
  have hknown : (Concrete.layer.applyEvent "agent"
      (Concrete.event "evt-1" 2 5)).2.subjects.contains "agent" = true := by
    decide +kernel
  have hunknown : Concrete.layer.subjects.contains "agent" = false := by
    decide +kernel
  refine ⟨rfl, ⟨_, herror⟩, hknown, hunknown, ?_, by decide +kernel⟩
  intro hsame
  rw [hsame, hunknown] at hknown
  cases hknown

-- ==== what was given last

/-- The receipt of the last event that each subject took. -/
abbrev Latest := String → Option TrustReceipt

/-- A call that gives a new receipt: the event was not on record. -/
def LayerAction.given (a : LayerAction) (l : TrustLayer) (latest : Latest) :
    Latest :=
  match a with
  | .apply subject event =>
    match (l.applyEvent subject event).1 with
    | .ok receipt =>
      if l.eventIndex[event.eventId]?.isSome then latest
      else Function.update latest subject (some receipt)
    | .error _ => latest
  | _ => latest

/-- What a layer checks of a receipt. -/
def TrustLayer.verifyReceipt (l : TrustLayer) (receipt : TrustReceipt) :
    Bool :=
  if receipt.policyVersion < initialPolicyVersion
      ∨ l.policyVersion < receipt.policyVersion then false
  else
    match l.eventIndex[receipt.eventId]? with
    | none => false
    | some existing =>
      if existing.subject ≠ receipt.subject
          ∨ existing.receipt ≠ receipt then false
      else
        match l.subjects[receipt.subject]? with
        | none => false
        | some state =>
          if state.lastSequence ≠ receipt.sequence then false
          else if state.chainHash ≠ receipt.eventHash then false
          else if hashState receipt.subject state ≠ receipt.stateHash then
            false
          else if decisionIdHash receipt.policyVersion receipt.sequence
              receipt.eventHash receipt.stateHash
                ≠ receipt.decisionId then false
          else true

/-- An entry's receipt is about its event, under a policy of the layer. -/
structure JournalEntry.Issued (entry : JournalEntry) (policyVersion : Nat) :
    Prop where
  subject : entry.receipt.subject = entry.subject
  eventId : entry.receipt.eventId = entry.event.eventId
  sequence : entry.receipt.sequence = entry.event.sequence
  first : initialPolicyVersion ≤ entry.receipt.policyVersion
  current : entry.receipt.policyVersion ≤ policyVersion
  decisionId : decisionIdHash entry.receipt.policyVersion
    entry.receipt.sequence entry.receipt.eventHash entry.receipt.stateHash
      = entry.receipt.decisionId

/-- The receipts of a layer, and the last one of each subject. -/
structure Receipts (l : TrustLayer) (latest : Latest) : Prop where
  sound : Sound l
  version : initialPolicyVersion ≤ l.policyVersion
  issued : ∀ e ∈ l.journal, e.Issued l.policyVersion
  latest : ∀ s : String,
    latest s = (l.entriesOf s).getLast?.map fun e => e.receipt
  /-- The last one is for the state as it is. -/
  state : ∀ (s : String) (e : JournalEntry), e ∈ (l.entriesOf s).getLast? →
    e.receipt.eventHash = (l.stateOf s).chainHash
      ∧ e.receipt.stateHash = hashState s (l.stateOf s)

section Runs

variable {l l' : TrustLayer} {latest : Latest} {subject : String}
  {event : TrustEvent} {next : SubjectState} {receipt : TrustReceipt}

theorem JournalEntry.Issued.mono {entry : JournalEntry} {v v' : Nat}
    (h : entry.Issued v) (hv : v ≤ v') : entry.Issued v' :=
  { h with current := Nat.le_trans h.current hv }

theorem entryFor_issued (h : initialPolicyVersion ≤ l.policyVersion) :
    (l.entryFor subject event next).Issued l.policyVersion :=
  ⟨rfl, rfl, rfl, h, Nat.le_refl _, rfl⟩

theorem Receipts.start (hsound : Sound l)
    (hversion : l.policyVersion = initialPolicyVersion)
    (hjournal : l.journal = []) : Receipts l fun _ => none := by
  have hentries : ∀ s, l.entriesOf s = [] := by
    intro s
    unfold TrustLayer.entriesOf
    rw [hjournal]
    rfl
  refine ⟨hsound, Nat.le_of_eq hversion.symm, ?_, ?_, ?_⟩
  · intro e he
    rw [hjournal] at he
    cases he
  · intro s
    rw [hentries]
    rfl
  · intro s e he
    rw [hentries] at he
    cases he

theorem Receipts.touch (h : Receipts l latest) (subject : String) :
    Receipts (l.touch subject) latest where
  sound := h.sound.touch subject
  version := h.version
  issued := h.issued
  latest := h.latest
  state := by
    intro s e he
    rw [stateOf_touch]
    exact h.state s e he

theorem Receipts.push (h : Receipts l latest) (hvalid : event.validate = .ok ())
    (hfresh : l.eventIndex[event.eventId]? = none)
    (htake : (l.stateOf subject).take subject event = .ok next) :
    Receipts (l.push (l.entryFor subject event next) next)
      (Function.update latest subject
        (some (l.entryFor subject event next).receipt)) where
  sound := h.sound.push hvalid hfresh htake
  version := h.version
  issued := by
    intro e he
    rcases List.mem_append.mp he with he | he
    · exact h.issued e he
    · rw [List.mem_singleton.mp he]
      exact entryFor_issued h.version
  latest := by
    intro s
    have hsubject : (l.entryFor subject event next).subject = subject := rfl
    rw [entriesOf_push, hsubject]
    by_cases hs : s = subject
    · subst hs
      simp
    · rw [if_neg hs, Function.update_of_ne hs]
      exact h.latest s
  state := by
    intro s e he
    have hsubject : (l.entryFor subject event next).subject = subject := rfl
    rw [entriesOf_push, hsubject] at he
    rw [stateOf_push, hsubject]
    by_cases hs : s = subject
    · subst hs
      simp only [if_pos, List.getLast?_append, List.getLast?_singleton,
        Option.some_or, Option.mem_def, Option.some.injEq] at he ⊢
      rw [← he]
      exact ⟨rfl, rfl⟩
    · rw [if_neg hs] at he ⊢
      exact h.state s e he

theorem Receipts.under (h : Receipts l latest) (policy : TrustPolicy)
    {version : Nat} (hversion : l.policyVersion ≤ version) :
    Receipts { l with policy := policy, policyVersion := version } latest where
  sound := h.sound.policy policy version
  version := Nat.le_trans h.version hversion
  issued := fun e he => (h.issued e he).mono hversion
  latest := h.latest
  state := h.state

theorem Receipts.apply (h : Receipts l latest) (subject : String)
    (event : TrustEvent) :
    Receipts (l.applyEvent subject event).2
      (LayerAction.given (.apply subject event) l latest) := by
  have happlied : Applied l subject event (l.applyEvent subject event) :=
    applyEvent_applied
  unfold LayerAction.given
  dsimp only
  generalize l.applyEvent subject event = x at happlied
  cases happlied with
  | refused => exact h
  | touched => exact h.touch subject
  | replayed existing hvalid hindex hsubject hevent =>
    simp only [hindex, Option.isSome_some, if_true]
    exact h
  | taken next hvalid hfresh htake =>
    simp only [hfresh, Option.isSome_none, Bool.false_eq_true, if_false]
    exact h.push hvalid hfresh htake

theorem Receipts.set {x : Except TrustLayerError TrustLayer}
    (h : Receipts l latest)
    (hx : ∀ l', x = .ok l' → ∃ policy,
      l' = { l with policy := policy, policyVersion := l.policyVersion + 1 }) :
    Receipts (x.toOption.getD l) latest := by
  cases hx' : x with
  | error e => exact h
  | ok l' =>
    obtain ⟨policy, hl'⟩ := hx l' hx'
    show Receipts l' latest
    rw [hl']
    exact h.under policy (Nat.le_succ _)

theorem Receipts.step {a : LayerAction} (h : Receipts l latest)
    (ha : a.seeds = false) (hstep : l.step a = .ok l') :
    Receipts l' (a.given l latest) := by
  cases a with
  | apply subject event =>
    cases hstep
    exact h.apply subject event
  | setPolicy policy =>
    cases hstep
    exact h.set fun l' h => ⟨_, (setPolicy_ok h).2⟩
  | setPolicyWithVersion policy nextVersion =>
    cases hstep
    refine h.set fun l' h => ?_
    obtain ⟨-, hl', hversion⟩ := setPolicyWithVersion_ok h
    rw [hversion]
    exact ⟨_, hl'⟩
  | seed => cases ha

-- ==== verification

/-- What a receipt has to be to verify. -/
theorem verifyReceipt_ok : l.verifyReceipt receipt = true ↔
    initialPolicyVersion ≤ receipt.policyVersion
      ∧ receipt.policyVersion ≤ l.policyVersion
      ∧ ∃ existing, l.eventIndex[receipt.eventId]? = some existing
        ∧ existing.subject = receipt.subject ∧ existing.receipt = receipt
        ∧ ∃ state, l.subjects[receipt.subject]? = some state
          ∧ state.lastSequence = receipt.sequence
          ∧ state.chainHash = receipt.eventHash
          ∧ hashState receipt.subject state = receipt.stateHash
          ∧ decisionIdHash receipt.policyVersion receipt.sequence
              receipt.eventHash receipt.stateHash = receipt.decisionId := by
  unfold TrustLayer.verifyReceipt
  by_cases hversion : receipt.policyVersion < initialPolicyVersion
      ∨ l.policyVersion < receipt.policyVersion
  · rw [if_pos hversion]
    constructor
    · intro h
      cases h
    · rintro ⟨hfirst, hcurrent, -⟩
      omega
  rw [if_neg hversion]
  cases hindex : l.eventIndex[receipt.eventId]? with
  | none => simp
  | some existing =>
    cases hsubject : l.subjects[receipt.subject]? with
    | none => simp
    | some state =>
      have hbounds : initialPolicyVersion ≤ receipt.policyVersion
          ∧ receipt.policyVersion ≤ l.policyVersion := by
        omega
      simp [hbounds]
      tauto

theorem History.entry_sequence {entries : List JournalEntry}
    {state : SubjectState} (h : History subject entries state) {i : Nat}
    {e : JournalEntry} (hi : entries[i]? = some e) :
    e.event.sequence = i + 1 := by
  have hget : (entries.map fun e => e.event.sequence)[i]?
      = some e.event.sequence := by
    rw [List.getElem?_map, hi]
    rfl
  obtain ⟨hlt, -⟩ := List.getElem?_eq_some_iff.mp hi
  rw [h.sequences, List.getElem?_range' (by simpa using hlt)] at hget
  injection hget with hget
  omega

theorem History.entry_last {entries : List JournalEntry}
    {state : SubjectState} (h : History subject entries state)
    {e : JournalEntry} (he : e ∈ entries)
    (hsequence : e.event.sequence = state.lastSequence) :
    entries.getLast? = some e := by
  obtain ⟨i, hi⟩ := List.mem_iff_getElem?.mp he
  have hplace := h.entry_sequence hi
  rw [hsequence, h.last] at hplace
  rw [List.getLast?_eq_getElem?, hplace]
  exact hi

theorem History.last_sequence {entries : List JournalEntry}
    {state : SubjectState} (h : History subject entries state)
    {e : JournalEntry} (he : entries.getLast? = some e) :
    e.event.sequence = state.lastSequence := by
  have hlength : 0 < entries.length :=
    List.length_pos_of_mem (List.mem_of_getLast? he)
  rw [List.getLast?_eq_getElem?] at he
  have hplace := h.entry_sequence he
  have hcount := h.last
  omega

theorem Receipts.verified (h : Receipts l latest)
    (hverify : l.verifyReceipt receipt = true) :
    latest receipt.subject = some receipt := by
  obtain ⟨-, -, existing, hindex, hsubject, hreceipt, state, hstate,
    hsequence, -⟩ := verifyReceipt_ok.mp hverify
  have hindexed := h.sound.indexed receipt.eventId (by rw [hindex]; rfl)
  obtain ⟨e, he, hid⟩ := List.mem_map.mp hindexed
  have hrecord := h.sound.index e he
  rw [hid, hindex] at hrecord
  injection hrecord with hrecord
  rw [hrecord] at hsubject hreceipt
  change e.subject = receipt.subject at hsubject
  change e.receipt = receipt at hreceipt
  have hentry : e ∈ l.entriesOf receipt.subject :=
    List.mem_filter.mpr ⟨he, by simpa using hsubject⟩
  have hstateOf : l.stateOf receipt.subject = state := by
    unfold TrustLayer.stateOf
    rw [hstate]
    rfl
  have hlast : e.event.sequence = (l.stateOf receipt.subject).lastSequence := by
    rw [hstateOf, hsequence, ← hreceipt, (h.issued e he).sequence]
  rw [h.latest, (h.sound.history receipt.subject).entry_last hentry hlast]
  exact congrArg some hreceipt

theorem Receipts.verifies (h : Receipts l latest)
    (hlatest : latest receipt.subject = some receipt) :
    l.verifyReceipt receipt = true := by
  rw [h.latest] at hlatest
  obtain ⟨e, hlast, hreceipt⟩ := Option.map_eq_some_iff.mp hlatest
  have hentry := List.mem_of_getLast? hlast
  have he := mem_entriesOf hentry
  have hissued := h.issued e he
  have hindex := h.sound.index e he
  obtain ⟨state, hstate⟩ := Option.isSome_iff_exists.mp (h.sound.known e he)
  have hstateOf : l.stateOf e.subject = state := by
    unfold TrustLayer.stateOf
    rw [hstate]
    rfl
  obtain ⟨hevent, hhash⟩ := h.state receipt.subject e hlast
  rw [← hreceipt, hissued.subject, hstateOf] at hevent hhash
  have hsequence : e.event.sequence = state.lastSequence := by
    have hlast := (h.sound.history receipt.subject).last_sequence hlast
    rw [← hreceipt, hissued.subject, hstateOf] at hlast
    exact hlast
  rw [← hreceipt]
  refine verifyReceipt_ok.mpr ⟨hissued.first, hissued.current, e.record, ?_,
    hissued.subject.symm, rfl, state, ?_, ?_, hevent.symm, ?_,
    hissued.decisionId⟩
  · rw [hissued.eventId]
    exact hindex
  · rw [hissued.subject]
    exact hstate
  · rw [← hsequence, hissued.sequence]
  · rw [hissued.subject]
    exact hhash.symm

end Runs

/-- A receipt verifies exactly if it is the one of the last event that its
subject took. -/
theorem verifyReceipt_iff_latest {policy : TrustPolicy} {l₀ l : TrustLayer}
    {tr : List LayerAction} {latest : Latest}
    (hnew : TrustLayer.new policy = .ok l₀)
    (hseeds : ∀ a ∈ tr, a.seeds = false)
    (hrun : run (tracked TrustLayer.step LayerAction.given)
      (l₀, fun _ => none) tr = .ok (l, latest))
    (receipt : TrustReceipt) :
    l.verifyReceipt receipt = true ↔ latest receipt.subject = some receipt := by
  have h := run_induct_meets
    (I := fun x : TrustLayer × Latest => Receipts x.1 x.2) ?_ ?_
    (meets_of_forall hseeds) hrun
  · exact ⟨h.verified, h.verifies⟩
  · rintro a x y h ha hstep
    obtain ⟨hstep, hlatest⟩ := tracked_ok.mp hstep
    rw [hlatest]
    exact h.step ha hstep
  · obtain ⟨-, rfl⟩ := new_ok hnew
    exact Receipts.start (new_sound hnew).1 rfl rfl


theorem verifyReceipt_iff_latest_two :
    ∃ l latest, ∃ receipt : TrustReceipt,
      run (tracked TrustLayer.step LayerAction.given)
        (Concrete.layer, fun _ => none) Concrete.events = .ok (l, latest)
      ∧ receipt.subject = "agent" ∧ receipt.sequence = 2
      ∧ latest "agent" = some receipt ∧ l.verifyReceipt receipt = true := by
  obtain ⟨x, hrun, hcheck⟩ := check_ok (show Exec.check
      (fun x : TrustLayer × Latest => (x.2 "agent").any fun receipt =>
        decide (receipt.subject = "agent" ∧ receipt.sequence = 2))
      (run (tracked TrustLayer.step LayerAction.given)
        (Concrete.layer, fun _ => none) Concrete.events) = true
    by decide +kernel)
  obtain ⟨receipt, hlatest, hreceipt⟩ :=
    (Option.any_eq_true _ _).mp hcheck
  obtain ⟨hsubject, hsequence⟩ := of_decide_eq_true hreceipt
  have hnew : TrustLayer.new TrustPolicy.standard = .ok Concrete.layer := rfl
  refine ⟨x.1, x.2, receipt, hrun, hsubject, hsequence, hlatest, ?_⟩
  refine (verifyReceipt_iff_latest hnew (by decide) hrun receipt).mpr ?_
  rw [hsubject]
  exact hlatest

end KamiyoProtocol.Trust
