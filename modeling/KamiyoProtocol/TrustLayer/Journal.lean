/-
The journal and the subjects of a trust layer.

A journal entry is for an event that its subject took, so the entries of
a subject number its events, link their hashes, and fold to its state. A
refused event leaves no entry, though the subject is known from then on.

The times of a subject's events would not decrease either, were zero not
the mark of a subject with no event yet.
-/
import KamiyoProtocol.TrustLayer.Engine

namespace KamiyoProtocol.Trust

open Exec Std

-- ==== maps

section Maps

variable {V : Type} {m : ExtTreeMap String V} {k a : String} {v : V}

theorem get_insert_self : (m.insert k v)[k]? = some v := by
  simp

theorem get_insert_ne (h : a ≠ k) : (m.insert k v)[a]? = m[a]? := by
  simp [ExtTreeMap.getElem?_insert, Ne.symm h]

end Maps

-- ==== actions

/-- The calls that change a layer. -/
inductive LayerAction
  | apply (subject : String) (event : TrustEvent)
  | setPolicy (policy : TrustPolicy)
  | setPolicyWithVersion (policy : TrustPolicy) (nextVersion : Nat)
  | seed (subject : String) (score stake : Nat) (now : Int)

/-- A call, whether it succeeds or fails. -/
def TrustLayer.step (a : LayerAction) (l : TrustLayer) :
    Except TrustLayerError TrustLayer :=
  match a with
  | .apply subject event => .ok (l.applyEvent subject event).2
  | .setPolicy policy => .ok ((l.setPolicy policy).toOption.getD l)
  | .setPolicyWithVersion policy nextVersion =>
    .ok ((l.setPolicyWithVersion policy nextVersion).toOption.getD l)
  | .seed subject score stake now =>
    .ok (l.seedSubject subject score stake now)

def LayerAction.seeds : LayerAction → Bool
  | .seed _ _ _ _ => true
  | _ => false

-- ==== what an event does

section Events

variable {l l' : TrustLayer} {subject : String} {event : TrustEvent}
  {state next : SubjectState} {e : TrustLayerError}

/-- What `apply_event` does, and gives. -/
inductive Applied (l : TrustLayer) (subject : String) (event : TrustEvent) :
    Except TrustLayerError TrustReceipt × TrustLayer → Prop
  /-- The event is invalid, or its id is another event's. -/
  | refused (e : TrustLayerError) : Applied l subject event (.error e, l)
  | replayed (existing : EventRecord)
      (hvalid : event.validate = .ok ())
      (hindex : l.eventIndex[event.eventId]? = some existing)
      (hsubject : existing.subject = subject)
      (hevent : existing.event = event) :
      Applied l subject event (.ok existing.receipt, l)
  /-- The event may not come next. -/
  | touched (e : TrustLayerError)
      (hvalid : event.validate = .ok ())
      (hfresh : l.eventIndex[event.eventId]? = none)
      (htake : (l.stateOf subject).take subject event = .error e) :
      Applied l subject event (.error e, l.touch subject)
  | taken (next : SubjectState)
      (hvalid : event.validate = .ok ())
      (hfresh : l.eventIndex[event.eventId]? = none)
      (htake : (l.stateOf subject).take subject event = .ok next) :
      Applied l subject event
        (.ok (l.entryFor subject event next).receipt,
          l.push (l.entryFor subject event next) next)

theorem applyEvent_applied :
    Applied l subject event (l.applyEvent subject event) := by
  unfold TrustLayer.applyEvent
  cases hvalid : event.validate with
  | error e => exact .refused e
  | ok u =>
    cases hindex : l.eventIndex[event.eventId]? with
    | some existing =>
      by_cases hsame : existing.subject = subject ∧ existing.event = event
      · simp only [if_pos hsame]
        exact .replayed existing hvalid hindex hsame.1 hsame.2
      · simp only [if_neg hsame]
        exact .refused _
    | none =>
      cases htake : (l.stateOf subject).take subject event with
      | error e => exact .touched e hvalid hindex htake
      | ok next => exact .taken next hvalid hindex htake

theorem applyEvent_again {existing : EventRecord}
    (hvalid : event.validate = .ok ())
    (hindex : l.eventIndex[event.eventId]? = some existing)
    (hsubject : existing.subject = subject) (hevent : existing.event = event) :
    l.applyEvent subject event = (.ok existing.receipt, l) := by
  unfold TrustLayer.applyEvent
  simp only [hvalid, hindex, if_pos (And.intro hsubject hevent)]

/-- A layer takes a valid event with a new id as its subject does. -/
theorem applyEvent_new (subject : String) (hvalid : event.validate = .ok ())
    (hfresh : l.eventIndex[event.eventId]? = none) :
    l.applyEvent subject event
      = match (l.stateOf subject).take subject event with
        | .error e => (.error e, l.touch subject)
        | .ok next => (.ok (l.entryFor subject event next).receipt,
          l.push (l.entryFor subject event next) next) := by
  unfold TrustLayer.applyEvent
  cases htake : (l.stateOf subject).take subject event with
  | error e => simp only [hvalid, hfresh]
  | ok next => simp only [hvalid, hfresh]

theorem validate_weight (h : event.validate = .ok ()) :
    event.weight < 2 ^ 16 := by
  obtain ⟨_, -, _, hweight, -⟩ := bind_ok₂.mp h
  exact Nat.lt_of_le_of_lt (require_ok.mp hweight).2 (by decide)

theorem validate_context (h : event.validate = .ok ()) :
    event.context.validate = .ok () := by
  obtain ⟨_, -, _, -, h⟩ := bind_ok₂.mp h
  exact h

/-- What a taken event changes of a state. -/
structure Advanced (state : SubjectState) (subject : String)
    (event : TrustEvent) (next : SubjectState) : Prop where
  lastSequence : next.lastSequence = event.sequence
  lastEventAt : next.lastEventAt = event.observedAt
  chainHash : next.chainHash = hashEvent state.chainHash subject event

theorem advance_ok (h : state.advance subject event = .ok next) :
    Advanced state subject event next := by
  obtain ⟨stake, -, h⟩ := bind_ok.mp h
  cases h
  exact ⟨rfl, rfl, rfl⟩

/-- An event that may come next has the next number, and is no earlier
than the last one that is not at zero. -/
theorem checkNext_ok {u : Unit} (h : state.checkNext event = .ok u) :
    event.sequence = state.lastSequence + 1
      ∧ (state.lastEventAt ≠ 0 → state.lastEventAt ≤ event.observedAt) := by
  obtain ⟨_, hstart, _, hnext, hclock⟩ := bind_ok₂.mp h
  have hstart := require_ok.mp hstart
  have hnext := require_ok.mp hnext
  have hclock := require_ok.mp hclock
  constructor
  · by_cases hzero : state.lastSequence = 0
    · rw [hzero]
      by_contra hne
      exact hstart ⟨hzero, by omega⟩
    · by_contra hne
      apply hnext
      refine ⟨hzero, ?_⟩
      unfold isValidNextSequence isSuccessor
      rw [if_neg hzero]
      have hseq : (event.sequence == state.lastSequence + 1) = false := by
        simpa using hne
      rw [hseq, Bool.and_false]
  · intro hzero
    by_contra hlt
    exact hclock ⟨hzero, by omega⟩

theorem take_ok (h : state.take subject event = .ok next) :
    state.checkNext event = .ok ()
      ∧ state.advance subject event = .ok next := by
  obtain ⟨u, hcheck, hadvance⟩ := bind_ok.mp h
  exact ⟨hcheck, hadvance⟩

end Events

-- ==== invariant

/-- The journal entries of a subject. -/
def TrustLayer.entriesOf (l : TrustLayer) (subject : String) :
    List JournalEntry :=
  l.journal.filter fun entry => entry.subject = subject

/-- The state that the entries lead to. -/
def replayState (subject : String) (entries : List JournalEntry) :
    Except TrustLayerError SubjectState :=
  entries.foldlM (fun state entry => state.advance subject entry.event)
    (SubjectState.fresh subject)

/-- What is journalled of one subject, up to its state. -/
structure History (subject : String) (entries : List JournalEntry)
    (state : SubjectState) : Prop where
  sequences : entries.map (fun e => e.event.sequence)
    = List.range' 1 entries.length
  last : state.lastSequence = entries.length
  hashes : entries.map (fun e => e.receipt.prevHash) ++ [state.chainHash]
    = newChainSeed subject :: entries.map (fun e => e.receipt.eventHash)
  state : replayState subject entries = .ok state

/-- What holds between the calls of a layer that seeds no subject. -/
structure Sound (l : TrustLayer) : Prop where
  offsets : l.journal.map (fun e => e.offset) = List.range' 1 l.journal.length
  ids : (l.journal.map fun e => e.event.eventId).Nodup
  index : ∀ e ∈ l.journal, l.eventIndex[e.event.eventId]? = some e.record
  indexed : ∀ id, l.eventIndex[id]?.isSome = true →
    id ∈ l.journal.map fun e => e.event.eventId
  valid : ∀ e ∈ l.journal, e.event.validate = .ok ()
  known : ∀ e ∈ l.journal, l.subjects[e.subject]?.isSome = true
  history : ∀ subject, History subject (l.entriesOf subject) (l.stateOf subject)

/-- No event of a subject is before the one before it. -/
def Clocked (entries : List JournalEntry) (state : SubjectState) : Prop :=
  (entries.map fun e => e.event.observedAt).Pairwise (· ≤ ·)
    ∧ ∀ e ∈ entries, e.event.observedAt ≤ state.lastEventAt

section Steps

variable {l l' : TrustLayer} {subject : String} {event : TrustEvent}
  {state next : SubjectState} {entries : List JournalEntry}
  {entry : JournalEntry}

theorem History.start : History subject [] (SubjectState.fresh subject) :=
  ⟨rfl, rfl, rfl, rfl⟩

theorem replayState_append : replayState subject (entries ++ [entry])
    = replayState subject entries
      >>= fun state => state.advance subject entry.event := by
  unfold replayState
  rw [List.foldlM_append]
  congr 1
  funext state
  show (state.advance subject entry.event >>= pure) = _
  rw [bind_pure]

theorem History.snoc (h : History subject entries state)
    (htake : state.take subject entry.event = .ok next)
    (hprev : entry.receipt.prevHash = state.chainHash)
    (hhash : entry.receipt.eventHash = next.chainHash) :
    History subject (entries ++ [entry]) next := by
  obtain ⟨hcheck, hadvance⟩ := take_ok htake
  obtain ⟨hsequence, -⟩ := checkNext_ok hcheck
  rw [h.last] at hsequence
  refine ⟨?_, ?_, ?_, ?_⟩
  · rw [List.map_append, h.sequences, List.length_append,
      List.range'_append_1.symm]
    simp [hsequence, Nat.add_comm]
  · rw [(advance_ok hadvance).lastSequence, hsequence]
    simp
  · have hhashes := h.hashes
    simp only [List.map_append, List.map_cons, List.map_nil, hprev, hhash]
    rw [hhashes]
    rfl
  · rw [replayState_append, h.state]
    exact hadvance

theorem Clocked.snoc (h : Clocked entries state)
    (htake : state.take subject entry.event = .ok next)
    (hclock : entries ≠ [] → state.lastEventAt = 0 →
      0 ≤ entry.event.observedAt) : Clocked (entries ++ [entry]) next := by
  obtain ⟨hcheck, hadvance⟩ := take_ok htake
  obtain ⟨-, hlater⟩ := checkNext_ok hcheck
  have hlast := (advance_ok hadvance).lastEventAt
  have hbefore : ∀ e ∈ entries,
      e.event.observedAt ≤ entry.event.observedAt := by
    intro e he
    have hle := h.2 e he
    by_cases hzero : state.lastEventAt = 0
    · have hpos := hclock (List.ne_nil_of_mem he) hzero
      omega
    · have hpos := hlater hzero
      omega
  constructor
  · rw [List.map_append, List.pairwise_append]
    refine ⟨h.1, List.pairwise_singleton _ _, ?_⟩
    intro x hx y hy
    obtain ⟨e, he, rfl⟩ := List.mem_map.mp hx
    rw [List.map_singleton, List.mem_singleton] at hy
    rw [hy]
    exact hbefore e he
  · intro e he
    rw [hlast]
    rcases List.mem_append.mp he with he | he
    · exact hbefore e he
    · rw [List.mem_singleton.mp he]

-- ==== maps of l

theorem stateOf_touch (s : String) :
    (l.touch subject).stateOf s = l.stateOf s := by
  unfold TrustLayer.stateOf TrustLayer.touch
  by_cases hs : s = subject
  · subst hs
    rw [get_insert_self]
    rfl
  · rw [get_insert_ne hs]

theorem stateOf_push (s : String) : (l.push entry next).stateOf s
    = if s = entry.subject then next else l.stateOf s := by
  unfold TrustLayer.stateOf TrustLayer.push
  by_cases hs : s = entry.subject
  · subst hs
    rw [get_insert_self, if_pos rfl]
    rfl
  · rw [get_insert_ne hs, if_neg hs]

theorem entriesOf_push (s : String) : (l.push entry next).entriesOf s
    = if s = entry.subject then l.entriesOf s ++ [entry]
      else l.entriesOf s := by
  unfold TrustLayer.entriesOf TrustLayer.push
  rw [List.filter_append]
  by_cases hs : s = entry.subject
  · subst hs
    simp
  · simp [hs, Ne.symm hs]

-- ==== each step

theorem mem_entriesOf {s : String} {e : JournalEntry}
    (h : e ∈ l.entriesOf s) : e ∈ l.journal :=
  (List.mem_filter.mp h).1

theorem Sound.not_mem (h : Sound l)
    (hfresh : l.eventIndex[event.eventId]? = none) :
    event.eventId ∉ l.journal.map fun e => e.event.eventId := by
  intro hmem
  obtain ⟨e, he, hid⟩ := List.mem_map.mp hmem
  have hindex := h.index e he
  rw [hid, hfresh] at hindex
  cases hindex

theorem Sound.touch (h : Sound l) (subject : String) :
    Sound (l.touch subject) where
  offsets := h.offsets
  ids := h.ids
  index := h.index
  indexed := h.indexed
  valid := h.valid
  known := by
    intro e he
    show (l.subjects.insert subject _)[e.subject]?.isSome = true
    by_cases hs : e.subject = subject
    · rw [hs, get_insert_self]
      rfl
    · rw [get_insert_ne hs]
      exact h.known e he
  history := by
    intro s
    rw [stateOf_touch]
    exact h.history s

theorem Sound.push (h : Sound l) (hvalid : event.validate = .ok ())
    (hfresh : l.eventIndex[event.eventId]? = none)
    (htake : (l.stateOf subject).take subject event = .ok next) :
    Sound (l.push (l.entryFor subject event next) next) where
  offsets := by
    show (l.journal ++ [_]).map (fun e : JournalEntry => e.offset)
      = List.range' 1 (l.journal ++ [_]).length
    rw [List.map_append, h.offsets, List.length_append,
      List.range'_append_1.symm]
    simp [TrustLayer.entryFor, Nat.add_comm]
  ids := by
    show ((l.journal ++ [_]).map fun e : JournalEntry =>
      e.event.eventId).Nodup
    rw [List.map_append, List.nodup_append]
    refine ⟨h.ids, List.nodup_singleton _, ?_⟩
    intro x hx y hy
    rw [List.map_singleton, List.mem_singleton] at hy
    rintro rfl
    rw [hy] at hx
    exact h.not_mem hfresh hx
  index := by
    intro e he
    show (l.eventIndex.insert event.eventId _)[e.event.eventId]? = _
    rcases List.mem_append.mp he with he | he
    · have hne : e.event.eventId ≠ event.eventId := by
        intro heq
        apply h.not_mem hfresh
        rw [← heq]
        exact List.mem_map_of_mem he
      rw [get_insert_ne hne]
      exact h.index e he
    · rw [List.mem_singleton.mp he]
      exact get_insert_self
  indexed := by
    intro id hid
    show id ∈ (l.journal ++ [_]).map fun e : JournalEntry => e.event.eventId
    rw [List.map_append]
    change (l.eventIndex.insert event.eventId _)[id]?.isSome = true at hid
    by_cases heq : id = event.eventId
    · rw [heq]
      exact List.mem_append_right _ (List.mem_singleton_self _)
    · rw [get_insert_ne heq] at hid
      exact List.mem_append_left _ (h.indexed id hid)
  valid := by
    intro e he
    rcases List.mem_append.mp he with he | he
    · exact h.valid e he
    · rw [List.mem_singleton.mp he]
      exact hvalid
  known := by
    intro e he
    show (l.subjects.insert subject next)[e.subject]?.isSome = true
    by_cases hs : e.subject = subject
    · rw [hs, get_insert_self]
      rfl
    · rw [get_insert_ne hs]
      rcases List.mem_append.mp he with he | he
      · exact h.known e he
      · rw [List.mem_singleton.mp he] at hs
        exact absurd rfl hs
  history := by
    intro s
    have hsubject : (l.entryFor subject event next).subject = subject := rfl
    rw [entriesOf_push, stateOf_push, hsubject]
    by_cases hs : s = subject
    · subst hs
      rw [if_pos rfl, if_pos rfl]
      exact (h.history s).snoc htake rfl rfl
    · rw [if_neg hs, if_neg hs]
      exact h.history s

theorem Sound.apply (h : Sound l) (subject : String) (event : TrustEvent) :
    Sound (l.applyEvent subject event).2 := by
  have happlied : Applied l subject event (l.applyEvent subject event) :=
    applyEvent_applied
  generalize l.applyEvent subject event = x at happlied
  cases happlied with
  | refused => exact h
  | replayed => exact h
  | touched => exact h.touch subject
  | taken next hvalid hfresh htake => exact h.push hvalid hfresh htake

theorem Sound.policy (h : Sound l) (policy : TrustPolicy) (version : Nat) :
    Sound { l with policy := policy, policyVersion := version } :=
  ⟨h.offsets, h.ids, h.index, h.indexed, h.valid, h.known, h.history⟩

/-- The times of every subject's events. -/
def TrustLayer.AllClocked (l : TrustLayer) : Prop :=
  ∀ s, Clocked (l.entriesOf s) (l.stateOf s)

/-- A new event that is valid, that the stake allows and that comes next to one
at time zero is not before it. -/
def KeepsClock (subject : String) (event : TrustEvent) (l : TrustLayer) :
    Prop :=
  event.validate.isOk = true →
    (applyStakeDelta (l.stateOf subject).stake event.stakeDelta).isOk = true →
    l.eventIndex[event.eventId]? = none →
    (l.stateOf subject).lastSequence ≠ 0 →
    event.sequence = (l.stateOf subject).lastSequence + 1 →
    (l.stateOf subject).lastEventAt = 0 → 0 ≤ event.observedAt
  deriving Decidable

theorem AllClocked.apply (hl : Sound l) (h : l.AllClocked)
    (hclock : KeepsClock subject event l) :
    (l.applyEvent subject event).2.AllClocked := by
  have happlied : Applied l subject event (l.applyEvent subject event) :=
    applyEvent_applied
  generalize l.applyEvent subject event = x at happlied
  cases happlied with
  | refused => exact h
  | replayed => exact h
  | touched =>
    intro s
    rw [stateOf_touch]
    exact h s
  | taken next hvalid hfresh htake =>
    intro s
    have hsubject : (l.entryFor subject event next).subject = subject := rfl
    rw [entriesOf_push, stateOf_push, hsubject]
    by_cases hs : s = subject
    · subst hs
      rw [if_pos rfl, if_pos rfl]
      refine (h s).snoc htake ?_
      intro hsome hzero
      obtain ⟨hcheck, hadvance⟩ := take_ok htake
      obtain ⟨hnext, -⟩ := checkNext_ok hcheck
      obtain ⟨stake, hstake, -⟩ := bind_ok.mp hadvance
      refine hclock (by rw [hvalid]; rfl) (by rw [hstake]; rfl) hfresh ?_
        hnext hzero
      rw [(hl.history s).last]
      exact fun hlength => hsome (List.length_eq_zero_iff.mp hlength)
    · rw [if_neg hs, if_neg hs]
      exact h s

end Steps

-- ==== runs

/-- The journal of a layer. -/
structure TrustLayer.Journalled (l : TrustLayer) : Prop where
  offsets : l.journal.map (fun e => e.offset) = List.range' 1 l.journal.length
  ids : (l.journal.map fun e => e.event.eventId).Nodup
  sequences : ∀ s, (l.entriesOf s).map (fun e => e.event.sequence)
    = List.range' 1 (l.entriesOf s).length
  clocks : ∀ s,
    ((l.entriesOf s).map fun e => e.event.observedAt).Pairwise (· ≤ ·)
  /-- The hash of the entry before, or the seed of the chain. -/
  prevHashes : ∀ s, (l.entriesOf s).map (fun e => e.receipt.prevHash)
    = (newChainSeed s :: (l.entriesOf s).map fun e => e.receipt.eventHash).take
      (l.entriesOf s).length
  states : ∀ s, replayState s (l.entriesOf s) = .ok (l.stateOf s)
  known : ∀ e ∈ l.journal, l.subjects[e.subject]?.isSome = true
  /-- What is journalled gets its receipt again, and changes nothing. -/
  again : ∀ e ∈ l.journal, l.applyEvent e.subject e.event = (.ok e.receipt, l)

theorem History.prevHashes {subject : String} {entries : List JournalEntry}
    {state : SubjectState} (h : History subject entries state) :
    entries.map (fun e => e.receipt.prevHash)
      = (newChainSeed subject :: entries.map fun e => e.receipt.eventHash).take
        entries.length := by
  rw [← h.hashes, List.take_append_of_le_length (by simp),
    List.take_of_length_le (by simp)]

theorem Sound.journalled {l : TrustLayer} (h : Sound l)
    (hclocks : l.AllClocked) : l.Journalled where
  offsets := h.offsets
  ids := h.ids
  sequences := fun s => (h.history s).sequences
  clocks := fun s => (hclocks s).1
  prevHashes := fun s => (h.history s).prevHashes
  states := fun s => (h.history s).state
  known := h.known
  again := fun e he => applyEvent_again (h.valid e he) (h.index e he) rfl rfl

variable {policy : TrustPolicy}

theorem new_ok {l : TrustLayer} (h : TrustLayer.new policy = .ok l) :
    policy.validate = .ok ()
      ∧ l = ⟨policy, initialPolicyVersion, ∅, ∅, []⟩ := by
  obtain ⟨_, hvalid, h⟩ := bind_ok.mp h
  cases h
  exact ⟨hvalid, rfl⟩

theorem new_sound {l : TrustLayer}
    (h : TrustLayer.new policy = .ok l) : Sound l ∧ l.AllClocked := by
  obtain ⟨-, rfl⟩ := new_ok h
  have hstate : ∀ s, TrustLayer.stateOf
      ⟨policy, initialPolicyVersion, ∅, ∅, []⟩ s = SubjectState.fresh s := by
    intro s
    unfold TrustLayer.stateOf
    simp
  refine ⟨⟨rfl, List.nodup_nil, ?_, ?_, ?_, ?_, ?_⟩, ?_⟩
  · exact fun e he => (List.not_mem_nil he).elim
  · intro id hid
    simp at hid
  · exact fun e he => (List.not_mem_nil he).elim
  · exact fun e he => (List.not_mem_nil he).elim
  · intro s
    rw [hstate]
    exact History.start
  · intro s
    rw [hstate]
    exact ⟨List.Pairwise.nil, fun e he => (List.not_mem_nil he).elim⟩

theorem policy_kept {l : TrustLayer} {x : Except TrustLayerError TrustLayer}
    (hx : ∀ l', x = .ok l' → ∃ policy version,
      l' = { l with policy := policy, policyVersion := version }) :
    ∃ policy version, x.toOption.getD l
      = { l with policy := policy, policyVersion := version } := by
  cases hx' : x with
  | error e => exact ⟨l.policy, l.policyVersion, rfl⟩
  | ok l' => exact hx l' hx'

theorem setPolicyWithVersion_ok {l l' : TrustLayer} {nextVersion : Nat}
    (h : l.setPolicyWithVersion policy nextVersion = .ok l') :
    policy.validate = .ok ()
      ∧ l' = { l with policy := policy, policyVersion := nextVersion }
      ∧ l.policyVersion + 1 = nextVersion := by
  obtain ⟨_, hvalid, _, hnext, h⟩ := bind_ok₂.mp h
  cases h
  have hnext := require_ok.mp hnext
  unfold isNextPolicyVersion isSuccessor at hnext
  simp only [Bool.and_eq_true, beq_iff_eq] at hnext
  exact ⟨hvalid, rfl, hnext.2.symm⟩

theorem setPolicy_ok {l l' : TrustLayer} (h : l.setPolicy policy = .ok l') :
    policy.validate = .ok ()
      ∧ l' = { l with policy := policy, policyVersion := l.policyVersion + 1 }
      := by
  obtain ⟨_, -, h⟩ := bind_ok.mp h
  obtain ⟨hvalid, hl', -⟩ := setPolicyWithVersion_ok h
  exact ⟨hvalid, hl'⟩

def LayerAction.applies : LayerAction → Option (String × TrustEvent)
  | .apply subject event => some (subject, event)
  | _ => none

/-- Every call but that of an event that is taken next to one at time zero, and
is before it. -/
def Clockwise (a : LayerAction) (l : TrustLayer) : Prop :=
  ∀ x ∈ a.applies, KeepsClock x.1 x.2 l
  deriving Decidable

/-- The journal of a layer that seeds no subject, where no event goes back
from time zero. -/
theorem journal_holds {policy : TrustPolicy} {l₀ l : TrustLayer}
    {tr : List LayerAction} (hnew : TrustLayer.new policy = .ok l₀)
    (hseeds : ∀ a ∈ tr, a.seeds = false)
    (hclock : Meets TrustLayer.step Clockwise l₀ tr)
    (hrun : run TrustLayer.step l₀ tr = .ok l) : l.Journalled := by
  have h := run_induct_meets (I := fun l => Sound l ∧ l.AllClocked) ?_
    (new_sound hnew) (meets_and hseeds hclock) hrun
  · exact h.1.journalled h.2
  · rintro a l l' ⟨hsound, hclocks⟩ ⟨ha, hclock⟩ hstep
    cases a with
    | apply subject event =>
      cases hstep
      exact ⟨hsound.apply subject event,
        AllClocked.apply hsound hclocks (hclock (subject, event) rfl)⟩
    | setPolicy policy =>
      cases hstep
      obtain ⟨p, v, hl'⟩ := policy_kept fun l' h => ⟨_, _, (setPolicy_ok h).2⟩
      rw [hl']
      exact ⟨hsound.policy p v, hclocks⟩
    | setPolicyWithVersion policy nextVersion =>
      cases hstep
      obtain ⟨p, v, hl'⟩ := policy_kept fun l' h =>
        ⟨_, _, (setPolicyWithVersion_ok h).2.1⟩
      rw [hl']
      exact ⟨hsound.policy p v, hclocks⟩
    | seed => cases ha

namespace Concrete

/-- A new layer with the default policy. -/
def layer : TrustLayer where
  policy := TrustPolicy.standard
  policyVersion := initialPolicyVersion
  subjects := ∅
  eventIndex := ∅
  journal := []

def event (eventId : String) (sequence : Nat) (observedAt : Int) :
    TrustEvent where
  eventId := eventId
  sequence := sequence
  observedAt := observedAt
  kind := .manualCredit
  weight := 20
  stakeDelta := 12000
  context := ⟨none, none, none, none⟩

/-- Two events, the second refused at first, and a policy between them. -/
def events : List LayerAction :=
  [.apply "agent" (event "evt-1" 1 0), .apply "agent" (event "evt-2" 3 5),
    .setPolicy TrustPolicy.standard, .apply "agent" (event "evt-2" 2 5)]

end Concrete

theorem journal_holds_two :
    ∃ l, run TrustLayer.step Concrete.layer Concrete.events = .ok l
      ∧ l.journal.length = 2 ∧ l.Journalled := by
  obtain ⟨l, hrun, hlength⟩ := check_ok (show Exec.check
      (fun l : TrustLayer => decide (l.journal.length = 2))
      (run TrustLayer.step Concrete.layer Concrete.events) = true
    by decide +kernel)
  have hnew : TrustLayer.new TrustPolicy.standard = .ok Concrete.layer := rfl
  have hclock : Meets TrustLayer.step Clockwise Concrete.layer
      Concrete.events := by
    apply meets_of_check fun a l h =>
      of_decide_eq_true (p := Clockwise a l) h
    decide +kernel
  exact ⟨l, hrun, of_decide_eq_true hlength,
    journal_holds hnew (by decide) hclock hrun⟩

/-- An event at time zero may be followed by an earlier one. -/
theorem clock_goes_back :
    ∃ l, TrustLayer.new TrustPolicy.standard = .ok Concrete.layer
      ∧ run TrustLayer.step Concrete.layer
        [.apply "agent" (Concrete.event "evt-1" 1 0),
          .apply "agent" (Concrete.event "evt-2" 2 (-5))] = .ok l
      ∧ (l.entriesOf "agent").map (fun e => e.event.observedAt) = [0, -5]
      ∧ ¬ l.Journalled := by
  obtain ⟨l, hrun, htimes⟩ := check_ok (show Exec.check
      (fun l : TrustLayer => decide
        ((l.entriesOf "agent").map (fun e => e.event.observedAt) = [0, -5]))
      (run TrustLayer.step Concrete.layer
        [.apply "agent" (Concrete.event "evt-1" 1 0),
          .apply "agent" (Concrete.event "evt-2" 2 (-5))]) = true
    by decide +kernel)
  have htimes := of_decide_eq_true htimes
  refine ⟨l, rfl, hrun, htimes, ?_⟩
  intro h
  have hclocks := h.clocks "agent"
  rw [htimes] at hclocks
  exact absurd hclocks (by decide)

end KamiyoProtocol.Trust
