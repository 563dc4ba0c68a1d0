/-
What the ingest service answers.

A statement of a request moves it on, ends it, or commits its event. An
answer is what the layer of the committed events has to say at some moment
between the arrival of the request and its end, unless the subject cannot
be stored, or its last event happens to have a hash of zero, as if it had
none: `from_snapshot` takes no such state.
-/
import KamiyoProtocol.TrustLayer.Kept

namespace KamiyoProtocol.Trust

open Exec Std

section Steps

variable {hashtext : String → Int} {s s' : Service} {i : Nat} {t : Ticket}

-- ==== the answers

/-- The hash of a subject with an event is not that of one without. -/
def Ticket.Served (s : Service) (t : Ticket) : Prop :=
  match t.phase with
  | .absent _ => ∀ row ∈ s.subjects[t.subject]?, row.chainHash ≠ hashText 0
  | _ => True

instance (s : Service) (t : Ticket) : Decidable (t.Served s) := by
  unfold Ticket.Served
  split <;> infer_instance

/-- What is to be written is within what the tables hold. -/
def Ticket.InRange (t : Ticket) : Prop :=
  match t.phase with
  | .applied _ state | .inserted _ _ state => state.Fits
  | _ => True

instance (t : Ticket) : Decidable t.InRange := by
  unfold Ticket.InRange
  split <;> infer_instance

/-- The policy of the service. -/
structure Service.Configured (s : Service) : Prop where
  policy : s.policy.validate = .ok ()
  version : initialPolicyVersion ≤ s.policyVersion
  fits : s.policyVersion < 2 ^ 63

/-- The service can serve the request. -/
structure Servable (s : Service) (t : Ticket) : Prop extends
    s.Configured where
  storable : storable t.subject = true
  served : t.Served s
  inRange : t.InRange

/-- What a statement of a request leads to. -/
inductive Outcome (hashtext : String → Int) (s : Service) (i : Nat)
    (t : Ticket) : Service → Prop
  | moves (phase : Phase) (nextId : Nat) (hdone : phase.isDone = false)
      (hkept : Service.Kept hashtext
        { s.setPhase i t phase with nextId := nextId }) :
      Outcome hashtext s i t { s.setPhase i t phase with nextId := nextId }
  | ends (answer : Answer) (nextId : Nat)
      (hanswer : Servable s t → ∃ n, t.arrived ≤ n ∧ n ≤ s.log.length
        ∧ answer.Agrees ((s.layerAt n).expected t.subject t.event)) :
      Outcome hashtext s i t
        { s.finish i t (some answer) with nextId := nextId }
  | commits {s' : Service} (state : SubjectState) (receipt : TrustReceipt)
      (hc : Committed s s' t state) (hkept : s'.Kept hashtext)
      (hrequests : s'.requests = s.requests.set i { t with
        phase := .done (some (.receipt false receipt)) (s.log.length + 1) })
      (hanswer : s.layer.expected t.subject t.event = .receipt false receipt) :
      Outcome hashtext s i t s'

theorem layerAt_length : s.layerAt s.log.length = s.layer := by
  unfold Service.layerAt
  rw [List.take_length]
  rfl

theorem Service.Kept.lock_outcome (h : s.Kept hashtext)
    (hi : s.requests[i]? = some t) (hlock : s.lock hashtext i t = .ok s') :
    Outcome hashtext s i t s' := by
  unfold Service.lock at hlock
  by_cases hstorable : storable t.subject = false
  · rw [if_pos hstorable] at hlock
    cases hlock
    refine .ends _ s.nextId fun hs => ?_
    rw [hs.storable] at hstorable
    cases hstorable
  · rw [if_neg hstorable] at hlock
    obtain ⟨_, hfree, hlock⟩ := bind_ok.mp hlock
    cases hlock
    refine .moves _ s.nextId rfl (h.setPhase hi _ trivial ?_ ?_)
    · exact fun _ => Or.inr (require_ok.mp hfree)
    · exact fun row hrow => by cases hrow

theorem Service.Kept.find_outcome (h : s.Kept hashtext)
    (hi : s.requests[i]? = some t) (hphase : t.phase = .locked) :
    Outcome hashtext s i t (s.find i t) := by
  have harrived := (h.tickets i t hi).arrived
  rcases h.find hi with ⟨hfresh, hfind⟩ | hfind
  · rw [hfind]
    refine .moves _ s.nextId rfl (h.setPhase hi _ ?_ ?_ ?_)
    · refine ⟨harrived, le_rfl, ?_, ?_⟩
      · rw [layerAt_length]
        exact hfresh
      · rw [layerAt_length]
    · exact fun _ => Or.inl (by rw [hphase]; rfl)
    · exact fun row hrow => by cases hrow
  · rw [hfind]
    refine .ends _ s.nextId fun _ => ⟨s.log.length, harrived, le_rfl, ?_⟩
    rw [layerAt_length]
    exact .rfl _

variable {state : SubjectState}

theorem Service.Kept.baseline (h : s.Kept hashtext) {subject : String}
    (hhash : ∀ row ∈ s.subjects[subject]?, row.chainHash ≠ hashText 0)
    (hstate : s.layer.subjects[subject]? = some state) :
    state.checkBaseline = .ok () := by
  have hsubject := h.subjects subject
  rw [hstate] at hsubject
  generalize hrow : s.subjects[subject]? = row at hsubject hhash
  cases hsubject with
  | @known row _ hencoded hscore hactive =>
    have hne : state.chainHash ≠ 0 := by
      intro hzero
      apply hhash row rfl
      rw [encodeSubject_chainHash hencoded, hzero]
    unfold SubjectState.checkBaseline
    rw [if_neg (fun hboth => hactive hboth.1)]
    exact corrupted_ok (not_or.mpr ⟨hactive, hne⟩)

theorem Service.Kept.apply_outcome (h : s.Kept hashtext)
    (hi : s.requests[i]? = some t) {seen : Nat}
    (hphase : t.phase = .absent seen) :
    Outcome hashtext s i t (s.apply i t) := by
  have hvalid := (h.tickets i t hi).valid
  have hkept := (h.tickets i t hi).phase
  rw [hphase] at hkept
  obtain ⟨harrived, hseen, hfresh, hstate⟩ := hkept
  rcases h.apply hi with ⟨e, hlayer, happly⟩ | ⟨e, htake, happly⟩
    | ⟨next, htake, happly⟩
  · rw [happly]
    refine .ends _ s.nextId fun hs => ?_
    have hserved := hs.served
    unfold Ticket.Served at hserved
    rw [hphase] at hserved
    obtain ⟨l, hl⟩ := layerOf_isOk t.subject hs.policy hs.version
      (fun st hst => h.baseline hserved hst)
    rw [hl] at hlayer
    cases hlayer
  · rw [happly]
    refine .ends _ s.nextId fun _ => ⟨seen, harrived, hseen, ?_⟩
    rw [expected_new hvalid hfresh, hstate, htake]
    exact .rfl _
  · rw [happly]
    refine .moves _ s.nextId rfl (h.setPhase hi _ ⟨htake, rfl⟩ ?_ ?_)
    · exact fun _ => Or.inl (by rw [hphase]; rfl)
    · exact fun row hrow => by cases hrow

theorem Service.Kept.encodes (h : s.Kept hashtext)
    {receipt : TrustReceipt} (id : Nat)
    (hversion : s.policyVersion < 2 ^ 63) (hfits : state.Fits)
    (htake : (s.layer.stateOf t.subject).take t.subject t.event = .ok state)
    (hreceipt : receipt = s.layer.receiptFor t.subject t.event
      (s.layer.stateOf t.subject) state) :
    ∃ row, encodeEvent t.subject t.event receipt id = .ok row := by
  obtain ⟨hstake, -, -, hlast⟩ := hfits
  have hadvanced := advance_ok (take_ok htake).2
  rw [hadvanced.lastSequence] at hlast
  obtain ⟨-, hstakes, -, hinactive⟩ :=
    evaluateInactive_figures s.layer.policy state 0
  have heval : receipt.evaluation
      = evaluateInactive s.layer.policy state 0 := by
    rw [hreceipt]
    rfl
  refine encodeEvent_isOk hlast ?_ ?_ ?_
  · rw [hreceipt]
    show s.layer.policyVersion < 2 ^ 63
    rw [h.version]
    exact hversion
  · rw [heval, hstakes]
    exact hstake
  · rw [heval, hinactive]
    exact Nat.two_pow_pos 63

theorem Service.Kept.insert_outcome (h : s.Kept hashtext)
    (hi : s.requests[i]? = some t) {receipt : TrustReceipt}
    (hphase : t.phase = .applied receipt state)
    (hinsert : s.insert i t receipt state = .ok s') :
    Outcome hashtext s i t s' := by
  have hkept := (h.tickets i t hi).phase
  rw [hphase] at hkept
  obtain ⟨htake, hreceipt⟩ := hkept
  have hholds : t.phase.holds = true := by rw [hphase]; rfl
  cases insert_inserts hinsert with
  | refused hencode =>
    refine .ends _ s.nextId fun hs => ?_
    have hrange := hs.inRange
    unfold Ticket.InRange at hrange
    rw [hphase] at hrange
    obtain ⟨row, hrow⟩ := h.encodes s.nextId hs.fits hrange htake hreceipt
    rw [hencode] at hrow
    cases hrow
  | collided hencode hrow =>
    refine .moves _ (s.nextId + 1) rfl (h.setPhase hi _ ?_ ?_ ?_)
    · obtain ⟨r, hr, hid⟩ := hrow
      obtain ⟨entry, hentry, hof⟩ := h.entry hr
      have hindex := h.sound.index entry hentry
      rw [← hof.eventId, hid, (encodeEvent_key hencode).2.1] at hindex
      show s.layer.eventIndex[t.event.eventId]?.isSome = true
      rw [hindex]
      rfl
    · exact fun hnone => by cases hnone
    · exact fun row hrow => by cases hrow
  | numbered hencode hrow =>
    refine .ends _ (s.nextId + 1) fun _ => ?_
    obtain ⟨r, hr, hkey⟩ := hrow
    obtain ⟨-, -, hsubject, hsequence⟩ := encodeEvent_key hencode
    rw [hsubject, hsequence] at hkey
    injection hkey with hsubject hsequence
    exact absurd hsequence (h.not_numbered htake hr hsubject)
  | @inserted row hencode hpending hnew =>
    obtain ⟨hid, heventId, -, -⟩ := encodeEvent_key hencode
    refine .moves _ (s.nextId + 1) rfl (h.setPhase hi _ ?_ ?_ ?_)
    · refine ⟨htake, hreceipt, ?_, ?_⟩
      · rw [hid]
        exact hencode
      · rw [← heventId]
        exact h.not_found hnew
    · exact fun _ => Or.inl hholds
    · intro r hr u hu other hother
      cases hr
      exact hpending u hu other hother

theorem Service.Kept.commit_outcome (h : s.Kept hashtext)
    (hi : s.requests[i]? = some t) {row : EventRow} {receipt : TrustReceipt}
    (hphase : t.phase = .inserted row receipt state) :
    Outcome hashtext s i t (s.commit i t row receipt state) := by
  rcases h.commit hi hphase with ⟨hcommit, hfits⟩ | ⟨hc, hkept, hrequests⟩
  · rw [hcommit]
    refine .ends _ s.nextId fun hs => ?_
    have hrange := hs.inRange
    unfold Ticket.InRange at hrange
    rw [hphase] at hrange
    exact absurd hrange hfits
  · refine .commits state receipt hc hkept hrequests ?_
    have hphaseKept := (h.tickets i t hi).phase
    rw [hphase] at hphaseKept
    obtain ⟨htake, rfl, -, hfresh⟩ := hphaseKept
    rw [expected_new (h.tickets i t hi).valid hfresh, htake]

theorem Service.Kept.outcome (h : s.Kept hashtext)
    (hi : s.requests[i]? = some t) (hnext : s.next hashtext i t = .ok s') :
    Outcome hashtext s i t s' := by
  unfold Service.next at hnext
  cases hphase : t.phase with
  | waiting =>
    rw [hphase] at hnext
    exact h.lock_outcome hi hnext
  | locked =>
    rw [hphase] at hnext
    cases hnext
    exact h.find_outcome hi hphase
  | absent seen =>
    rw [hphase] at hnext
    cases hnext
    exact h.apply_outcome hi hphase
  | applied receipt state =>
    rw [hphase] at hnext
    exact h.insert_outcome hi hphase hnext
  | inserted row receipt state =>
    rw [hphase] at hnext
    cases hnext
    exact h.commit_outcome hi hphase
  | collided =>
    rw [hphase] at hnext
    cases hnext
    have hkept := (h.tickets i t hi).phase
    rw [hphase] at hkept
    obtain ⟨answer, hreload, hagrees⟩ := h.reload hi hkept
    rw [hreload]
    refine .ends _ s.nextId fun _ =>
      ⟨s.log.length, (h.tickets i t hi).arrived, le_rfl, ?_⟩
    rw [layerAt_length]
    exact hagrees
  | done answer finished =>
    rw [hphase] at hnext
    cases hnext

end Steps

-- ==== a step

section Runs

variable {hashtext : String → Int} {s s' : Service} {i : Nat} {t : Ticket}
  {a : ServiceAction}

/-- The numbers of the events are within what the tables hold. -/
def StepInRange (a : ServiceAction) (s : Service) : Prop :=
  match a with
  | .next i => ∀ t ∈ s.requests[i]?, t.InRange
  | _ => True

instance (a : ServiceAction) (s : Service) : Decidable (StepInRange a s) := by
  unfold StepInRange
  split <;> infer_instance

/-- A subject can be stored, and none has an event with a hash of zero when
the next one is applied. -/
def StepServed (a : ServiceAction) (s : Service) : Prop :=
  match a with
  | .arrive subject _ => storable subject = true
  | .next i => ∀ t ∈ s.requests[i]?, t.Served s
  | .lose _ => True

instance (a : ServiceAction) (s : Service) : Decidable (StepServed a s) := by
  unfold StepServed
  split <;> infer_instance

theorem checkRequest_ok {subject : String} {event : TrustEvent} {u : Unit}
    (h : checkRequest subject event = .ok u) : event.validate = .ok () := by
  iterate 4 obtain ⟨_, -, h⟩ := bind_ok.mp h
  cases hvalid : event.validate with
  | ok u => rfl
  | error e =>
    rw [hvalid] at h
    cases h

theorem get_append {requests : List Ticket} {u t' : Ticket} {j : Nat}
    (h : (requests ++ [u])[j]? = some t') :
    t' = u ∨ requests[j]? = some t' := by
  rcases Nat.lt_or_ge j requests.length with hj | hj
  · rw [List.getElem?_append_left hj] at h
    exact Or.inr h
  · rw [List.getElem?_append_right hj] at h
    have hmem := List.mem_of_getElem? h
    exact Or.inl (List.mem_singleton.mp hmem)

theorem start_sound (policy : TrustPolicy) (version : Nat) :
    Sound (TrustLayer.start policy version) := by
  have hnew : TrustLayer.new TrustPolicy.standard
      = .ok (TrustLayer.start TrustPolicy.standard initialPolicyVersion) := rfl
  exact (new_sound hnew).1.policy policy version

theorem Service.Kept.start (policy : TrustPolicy) (version : Nat) :
    (Service.start policy version).Kept hashtext where
  sound := start_sound policy version
  policy := rfl
  version := rfl
  log := rfl
  rows := .nil
  subjects := by
    intro subject
    have hrow : (Service.start policy version).subjects[subject]? = none := by
      simp [Service.start]
    have hstate : (TrustLayer.start policy version).subjects[subject]?
        = none := by
      simp [TrustLayer.start]
    rw [hrow]
    show SubjectOf none (TrustLayer.start policy version).subjects[subject]?
    rw [hstate]
    exact .unknown
  tickets := fun i t ht => by simp [Service.start] at ht
  locks := fun i j t u ht => by simp [Service.start] at ht
  inserts := fun i j t u r r' ht => by simp [Service.start] at ht

theorem Service.Kept.arrive (h : s.Kept hashtext) {subject : String}
    {event : TrustEvent} (hvalid : event.validate = .ok ()) :
    Service.Kept hashtext { s with requests := s.requests
      ++ [⟨subject, event, s.log.length, .waiting⟩] } := by
  refine ⟨h.sound, h.policy, h.version, h.log, h.rows, h.subjects, ?_, ?_, ?_⟩
  · intro j u hu
    rcases get_append hu with rfl | hu
    · exact ⟨hvalid, le_rfl, trivial⟩
    · exact ⟨(h.tickets j u hu).valid, (h.tickets j u hu).arrived,
        (h.tickets j u hu).phase⟩
  · intro j k u v hu hv hu' hv' heq
    rcases get_append hu with rfl | hu
    · cases hu'
    · rcases get_append hv with rfl | hv
      · cases hv'
      · exact h.locks j k u v hu hv hu' hv' heq
  · intro j k u v r r' hu hv hr hr' heq
    rcases get_append hu with rfl | hu
    · cases hr
    · rcases get_append hv with rfl | hv
      · cases hr'
      · exact h.inserts j k u v r r' hu hv hr hr' heq

theorem Outcome.kept (ho : Outcome hashtext s i t s') (h : s.Kept hashtext)
    (hi : s.requests[i]? = some t) : s'.Kept hashtext := by
  cases ho with
  | moves phase nextId hdone hkept => exact hkept
  | ends answer nextId hanswer => exact h.finish hi (some answer) nextId
  | commits state receipt hc hkept => exact hkept

theorem Service.Kept.step (h : s.Kept hashtext)
    (hstep : Service.step hashtext a s = .ok s') : s'.Kept hashtext := by
  cases a with
  | arrive subject event =>
    obtain ⟨_, hcheck, hstep⟩ := bind_ok.mp hstep
    cases hstep
    exact h.arrive (checkRequest_ok hcheck)
  | next i =>
    obtain ⟨t, ht, hnext⟩ := bind_ok.mp hstep
    have ht := okOr_ok.mp ht
    exact (h.outcome ht hnext).kept h ht
  | lose i =>
    obtain ⟨t, ht, _, -, hstep⟩ := bind_ok₂.mp hstep
    cases hstep
    exact h.finish (okOr_ok.mp ht) none s.nextId

/-- Whatever the requests, whatever order their statements come in, and
whichever of them are lost, the tables are those of one layer that took the
committed events, and no two requests hold the lock of a subject. -/
theorem Service.ingest_kept {policy : TrustPolicy} {version : Nat}
    {tr : List ServiceAction}
    (hrun : run (Service.step hashtext) (Service.start policy version) tr
      = .ok s) : s.Kept hashtext :=
  run_induct (fun _ _ _ h hstep => h.step hstep) (Service.Kept.start _ _) hrun

-- ==== answers

/-- The request is one that can be stored, and its answer the layer's. -/
structure Ticket.Answered (s : Service) (t : Ticket) : Prop where
  storable : storable t.subject = true
  answer : ∀ answer finished, t.phase = .done (some answer) finished →
    finished ≤ s.log.length ∧ ∃ n, t.arrived ≤ n ∧ n ≤ finished
      ∧ answer.Agrees ((s.layerAt n).expected t.subject t.event)

/-- What was committed is not taken back. -/
structure Extends (s s' : Service) : Prop where
  policy : s'.policy = s.policy
  version : s'.policyVersion = s.policyVersion
  log : s.log <+: s'.log

theorem Extends.layerAt (h : Extends s s') {n : Nat}
    (hn : n ≤ s.log.length) : s'.layerAt n = s.layerAt n := by
  obtain ⟨rest, hrest⟩ := h.log
  unfold Service.layerAt
  rw [h.policy, h.version, ← hrest, List.take_append_of_le_length hn]

theorem Ticket.Answered.extends (h : t.Answered s) (hs : Extends s s') :
    t.Answered s' := by
  refine ⟨h.storable, fun answer finished hphase => ?_⟩
  obtain ⟨hfinished, n, harrived, hn, hagrees⟩ := h.answer answer finished hphase
  refine ⟨hfinished.trans hs.log.length_le, n, harrived, hn, ?_⟩
  rw [hs.layerAt (hn.trans hfinished)]
  exact hagrees

theorem answered_set (h : ∀ u ∈ s.requests, u.Answered s)
    (hs : Extends s s') {u : Ticket}
    (hrequests : s'.requests = s.requests.set i u) (hu : u.Answered s') :
    ∀ v ∈ s'.requests, v.Answered s' := by
  intro v hv
  rw [hrequests] at hv
  rcases List.mem_or_eq_of_mem_set hv with hv | rfl
  · exact (h v hv).extends hs
  · exact hu

theorem Outcome.answered (ho : Outcome hashtext s i t s')
    (hi : s.requests[i]? = some t) (hkept : t.Kept s)
    (hconfigured : s.Configured)
    (hserved : t.Served s) (hrange : t.InRange)
    (h : ∀ u ∈ s.requests, u.Answered s) :
    Extends s s' ∧ ∀ u ∈ s'.requests, u.Answered s' := by
  have hstorable := (h t (List.mem_of_getElem? hi)).storable
  cases ho with
  | moves phase nextId hdone =>
    have hs : Extends s { s.setPhase i t phase with nextId := nextId } :=
      ⟨rfl, rfl, List.prefix_rfl⟩
    refine ⟨hs, answered_set h hs rfl ⟨hstorable, ?_⟩⟩
    intro answer finished hphase
    change phase = _ at hphase
    rw [hphase] at hdone
    cases hdone
  | ends answer nextId hanswer =>
    have hs : Extends s
        { s.finish i t (some answer) with nextId := nextId } :=
      ⟨rfl, rfl, List.prefix_rfl⟩
    refine ⟨hs, answered_set h hs rfl ⟨hstorable, ?_⟩⟩
    intro answer' finished hphase
    cases hphase
    obtain ⟨n, harrived, hn, hagrees⟩ :=
      hanswer ⟨hconfigured, hstorable, hserved, hrange⟩
    exact ⟨le_rfl, n, harrived, hn, hagrees⟩
  | commits state receipt hc _ hrequests hanswer =>
    have hs : Extends s s' :=
      ⟨hc.policy, hc.version, by rw [hc.log]; exact List.prefix_append _ _⟩
    refine ⟨hs, answered_set h hs hrequests ⟨hstorable, ?_⟩⟩
    intro answer finished hphase
    cases hphase
    refine ⟨by rw [hc.log, List.length_append]; exact le_rfl,
      s.log.length, hkept.arrived, Nat.le_succ _, ?_⟩
    rw [hs.layerAt le_rfl, layerAt_length, hanswer]
    exact .rfl _

theorem answered_step (hkept : s.Kept hashtext) (hconfigured : s.Configured)
    (h : ∀ u ∈ s.requests, u.Answered s) (hrange : StepInRange a s)
    (hserved : StepServed a s)
    (hstep : Service.step hashtext a s = .ok s') :
    Extends s s' ∧ ∀ u ∈ s'.requests, u.Answered s' := by
  cases a with
  | arrive subject event =>
    obtain ⟨_, -, hstep⟩ := bind_ok.mp hstep
    cases hstep
    refine ⟨⟨rfl, rfl, List.prefix_rfl⟩, fun u hu => ?_⟩
    rcases List.mem_append.mp hu with hu | hu
    · exact (h u hu).extends ⟨rfl, rfl, List.prefix_rfl⟩
    · rw [List.mem_singleton.mp hu]
      exact ⟨hserved, fun answer finished hphase => by cases hphase⟩
  | next i =>
    obtain ⟨t, ht, hnext⟩ := bind_ok.mp hstep
    have ht := okOr_ok.mp ht
    exact (hkept.outcome ht hnext).answered ht (hkept.tickets i t ht)
      hconfigured (hserved t ht) (hrange t ht) h
  | lose i =>
    obtain ⟨t, ht, _, -, hstep⟩ := bind_ok₂.mp hstep
    cases hstep
    have hs : Extends s (s.finish i t none) :=
      ⟨rfl, rfl, List.prefix_rfl⟩
    have hstorable := (h t (List.mem_of_getElem? (okOr_ok.mp ht))).storable
    refine ⟨hs, answered_set h hs rfl ⟨hstorable, ?_⟩⟩
    intro answer finished hphase
    cases hphase

def StoredEvent.record (e : StoredEvent) : EventRecord where
  subject := e.subject
  event := e.event
  receipt := e.receipt

/-- The tables and the answers are those of one layer. -/
structure Service.Refines (s : Service) : Prop where
  committed : s.layer.journal.map (fun e => (e.subject, e.event)) = s.log
  events : s.events.map (fun row => (decodeEventRow row).map StoredEvent.record)
    = s.layer.journal.map fun e => .ok e.record
  /-- As long as the ids were drawn as the events were committed. -/
  offsets : s.events.map (fun row => row.id)
      = s.layer.journal.map (fun e => e.offset)
    ↔ s.events.map (fun row => row.id) = List.range' 1 s.events.length
  subjects : ∀ subject : String, s.subjects[subject]?.map decodeSubjectRow
    = s.layer.subjects[subject]?.map Except.ok
  answers : ∀ t ∈ s.requests, ∀ answer finished,
    t.phase = .done (some answer) finished →
      finished ≤ s.log.length ∧ ∃ n, t.arrived ≤ n ∧ n ≤ finished
        ∧ answer.Agrees ((s.layerAt n).expected t.subject t.event)

theorem Service.Kept.events_map (h : s.Kept hashtext) :
    s.events.map (fun row => (decodeEventRow row).map StoredEvent.record)
      = s.layer.journal.map fun e => .ok e.record := by
  have hrows := h.rows
  generalize s.events = rows at hrows ⊢
  generalize s.layer.journal = journal at hrows ⊢
  induction hrows with
  | nil => rfl
  | cons hrow _ ih =>
    rw [List.map_cons, List.map_cons, ih, hrow.decoded]
    rfl

theorem Service.Kept.subjects_map (h : s.Kept hashtext) (subject : String) :
    s.subjects[subject]?.map decodeSubjectRow
      = s.layer.subjects[subject]?.map Except.ok := by
  have hsubject := h.subjects subject
  generalize s.subjects[subject]? = row at hsubject ⊢
  generalize s.layer.subjects[subject]? = state at hsubject ⊢
  cases hsubject with
  | unknown => rfl
  | known hencoded hscore hactive =>
    rw [Option.map_some, decode_encodeSubject hscore hencoded]
    rfl

/-- The ingest service keeps the tables of one layer, and answers as that
layer does. -/
theorem ingest_refines {policy : TrustPolicy} {version : Nat}
    {tr : List ServiceAction} (hpolicy : policy.validate = .ok ())
    (hversion : initialPolicyVersion ≤ version) (hfits : version < 2 ^ 63)
    (hrange : Meets (Service.step hashtext) StepInRange
      (Service.start policy version) tr)
    (hserved : Meets (Service.step hashtext) StepServed
      (Service.start policy version) tr)
    (hrun : run (Service.step hashtext) (Service.start policy version) tr
      = .ok s) : s.Refines := by
  have h := run_induct_meets
    (I := fun s => s.Kept hashtext ∧ s.Configured
      ∧ ∀ u ∈ s.requests, u.Answered s) ?_
    ⟨Service.Kept.start policy version, ⟨hpolicy, hversion, hfits⟩,
      fun u hu => by cases hu⟩ (meets_both hrange hserved) hrun
  · obtain ⟨hkept, -, hanswered⟩ := h
    refine ⟨hkept.log, hkept.events_map, ?_, hkept.subjects_map, ?_⟩
    · rw [hkept.sound.offsets, hkept.rows.length_eq]
    · exact fun t ht => (hanswered t ht).answer
  · rintro a s s' ⟨hkept, hconfigured, hanswered⟩ ⟨hrange, hserved⟩ hstep
    obtain ⟨hs, hanswered'⟩ :=
      answered_step hkept hconfigured hanswered hrange hserved hstep
    refine ⟨hkept.step hstep, ⟨?_, ?_, ?_⟩, hanswered'⟩
    · rw [hs.policy]
      exact hconfigured.policy
    · rw [hs.version]
      exact hconfigured.version
    · rw [hs.version]
      exact hconfigured.fits

end Runs

namespace Concrete

def hashtext (text : String) : Int := text.length

/-- Two requests with one event id for two subjects, side by side. -/
def colliding : List ServiceAction :=
  [.arrive "agent" (event "evt-1" 1 5), .arrive "peer" (event "evt-1" 1 5),
    .next 0, .next 1, .next 0, .next 1, .next 1,
    .next 0, .next 0, .next 0, .next 1, .next 1]

/-- An event after which the hash of a new `agent` is zero. -/
def zeroHashed : TrustEvent :=
  { event "evt-4" 1 1700000000 with stakeDelta := 1040056829551824919 }

def afterZeroHash : List ServiceAction :=
  [.arrive "agent" zeroHashed, .next 0, .next 0, .next 0, .next 0, .next 0,
    .arrive "agent" (event "evt-5" 2 1700000001), .next 1, .next 1, .next 1]

end Concrete

theorem ingest_kept_colliding :
    ∃ s, run (Service.step Concrete.hashtext)
        (Service.start TrustPolicy.standard 1) Concrete.colliding = .ok s
      ∧ s.Kept Concrete.hashtext := by
  obtain ⟨s, hrun, -⟩ := check_ok (show Exec.check (fun _ : Service => true)
      (run (Service.step Concrete.hashtext)
        (Service.start TrustPolicy.standard 1) Concrete.colliding) = true
    by decide +kernel)
  exact ⟨s, hrun, Service.ingest_kept hrun⟩

theorem ingest_refines_colliding :
    ∃ s, run (Service.step Concrete.hashtext)
        (Service.start TrustPolicy.standard 1) Concrete.colliding = .ok s
      ∧ s.log.length = 1
      ∧ (s.requests.map fun t => t.phase.isDone) = [true, true]
      ∧ s.Refines := by
  obtain ⟨s, hrun, hdone⟩ := check_ok (show Exec.check
      (fun s : Service => decide (s.log.length = 1
        ∧ (s.requests.map fun t => t.phase.isDone) = [true, true]))
      (run (Service.step Concrete.hashtext)
        (Service.start TrustPolicy.standard 1) Concrete.colliding) = true
    by decide +kernel)
  obtain ⟨hlength, hdone⟩ := of_decide_eq_true hdone
  have hrange : Meets (Service.step Concrete.hashtext) StepInRange
      (Service.start TrustPolicy.standard 1) Concrete.colliding := by
    apply meets_of_check fun a s h =>
      of_decide_eq_true (p := StepInRange a s) h
    decide +kernel
  have hserved : Meets (Service.step Concrete.hashtext) StepServed
      (Service.start TrustPolicy.standard 1) Concrete.colliding := by
    apply meets_of_check fun a s h =>
      of_decide_eq_true (p := StepServed a s) h
    decide +kernel
  exact ⟨s, hrun, hlength, hdone, ingest_refines rfl (by decide) (by decide)
    hrange hserved hrun⟩

/-- The event after one that leaves a hash of zero is refused, though the
layer takes it. -/
theorem zero_hash_refused :
    ∃ s, TrustPolicy.standard.validate = .ok ()
      ∧ run (Service.step Concrete.hashtext)
        (Service.start TrustPolicy.standard 1) Concrete.afterZeroHash = .ok s
      ∧ Meets (Service.step Concrete.hashtext) StepInRange
        (Service.start TrustPolicy.standard 1) Concrete.afterZeroHash
      ∧ ¬ s.Refines := by
  obtain ⟨s, hrun, hanswers⟩ := check_ok (show Exec.check
      (fun s : Service => s.requests.any fun t =>
        decide (t.arrived = 1 ∧ t.phase = .done (some .internal) 1
          ∧ (s.layerAt 1).expected t.subject t.event ≠ .internal))
      (run (Service.step Concrete.hashtext)
        (Service.start TrustPolicy.standard 1) Concrete.afterZeroHash) = true
    by decide +kernel)
  have hrange : Meets (Service.step Concrete.hashtext) StepInRange
      (Service.start TrustPolicy.standard 1) Concrete.afterZeroHash := by
    apply meets_of_check fun a s h =>
      of_decide_eq_true (p := StepInRange a s) h
    decide +kernel
  obtain ⟨t, ht, hanswer⟩ := List.any_eq_true.mp hanswers
  obtain ⟨harrived, hphase, hexpected⟩ := of_decide_eq_true hanswer
  refine ⟨s, rfl, hrun, hrange, fun h => ?_⟩
  obtain ⟨-, n, hle, hge, hagrees⟩ := h.answers t ht .internal 1 hphase
  rw [harrived] at hle
  have hn : n = 1 := Nat.le_antisymm hge hle
  rw [hn] at hagrees
  exact hexpected hagrees.symm

end KamiyoProtocol.Trust
