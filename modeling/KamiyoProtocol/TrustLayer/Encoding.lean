/-
The bytes behind the hash of an event.

The numbers have their widths, but a subject and an event id follow each
other with nothing between them, and so do the texts of a context that are
there. The bytes of two events are the same exactly if their numbers are
and their texts put together, however divided.
-/
import KamiyoProtocol.TrustLayer.Journal

namespace KamiyoProtocol.Trust

open Exec Std

-- ==== the bytes

def EventContext.texts (c : EventContext) : List (Option String) :=
  [c.requestId, c.traceId, c.spanId]

def providerBytes : Option TrustProvider → List UInt8
  | some provider => [0xff, UInt8.ofNat provider.code]
  | none => []

/-- What `context_fingerprint` hashes. -/
def contextBytes (c : EventContext) : List UInt8 :=
  Bytes.marked c.texts ++ providerBytes c.provider

/-- The part of an event with its numbers. -/
def numberBytes (event : TrustEvent) : List UInt8 :=
  Bytes.le 8 event.sequence ++ (Bytes.leInt 8 event.observedAt
    ++ (Bytes.le 1 event.kind.code ++ (Bytes.le 2 event.weight
      ++ (Bytes.leInt 8 event.stakeDelta
        ++ Bytes.le 8 (contextFingerprint event.context).toNat))))

/-- What `hash_event` hashes after the hash before. -/
def eventBytes (subject : String) (event : TrustEvent) : List UInt8 :=
  Bytes.utf8 subject ++ (Bytes.utf8 event.eventId ++ numberBytes event)

/-- The numbers are in the ranges of their types. -/
structure TrustEvent.Typed (event : TrustEvent) : Prop where
  sequence : event.sequence < 2 ^ 64
  observedAt : -2 ^ 63 ≤ event.observedAt ∧ event.observedAt < 2 ^ 63
  stakeDelta : -2 ^ 63 ≤ event.stakeDelta ∧ event.stakeDelta < 2 ^ 63

/-- The same texts put together, divided one way or another, and the same
in every other field. -/
structure Resplit (subject : String) (event : TrustEvent) (subject' : String)
    (event' : TrustEvent) : Prop where
  ids : subject ++ event.eventId = subject' ++ event'.eventId
  sequence : event.sequence = event'.sequence
  observedAt : event.observedAt = event'.observedAt
  kind : event.kind = event'.kind
  weight : event.weight = event'.weight
  stakeDelta : event.stakeDelta = event'.stakeDelta
  /-- Between the texts that are absent. -/
  texts : Bytes.runs event.context.texts = Bytes.runs event'.context.texts
  provider : event.context.provider = event'.context.provider

/-- The two hash inputs, of the event and of its context. -/
def SameBytes (subject : String) (event : TrustEvent) (subject' : String)
    (event' : TrustEvent) : Prop :=
  eventBytes subject event = eventBytes subject' event'
    ∧ contextBytes event.context = contextBytes event'.context
  deriving Decidable

section Hashes

variable {seed prevHash : UInt64} {subject subject' : String}
  {event event' : TrustEvent} {c c' : EventContext}

theorem hashBytes_append (a b : List UInt8) :
    hashBytes (hashBytes seed a) b = hashBytes seed (a ++ b) := by
  unfold hashBytes
  rw [List.foldl_append]

theorem hashI64_bytes (value : Int) :
    hashI64 seed value = hashBytes seed (Bytes.leInt 8 value) := by
  have hwidth : (256 : Int) ^ 8 = 2 ^ 64 := by decide
  unfold hashI64 Bytes.leInt
  rw [hwidth]

theorem hashOptionalString_bytes (text : Option String)
    (rest : List (Option String)) :
    hashBytes (hashOptionalString seed text) (Bytes.marked rest)
      = hashBytes seed (Bytes.marked (text :: rest)) := by
  cases text with
  | none =>
    show hashBytes (hashBytes seed [0]) _ = _
    rw [hashBytes_append]
    rfl
  | some t =>
    show hashBytes (hashBytes seed (Bytes.utf8 t)) _ = _
    rw [hashBytes_append]
    rfl

theorem contextFingerprint_bytes (c : EventContext) :
    contextFingerprint c = hashBytes fnvOffsetBasis (contextBytes c) := by
  have htexts : hashOptionalString (hashOptionalString (hashOptionalString
      fnvOffsetBasis c.requestId) c.traceId) c.spanId
        = hashBytes fnvOffsetBasis (Bytes.marked c.texts) := by
    unfold EventContext.texts
    rw [← hashOptionalString_bytes, ← hashOptionalString_bytes,
      ← hashOptionalString_bytes]
    rfl
  unfold contextFingerprint contextBytes
  simp only [htexts]
  rw [← hashBytes_append]
  cases c.provider with
  | none => rfl
  | some provider => rfl

theorem hashEvent_bytes (prevHash : UInt64) (subject : String)
    (event : TrustEvent) :
    hashEvent prevHash subject event
      = hashBytes prevHash (eventBytes subject event) := by
  unfold hashEvent eventBytes numberBytes hashU64 hashU16 hashU8
  simp only [hashI64_bytes, ← hashBytes_append]
  rfl

-- ==== the texts

theorem identifier_marks {value : String} {maxLen : Nat}
    (h : isValidIdentifier value maxLen = true) :
    0 ∉ Bytes.utf8 value ∧ 0xff ∉ Bytes.utf8 value := by
  unfold isValidIdentifier at h
  simp only [Bool.and_eq_true, List.all_eq_true] at h
  constructor
  · intro hmem
    exact absurd (h.2 0 hmem) (by decide)
  · intro hmem
    exact absurd (h.2 0xff hmem) (by decide)

theorem context_marks (h : c.validate = .ok ()) {t : String}
    (ht : some t ∈ c.texts) : 0 ∉ Bytes.utf8 t ∧ 0xff ∉ Bytes.utf8 t := by
  have hvalid : isValidContextField t = true := by
    obtain ⟨_, hrequest, _, htrace, hspan⟩ := bind_ok₂.mp h
    unfold EventContext.texts at ht
    simp only [List.mem_cons, List.not_mem_nil, or_false] at ht
    rcases ht with ht | ht | ht
    · rw [← ht] at hrequest
      exact require_ok.mp hrequest
    · rw [← ht] at htrace
      exact require_ok.mp htrace
    · rw [← ht] at hspan
      exact require_ok.mp hspan
  exact identifier_marks hvalid

theorem marked_no_provider (h : c.validate = .ok ()) :
    0xff ∉ Bytes.marked c.texts := by
  have hmarked : ∀ texts : List (Option String),
      (∀ t, some t ∈ texts → 0xff ∉ Bytes.utf8 t) →
      0xff ∉ Bytes.marked texts := by
    intro texts
    induction texts with
    | nil => simp [Bytes.marked]
    | cons o rest ih =>
      intro htexts
      have hrest := ih fun t ht => htexts t (List.mem_cons_of_mem _ ht)
      cases o with
      | none => simp [Bytes.marked, hrest]
      | some t => simp [Bytes.marked, hrest, htexts t List.mem_cons_self]
  exact hmarked _ fun t ht => (context_marks h ht).2

theorem provider_code_inj {p q : TrustProvider}
    (h : UInt8.ofNat p.code = UInt8.ofNat q.code) : p = q := by
  cases p <;> cases q <;> first | rfl | (revert h; decide)

theorem contextBytes_inj (h : c.validate = .ok ()) (h' : c'.validate = .ok ()) :
    contextBytes c = contextBytes c'
      ↔ Bytes.runs c.texts = Bytes.runs c'.texts ∧ c.provider = c'.provider := by
  have hruns : Bytes.marked c.texts = Bytes.marked c'.texts
      ↔ Bytes.runs c.texts = Bytes.runs c'.texts :=
    Bytes.marked_inj (fun t ht => (context_marks h ht).1)
      fun t ht => (context_marks h' ht).1
  rw [← hruns]
  have hfree := marked_no_provider h
  have hfree' := marked_no_provider h'
  unfold contextBytes
  constructor
  · intro hbytes
    cases hp : c.provider with
    | none =>
      cases hq : c'.provider with
      | none =>
        rw [hp, hq] at hbytes
        exact ⟨List.append_cancel_right hbytes, rfl⟩
      | some q =>
        rw [hp, hq] at hbytes
        have hmem : (0xff : UInt8) ∈ Bytes.marked c.texts
            ++ providerBytes none := by
          rw [hbytes]
          simp [providerBytes]
        simp [providerBytes] at hmem
        exact absurd hmem hfree
    | some p =>
      cases hq : c'.provider with
      | none =>
        rw [hp, hq] at hbytes
        have hmem : (0xff : UInt8) ∈ Bytes.marked c'.texts
            ++ providerBytes none := by
          rw [← hbytes]
          simp [providerBytes]
        simp [providerBytes] at hmem
        exact absurd hmem hfree'
      | some q =>
        rw [hp, hq] at hbytes
        obtain ⟨hmarked, hcode⟩ :=
          Bytes.split_at_mark hfree hfree' hbytes
        injection hcode with hcode
        exact ⟨hmarked, congrArg some (provider_code_inj hcode)⟩
  · rintro ⟨hmarked, hprovider⟩
    rw [hmarked, hprovider]

-- ==== the numbers

theorem kind_code_inj {k k' : EvidenceKind} (h : k.code = k'.code) :
    k = k' := by
  cases k <;> cases k' <;> first | rfl | (revert h; decide)

theorem length_numberBytes : (numberBytes event).length = 35 := by
  simp [numberBytes]

/-- Every number has its own bytes. -/
theorem numberBytes_inj (ht : event.Typed) (ht' : event'.Typed)
    (hvalid : event.validate = .ok ()) (hvalid' : event'.validate = .ok ())
    (h : numberBytes event = numberBytes event') :
    event.sequence = event'.sequence
      ∧ event.observedAt = event'.observedAt ∧ event.kind = event'.kind
      ∧ event.weight = event'.weight ∧ event.stakeDelta = event'.stakeDelta
      ∧ contextFingerprint event.context
        = contextFingerprint event'.context := by
  unfold numberBytes at h
  obtain ⟨hsequence, h⟩ := List.append_inj h (by simp)
  obtain ⟨hobserved, h⟩ := List.append_inj h (by simp)
  obtain ⟨hkind, h⟩ := List.append_inj h (by simp)
  obtain ⟨hweight, h⟩ := List.append_inj h (by simp)
  obtain ⟨hstake, hcontext⟩ := List.append_inj h (by simp)
  have hcode : ∀ k : EvidenceKind, k.code < 256 ^ 1 := by
    intro k
    cases k <;> decide
  have hobserved' := ht.observedAt
  have hobserved'' := ht'.observedAt
  have hstake' := ht.stakeDelta
  have hstake'' := ht'.stakeDelta
  refine ⟨Bytes.le_inj ht.sequence ht'.sequence hsequence,
    Bytes.leInt_inj ⟨by omega, by omega⟩ ⟨by omega, by omega⟩ hobserved,
    kind_code_inj (Bytes.le_inj (hcode _) (hcode _) hkind),
    Bytes.le_inj (validate_weight hvalid) (validate_weight hvalid')
      hweight,
    Bytes.leInt_inj ⟨by omega, by omega⟩ ⟨by omega, by omega⟩ hstake, ?_⟩
  exact UInt64.toNat_inj.mp (Bytes.le_inj (contextFingerprint _).toNat_lt
    (contextFingerprint _).toNat_lt hcontext)

theorem eventBytes_split (h : eventBytes subject event
    = eventBytes subject' event') :
    subject ++ event.eventId = subject' ++ event'.eventId
      ∧ numberBytes event = numberBytes event' := by
  unfold eventBytes at h
  rw [← List.append_assoc, ← List.append_assoc] at h
  obtain ⟨hids, hnumbers⟩ := List.append_inj' h (by
    rw [length_numberBytes, length_numberBytes])
  rw [← Bytes.utf8_append, ← Bytes.utf8_append] at hids
  exact ⟨Bytes.utf8_inj.mp hids, hnumbers⟩

/-- The hash inputs are the same exactly if the texts are only divided
another way. -/
theorem sameBytes_iff (ht : event.Typed) (ht' : event'.Typed)
    (hvalid : event.validate = .ok ()) (hvalid' : event'.validate = .ok ()) :
    SameBytes subject event subject' event'
      ↔ Resplit subject event subject' event' := by
  have hcontext := contextBytes_inj (validate_context hvalid)
    (validate_context hvalid')
  constructor
  · rintro ⟨hevent, hbytes⟩
    obtain ⟨hids, hnumbers⟩ := eventBytes_split hevent
    obtain ⟨hsequence, hobserved, hkind, hweight, hstake, -⟩ :=
      numberBytes_inj ht ht' hvalid hvalid' hnumbers
    obtain ⟨htexts, hprovider⟩ := hcontext.mp hbytes
    exact ⟨hids, hsequence, hobserved, hkind, hweight, hstake, htexts,
      hprovider⟩
  · intro h
    have hbytes := hcontext.mpr ⟨h.texts, h.provider⟩
    refine ⟨?_, hbytes⟩
    have hfingerprint : contextFingerprint event.context
        = contextFingerprint event'.context := by
      rw [contextFingerprint_bytes, contextFingerprint_bytes, hbytes]
    have hids : Bytes.utf8 subject ++ Bytes.utf8 event.eventId
        = Bytes.utf8 subject' ++ Bytes.utf8 event'.eventId := by
      rw [← Bytes.utf8_append, ← Bytes.utf8_append, h.ids]
    unfold eventBytes
    rw [← List.append_assoc, ← List.append_assoc, hids]
    unfold numberBytes
    rw [h.sequence, h.observedAt, h.kind, h.weight, h.stakeDelta, hfingerprint]

end Hashes

-- ==== snapshots

section Snapshots

variable {s : TrustLayerSnapshot} {l : TrustLayer} {entry : JournalEntry}

theorem corrupted_not {c : Prop} [Decidable c] {reason : String} {u : Unit}
    (h : corrupted c reason = .ok u) : ¬ c :=
  require_ok.mp h

theorem replay_hashes {policy : TrustPolicy} {version : Nat} {r r' : Replay}
    (h : Replay.entry policy version r entry = .ok r') :
    entry.event.validate = .ok ()
      ∧ entry.receipt.eventHash
        = hashEvent entry.receipt.prevHash entry.subject entry.event := by
  obtain ⟨_, -, _, hvalid, h⟩ := bind_ok₂.mp h
  iterate 3 obtain ⟨_, -, h⟩ := bind_ok.mp h
  obtain ⟨next, hadvance, _, hprev, _, hhash, -⟩ := bind_ok₃.mp h
  have hprev := not_not.mp (corrupted_not hprev)
  have hhash := not_not.mp (corrupted_not hhash)
  refine ⟨hvalid, ?_⟩
  rw [hhash, hprev]
  exact (advance_ok hadvance).chainHash

theorem replayJournal_hashes {policy : TrustPolicy} {version : Nat}
    {journal : List JournalEntry} : ∀ {r r' : Replay},
    journal.foldlM (Replay.entry policy version) r = .ok r' →
    ∀ e ∈ journal, e.event.validate = .ok ()
      ∧ e.receipt.eventHash
        = hashEvent e.receipt.prevHash e.subject e.event := by
  induction journal with
  | nil => intro r r' _ e he; cases he
  | cons entry rest ih =>
    intro r r' h e he
    rw [List.foldlM_cons] at h
    obtain ⟨m, hentry, hrest⟩ := bind_ok.mp h
    rcases List.mem_cons.mp he with rfl | he
    · exact replay_hashes hentry
    · exact ih hrest e he

theorem fromSnapshot_hashes (h : TrustLayer.fromSnapshot s = .ok l) :
    ∀ e ∈ s.journal, e.event.validate = .ok ()
      ∧ e.receipt.eventHash
        = hashEvent e.receipt.prevHash e.subject e.event := by
  iterate 3 obtain ⟨_, -, h⟩ := bind_ok.mp h
  obtain ⟨r, hreplay, -⟩ := bind_ok.mp h
  exact replayJournal_hashes hreplay

end Snapshots

/-- Two different inputs with one hash, of the event or of the context. -/
def Collides (prevHash : UInt64) (subject : String) (event : TrustEvent)
    (subject' : String) (event' : TrustEvent) : Prop :=
  (eventBytes subject event ≠ eventBytes subject' event'
      ∧ hashBytes prevHash (eventBytes subject event)
        = hashBytes prevHash (eventBytes subject' event'))
    ∨ (contextBytes event.context ≠ contextBytes event'.context
      ∧ hashBytes fnvOffsetBasis (contextBytes event.context)
        = hashBytes fnvOffsetBasis (contextBytes event'.context))

theorem collides_iff {prevHash : UInt64} {subject subject' : String}
    {event event' : TrustEvent} (ht : event.Typed) (ht' : event'.Typed)
    (hvalid : event.validate = .ok ()) (hvalid' : event'.validate = .ok ())
    (hhash : hashEvent prevHash subject event
      = hashEvent prevHash subject' event') :
    Collides prevHash subject event subject' event'
      ↔ ¬ Resplit subject event subject' event' := by
  rw [← sameBytes_iff ht ht' hvalid hvalid']
  rw [hashEvent_bytes, hashEvent_bytes] at hhash
  constructor
  · rintro (⟨hne, -⟩ | ⟨hne, -⟩) hsame
    · exact hne hsame.1
    · exact hne hsame.2
  · intro hdiffer
    by_cases hevent : eventBytes subject event = eventBytes subject' event'
    · right
      refine ⟨fun hcontext => hdiffer ⟨hevent, hcontext⟩, ?_⟩
      obtain ⟨-, hnumbers⟩ := eventBytes_split hevent
      obtain ⟨-, -, -, -, -, hfingerprint⟩ :=
        numberBytes_inj ht ht' hvalid hvalid' hnumbers
      rw [← contextFingerprint_bytes, ← contextFingerprint_bytes, hfingerprint]
    · exact Or.inl ⟨hevent, hhash⟩

/-- The hash inputs bind the event, and an entry that is replaced under its
hashes passes by a collision alone, exactly where the two events are not
the same texts divided another way. -/
theorem encoding_binds_iff (subject subject' : String)
    (event event' : TrustEvent) :
    (event.Typed → event'.Typed → event.validate = .ok () →
      event'.validate = .ok () →
      ((SameBytes subject event subject' event' →
          subject = subject' ∧ event = event')
        ↔ (subject = subject' ∧ event = event')
          ∨ ¬ Resplit subject event subject' event'))
    ∧ ∀ (s s' : TrustLayerSnapshot) (l l' : TrustLayer)
        (entry entry' : JournalEntry),
      TrustLayer.fromSnapshot s = .ok l →
      TrustLayer.fromSnapshot s' = .ok l' → entry ∈ s.journal →
      entry' ∈ s'.journal → entry.event.Typed → entry'.event.Typed →
      entry'.receipt.prevHash = entry.receipt.prevHash →
      entry'.receipt.eventHash = entry.receipt.eventHash →
      (Collides entry.receipt.prevHash entry.subject entry.event
          entry'.subject entry'.event
        ↔ ¬ Resplit entry.subject entry.event entry'.subject
          entry'.event) := by
  constructor
  · intro ht ht' hvalid hvalid'
    rw [sameBytes_iff ht ht' hvalid hvalid']
    constructor
    · intro h
      by_cases hsplit : Resplit subject event subject' event'
      · exact Or.inl (h hsplit)
      · exact Or.inr hsplit
    · rintro (hsame | hdiffer) hsplit
      · exact hsame
      · exact absurd hsplit hdiffer
  · intro s s' l l' entry entry' hs hs' he he' ht ht' hprev hhash
    obtain ⟨hvalid, hevent⟩ := fromSnapshot_hashes hs entry he
    obtain ⟨hvalid', hevent'⟩ := fromSnapshot_hashes hs' entry' he'
    refine collides_iff ht ht' hvalid hvalid' ?_
    rw [← hevent, ← hhash, hevent', hprev]

namespace Concrete

/-- An event with the first two texts of its context. -/
def traced (requestId traceId : String) : TrustEvent :=
  { event "evt-1" 1 5 with
    context := ⟨some requestId, some traceId, none, none⟩ }

/-- A layer with one event, and the event in its snapshot replaced. -/
def replaced (taken kept : TrustEvent) : TrustLayerSnapshot :=
  { (layer.applyEvent "agent" taken).2.snapshot with
    journal := (layer.applyEvent "agent" taken).2.snapshot.journal.map
      fun entry => { entry with event := kept } }

theorem traced_typed (requestId traceId : String) :
    (traced requestId traceId).Typed :=
  ⟨by show (1 : Nat) < 2 ^ 64; decide,
    ⟨by show (-2 ^ 63 : Int) ≤ 5; decide, by show (5 : Int) < 2 ^ 63; decide⟩,
    ⟨by show (-2 ^ 63 : Int) ≤ 12000; decide,
      by show (12000 : Int) < 2 ^ 63; decide⟩⟩

end Concrete

open Concrete in
/-- Another text in the context is other bytes; and an entry whose texts are
divided another way passes without a collision. -/
theorem encoding_binds_iff_distinct :
    (SameBytes "agent" (traced "ab" "c") "agent" (traced "ab" "d") →
      ("agent" : String) = "agent" ∧ traced "ab" "c" = traced "ab" "d")
    ∧ ∃ entry ∈ (replaced (traced "ab" "c") (traced "ab" "c")).journal,
      ∃ entry' ∈ (replaced (traced "ab" "c") (traced "a" "bc")).journal,
        ¬ Collides entry.receipt.prevHash entry.subject entry.event
          entry'.subject entry'.event := by
  constructor
  · have hdiffer : ¬ Resplit "agent" (traced "ab" "c") "agent"
        (traced "ab" "d") := by
      intro h
      exact absurd h.texts (by decide +kernel)
    exact ((encoding_binds_iff "agent" "agent" (traced "ab" "c")
      (traced "ab" "d")).1 (traced_typed _ _) (traced_typed _ _)
      (by decide +kernel) (by decide +kernel)).mpr (Or.inr hdiffer)
  · have hok : (check (fun _ => true) (TrustLayer.fromSnapshot
          (replaced (traced "ab" "c") (traced "ab" "c")))
        && check (fun _ => true) (TrustLayer.fromSnapshot
          (replaced (traced "ab" "c") (traced "a" "bc")))) = true
        ∧ (layer.applyEvent "agent" (traced "ab" "c")).2.snapshot.journal
          ≠ [] := by
      decide +kernel
    rw [Bool.and_eq_true] at hok
    obtain ⟨⟨hkept, hreplaced⟩, hjournal⟩ := hok
    obtain ⟨l, hl, -⟩ := check_ok hkept
    obtain ⟨l', hl', -⟩ := check_ok hreplaced
    obtain ⟨x, hx⟩ := List.exists_mem_of_ne_nil _ hjournal
    have hmem := List.mem_map_of_mem (f := fun entry : JournalEntry =>
      { entry with event := traced "ab" "c" }) hx
    have hmem' := List.mem_map_of_mem (f := fun entry : JournalEntry =>
      { entry with event := traced "a" "bc" }) hx
    have hsplit : Resplit x.subject (traced "ab" "c") x.subject
        (traced "a" "bc") :=
      ⟨rfl, rfl, rfl, rfl, rfl, rfl, by decide +kernel, rfl⟩
    refine ⟨_, hmem, _, hmem', fun hcollides => ?_⟩
    exact ((encoding_binds_iff "" "" (traced "ab" "c") (traced "a" "bc")).2
      _ _ l l' _ _ hl hl' hmem hmem' (traced_typed _ _) (traced_typed _ _)
      rfl rfl).mp hcollides hsplit

open Concrete in
/-- Two events with one encoding: either may stand for the other in the
snapshot. -/
theorem encoding_ambiguous :
    (traced "ab" "c").validate = .ok ()
      ∧ (traced "a" "bc").validate = .ok ()
      ∧ traced "ab" "c" ≠ traced "a" "bc"
      ∧ SameBytes "agent" (traced "ab" "c") "agent"
        (traced "a" "bc")
      ∧ SameBytes "agent" (event "evt" 1 5) "age"
        (event "ntevt" 1 5)
      ∧ (TrustLayer.fromSnapshot (replaced (traced "ab" "c")
          (traced "ab" "c"))).toOption.isSome = true
      ∧ (TrustLayer.fromSnapshot (replaced (traced "ab" "c")
          (traced "a" "bc"))).toOption.isSome = true := by
  decide +kernel

end KamiyoProtocol.Trust
