/-
A layer restored from its snapshot.

The journal is replayed from fresh subjects under the policy of the
snapshot, so the layer comes back where every subject got its state from
journalled events alone, all under that policy. A subject that is known
but has no event does not pass, unless the seed of its chain is zero, and
neither does one whose last hash is zero: zero marks a subject with no
event.
-/
import KamiyoProtocol.TrustLayer.Journal

namespace KamiyoProtocol.Trust

open Exec Std

-- ==== restoring a map

section Maps

variable {m : SubjectMap} {s : String × SubjectState}

theorem insertSubject_ok {m' : SubjectMap} : insertSubject m s = .ok m'
    ↔ m[s.1]? = none ∧ m.insert s.1 s.2 = m' := by
  unfold insertSubject corrupted
  constructor
  · intro h
    obtain ⟨_, hnew, h⟩ := bind_ok.mp h
    cases h
    refine ⟨?_, rfl⟩
    have hnew := require_ok.mp hnew
    simpa using hnew
  · rintro ⟨hnew, rfl⟩
    refine bind_ok.mpr ⟨(), require_ok.mpr ?_, rfl⟩
    simp [hnew]

theorem insertSubjects_ok {l : List (String × SubjectState)} :
    ∀ {m : SubjectMap}, (l.map Prod.fst).Nodup → (∀ s ∈ l, m[s.1]? = none) →
      ∃ m', l.foldlM insertSubject m = .ok m'
        ∧ ∀ k v, m'[k]? = some v ↔ (k, v) ∈ l ∨ m[k]? = some v := by
  induction l with
  | nil =>
    intro m _ _
    exact ⟨m, rfl, fun k v => by simp⟩
  | cons s rest ih =>
    intro m hnodup hnew
    obtain ⟨hs, hrest⟩ := List.nodup_cons.mp hnodup
    have hrest' : ∀ t ∈ rest, (m.insert s.1 s.2)[t.1]? = none := by
      intro t ht
      have hne : t.1 ≠ s.1 := by
        intro heq
        exact hs (heq ▸ List.mem_map_of_mem ht)
      rw [get_insert_ne hne]
      exact hnew t (List.mem_cons_of_mem _ ht)
    obtain ⟨m', hm', hget⟩ := ih hrest hrest'
    refine ⟨m', ?_, ?_⟩
    · rw [List.foldlM_cons]
      exact bind_ok.mpr ⟨_, insertSubject_ok.mpr
        ⟨hnew s List.mem_cons_self, rfl⟩, hm'⟩
    · intro k v
      rw [hget, List.mem_cons]
      by_cases hk : k = s.1
      · subst hk
        rw [get_insert_self, hnew s List.mem_cons_self]
        have hnot : (s.1, v) ∉ rest := by
          intro h
          exact hs (List.mem_map.mpr ⟨(s.1, v), h, rfl⟩)
        constructor
        · rintro (h | h)
          · exact absurd h hnot
          · cases h
            exact Or.inl (Or.inl rfl)
        · rintro ((h | h) | h)
          · rw [← h]
            exact Or.inr rfl
          · exact absurd h hnot
          · cases h
      · rw [get_insert_ne hk]
        constructor
        · rintro (h | h)
          · exact Or.inl (Or.inr h)
          · exact Or.inr h
        · rintro ((h | h) | h)
          · rw [← h] at hk
            exact absurd rfl hk
          · exact Or.inl h
          · exact Or.inr h

theorem insertSubjects_toList :
    m.toList.foldlM insertSubject ∅ = .ok m := by
  have hnodup : (m.toList.map Prod.fst).Nodup := by
    rw [List.Nodup, List.pairwise_map]
    refine (ExtTreeMap.distinct_keys_toList (t := m)).imp ?_
    intro a b hne heq
    exact hne (heq ▸ compare_self)
  obtain ⟨m', hm', hget⟩ := insertSubjects_ok (m := ∅) hnodup
    (fun s _ => by simp)
  have hm : m' = m := by
    apply ExtTreeMap.ext_getElem?
    intro k
    apply Option.ext
    intro v
    rw [hget, ExtTreeMap.mem_toList_iff_getElem?_eq_some]
    simp
  rw [hm', hm]

theorem forM_ok {α E : Type} {f : α → Except E Unit} {l : List α}
    (h : ∀ x ∈ l, f x = .ok ()) : l.forM f = .ok () := by
  induction l with
  | nil => rfl
  | cons x rest ih =>
    refine bind_ok.mpr ⟨(), h x List.mem_cons_self, ?_⟩
    exact ih fun y hy => h y (List.mem_cons_of_mem _ hy)

end Maps

-- ==== invariant

/-- As a fresh subject, whatever the time. -/
def SubjectState.Untouched (subject : String) (state : SubjectState) : Prop :=
  state = { SubjectState.fresh subject with lastEventAt := state.lastEventAt }

/-- What the journal's replay says of the subjects. -/
structure Covers (replayed subjects : SubjectMap) : Prop where
  active : ∀ (s : String) (state : SubjectState), replayed[s]? = some state →
    subjects[s]? = some state ∧ state.lastSequence ≠ 0 ∧ state.chainHash ≠ 0
  rest : ∀ (s : String) (state : SubjectState), replayed[s]? = none →
    subjects[s]? = some state →
    state.Untouched s ∧ newChainSeed s = 0

/-- What a layer needs to be restored. -/
structure Restorable (l : TrustLayer) : Prop where
  policy : l.policy.validate = .ok ()
  version : initialPolicyVersion ≤ l.policyVersion
  replay : ∃ replayed,
    replayJournal l.policy l.policyVersion l.journal
        = .ok ⟨replayed, l.eventIndex, l.journal⟩
      ∧ Covers replayed l.subjects

section Restoring

variable {l : TrustLayer} {subject : String} {event : TrustEvent}
  {state next : SubjectState} {replayed : SubjectMap}

theorem corrupted_ok {c : Prop} [Decidable c] {reason : String} (h : ¬ c) :
    corrupted c reason = .ok () :=
  require_ok.mpr h

theorem Restorable.restores (h : Restorable l) :
    TrustLayer.fromSnapshot l.snapshot = .ok l := by
  obtain ⟨replayed, hreplay, hcovers⟩ := h.replay
  refine bind_ok.mpr ⟨(), h.policy, ?_⟩
  refine bind_ok.mpr ⟨(), corrupted_ok (Nat.not_lt.mpr h.version), ?_⟩
  refine bind_ok.mpr ⟨l.subjects, insertSubjects_toList, ?_⟩
  refine bind_ok.mpr ⟨_, hreplay, ?_⟩
  refine bind_ok.mpr ⟨(), forM_ok ?_, ?_⟩
  · rintro ⟨s, state⟩ hmem
    have hget := ExtTreeMap.mem_toList_iff_getElem?_eq_some.mp hmem
    obtain ⟨hsubject, -, -⟩ := hcovers.active s state hget
    refine bind_ok.mpr ⟨state, okOr_ok.mpr hsubject, ?_⟩
    exact corrupted_ok (not_not.mpr rfl)
  refine bind_ok.mpr ⟨(), forM_ok ?_, rfl⟩
  rintro ⟨s, state⟩ hmem
  have hget := ExtTreeMap.mem_toList_iff_getElem?_eq_some.mp hmem
  unfold SubjectState.checkBaseline
  cases hreplayed : replayed[s]? with
  | some state' =>
    obtain ⟨hsubject, hsequence, hhash⟩ :=
      hcovers.active s state' hreplayed
    rw [hget] at hsubject
    cases hsubject
    rw [if_neg (fun hz => hsequence hz.1)]
    exact corrupted_ok (not_or.mpr ⟨hsequence, hhash⟩)
  | none =>
    obtain ⟨huntouched, hseed⟩ := hcovers.rest s state hreplayed hget
    have hzero : state.lastSequence = 0 ∧ state.chainHash = 0 := by
      rw [huntouched]
      exact ⟨rfl, hseed⟩
    rw [if_pos hzero]

-- ==== taken events

theorem Untouched.take (h : state.Untouched subject)
    (htake : state.take subject event = .ok next) :
    (SubjectState.fresh subject).take subject event = .ok next := by
  obtain ⟨hcheck, hadvance⟩ := take_ok htake
  obtain ⟨_, hstart, -⟩ := bind_ok.mp hcheck
  rw [h] at hstart hadvance
  refine bind_ok.mpr ⟨(), ?_, hadvance⟩
  refine bind_ok.mpr ⟨(), hstart, ?_⟩
  refine bind_ok.mpr ⟨(), require_ok.mpr fun hz => hz.1 rfl, ?_⟩
  exact require_ok.mpr fun hz => hz.1 rfl

/-- What is replayed so far tells the state that the next event is taken
in, up to the time of a subject with no event. -/
theorem Covers.take (h : Covers replayed l.subjects)
    (htake : (l.stateOf subject).take subject event = .ok next) :
    (replayed[subject]?.getD (SubjectState.fresh subject)).take subject event
        = .ok next
      ∧ (replayed[subject]?.getD (SubjectState.fresh subject)).chainHash
        = (l.stateOf subject).chainHash := by
  unfold TrustLayer.stateOf at htake ⊢
  cases hreplayed : replayed[subject]? with
  | some state =>
    obtain ⟨hsubject, -, -⟩ := h.active subject state hreplayed
    rw [hsubject] at htake ⊢
    exact ⟨htake, rfl⟩
  | none =>
    cases hsubject : l.subjects[subject]? with
    | none =>
      rw [hsubject] at htake
      exact ⟨htake, rfl⟩
    | some state =>
      rw [hsubject] at htake
      obtain ⟨huntouched, -⟩ := h.rest subject state hreplayed hsubject
      refine ⟨Untouched.take huntouched htake, ?_⟩
      show _ = state.chainHash
      rw [huntouched]
      rfl

theorem checkReplayed_ok (h : state.checkNext event = .ok ()) :
    state.checkReplayed event = .ok () := by
  obtain ⟨_, hstart, _, hnext, hclock⟩ := bind_ok₂.mp h
  refine bind_ok.mpr ⟨(), require_ok.mpr (require_ok.mp hstart), ?_⟩
  refine bind_ok.mpr ⟨(), require_ok.mpr (require_ok.mp hnext), ?_⟩
  exact require_ok.mpr (require_ok.mp hclock)

/-- The entry of a taken event is replayed. -/
theorem replay_entry (h : Covers replayed l.subjects)
    (hvalid : event.validate = .ok ())
    (hfresh : l.eventIndex[event.eventId]? = none)
    (htake : (l.stateOf subject).take subject event = .ok next) :
    Replay.entry l.policy l.policyVersion
        ⟨replayed, l.eventIndex, l.journal⟩ (l.entryFor subject event next)
      = .ok ⟨replayed.insert subject next,
        (l.push (l.entryFor subject event next) next).eventIndex,
        (l.push (l.entryFor subject event next) next).journal⟩ := by
  obtain ⟨htake', hchain⟩ := h.take htake
  obtain ⟨hcheck, hadvance⟩ := take_ok htake'
  have hhash := (advance_ok hadvance).chainHash
  have heval : evaluateState l.policy next event.observedAt
      = some (evaluateInactive l.policy next 0) := by
    rw [← (advance_ok hadvance).lastEventAt]
    exact evaluateState_self ..
  refine bind_ok.mpr ⟨(), corrupted_ok (not_not.mpr rfl), ?_⟩
  refine bind_ok.mpr ⟨(), hvalid, ?_⟩
  refine bind_ok.mpr ⟨(), ?_, ?_⟩
  · refine bind_ok.mpr ⟨(), corrupted_ok (not_not.mpr rfl), ?_⟩
    refine bind_ok.mpr ⟨(), corrupted_ok (not_not.mpr rfl), ?_⟩
    refine bind_ok.mpr ⟨(), corrupted_ok (not_not.mpr rfl), ?_⟩
    refine bind_ok.mpr ⟨(), corrupted_ok (not_not.mpr rfl), ?_⟩
    exact corrupted_ok (not_not.mpr rfl)
  refine bind_ok.mpr ⟨(), corrupted_ok ?_, ?_⟩
  · show ¬ l.eventIndex[event.eventId]?.isSome = true
    rw [hfresh]
    exact fun h => by cases h
  refine bind_ok.mpr ⟨(), checkReplayed_ok hcheck, ?_⟩
  refine bind_ok.mpr ⟨next, hadvance, ?_⟩
  refine bind_ok.mpr ⟨(), corrupted_ok (not_not.mpr hchain.symm), ?_⟩
  refine bind_ok.mpr ⟨(), corrupted_ok (not_not.mpr rfl), ?_⟩
  refine bind_ok.mpr ⟨(), corrupted_ok (not_not.mpr rfl), ?_⟩
  refine bind_ok.mpr ⟨(), ?_, rfl⟩
  refine bind_ok.mpr ⟨(), corrupted_ok (not_not.mpr rfl), ?_⟩
  refine bind_ok.mpr ⟨(), corrupted_ok (not_not.mpr rfl), ?_⟩
  refine bind_ok.mpr ⟨(), corrupted_ok (not_not.mpr heval.symm), ?_⟩
  exact corrupted_ok (not_not.mpr rfl)

-- ==== each step

/-- The first event of a subject that it will take. -/
def Opens (event : TrustEvent) : Prop :=
  event.sequence = 1 ∧ 0 ≤ event.stakeDelta ∧ event.stakeDelta < 2 ^ 64
  deriving Decidable

theorem Opens.take (h : Opens event) :
    ∃ next, (SubjectState.fresh subject).take subject event = .ok next := by
  obtain ⟨hfirst, hpositive, hlt⟩ := h
  have hstake : applyStakeDelta 0 event.stakeDelta
      = .ok (0 + event.stakeDelta.toNat) := by
    unfold applyStakeDelta
    rw [if_pos hpositive, if_pos (by omega)]
  have hcheck : (SubjectState.fresh subject).checkNext event = .ok () := by
    refine bind_ok.mpr ⟨(), require_ok.mpr fun hz => hz.2 hfirst, ?_⟩
    refine bind_ok.mpr ⟨(), require_ok.mpr fun hz => hz.1 rfl, ?_⟩
    exact require_ok.mpr fun hz => hz.1 rfl
  exact ⟨_, bind_ok.mpr ⟨(), hcheck, bind_ok.mpr ⟨_, hstake, rfl⟩⟩⟩

/-- An event that leaves no subject without an event, or its hash zero,
but for a subject whose seed is zero. -/
def EventRestores (subject : String) (event : TrustEvent) (l : TrustLayer) :
    Prop :=
  event.validate = .ok () → l.eventIndex[event.eventId]? = none →
    (l.subjects[subject]? = none → Opens event ∨ newChainSeed subject = 0)
      ∧ hashEvent (l.stateOf subject).chainHash subject event ≠ 0

instance (subject : String) (event : TrustEvent) (l : TrustLayer) :
    Decidable (EventRestores subject event l) :=
  inferInstanceAs (Decidable (_ → _ → _ ∧ _))

theorem Restorable.touch (h : Restorable l)
    (hknown : l.subjects[subject]? = none → newChainSeed subject = 0) :
    Restorable (l.touch subject) := by
  obtain ⟨replayed, hreplay, hcovers⟩ := h.replay
  refine ⟨h.policy, h.version, replayed, hreplay, ?_⟩
  have hget : ∀ s, (l.touch subject).subjects[s]?
      = if s = subject then some (l.stateOf subject) else l.subjects[s]? := by
    intro s
    show (l.subjects.insert subject (l.stateOf subject))[s]? = _
    by_cases hs : s = subject
    · rw [hs, get_insert_self, if_pos rfl]
    · rw [get_insert_ne hs, if_neg hs]
  refine ⟨?_, ?_⟩
  · intro s state hs
    obtain ⟨hsubject, hactive⟩ := hcovers.active s state hs
    refine ⟨?_, hactive⟩
    rw [hget]
    by_cases hss : s = subject
    · subst hss
      rw [if_pos rfl]
      unfold TrustLayer.stateOf
      rw [hsubject]
      rfl
    · rw [if_neg hss]
      exact hsubject
  · intro s state hnone hs
    rw [hget] at hs
    by_cases hss : s = subject
    · subst hss
      rw [if_pos rfl] at hs
      cases hs
      unfold TrustLayer.stateOf
      cases hsubject : l.subjects[s]? with
      | some state => exact hcovers.rest s state hnone hsubject
      | none => exact ⟨rfl, hknown hsubject⟩
    · rw [if_neg hss] at hs
      exact hcovers.rest s state hnone hs

theorem Restorable.push (h : Restorable l) (hvalid : event.validate = .ok ())
    (hfresh : l.eventIndex[event.eventId]? = none)
    (htake : (l.stateOf subject).take subject event = .ok next)
    (hhash : hashEvent (l.stateOf subject).chainHash subject event ≠ 0) :
    Restorable (l.push (l.entryFor subject event next) next) := by
  obtain ⟨replayed, hreplay, hcovers⟩ := h.replay
  obtain ⟨hcheck, hadvance⟩ := take_ok htake
  obtain ⟨hsequence, -⟩ := checkNext_ok hcheck
  have hadvanced := advance_ok hadvance
  refine ⟨h.policy, h.version, replayed.insert subject next, ?_, ?_⟩
  · show (l.journal ++ [_]).foldlM _ _ = _
    rw [List.foldlM_append]
    refine bind_ok.mpr ⟨_, hreplay, ?_⟩
    exact bind_ok.mpr ⟨_, replay_entry hcovers hvalid hfresh htake, rfl⟩
  · refine ⟨?_, ?_⟩
    · intro s state hs
      show (l.subjects.insert subject next)[s]? = some state ∧ _
      by_cases hss : s = subject
      · subst hss
        rw [get_insert_self] at hs ⊢
        cases hs
        refine ⟨rfl, ?_, ?_⟩
        · rw [hadvanced.lastSequence, hsequence]
          exact Nat.succ_ne_zero _
        · rw [hadvanced.chainHash]
          exact hhash
      · rw [get_insert_ne hss] at hs ⊢
        exact hcovers.active s state hs
    · intro s state hnone hs
      change (l.subjects.insert subject next)[s]? = some state at hs
      by_cases hss : s = subject
      · subst hss
        rw [get_insert_self] at hnone
        cases hnone
      · rw [get_insert_ne hss] at hnone hs
        exact hcovers.rest s state hnone hs

theorem Restorable.apply (h : Restorable l)
    (hevent : EventRestores subject event l) :
    Restorable (l.applyEvent subject event).2 := by
  have happlied : Applied l subject event (l.applyEvent subject event) :=
    applyEvent_applied
  generalize l.applyEvent subject event = x at happlied
  cases happlied with
  | refused => exact h
  | replayed => exact h
  | touched e hvalid hfresh htake =>
    obtain ⟨hopens, -⟩ := hevent hvalid hfresh
    apply h.touch
    intro hunknown
    rcases hopens hunknown with hopens | hseed
    · obtain ⟨next, hnext⟩ : ∃ next,
        (SubjectState.fresh subject).take subject event = .ok next :=
        hopens.take
      unfold TrustLayer.stateOf at htake
      rw [hunknown] at htake
      rw [show (SubjectState.fresh subject).take subject event = .error e
        from htake] at hnext
      cases hnext
    · exact hseed
  | taken next hvalid hfresh htake =>
    exact h.push hvalid hfresh htake (hevent hvalid hfresh).2

theorem Restorable.policy_set (h : Restorable l) {policy : TrustPolicy}
    {version : Nat} (hvalid : policy.validate = .ok ())
    (hversion : initialPolicyVersion ≤ version) (hempty : l.journal = []) :
    Restorable { l with policy := policy, policyVersion := version } := by
  obtain ⟨replayed, hreplay, hcovers⟩ := h.replay
  refine ⟨hvalid, hversion, replayed, ?_, hcovers⟩
  rw [hempty] at hreplay
  show replayJournal policy version l.journal = _
  rw [hempty]
  exact hreplay

theorem Restorable.seed (h : Restorable l) {score stake : Nat} {now : Int}
    (hnew : l.subjects[subject]? = none) (hseed : newChainSeed subject = 0)
    (hscore : min score maxScore = baseScore) (hstake : stake = 0) :
    Restorable (l.seedSubject subject score stake now) := by
  obtain ⟨replayed, hreplay, hcovers⟩ := h.replay
  refine ⟨h.policy, h.version, replayed, hreplay, ?_, ?_⟩
  · intro s state hs
    obtain ⟨hsubject, hactive⟩ := hcovers.active s state hs
    refine ⟨?_, hactive⟩
    show (l.subjects.insert subject _)[s]? = some state
    have hne : s ≠ subject := by
      rintro rfl
      rw [hnew] at hsubject
      cases hsubject
    rw [get_insert_ne hne]
    exact hsubject
  · intro s state hnone hs
    change (l.subjects.insert subject _)[s]? = some state at hs
    by_cases hss : s = subject
    · subst hss
      rw [get_insert_self] at hs
      cases hs
      rw [hscore, hstake]
      exact ⟨rfl, hseed⟩
    · rw [get_insert_ne hss] at hs
      exact hcovers.rest s state hnone hs

end Restoring

-- ==== runs

/-- A call seeds no subject that is known. -/
def SeedsFresh (a : LayerAction) (l : TrustLayer) : Prop :=
  match a with
  | .seed subject _ _ _ => l.subjects[subject]? = none
  | _ => True

instance (a : LayerAction) (l : TrustLayer) : Decidable (SeedsFresh a l) :=
  match a with
  | .seed subject _ _ _ =>
    inferInstanceAs (Decidable (l.subjects[subject]? = none))
  | .apply _ _ | .setPolicy _ | .setPolicyWithVersion _ _ =>
    inferInstanceAs (Decidable True)

/-- A call leaves the layer one that its snapshot restores. -/
def Restores (a : LayerAction) (l : TrustLayer) : Prop :=
  match a with
  | .apply subject event => EventRestores subject event l
  | .setPolicy policy => policy.validate = .ok () → l.journal = []
  | .setPolicyWithVersion policy nextVersion =>
    policy.validate = .ok () → nextVersion = l.policyVersion + 1 →
      l.journal = []
  | .seed subject score stake _ => newChainSeed subject = 0
      ∧ min score maxScore = baseScore ∧ stake = 0

instance (a : LayerAction) (l : TrustLayer) : Decidable (Restores a l) :=
  match a with
  | .apply subject event =>
    inferInstanceAs (Decidable (EventRestores subject event l))
  | .setPolicy _ => inferInstanceAs (Decidable (_ → _))
  | .setPolicyWithVersion _ _ => inferInstanceAs (Decidable (_ → _ → _))
  | .seed _ _ _ _ => inferInstanceAs (Decidable (_ ∧ _ ∧ _))

/-- A layer is what its snapshot restores, as long as events, and first
events at that, are all that gives a subject its state, their hashes are
not zero, and they are all under one policy. -/
theorem snapshot_restores {policy : TrustPolicy} {l₀ l : TrustLayer}
    {tr : List LayerAction} (hnew : TrustLayer.new policy = .ok l₀)
    (hfresh : Meets TrustLayer.step SeedsFresh l₀ tr)
    (hrestores : Meets TrustLayer.step Restores l₀ tr)
    (hrun : run TrustLayer.step l₀ tr = .ok l) :
    TrustLayer.fromSnapshot l.snapshot = .ok l := by
  have h₀ : Restorable l₀ := by
    obtain ⟨hvalid, rfl⟩ := new_ok hnew
    refine ⟨hvalid, Nat.le_refl _, ∅, rfl, ?_, ?_⟩
    · intro s state hs
      simp at hs
    · intro s state _ hs
      simp at hs
  refine Restorable.restores (run_induct_meets ?_ h₀
    (meets_both hfresh hrestores) hrun)
  rintro a l l' h ⟨hnew, ha⟩ hstep
  cases a with
  | apply subject event =>
    cases hstep
    exact h.apply ha
  | setPolicy policy =>
    cases hstep
    cases hset : l.setPolicy policy with
    | error => exact h
    | ok l' =>
      obtain ⟨hvalid, rfl⟩ := setPolicy_ok hset
      exact h.policy_set hvalid (Nat.le_add_left 1 _) (ha hvalid)
  | setPolicyWithVersion policy nextVersion =>
    cases hstep
    cases hset : l.setPolicyWithVersion policy nextVersion with
    | error => exact h
    | ok l' =>
      obtain ⟨hvalid, rfl, rfl⟩ := setPolicyWithVersion_ok hset
      exact h.policy_set hvalid (Nat.le_add_left 1 _) (ha hvalid rfl)
  | seed subject score stake now =>
    cases hstep
    exact h.seed hnew ha.1 ha.2.1 ha.2.2

namespace Concrete

/-- A policy, and then two events, the second refused at first. -/
def journalled : List LayerAction :=
  [.setPolicy TrustPolicy.standard, .apply "agent" (event "evt-1" 1 5),
    .apply "agent" (event "evt-2" 3 6), .apply "agent" (event "evt-2" 2 6)]

/-- A first event that is refused, a policy after an event, a seed, and an
event after a seed. -/
def unrestored : List (List LayerAction) :=
  [[.apply "agent" (event "evt-1" 2 5)],
    [.apply "agent" (event "evt-1" 1 5), .setPolicy TrustPolicy.standard],
    [.seed "agent" 500 0 5],
    [.seed "agent" 900 25000 5, .apply "agent" (event "evt-1" 1 5)]]

end Concrete

theorem snapshot_restores_two :
    ∃ l, run TrustLayer.step Concrete.layer Concrete.journalled = .ok l
      ∧ l.journal.length = 2 ∧ TrustLayer.fromSnapshot l.snapshot = .ok l := by
  obtain ⟨l, hrun, hlength⟩ := check_ok (show Exec.check
      (fun l : TrustLayer => decide (l.journal.length = 2))
      (run TrustLayer.step Concrete.layer Concrete.journalled) = true
    by decide +kernel)
  have hnew : TrustLayer.new TrustPolicy.standard = .ok Concrete.layer := rfl
  have hfresh : Meets TrustLayer.step SeedsFresh Concrete.layer
      Concrete.journalled := by
    apply meets_of_check fun a l h =>
      of_decide_eq_true (p := SeedsFresh a l) h
    decide
  have hrestores : Meets TrustLayer.step Restores Concrete.layer
      Concrete.journalled := by
    apply meets_of_check fun a l h =>
      of_decide_eq_true (p := Restores a l) h
    decide +kernel
  exact ⟨l, hrun, of_decide_eq_true hlength,
    snapshot_restores hnew hfresh hrestores hrun⟩

/-- None of these comes back from its own snapshot. -/
theorem snapshot_refused :
    TrustLayer.new TrustPolicy.standard = .ok Concrete.layer
      ∧ ∀ tr ∈ Concrete.unrestored,
        Meets TrustLayer.step SeedsFresh Concrete.layer tr
          ∧ ∃ l, run TrustLayer.step Concrete.layer tr = .ok l
            ∧ (TrustLayer.fromSnapshot l.snapshot).toOption.isNone = true := by
  have hchecks : ∀ tr ∈ Concrete.unrestored,
      checkMeets TrustLayer.step (fun a l => decide (SeedsFresh a l))
          Concrete.layer tr = true
        ∧ Exec.check (fun l : TrustLayer =>
            (TrustLayer.fromSnapshot l.snapshot).toOption.isNone)
          (run TrustLayer.step Concrete.layer tr) = true := by
    decide +kernel
  refine ⟨rfl, ?_⟩
  intro tr htr
  obtain ⟨hfresh, hrefused⟩ := hchecks tr htr
  refine ⟨meets_of_check (fun a l h => ?_) hfresh, check_ok hrefused⟩
  exact of_decide_eq_true (p := SeedsFresh a l) h

end KamiyoProtocol.Trust
