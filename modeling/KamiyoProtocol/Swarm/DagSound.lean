/-
The soundness of `runDag`: what its calls of `runNode` are, and what it
returns.

It holds of every run exactly if no node that is not seeded has a name that
the object of the seeds inherits. Such a node is taken for seeded with what
has no status: it is never run, and returned as it is.
-/
import KamiyoProtocol.Swarm.DagRuns

namespace KamiyoProtocol.Swarm

open Exec
open Ecma (trim)

variable {T Out : Type} {nodes : List (DagNode T)} {seeds : List String}
  {options : DagOptions Out} {s s' : DagState Out}

-- ==== calls

/-- What the calls so far were, and what the flags say of the statuses. -/
structure Logged (nodes : List (DagNode T)) (seeds : List String)
    (options : DagOptions Out) (s : DagState Out) : Prop where
  flight : ∀ id, id ∈ s.inFlight
    ↔ id ∈ nodes.map (·.id) ∧ s.statusOf id = some .running
  flightNodup : s.inFlight.Nodup
  once : (s.calls.map (·.nodeId)).Nodup
  called : ∀ c ∈ s.calls,
    Unseeded nodes seeds c.nodeId ∧ Started (s.statusOf c.nodeId)
  fed : ∀ c ∈ s.calls, c.deps.map Prod.fst = depsOf nodes c.nodeId
    ∧ ∀ d ∈ c.deps, d.2.bind (·.status) = some .completed
  room : ∀ c ∈ s.calls, c.inFlight ≤ options.maxParallel
  failures : s.anyFailed = false → ∀ id, Unseeded nodes seeds id →
    s.statusOf id ≠ some .failed
  stopped : s.abortScheduling = true → s.abortStatus ≠ none ∨ s.anyFailed = true
  verdict : s.abortStatus ≠ none →
    s.abortScheduling = true ∧ s.abortStatus ≠ some .completed

theorem started_ne_pending {status : Option DagNodeStatus}
    (h : Started status) : status ≠ some .pending := by
  rintro rfl
  simp [Started] at h

theorem logged_visited (h : Logged nodes seeds options s)
    (hv : Visited s s') : Logged nodes seeds options s' := by
  have hkeep : ∀ id, s.statusOf id ≠ some .pending →
      s'.statusOf id = s.statusOf id := by
    intro id hne
    rcases hv.status id with hsame | ⟨hpending, -⟩
    · exact hsame
    · exact absurd hpending hne
  have hback : ∀ id st, s'.statusOf id = some st → st ≠ .skipped →
      s.statusOf id = some st := by
    intro id st hst hne
    rcases hv.status id with hsame | ⟨-, hskipped⟩
    · rw [← hsame]
      exact hst
    · rw [hskipped] at hst
      exact absurd (Option.some.inj hst).symm hne
  refine ⟨fun id => ?_, hv.inFlight ▸ h.flightNodup, hv.calls ▸ h.once, ?_,
    hv.calls ▸ h.fed, hv.calls ▸ h.room, ?_, ?_, ?_⟩
  · rw [hv.inFlight, h.flight id]
    constructor
    · rintro ⟨hid, hrunning⟩
      refine ⟨hid, ?_⟩
      rw [hkeep id (by rw [hrunning]; simp)]
      exact hrunning
    · rintro ⟨hid, hrunning⟩
      exact ⟨hid, hback id _ hrunning (by simp)⟩
  · intro c hc
    rw [hv.calls] at hc
    obtain ⟨hu, hstarted⟩ := h.called c hc
    refine ⟨hu, ?_⟩
    rw [hkeep _ (started_ne_pending hstarted)]
    exact hstarted
  · intro hnone id hid hfailed
    rw [hv.anyFailed] at hnone
    exact h.failures hnone id hid (hback id _ hfailed (by simp))
  · rw [hv.abortScheduling, hv.abortStatus, hv.anyFailed]
    exact h.stopped
  · rw [hv.abortStatus, hv.abortScheduling]
    exact h.verdict

theorem running_unseeded {queue left : List String} {id : String}
    (h : Followed nodes seeds s queue left) (hid : id ∈ nodes.map (·.id))
    (hrunning : s.statusOf id = some .running) :
    Unseeded nodes seeds id := by
  refine ⟨hid, fun hseed => ?_⟩
  rw [h.seeded id hid hseed] at hrunning
  cases hrunning

-- ==== starting

/-- What starting a node that is not in flight does. -/
structure NodeStarted (nodes : List (DagNode T)) (s : DagState Out)
    (c : String) (s' : DagState Out) : Prop where
  results : s'.results
    = Function.update s.results c (some ⟨some .running, none, none⟩)
  remainingDeps : s'.remainingDeps = s.remainingDeps
  inFlight : s'.inFlight = s.inFlight ++ [c]
  abortScheduling : s'.abortScheduling = s.abortScheduling
  anyFailed : s'.anyFailed = s.anyFailed
  abortStatus : s'.abortStatus = s.abortStatus
  calls : s'.calls = s.calls ++ [⟨c, (depsOf nodes c).map fun id =>
    (id, s'.results id), s'.inFlight.length⟩]

theorem startNode_started (hplan : ValidPlan nodes) {c : String}
    (hc : c ∈ nodes.map (·.id)) (hfresh : c ∉ s.inFlight)
    (rest : List String) :
    NodeStarted nodes s c (startNode nodes { s with ready := rest } c)
      ∧ (startNode nodes { s with ready := rest } c).ready = rest := by
  obtain ⟨node, -, hnode, hdeps⟩ := byId_some hplan hc
  have hflight : (if c ∈ s.inFlight then s.inFlight else s.inFlight ++ [c])
      = s.inFlight ++ [c] := if_neg hfresh
  unfold startNode
  rw [hnode]
  refine ⟨⟨rfl, rfl, hflight, rfl, rfl, rfl, ?_⟩, rfl⟩
  rw [← hdeps]

/-- Starting the first ready node. -/
theorem started_kept {c : String} {rest : List String}
    (hready : s.ready = c :: rest)
    (hroom : s.inFlight.length < options.maxParallel)
    (hf : Followed nodes seeds s [] []) (hm : NoneMissed nodes seeds s)
    (hl : Logged nodes seeds options s) (hs : NodeStarted nodes s c s')
    (hrest : s'.ready = rest) :
    Followed nodes seeds s' [] [] ∧ NoneMissed nodes seeds s'
      ∧ Logged nodes seeds options s' := by
  obtain ⟨hc, hpending, hzero, hdeps⟩ :=
    hf.readied c (by rw [hready]; exact List.mem_cons_self)
  have hnodup := hf.readyNodup
  rw [hready] at hnodup
  obtain ⟨hgone, -⟩ := List.nodup_cons.mp hnodup
  have hset := statusOf_set hs.results
  have hdepsSet : ∀ d ∈ depsOf nodes c, s'.statusOf d = some .completed := by
    intro d hd
    have hcompleted := hdeps d hd
    have hne : d ≠ c := by
      rintro rfl
      rw [hpending] at hcompleted
      cases hcompleted
    rw [hset d, if_neg hne]
    exact hcompleted
  refine ⟨?_, ?_, ?_⟩
  · refine followed_set hf hc (hpending ▸ pending_not_terminal) hs.results
      hs.remainingDeps ?_ (hrest ▸ hgone) (Or.inr ⟨rfl, rfl⟩)
      (counted_zero hf hc hzero) (fun _ => hdeps) (by simp)
    rw [hrest, hready]
    exact List.sublist_cons_self c rest
  · intro hrun id hid hstatus hcounter
    rw [hs.abortScheduling] at hrun
    rw [hs.remainingDeps] at hcounter
    rw [hset id] at hstatus
    by_cases heq : id = c
    · rw [if_pos heq] at hstatus
      cases hstatus
    · rw [if_neg heq] at hstatus
      have hold := hm hrun id hid hstatus hcounter
      rw [hready] at hold
      rw [hrest]
      exact (List.mem_cons.mp hold).resolve_left heq
  · have hfresh : c ∉ s.calls.map (·.nodeId) := by
      intro hmem
      obtain ⟨call, hcall, hid⟩ := List.mem_map.mp hmem
      have hstarted := (hl.called call hcall).2
      rw [hid, hpending] at hstarted
      exact started_ne_pending hstarted rfl
    refine ⟨fun id => ?_, ?_, ?_, ?_, ?_, ?_, ?_, ?_, ?_⟩
    · rw [hs.inFlight, List.mem_append, List.mem_singleton, hset id,
        hl.flight id]
      by_cases heq : id = c
      · subst heq
        simp [hc.1]
      · simp [heq]
    · rw [hs.inFlight, List.nodup_append]
      refine ⟨hl.flightNodup, List.nodup_singleton c, fun a ha b hb heq => ?_⟩
      rw [List.mem_singleton] at hb
      have hrunning := ((hl.flight a).mp ha).2
      rw [heq, hb, hpending] at hrunning
      cases hrunning
    · rw [hs.calls, List.map_append, List.nodup_append]
      refine ⟨hl.once, List.nodup_singleton c, fun a ha b hb heq => ?_⟩
      rw [List.map_singleton, List.mem_singleton] at hb
      rw [heq, hb] at ha
      exact hfresh ha
    · intro call hcall
      rw [hs.calls, List.mem_append, List.mem_singleton] at hcall
      rcases hcall with hold | hnew
      · obtain ⟨hu, hstarted⟩ := hl.called call hold
        have hne : call.nodeId ≠ c := fun heq =>
          hfresh (heq ▸ List.mem_map_of_mem hold)
        refine ⟨hu, ?_⟩
        rw [hset, if_neg hne]
        exact hstarted
      · subst hnew
        refine ⟨hc, ?_⟩
        rw [hset, if_pos rfl]
        exact Or.inl rfl
    · intro call hcall
      rw [hs.calls, List.mem_append, List.mem_singleton] at hcall
      rcases hcall with hold | hnew
      · exact hl.fed call hold
      · subst hnew
        constructor
        · simp [Function.comp_def]
        · intro d hd
          obtain ⟨id, hid, rfl⟩ := List.mem_map.mp hd
          exact hdepsSet id hid
    · intro call hcall
      rw [hs.calls, List.mem_append, List.mem_singleton] at hcall
      rcases hcall with hold | hnew
      · exact hl.room call hold
      · subst hnew
        dsimp only
        rw [hs.inFlight, List.length_append, List.length_singleton]
        exact hroom
    · intro hnone id hid
      rw [hs.anyFailed] at hnone
      rw [hset id]
      split
      · simp
      · exact hl.failures hnone id hid
    · rw [hs.abortScheduling, hs.abortStatus, hs.anyFailed]
      exact hl.stopped
    · rw [hs.abortStatus, hs.abortScheduling]
      exact hl.verdict

/-- Starting what is ready leaves something ready only if there is no room.
-/
theorem startReady_kept (hplan : ValidPlan nodes) {ready : List String}
    (hready : s.ready = ready) (hf : Followed nodes seeds s [] [])
    (hm : NoneMissed nodes seeds s) (hl : Logged nodes seeds options s) :
    Followed nodes seeds (startReady nodes options ready s) [] []
      ∧ NoneMissed nodes seeds (startReady nodes options ready s)
      ∧ Logged nodes seeds options (startReady nodes options ready s)
      ∧ ((startReady nodes options ready s).ready = []
        ∨ options.maxParallel
          ≤ (startReady nodes options ready s).inFlight.length)
      ∧ (startReady nodes options ready s).calls.length + s.inFlight.length
        = s.calls.length
          + (startReady nodes options ready s).inFlight.length := by
  induction ready generalizing s with
  | nil => exact ⟨hf, hm, hl, Or.inl hready, rfl⟩
  | cons c rest ih =>
    rw [startReady]
    by_cases hroom : s.inFlight.length < options.maxParallel
    · rw [if_pos hroom]
      obtain ⟨hc, hpending, -⟩ :=
        hf.readied c (by rw [hready]; exact List.mem_cons_self)
      have hfresh : c ∉ s.inFlight := by
        rw [hl.flight c, hpending]
        simp
      obtain ⟨hs, hrest⟩ := startNode_started hplan hc.1 hfresh rest
      obtain ⟨hf', hm', hl'⟩ :=
        started_kept hready hroom hf hm hl hs hrest
      obtain ⟨hf'', hm'', hl'', hfull, hlength⟩ := ih hrest hf' hm' hl'
      refine ⟨hf'', hm'', hl'', hfull, ?_⟩
      rw [hs.calls, hs.inFlight, List.length_append, List.length_append,
        List.length_singleton, List.length_singleton] at hlength
      omega
    · rw [if_neg hroom]
      exact ⟨hf, hm, hl, Or.inr (Nat.not_lt.mp hroom), rfl⟩

-- ==== settling

theorem outcome_status (outcome : RunOutcome Out) :
    outcome.result.status = some .completed
      ∨ outcome.result.status = some .failed := by
  cases outcome with
  | completed output => exact Or.inl rfl
  | failed error => exact Or.inr rfl
  | rejected message => exact Or.inr rfl

section Record

variable (id : String) (outcome : RunOutcome Out) (s)

@[simp] theorem record_results :
    (recordOutcome options id outcome s).results
      = Function.update s.results id (some outcome.result) := by
  unfold recordOutcome
  split <;> rfl

@[simp] theorem record_remainingDeps :
    (recordOutcome options id outcome s).remainingDeps = s.remainingDeps := by
  unfold recordOutcome
  split <;> rfl

@[simp] theorem record_ready :
    (recordOutcome options id outcome s).ready = s.ready := by
  unfold recordOutcome
  split <;> rfl

@[simp] theorem record_inFlight :
    (recordOutcome options id outcome s).inFlight = s.inFlight.erase id := by
  unfold recordOutcome
  split <;> rfl

@[simp] theorem record_calls :
    (recordOutcome options id outcome s).calls = s.calls := by
  unfold recordOutcome
  split <;> rfl

@[simp] theorem record_abortStatus :
    (recordOutcome options id outcome s).abortStatus = s.abortStatus := by
  unfold recordOutcome
  split <;> rfl

variable {s} in
theorem record_running
    (h : (recordOutcome options id outcome s).abortScheduling = false) :
    s.abortScheduling = false := by
  unfold recordOutcome at h
  split at h
  · exact h
  · exact (Bool.or_eq_false_iff.mp h).1

variable {s} in
theorem record_stopped
    (h : (recordOutcome options id outcome s).abortScheduling = true) :
    s.abortScheduling = true
      ∨ (recordOutcome options id outcome s).anyFailed = true := by
  unfold recordOutcome at h ⊢
  split at h
  next hcompleted =>
    exact Or.inl h
  next hfailed =>
    rw [if_neg hfailed]
    exact Or.inr rfl

variable {s} in
theorem record_anyFailed
    (h : (recordOutcome options id outcome s).anyFailed = false) :
    s.anyFailed = false ∧ outcome.result.status = some .completed := by
  unfold recordOutcome at h
  split at h
  next hcompleted => exact ⟨h, hcompleted⟩
  · cases h

end Record

theorem record_kept {id : String} (hid : id ∈ s.inFlight)
    (outcome : RunOutcome Out) (hf : Followed nodes seeds s [] [])
    (hm : NoneMissed nodes seeds s) (hl : Logged nodes seeds options s) :
    Followed nodes seeds (recordOutcome options id outcome s) [id] []
      ∧ NoneMissed nodes seeds (recordOutcome options id outcome s)
      ∧ Logged nodes seeds options (recordOutcome options id outcome s) := by
  obtain ⟨hnode, hrunning⟩ := (hl.flight id).mp hid
  have hu := running_unseeded hf hnode hrunning
  have hset : ∀ x, (recordOutcome options id outcome s).statusOf x
      = if x = id then outcome.result.status else s.statusOf x :=
    statusOf_set (record_results s id outcome)
  have hstatus := outcome_status outcome
  have hterminal : Terminal outcome.result.status := by
    rcases hstatus with h | h
    · exact Or.inl h
    · exact Or.inr (Or.inl h)
  have hnotReady : id ∉ s.ready := by
    intro hmem
    have hpending := (hf.readied id hmem).2.1
    rw [hrunning] at hpending
    cases hpending
  refine ⟨?_, ?_, ?_⟩
  · refine followed_set hf hu (by simp [hrunning, Terminal])
      (record_results s id outcome) (record_remainingDeps s id outcome)
      (by simp) (by simpa using hnotReady) (Or.inl ⟨rfl, hterminal⟩)
      (hf.through id hu (by simp [hrunning]))
      (fun _ => hf.started id hu (Or.inl hrunning)) ?_
    intro hskipped
    rcases hstatus with h | h <;> rw [h] at hskipped <;> cases hskipped
  · intro hrun x hx hpending hzero
    rw [hset x] at hpending
    rw [record_ready]
    by_cases heq : x = id
    · rw [if_pos heq] at hpending
      rcases hstatus with h | h <;> rw [h] at hpending <;> cases hpending
    · rw [if_neg heq] at hpending
      refine hm (record_running id outcome hrun) x hx hpending ?_
      simpa using hzero
  · refine ⟨fun x => ?_, ?_, ?_, ?_, ?_, ?_, ?_, ?_, ?_⟩
    · rw [record_inFlight, hl.flightNodup.mem_erase_iff, hl.flight x, hset x]
      by_cases heq : x = id
      · rw [if_pos heq]
        rcases hstatus with h | h <;> simp [heq, h]
      · simp [heq]
    · rw [record_inFlight]
      exact hl.flightNodup.erase id
    · rw [record_calls]
      exact hl.once
    · intro call hcall
      rw [record_calls] at hcall
      obtain ⟨hcalled, hstarted⟩ := hl.called call hcall
      refine ⟨hcalled, ?_⟩
      rw [hset]
      split
      · exact Or.inr hstatus
      · exact hstarted
    · rw [record_calls]
      exact hl.fed
    · rw [record_calls]
      exact hl.room
    · intro hnone x hx
      obtain ⟨hbefore, hcompleted⟩ := record_anyFailed id outcome hnone
      rw [hset x]
      split
      · rw [hcompleted]
        simp
      · exact hl.failures hbefore x hx
    · intro hstopped
      rw [record_abortStatus]
      rcases record_stopped id outcome hstopped with hbefore | hfailed
      · rcases hl.stopped hbefore with hverdict | hfailed
        · exact Or.inl hverdict
        · right
          by_contra hnone
          rw [Bool.not_eq_true] at hnone
          rw [(record_anyFailed id outcome hnone).1] at hfailed
          cases hfailed
      · exact Or.inr hfailed
    · intro hverdict
      rw [record_abortStatus] at hverdict ⊢
      obtain ⟨habort, hne⟩ := hl.verdict hverdict
      refine ⟨?_, hne⟩
      by_contra hrun
      rw [Bool.not_eq_true] at hrun
      rw [record_running id outcome hrun] at habort
      cases habort

theorem pendingCount_lt {id : String} (hid : id ∈ nodes.map (·.id))
    (hne : s.statusOf id ≠ some .pending) :
    pendingCount nodes s < nodes.length := by
  have hsplit := List.length_eq_countP_add_countP
    (fun id => decide (s.statusOf id = some .pending))
    (l := nodes.map (·.id))
  have hpos : 0 < (nodes.map (·.id)).countP fun x =>
      ¬decide (s.statusOf x = some .pending) = true :=
    List.countP_pos_iff.mpr ⟨id, hid, by simpa using hne⟩
  rw [List.length_map] at hsplit
  unfold pendingCount
  omega

theorem settleNode_kept (hplan : ValidPlan nodes)
    (hseeds : ∀ n ∈ nodes, n.id ∈ seeds → ∀ d ∈ n.dependsOn, d ∈ seeds)
    {id : String} (hid : id ∈ s.inFlight) (outcome : RunOutcome Out)
    (hf : Followed nodes seeds s [] []) (hm : NoneMissed nodes seeds s)
    (hl : Logged nodes seeds options s) :
    Followed nodes seeds (settleNode nodes options id outcome s) [] []
      ∧ NoneMissed nodes seeds (settleNode nodes options id outcome s)
      ∧ Logged nodes seeds options (settleNode nodes options id outcome s)
      ∧ (settleNode nodes options id outcome s).inFlight.length + 1
        = s.inFlight.length
      ∧ (settleNode nodes options id outcome s).calls = s.calls := by
  obtain ⟨hf', hm', hl'⟩ := record_kept hid outcome hf hm hl
  have hset : ∀ x, (recordOutcome options id outcome s).statusOf x
      = if x = id then outcome.result.status else s.statusOf x :=
    statusOf_set (record_results s id outcome)
  have hne : (recordOutcome options id outcome s).statusOf id
      ≠ some .pending := by
    rw [hset id, if_pos rfl]
    rcases outcome_status outcome with h | h <;> rw [h] <;> simp
  have hfuel := pendingCount_lt ((hl.flight id).mp hid).1 hne
  have hless : [id].length
      + pendingCount nodes (recordOutcome options id outcome s)
        ≤ nodes.length := by
    rw [List.length_singleton]
    omega
  obtain ⟨hdone, hdoneMissed, hvisited⟩ :=
    drain_followed hplan hseeds hless hf' hm'
  have hlogged := logged_visited hl' hvisited
  refine ⟨⟨hdone.known, hdone.seeded, hdone.counted, hdone.queued,
      hdone.queueNodup, hdone.children, hdone.through, hdone.started,
      hdone.skipped, hdone.readyNodup, hdone.readied⟩, hdoneMissed,
    ⟨hlogged.flight, hlogged.flightNodup, hlogged.once, hlogged.called,
      hlogged.fed, hlogged.room, hlogged.failures, hlogged.stopped,
      hlogged.verdict⟩, ?_, ?_⟩
  · have hlength : (settleNode nodes options id outcome s).inFlight
        = s.inFlight.erase id :=
      hvisited.inFlight.trans (record_inFlight s id outcome)
    have hpos := List.length_pos_of_mem hid
    rw [hlength, List.length_erase_of_mem hid]
    omega
  · exact hvisited.calls.trans (record_calls s id outcome)

-- ==== returning

/-- What a run returns with. -/
structure Ended (nodes : List (DagNode T)) (seeds : List String)
    (s : DagState Out) : Prop where
  idle : s.inFlight = []
  all : ∀ n ∈ nodes, Terminal (s.statusOf n.id)
  skipped : s.abortScheduling = false → ∀ n ∈ nodes, n.id ∉ seeds →
    (s.statusOf n.id = some .skipped ↔ ∃ d ∈ n.dependsOn,
      s.statusOf d = some .failed ∨ s.statusOf d = some .skipped)
  completed : s.status = .completed →
    ∀ n ∈ nodes, s.statusOf n.id = some .completed

theorem finalizePending_status (error : Option String) (id : String) :
    (finalizePending .skipped error s).statusOf id
      = if s.statusOf id = some .pending then some .skipped
        else s.statusOf id := by
  unfold DagState.statusOf finalizePending
  dsimp only
  cases s.results id with
  | none => rfl
  | some r =>
    rw [Option.map_some, Option.bind_some, Option.bind_some]
    split <;> rfl

theorem returned_visited (s : DagState Out) : Visited s (returned s) := by
  have hfinal : ∀ error, Visited s
      { finalizePending .skipped error s with phase := .returned } := by
    intro error
    refine ⟨rfl, rfl, rfl, rfl, rfl, fun id => ?_⟩
    have hstatus := finalizePending_status (s := s) error id
    by_cases hpending : s.statusOf id = some .pending
    · rw [if_pos hpending] at hstatus
      exact Or.inr ⟨hpending, hstatus⟩
    · rw [if_neg hpending] at hstatus
      exact Or.inl hstatus
  unfold returned
  split
  · split
    · exact hfinal _
    · exact hfinal _
  · exact ⟨rfl, rfl, rfl, rfl, rfl, fun _ => Or.inl rfl⟩

theorem returned_stopped (h : s.abortScheduling = true) (id : String) :
    (returned s).statusOf id
      = if s.statusOf id = some .pending then some .skipped
        else s.statusOf id := by
  unfold returned
  rw [if_pos h]
  cases s.abortStatus with
  | none => exact finalizePending_status _ id
  | some status => exact finalizePending_status _ id

theorem returned_running (h : s.abortScheduling = false) :
    returned s = { s with phase := .returned } := by
  unfold returned
  rw [if_neg (by simp [h])]

theorem all_terminal (hplan : ValidPlan nodes)
    (hf : Followed nodes seeds s [] []) (hm : NoneMissed nodes seeds s)
    (hl : Logged nodes seeds options s) (hidle : s.inFlight = [])
    (hrun : s.abortScheduling = false) (hready : s.ready = []) :
    ∀ id ∈ nodes.map (·.id), Terminal (s.statusOf id) := by
  refine plan_induct hplan fun id hid hdeps => ?_
  by_cases hseed : id ∈ seeds
  · exact Or.inl (hf.seeded id hid hseed)
  have hu : Unseeded nodes seeds id := ⟨hid, hseed⟩
  obtain ⟨status, hstatus⟩ := hf.known id hid
  rw [hstatus]
  cases status with
  | completed => exact Or.inl rfl
  | failed => exact Or.inr (Or.inl rfl)
  | skipped => exact Or.inr (Or.inr rfl)
  | running =>
    have hmem := (hl.flight id).mpr ⟨hid, hstatus⟩
    rw [hidle] at hmem
    cases hmem
  | pending =>
    have hclosed : ∀ d ∈ depsOf nodes id, Closed s [] d := fun d hd =>
      ⟨hdeps d hd, List.not_mem_nil⟩
    have hcount := hf.counted id hu
    rw [Dag.waiting_zero.mpr hclosed, List.count_nil] at hcount
    have hmem := hm hrun id hu hstatus hcount
    rw [hready] at hmem
    cases hmem

theorem returned_ended (hplan : ValidPlan nodes)
    (hf : Followed nodes seeds s [] []) (hm : NoneMissed nodes seeds s)
    (hl : Logged nodes seeds options s) (hidle : s.inFlight = [])
    (hready : s.abortScheduling = false → s.ready = []) :
    Ended nodes seeds (returned s) := by
  have hvisited := returned_visited s
  have hdeps : ∀ n ∈ nodes, ∀ d ∈ n.dependsOn, d ∈ depsOf nodes n.id := by
    intro n hn d hd
    rw [depsOf_mem hplan hn]
    exact hd
  refine ⟨hvisited.inFlight.trans hidle, ?_, ?_, ?_⟩
  · intro n hn
    have hid : n.id ∈ nodes.map (·.id) := List.mem_map_of_mem hn
    by_cases hrun : s.abortScheduling = true
    · rw [returned_stopped hrun]
      obtain ⟨status, hstatus⟩ := hf.known n.id hid
      rw [hstatus]
      cases status with
      | running =>
        have hmem := (hl.flight n.id).mpr ⟨hid, hstatus⟩
        rw [hidle] at hmem
        cases hmem
      | _ => simp [Terminal]
    · rw [Bool.not_eq_true] at hrun
      rw [returned_running hrun]
      exact all_terminal hplan hf hm hl hidle hrun (hready hrun) n.id hid
  · intro hrun n hn hseed
    rw [hvisited.abortScheduling] at hrun
    have hall := all_terminal hplan hf hm hl hidle hrun (hready hrun)
    have hu : Unseeded nodes seeds n.id := ⟨List.mem_map_of_mem hn, hseed⟩
    rw [returned_running hrun]
    constructor
    · intro hskipped
      obtain ⟨d, hd, hne⟩ := hf.skipped n.id hu hskipped
      have hnode := depsOf_closed hplan hu.1 hd
      rw [depsOf_mem hplan hn] at hd
      refine ⟨d, hd, ?_⟩
      rcases hall d hnode with hd | hd | hd
      · exact absurd hd hne
      · exact Or.inl hd
      · exact Or.inr hd
    · rintro ⟨d, hd, hbad⟩
      have hnotStarted : ¬Started (s.statusOf n.id) := by
        intro hstarted
        have hcompleted := hf.started n.id hu hstarted d (hdeps n hn d hd)
        rcases hbad with hbad | hbad
        · rw [show s.statusOf d = some .failed from hbad] at hcompleted
          cases hcompleted
        · rw [show s.statusOf d = some .skipped from hbad] at hcompleted
          cases hcompleted
      rcases hall n.id hu.1 with hstatus | hstatus | hstatus
      · exact absurd (Or.inr (Or.inl hstatus)) hnotStarted
      · exact absurd (Or.inr (Or.inr hstatus)) hnotStarted
      · exact hstatus
  · intro hstatus n hn
    have hnone : s.abortStatus = none ∧ s.anyFailed = false := by
      unfold DagState.status at hstatus
      rw [hvisited.abortStatus, hvisited.anyFailed] at hstatus
      cases habort : s.abortStatus with
      | some verdict =>
        have hverdict := (hl.verdict (by simp [habort])).2
        rw [habort] at hstatus hverdict
        exact absurd (congrArg some hstatus) hverdict
      | none =>
        refine ⟨rfl, ?_⟩
        rw [habort] at hstatus
        cases hfailed : s.anyFailed with
        | false => rfl
        | true =>
          rw [hfailed] at hstatus
          cases hstatus
    have hrun : s.abortScheduling = false := by
      by_contra hstop
      rw [Bool.not_eq_false] at hstop
      rcases hl.stopped hstop with h | h
      · exact h hnone.1
      · rw [hnone.2] at h
        cases h
    have hall := all_terminal hplan hf hm hl hidle hrun (hready hrun)
    rw [returned_running hrun]
    refine plan_induct hplan (P := fun id => s.statusOf id = some .completed)
      (fun id hid hcompleted => ?_) n.id (List.mem_map_of_mem hn)
    by_cases hseed : id ∈ seeds
    · exact hf.seeded id hid hseed
    rcases hall id hid with h | h | h
    · exact h
    · exact absurd h (hl.failures hnone.2 id ⟨hid, hseed⟩)
    · obtain ⟨d, hd, hne⟩ := hf.skipped id ⟨hid, hseed⟩ h
      exact absurd (hcompleted d hd) hne

-- ==== runs

/-- A run as far as it has come. -/
structure Tracked (nodes : List (DagNode T)) (seeds : List String)
    (options : DagOptions Out) (tr : List (DagEvent Out)) (s : DagState Out) :
    Prop where
  logged : Logged nodes seeds options s
  live : s.phase ≠ .returned →
    Followed nodes seeds s [] [] ∧ NoneMissed nodes seeds s
  waits : s.phase = .racing → s.inFlight ≠ []
  ended : s.phase = .returned → Ended nodes seeds s
  length : tr.length + 2 * s.inFlight.length
    = 2 * s.calls.length + if s.phase = .top then 0 else 1

/-- The verdict of `shouldAbort` is taken in. -/
def withVerdict (abort : Option Abort) (s : DagState Out) : DagState Out :=
  if s.abortScheduling then s
  else
    match abort with
    | none => s
    | some abort =>
      { s with
        abortScheduling := true
        abortStatus := some abort.status
        abortReason := some abort.reason }

theorem withVerdict_kept (abort : Option Abort)
    (hf : Followed nodes seeds s [] []) (hm : NoneMissed nodes seeds s)
    (hl : Logged nodes seeds options s) :
    Followed nodes seeds (withVerdict abort s) [] []
      ∧ NoneMissed nodes seeds (withVerdict abort s)
      ∧ Logged nodes seeds options (withVerdict abort s)
      ∧ (withVerdict abort s).inFlight = s.inFlight
      ∧ (withVerdict abort s).calls = s.calls := by
  unfold withVerdict
  split
  · exact ⟨hf, hm, hl, rfl, rfl⟩
  · cases abort with
    | none => exact ⟨hf, hm, hl, rfl, rfl⟩
    | some abort =>
      dsimp only
      refine ⟨⟨hf.known, hf.seeded, hf.counted, hf.queued, hf.queueNodup,
          hf.children, hf.through, hf.started, hf.skipped, hf.readyNodup,
          hf.readied⟩, fun hrun => (by cases hrun),
        ⟨hl.flight, hl.flightNodup, hl.once, hl.called, hl.fed, hl.room,
          hl.failures, fun _ => Or.inl (by simp), fun _ => ⟨rfl, ?_⟩⟩,
        rfl, rfl⟩
      exact fun h => abort.stops (Option.some.inj h)

theorem enterLoop_tracked (hplan : ValidPlan nodes)
    (hmax : 1 ≤ options.maxParallel) {tr : List (DagEvent Out)}
    (h : Tracked nodes seeds options tr s) (htop : s.phase = .top)
    (abort : Option Abort) :
    Tracked nodes seeds options (tr ++ [.enter abort])
      (enterLoop nodes options abort s) := by
  obtain ⟨hf, hm⟩ := h.live (by rw [htop]; simp)
  obtain ⟨hfv, hmv, hlv, hflight, hcalls⟩ :=
    withVerdict_kept abort hf hm h.logged
  -- the state at the end of the scheduling
  obtain ⟨t, ht, hft, hmt, hlt, hreadyt, hlength⟩ : ∃ t : DagState Out,
      enterLoop nodes options abort s
        = (if t.inFlight.length = 0 then returned t
          else { t with phase := .racing })
      ∧ Followed nodes seeds t [] [] ∧ NoneMissed nodes seeds t
      ∧ Logged nodes seeds options t
      ∧ (t.inFlight = [] → t.abortScheduling = false → t.ready = [])
      ∧ t.calls.length + s.inFlight.length
        = s.calls.length + t.inFlight.length := by
    by_cases hstop : (withVerdict abort s).abortScheduling = true
    · refine ⟨withVerdict abort s, ?_, hfv, hmv, hlv, fun _ hrun => ?_, ?_⟩
      · unfold enterLoop
        exact congrArg (fun t : DagState Out => if t.inFlight.length = 0
          then returned t else { t with phase := .racing }) (if_pos hstop)
      · rw [hstop] at hrun
        cases hrun
      · rw [hcalls, hflight]
    · obtain ⟨hf', hm', hl', hfull, hlen⟩ :=
        startReady_kept hplan rfl hfv hmv hlv
      refine ⟨startReady nodes options (withVerdict abort s).ready
        (withVerdict abort s), ?_, hf', hm', hl', fun hidle _ => ?_, ?_⟩
      · unfold enterLoop
        exact congrArg (fun t : DagState Out => if t.inFlight.length = 0
          then returned t else { t with phase := .racing }) (if_neg hstop)
      · rcases hfull with hempty | hfull
        · exact hempty
        · rw [hidle] at hfull
          exact absurd (Nat.le_trans hmax hfull) (by simp)
      · rw [hflight, hcalls] at hlen
        exact hlen
  have hbefore := h.length
  rw [if_pos htop] at hbefore
  rw [ht]
  by_cases hidle : t.inFlight.length = 0
  · have hempty := List.length_eq_zero_iff.mp hidle
    have hvisited := returned_visited t
    have hphase : (returned t).phase = .returned := rfl
    rw [if_pos hidle]
    refine ⟨logged_visited hlt hvisited, fun hne => absurd hphase hne, ?_,
      fun _ => returned_ended hplan hft hmt hlt hempty (hreadyt hempty), ?_⟩
    · intro hracing
      rw [hphase] at hracing
      cases hracing
    · rw [hvisited.inFlight, hvisited.calls, hphase, List.length_append,
        List.length_singleton, if_neg (by simp)]
      omega
  · rw [if_neg hidle]
    refine ⟨⟨hlt.flight, hlt.flightNodup, hlt.once, hlt.called, hlt.fed,
        hlt.room, hlt.failures, hlt.stopped, hlt.verdict⟩,
      fun _ => ⟨⟨hft.known, hft.seeded, hft.counted, hft.queued,
        hft.queueNodup, hft.children, hft.through, hft.started, hft.skipped,
        hft.readyNodup, hft.readied⟩, hmt⟩, ?_, ?_, ?_⟩
    · intro _ hempty
      exact hidle (List.length_eq_zero_iff.mpr hempty)
    · intro hreturned
      cases hreturned
    · rw [List.length_append, List.length_singleton, if_neg (by simp)]
      dsimp only
      omega

theorem settleNode_tracked (hplan : ValidPlan nodes)
    (hseeds : ∀ n ∈ nodes, n.id ∈ seeds → ∀ d ∈ n.dependsOn, d ∈ seeds)
    {tr : List (DagEvent Out)} (h : Tracked nodes seeds options tr s)
    (hracing : s.phase = .racing) {id : String} (hid : id ∈ s.inFlight)
    (outcome : RunOutcome Out) :
    Tracked nodes seeds options (tr ++ [.settle id outcome])
      (settleNode nodes options id outcome s) := by
  obtain ⟨hf, hm⟩ := h.live (by rw [hracing]; simp)
  obtain ⟨hf', hm', hl', hlength, hcalls⟩ :=
    settleNode_kept hplan hseeds hid outcome hf hm h.logged
  have hbefore := h.length
  rw [if_neg (by rw [hracing]; simp)] at hbefore
  refine ⟨hl', fun _ => ⟨hf', hm'⟩, fun hr => (by cases hr),
    fun hr => (by cases hr), ?_⟩
  rw [hcalls, List.length_append, List.length_singleton,
    if_pos (show (settleNode nodes options id outcome s).phase = .top from rfl)]
  omega

theorem dagStep_tracked (hplan : ValidPlan nodes)
    (hseeds : ∀ n ∈ nodes, n.id ∈ seeds → ∀ d ∈ n.dependsOn, d ∈ seeds)
    (hmax : 1 ≤ options.maxParallel) (tr : List (DagEvent Out))
    (event : DagEvent Out) (s s' : DagState Out)
    (h : Tracked nodes seeds options tr s)
    (hstep : dagStep nodes options event s = .ok s') :
    Tracked nodes seeds options (tr ++ [event]) s' := by
  cases event with
  | enter abort =>
    dsimp only [dagStep] at hstep
    split at hstep
    next htop =>
      rw [← Except.ok.inj hstep]
      exact enterLoop_tracked hplan hmax h htop abort
    · cases hstep
  | settle id outcome =>
    dsimp only [dagStep] at hstep
    split at hstep
    next hracing =>
      rw [← Except.ok.inj hstep]
      exact settleNode_tracked hplan hseeds h hracing.1 hracing.2 outcome
    · cases hstep

-- ==== the start

section Start

variable {output : String → Option Out}
  (hplan : ValidPlan nodes)
  (hobject : options.initialResults = seedObject seeds output)
  (hclean : ∀ n ∈ nodes, n.id ∉ seeds → n.id ∉ objectPrototype)

include hplan hobject hclean

variable {id : String}

theorem initialStatus_eq (hid : id ∈ nodes.map (·.id)) :
    initialStatus nodes options id
      = some (if id ∈ seeds then .completed else .pending) := by
  obtain ⟨n, hn, rfl⟩ := List.mem_map.mp hid
  rw [initialStatus, byId_mem hplan hn, Option.map_some, Option.bind_some,
    initialResult, hobject]
  by_cases hseed : n.id ∈ seeds
  · simp [seedObject, hseed]
  · simp [seedObject, hseed, hclean n hn hseed]

theorem initialStatus_pending (hu : Unseeded nodes seeds id) :
    initialStatus nodes options id = some .pending := by
  rw [initialStatus_eq hplan hobject hclean hu.1, if_neg hu.2]

theorem initial_closed (hid : id ∈ nodes.map (·.id)) :
    Closed (initialState nodes options) [] id
      ↔ initialStatus nodes options id = some .completed := by
  have hstatus := initialStatus_eq hplan hobject hclean hid
  have hsame : (initialState nodes options).statusOf id
      = initialStatus nodes options id := rfl
  unfold Closed
  rw [hsame, hstatus]
  by_cases hseed : id ∈ seeds <;> simp [hseed, Terminal]

theorem initial_counted (hu : Unseeded nodes seeds id) :
    (initialState nodes options).remainingDeps id
      = Dag.waiting (Closed (initialState nodes options) [])
        (depsOf nodes id) := by
  obtain ⟨n, hn, hnode, hdeps⟩ := byId_some hplan hu.1
  have hpending := initialStatus_pending hplan hobject hclean hu
  have hwaiting : initialRemaining nodes options n
      = Dag.waiting (Closed (initialState nodes options) [])
        (depsOf nodes id) := by
    rw [← hdeps]
    refine Dag.waiting_congr fun d hd => ?_
    rw [initial_closed hplan hobject hclean]
    rw [hdeps] at hd
    exact depsOf_closed hplan hu.1 hd
  rw [← hwaiting]
  simp only [initialState, hnode, hpending, true_and]
  split
  · rfl
  next hnone =>
    have hempty : n.dependsOn = [] :=
      List.length_eq_zero_iff.mp (not_not.mp hnone)
    simp [initialRemaining, hempty, Dag.waiting]

theorem initial_ready :
    id ∈ (initialState nodes options).ready
      ↔ Unseeded nodes seeds id
        ∧ (initialState nodes options).remainingDeps id = 0 := by
  have hzero : ∀ n ∈ nodes, Unseeded nodes seeds n.id →
      ((n.dependsOn.length = 0 ∨ initialRemaining nodes options n = 0)
        ↔ (initialState nodes options).remainingDeps n.id = 0) := by
    intro n hn hu
    have hpending := initialStatus_pending hplan hobject hclean hu
    simp only [initialState, byId_mem hplan hn, hpending, true_and]
    by_cases hlength : n.dependsOn.length = 0
    · simp [hlength]
    · simp [hlength]
  constructor
  · intro hid
    obtain ⟨n, hfilter, rfl⟩ := List.mem_map.mp hid
    obtain ⟨hn, hcond⟩ := List.mem_filter.mp hfilter
    obtain ⟨hpending, hready⟩ := of_decide_eq_true hcond
    have hu : Unseeded nodes seeds n.id := by
      refine ⟨List.mem_map_of_mem hn, fun hseed => ?_⟩
      rw [initialStatus_eq hplan hobject hclean (List.mem_map_of_mem hn),
        if_pos hseed] at hpending
      cases hpending
    exact ⟨hu, (hzero n hn hu).mp hready⟩
  · rintro ⟨hu, hremaining⟩
    obtain ⟨n, hn, rfl⟩ := List.mem_map.mp hu.1
    refine List.mem_map_of_mem (List.mem_filter.mpr ⟨hn, decide_eq_true ?_⟩)
    exact ⟨initialStatus_pending hplan hobject hclean hu,
      (hzero n hn hu).mpr hremaining⟩

theorem initial_tracked :
    Tracked nodes seeds options [] (initialState nodes options) := by
  have hstatus : ∀ id, Unseeded nodes seeds id →
      (initialState nodes options).statusOf id = some .pending :=
    fun id hu => initialStatus_pending hplan hobject hclean hu
  have hready := @initial_ready T Out nodes seeds options output hplan hobject
    hclean
  have hnotRunning : ∀ id ∈ nodes.map (·.id),
      (initialState nodes options).statusOf id ≠ some .running := by
    intro id hid hrunning
    have heq := initialStatus_eq hplan hobject hclean hid
    rw [show initialStatus nodes options id = some .running from hrunning]
      at heq
    split at heq <;> cases heq
  refine ⟨⟨fun id => ?_, List.nodup_nil, List.nodup_nil, ?_, ?_, ?_, ?_, ?_,
    ?_⟩, fun _ => ⟨⟨?_, ?_, ?_, ?_, List.nodup_nil, ?_, ?_, ?_, ?_, ?_, ?_⟩,
      ?_⟩, fun hr => (by cases hr), fun hr => (by cases hr), rfl⟩
  · constructor
    · intro hmem
      cases hmem
    · rintro ⟨hid, hrunning⟩
      exact absurd hrunning (hnotRunning id hid)
  · intro c hc
    cases hc
  · intro c hc
    cases hc
  · intro c hc
    cases hc
  · intro _ id hu
    rw [hstatus id hu]
    simp
  · intro habort
    cases habort
  · intro habort
    exact absurd rfl habort
  · intro id hid
    exact ⟨_, initialStatus_eq hplan hobject hclean hid⟩
  · intro id hid hseed
    have heq := initialStatus_eq hplan hobject hclean hid
    rw [if_pos hseed] at heq
    exact heq
  · intro id hu
    rw [initial_counted hplan hobject hclean hu, List.count_nil]
    omega
  · intro id hid
    cases hid
  · intro id hid
    cases hid
  · intro id hu hne
    exact absurd (hstatus id hu) hne
  · intro id hu hstarted
    exact absurd (hstatus id hu) (started_ne_pending hstarted)
  · intro id hu hskipped
    rw [hstatus id hu] at hskipped
    cases hskipped
  · exact hplan.nodup.sublist (List.filter_sublist.map _)
  · intro id hid
    obtain ⟨hu, hremaining⟩ := hready.mp hid
    refine ⟨hu, hstatus id hu, hremaining, fun d hd => ?_⟩
    rw [initial_counted hplan hobject hclean hu, Int.natCast_eq_zero,
      Dag.waiting_zero] at hremaining
    exact (initial_closed hplan hobject hclean
      (depsOf_closed hplan hu.1 hd)).mp (hremaining d hd)
  · intro _ id hu _ hremaining
    exact hready.mpr ⟨hu, hremaining⟩

end Start

-- ==== soundness

/-- What a run has done so far is sound. -/
structure SoundRun (nodes : List (DagNode T)) (seeds : List String)
    (options : DagOptions Out) (tr : List (DagEvent Out)) (s : DagState Out) :
    Prop where
  /-- No node is run twice. -/
  once : (s.calls.map (·.nodeId)).Nodup
  unseeded : ∀ c ∈ s.calls, c.nodeId ∉ seeds
  fed : ∀ c ∈ s.calls, c.deps.map Prod.fst = depsOf nodes c.nodeId
    ∧ ∀ d ∈ c.deps, d.2.bind (·.status) = some .completed
  room : ∀ c ∈ s.calls, c.inFlight ≤ options.maxParallel
  /-- It waits only for what has not settled, and not without end. -/
  waits : s.phase = .racing → s.inFlight ≠ []
  ends : tr.length ≤ 2 * nodes.length + 1
  ended : s.phase = .returned → Ended nodes seeds s

theorem tracked_sound {tr : List (DagEvent Out)}
    (h : Tracked nodes seeds options tr s) :
    SoundRun nodes seeds options tr s := by
  refine ⟨h.logged.once, fun c hc => (h.logged.called c hc).1.2, h.logged.fed,
    h.logged.room, h.waits, ?_, h.ended⟩
  have hsub : s.calls.map (·.nodeId) ⊆ nodes.map (·.id) := by
    intro id hid
    obtain ⟨c, hc, rfl⟩ := List.mem_map.mp hid
    exact (h.logged.called c hc).1.1
  have hcalls := (List.subperm_of_subset h.logged.once hsub).length_le
  rw [List.length_map, List.length_map] at hcalls
  have hlength := h.length
  split at hlength <;> omega

/-- A run that is cancelled at once returns what was inherited as it is. -/
theorem inherited_unsound (hplan : ValidPlan nodes)
    {output : String → Option Out}
    (hobject : options.initialResults = seedObject seeds output)
    {n : DagNode T} (hn : n ∈ nodes) (hseed : n.id ∉ seeds)
    (hinherited : n.id ∈ objectPrototype) :
    ¬Ended nodes seeds (enterLoop nodes options
      (some ⟨.cancelled, "cancelled", by decide⟩)
      (initialState nodes options)) := by
  intro h
  have hterminal := h.all n hn
  have hstatus : (initialState nodes options).statusOf n.id = none := by
    change initialStatus nodes options n.id = none
    rw [initialStatus, byId_mem hplan hn, Option.map_some, Option.bind_some,
      initialResult, hobject]
    simp [seedObject, hseed, hinherited]
  have henter : enterLoop nodes options
      (some ⟨.cancelled, "cancelled", by decide⟩) (initialState nodes options)
      = returned { initialState nodes options with
        abortScheduling := true
        abortStatus := some .cancelled
        abortReason := some "cancelled" } := rfl
  rw [henter, returned_stopped rfl] at hterminal
  change Terminal (if (initialState nodes options).statusOf n.id
    = some .pending then some .skipped
      else (initialState nodes options).statusOf n.id) at hterminal
  rw [hstatus] at hterminal
  simp [Terminal] at hterminal

/-- Every run of a valid plan is sound exactly if every node that is not
seeded has a name that the seed object does not inherit. -/
theorem runDag_sound_iff {order : List String}
    (hvalid : validateDag nodes = .ok order)
    (htrim : ∀ n ∈ nodes, trim n.id = n.id)
    (hseeds : ∀ n ∈ nodes, n.id ∈ seeds → ∀ d ∈ n.dependsOn, d ∈ seeds)
    {output : String → Option Out}
    (hobject : options.initialResults = seedObject seeds output)
    (hmax : 1 ≤ options.maxParallel) :
    (∀ tr s, run (dagStep nodes options) (runDag nodes options) tr = .ok s →
        SoundRun nodes seeds options tr s)
      ↔ ∀ n ∈ nodes, n.id ∉ seeds → n.id ∉ objectPrototype := by
  have hplan := validateDag_valid htrim hvalid
  have hstart : runDag nodes options = initialState nodes options := by
    rw [runDag, hvalid]
  rw [hstart]
  constructor
  · intro hsound n hn hseed hinherited
    refine inherited_unsound hplan hobject hn hseed hinherited ?_
    exact (hsound [.enter (some ⟨.cancelled, "cancelled", by decide⟩)] _
      rfl).ended rfl
  · intro hclean tr s hrun
    exact tracked_sound (run_induct_log (dagStep_tracked hplan hseeds hmax)
      (initial_tracked hplan hobject hclean) hrun)

namespace Concrete

/-- Two nodes, of which the first is seeded. -/
def retried : List (DagNode Unit) :=
  [⟨"work", [], ()⟩, ⟨"final", ["work"], ()⟩]

def retryOptions : DagOptions Unit :=
  ⟨2, false, seedObject ["work"] fun _ => none⟩

/-- The retry of a plan is sound. -/
theorem retried_sound : validateDag retried = .ok ["work", "final"]
    ∧ ∀ tr s, run (dagStep retried retryOptions)
        (runDag retried retryOptions) tr = .ok s →
      SoundRun retried ["work"] retryOptions tr s := by
  have hvalid : validateDag retried = .ok ["work", "final"] := rfl
  exact ⟨hvalid, (runDag_sound_iff hvalid (by decide) (by decide) rfl
    (by decide)).mpr (by decide)⟩

/-- A plan of one node. -/
def named : List (DagNode Unit) := [⟨"constructor", [], ()⟩]

def freshOptions : DagOptions Unit := ⟨2, false, seedObject [] fun _ => none⟩

/-- The node is not run, nor is it completed, failed or skipped, and the run
is completed. -/
theorem constructor_not_run :
    (∃ s, validateDag named = .ok ["constructor"]
        ∧ run (dagStep named freshOptions) (runDag named freshOptions)
          [.enter none] = .ok s
        ∧ s.phase = .returned ∧ s.status = .completed ∧ s.calls.length = 0
        ∧ s.statusOf "constructor" = none)
      ∧ ¬∀ tr s, run (dagStep named freshOptions)
          (runDag named freshOptions) tr = .ok s →
        SoundRun named [] freshOptions tr s := by
  have hrun : run (dagStep named freshOptions) (runDag named freshOptions)
      [.enter none] = .ok (enterLoop named freshOptions none
        (initialState named freshOptions)) := rfl
  refine ⟨⟨_, rfl, hrun, rfl, rfl, rfl, rfl⟩, fun hsound => ?_⟩
  have hall := ((hsound _ _ hrun).ended rfl).all _ List.mem_cons_self
  exact absurd hall (by decide)

end Concrete

end KamiyoProtocol.Swarm
