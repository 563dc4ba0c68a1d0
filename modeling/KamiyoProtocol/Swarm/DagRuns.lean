/-
What a run of a valid plan keeps.

The invariant follows the counters. A node's counter is the number of its
dependencies that are not yet closed, where a dependency is closed when it is
terminal and has left the terminal queue; while the children of one node are
visited, those still to come count as well. Whatever is pending and has a
counter of zero is ready, unless scheduling has stopped.
-/
import KamiyoProtocol.Swarm.Dag

namespace KamiyoProtocol.Swarm

open Exec
open Ecma (trim)

variable {T Out : Type} {nodes : List (DagNode T)}

-- ==== valid plans

/-- What `validateDag` has checked. -/
structure ValidPlan (nodes : List (DagNode T)) : Prop where
  nodup : (nodes.map (·.id)).Nodup
  closed : ∀ n ∈ nodes, ∀ d ∈ n.dependsOn, d ∈ nodes.map (·.id)
  induct : ∀ P : String → Prop,
    (∀ n ∈ nodes, (∀ d ∈ n.dependsOn, P d) → P n.id) → ∀ n ∈ nodes, P n.id

theorem collect_ok {rest : List (DagNode T)}
    (htrim : ∀ n ∈ rest, trim n.id = n.id)
    {acc entries : List (String × List String)}
    (hacc : (acc.map Prod.fst).Nodup) (h : collect acc rest = .ok entries) :
    entries = acc ++ rest.map (fun n => (n.id, n.dependsOn.eraseDups))
      ∧ (entries.map Prod.fst).Nodup := by
  induction rest generalizing acc with
  | nil =>
    have heq : acc = entries := Except.ok.inj h
    subst heq
    simp [hacc]
  | cons n rest ih =>
    have hid := htrim n List.mem_cons_self
    simp only [collect, hid] at h
    split at h
    · cases h
    split at h
    · cases h
    next hfresh =>
      have hacc' : ((acc ++ [(n.id, n.dependsOn.eraseDups)]).map
          Prod.fst).Nodup := by
        rw [List.map_append, List.nodup_append]
        refine ⟨hacc, by simp, fun a ha b hb heq => hfresh ?_⟩
        have hb : b = n.id := by simpa using hb
        rw [← hb, ← heq]
        exact ha
      obtain ⟨hentries, hnodup⟩ :=
        ih (fun m hm => htrim m (List.mem_cons_of_mem _ hm)) hacc' h
      exact ⟨by simpa using hentries, hnodup⟩

theorem find_of_nodup {β : Type} {key : β → String} {l : List β}
    (hnodup : (l.map key).Nodup) {x : β} (hx : x ∈ l) :
    l.find? (key · = key x) = some x := by
  induction l with
  | nil => cases hx
  | cons y rest ih =>
    obtain ⟨hy, hrest⟩ := List.nodup_cons.mp hnodup
    rcases List.mem_cons.mp hx with heq | hmem
    · subst heq
      simp
    · have hne : key y ≠ key x := fun h =>
        hy (h ▸ List.mem_map_of_mem hmem)
      rw [List.find?_cons_of_neg (by simpa using hne)]
      exact ih hrest hmem

theorem validateDag_valid {order : List String}
    (htrim : ∀ n ∈ nodes, trim n.id = n.id)
    (h : validateDag nodes = .ok order) : ValidPlan nodes := by
  obtain ⟨entries, hcollect, h⟩ := bind_ok.mp h
  obtain ⟨hentries, hnodup⟩ := collect_ok htrim (by simp) hcollect
  rw [List.nil_append] at hentries
  have hids : entries.map Prod.fst = nodes.map (·.id) := by
    rw [hentries, List.map_map]
    rfl
  cases hbad : badDependency entries with
  | some error =>
    rw [hbad] at h
    cases h
  | none =>
    rw [hbad] at h
    dsimp only at h
    split at h
    · cases h
    next hlength =>
    have hmember : ∀ n ∈ nodes, (n.id, n.dependsOn.eraseDups) ∈ entries := by
      intro n hn
      rw [hentries]
      exact List.mem_map_of_mem (f := fun n : DagNode T =>
        (n.id, n.dependsOn.eraseDups)) hn
    refine ⟨hids ▸ hnodup, ?_, ?_⟩
    · intro n hn d hd
      have hnode := List.findSome?_eq_none_iff.mp hbad _ (hmember n hn)
      have hdep := List.findSome?_eq_none_iff.mp hnode d
        (List.mem_eraseDups.mpr hd)
      rw [← hids]
      by_contra hmissing
      split at hdep <;> cases hdep
    · intro P hP n hn
      have hall : (Dag.topoSort (entries.map Prod.fst)
          (entryDeps entries)).length = (entries.map Prod.fst).length := by
        rw [List.length_map]
        exact not_not.mp hlength
      refine Dag.topoSort_induct hnodup hall (P := P) ?_ n.id ?_
      · intro id hid hdeps
        rw [hids] at hid
        obtain ⟨m, hm, hmid⟩ := List.mem_map.mp hid
        rw [← hmid] at hdeps ⊢
        refine hP m hm fun d hd => hdeps d ?_
        have hfind : entries.find? (·.1 = m.id)
            = some (m.id, m.dependsOn.eraseDups) :=
          find_of_nodup hnodup (hmember m hm)
        rw [entryDeps, hfind]
        exact List.mem_eraseDups.mpr hd
      · rw [hids]
        exact List.mem_map_of_mem hn

section Plan

variable (hplan : ValidPlan nodes)

include hplan

theorem byId_mem {n : DagNode T} (hn : n ∈ nodes) :
    byId nodes n.id = some n :=
  find_of_nodup hplan.nodup hn

theorem depsOf_mem {n : DagNode T} (hn : n ∈ nodes) :
    depsOf nodes n.id = n.dependsOn := by
  rw [depsOf, byId_mem hplan hn]
  rfl

theorem plan_induct {P : String → Prop}
    (hP : ∀ id ∈ nodes.map (·.id), (∀ d ∈ depsOf nodes id, P d) → P id) :
    ∀ id ∈ nodes.map (·.id), P id := by
  intro id hid
  obtain ⟨n, hn, rfl⟩ := List.mem_map.mp hid
  refine hplan.induct P (fun m hm hdeps => ?_) n hn
  refine hP m.id (List.mem_map_of_mem hm) fun d hd => hdeps d ?_
  rwa [depsOf_mem hplan hm] at hd

theorem depsOf_closed {id : String} (hid : id ∈ nodes.map (·.id)) {d : String}
    (hd : d ∈ depsOf nodes id) : d ∈ nodes.map (·.id) := by
  obtain ⟨n, hn, rfl⟩ := List.mem_map.mp hid
  rw [depsOf_mem hplan hn] at hd
  exact hplan.closed n hn d hd

theorem byId_some {id : String} (hid : id ∈ nodes.map (·.id)) :
    ∃ n ∈ nodes, byId nodes id = some n ∧ n.dependsOn = depsOf nodes id := by
  obtain ⟨n, hn, rfl⟩ := List.mem_map.mp hid
  exact ⟨n, hn, byId_mem hplan hn, (depsOf_mem hplan hn).symm⟩

end Plan

-- ==== invariant

/-- The statuses a node ends with. -/
def Terminal (status : Option DagNodeStatus) : Prop :=
  status = some .completed ∨ status = some .failed ∨ status = some .skipped
  deriving Decidable

/-- The statuses of a node that was called. -/
def Started (status : Option DagNodeStatus) : Prop :=
  status = some .running ∨ status = some .completed ∨ status = some .failed

/-- A dependency that was counted down. -/
def Closed (s : DagState Out) (queue : List String) (d : String) : Prop :=
  Terminal (s.statusOf d) ∧ d ∉ queue
  deriving Decidable

/-- A node that a run is to take care of. -/
def Unseeded (nodes : List (DagNode T)) (seeds : List String)
    (id : String) : Prop :=
  id ∈ nodes.map (·.id) ∧ id ∉ seeds

/-- The plan as far as a run has come, with `queue` still to be followed and
the children `left` to be visited. -/
structure Followed (nodes : List (DagNode T)) (seeds : List String)
    (s : DagState Out) (queue left : List String) : Prop where
  known : ∀ id ∈ nodes.map (·.id), ∃ status, s.statusOf id = some status
  seeded : ∀ id ∈ nodes.map (·.id), id ∈ seeds → s.statusOf id = some .completed
  counted : ∀ id, Unseeded nodes seeds id → s.remainingDeps id
    = (Dag.waiting (Closed s queue) (depsOf nodes id) : Int) + left.count id
  queued : ∀ id ∈ queue, Unseeded nodes seeds id ∧ Terminal (s.statusOf id)
  queueNodup : queue.Nodup
  children : ∀ id ∈ left, Unseeded nodes seeds id
  through : ∀ id, Unseeded nodes seeds id → s.statusOf id ≠ some .pending →
    (∀ d ∈ depsOf nodes id, Closed s queue d) ∧ id ∉ left
  started : ∀ id, Unseeded nodes seeds id → Started (s.statusOf id) →
    ∀ d ∈ depsOf nodes id, s.statusOf d = some .completed
  skipped : ∀ id, Unseeded nodes seeds id → s.statusOf id = some .skipped →
    ∃ d ∈ depsOf nodes id, s.statusOf d ≠ some .completed
  readyNodup : s.ready.Nodup
  readied : ∀ id ∈ s.ready, Unseeded nodes seeds id
    ∧ s.statusOf id = some .pending ∧ s.remainingDeps id = 0
    ∧ ∀ d ∈ depsOf nodes id, s.statusOf d = some .completed

/-- While nodes are scheduled, none that could run is left out. -/
def NoneMissed (nodes : List (DagNode T)) (seeds : List String)
    (s : DagState Out) : Prop :=
  s.abortScheduling = false → ∀ id, Unseeded nodes seeds id →
    s.statusOf id = some .pending → s.remainingDeps id = 0 → id ∈ s.ready

variable {seeds : List String} {s : DagState Out} {queue left : List String}

variable {c : String}

theorem statusOf_set {s s' : DagState Out} {r : DagRunNodeResult Out}
    (h : s'.results = Function.update s.results c (some r)) (id : String) :
    s'.statusOf id = if id = c then r.status else s.statusOf id := by
  unfold DagState.statusOf
  rw [h]
  by_cases heq : id = c
  · subst heq
    simp
  · simp [heq]

theorem pending_not_terminal : ¬Terminal (some .pending) := by
  simp [Terminal]

theorem completed_terminal : Terminal (some .completed) := Or.inl rfl

theorem left_pending (h : Followed nodes seeds s queue (c :: left)) :
    s.statusOf c = some .pending ∧ c ∉ s.ready := by
  have hc := h.children c List.mem_cons_self
  constructor
  · by_contra hne
    exact (h.through c hc hne).2 List.mem_cons_self
  · intro hready
    have hzero := (h.readied c hready).2.2.1
    have hcount := h.counted c hc
    rw [List.count_cons_self] at hcount
    omega

/-- A child is counted down. -/
def countDown (s : DagState Out) (c : String) : DagState Out :=
  { s with
    remainingDeps := Function.update s.remainingDeps c
      (s.remainingDeps c - 1) }

@[simp] theorem countDown_self (s : DagState Out) (c : String) :
    (countDown s c).remainingDeps c = s.remainingDeps c - 1 :=
  Function.update_self ..

theorem countDown_ne {c id : String} (h : id ≠ c) (s : DagState Out) :
    (countDown s c).remainingDeps id = s.remainingDeps id :=
  Function.update_of_ne h ..

theorem followed_count (h : Followed nodes seeds s queue (c :: left)) :
    Followed nodes seeds (countDown s c) queue left := by
  obtain ⟨-, hready⟩ := left_pending h
  refine ⟨h.known, h.seeded, ?_, h.queued, h.queueNodup,
    fun id hid => h.children id (List.mem_cons_of_mem _ hid), ?_, h.started,
    h.skipped, h.readyNodup, ?_⟩
  · intro id hid
    have hcount := h.counted id hid
    have hsame : Dag.waiting (Closed (countDown s c) queue) (depsOf nodes id)
        = Dag.waiting (Closed s queue) (depsOf nodes id) := rfl
    rw [hsame]
    by_cases heq : id = c
    · subst heq
      rw [List.count_cons_self] at hcount
      rw [countDown_self, hcount]
      omega
    · rw [List.count_cons_of_ne (Ne.symm heq)] at hcount
      rw [countDown_ne heq]
      exact hcount
  · intro id hid hstatus
    obtain ⟨hdeps, hleft⟩ := h.through id hid hstatus
    exact ⟨hdeps, fun hmem => hleft (List.mem_cons_of_mem _ hmem)⟩
  · intro id hid
    obtain ⟨hu, hstatus, hzero, hdeps⟩ := h.readied id hid
    have hne : id ≠ c := fun heq => hready (heq ▸ hid)
    refine ⟨hu, hstatus, ?_, hdeps⟩
    rw [countDown_ne hne]
    exact hzero

theorem followed_push (h : Followed nodes seeds s queue left)
    (hc : Unseeded nodes seeds c) (hstatus : s.statusOf c = some .pending)
    (hzero : s.remainingDeps c = 0) (hready : c ∉ s.ready)
    (hdeps : ∀ d ∈ depsOf nodes c, s.statusOf d = some .completed) :
    Followed nodes seeds { s with ready := s.ready ++ [c] } queue left := by
  refine ⟨h.known, h.seeded, h.counted, h.queued, h.queueNodup, h.children,
    h.through, h.started, h.skipped, ?_, ?_⟩
  · dsimp only
    rw [List.nodup_append]
    refine ⟨h.readyNodup, List.nodup_singleton c, fun a ha b hb heq => ?_⟩
    rw [List.mem_singleton] at hb
    exact hready (hb ▸ heq ▸ ha)
  · intro id hid
    rcases List.mem_append.mp hid with hold | hnew
    · exact h.readied id hold
    · rw [List.mem_singleton] at hnew
      subst hnew
      exact ⟨hc, hstatus, hzero, hdeps⟩

/-- The status of one node moves on: to running, or to the end of the queue.
-/
theorem followed_set {s' : DagState Out}
    {r : DagRunNodeResult Out} {queue' : List String}
    (h : Followed nodes seeds s queue left) (hc : Unseeded nodes seeds c)
    (hopen : ¬Terminal (s.statusOf c))
    (hresults : s'.results = Function.update s.results c (some r))
    (hcounters : s'.remainingDeps = s.remainingDeps)
    (hready : s'.ready.Sublist s.ready) (hgone : c ∉ s'.ready)
    (hqueue : queue' = queue ++ [c] ∧ Terminal r.status
      ∨ queue' = queue ∧ r.status = some .running)
    (hthrough : (∀ d ∈ depsOf nodes c, Closed s queue d) ∧ c ∉ left)
    (hstarted : Started r.status →
      ∀ d ∈ depsOf nodes c, s.statusOf d = some .completed)
    (hskipped : r.status = some .skipped →
      ∃ d ∈ depsOf nodes c, s.statusOf d ≠ some .completed) :
    Followed nodes seeds s' queue' left := by
  have hset := statusOf_set hresults
  have hfresh : c ∉ queue := fun hmem => hopen (h.queued c hmem).2
  have hclosed : ∀ d, Closed s' queue' d ↔ Closed s queue d := by
    intro d
    unfold Closed
    rw [hset d]
    by_cases hd : d = c
    · subst hd
      rw [if_pos rfl]
      rcases hqueue with ⟨rfl, -⟩ | ⟨rfl, hrunning⟩
      · simp [hopen]
      · have hrunning : ¬Terminal r.status := by simp [hrunning, Terminal]
        simp [hopen, hrunning]
    · rw [if_neg hd]
      rcases hqueue with ⟨rfl, -⟩ | ⟨rfl, -⟩
      · simp [hd]
      · rfl
  have hcompleted : ∀ d, s.statusOf d = some .completed →
      s'.statusOf d = some .completed := by
    intro d hd
    have hne : d ≠ c := by
      rintro rfl
      exact hopen (hd ▸ completed_terminal)
    rw [hset d, if_neg hne]
    exact hd
  have hother : ∀ id, (∀ d ∈ depsOf nodes id, Closed s queue d) →
      (∃ d ∈ depsOf nodes id, s.statusOf d ≠ some .completed) →
      ∃ d ∈ depsOf nodes id, s'.statusOf d ≠ some .completed := by
    rintro id hall ⟨d, hd, hne⟩
    have hdc : d ≠ c := by
      rintro rfl
      exact hopen (hall d hd).1
    refine ⟨d, hd, ?_⟩
    rw [hset d, if_neg hdc]
    exact hne
  refine ⟨?_, ?_, ?_, ?_, ?_, h.children, ?_, ?_, ?_,
    h.readyNodup.sublist hready, ?_⟩
  · intro id hid
    rw [hset id]
    split
    · rcases hqueue with ⟨-, hterminal⟩ | ⟨-, hrunning⟩
      · rcases hterminal with hr | hr | hr <;> exact ⟨_, hr⟩
      · exact ⟨_, hrunning⟩
    · exact h.known id hid
  · intro id hid hseed
    exact hcompleted id (h.seeded id hid hseed)
  · intro id hid
    rw [Dag.waiting_congr fun d _ => hclosed d, hcounters]
    exact h.counted id hid
  · intro id hid
    have hold : id ∈ queue → id ≠ c := fun hmem heq => hfresh (heq ▸ hmem)
    rw [hset id]
    rcases hqueue with ⟨rfl, hterminal⟩ | ⟨rfl, -⟩
    · rcases List.mem_append.mp hid with hmem | hnew
      · rw [if_neg (hold hmem)]
        exact h.queued id hmem
      · rw [List.mem_singleton] at hnew
        rw [if_pos hnew, hnew]
        exact ⟨hc, hterminal⟩
    · rw [if_neg (hold hid)]
      exact h.queued id hid
  · rcases hqueue with ⟨rfl, -⟩ | ⟨rfl, -⟩
    · rw [List.nodup_append]
      refine ⟨h.queueNodup, List.nodup_singleton c, fun a ha b hb heq => ?_⟩
      rw [List.mem_singleton] at hb
      exact hfresh (hb ▸ heq ▸ ha)
    · exact h.queueNodup
  · intro id hid hne
    rw [hset id] at hne
    by_cases heq : id = c
    · subst heq
      exact ⟨fun d hd => (hclosed d).mpr (hthrough.1 d hd), hthrough.2⟩
    · rw [if_neg heq] at hne
      obtain ⟨hall, hnot⟩ := h.through id hid hne
      exact ⟨fun d hd => (hclosed d).mpr (hall d hd), hnot⟩
  · intro id hid hrun d hd
    rw [hset id] at hrun
    by_cases heq : id = c
    · subst heq
      rw [if_pos rfl] at hrun
      exact hcompleted d (hstarted hrun d hd)
    · rw [if_neg heq] at hrun
      exact hcompleted d (h.started id hid hrun d hd)
  · intro id hid hskip
    rw [hset id] at hskip
    by_cases heq : id = c
    · subst heq
      rw [if_pos rfl] at hskip
      exact hother id hthrough.1 (hskipped hskip)
    · rw [if_neg heq] at hskip
      have hne : s.statusOf id ≠ some .pending := by
        rw [hskip]
        simp
      exact hother id (h.through id hid hne).1 (h.skipped id hid hskip)
  · intro id hid
    obtain ⟨hu, hpending, hcounter, hall⟩ := h.readied id (hready.subset hid)
    have hne : id ≠ c := fun heq => hgone (heq ▸ hid)
    refine ⟨hu, ?_, hcounters ▸ hcounter, fun d hd => hcompleted d (hall d hd)⟩
    rw [hset id, if_neg hne]
    exact hpending

theorem counted_zero (h : Followed nodes seeds s queue left)
    (hc : Unseeded nodes seeds c) (hzero : s.remainingDeps c = 0) :
    (∀ d ∈ depsOf nodes c, Closed s queue d) ∧ c ∉ left := by
  have hcount := h.counted c hc
  rw [hzero] at hcount
  have hwaiting : Dag.waiting (Closed s queue) (depsOf nodes c) = 0 := by
    omega
  exact ⟨Dag.waiting_zero.mp hwaiting, List.count_eq_zero.mp (by omega)⟩

-- ==== the children

/-- What the visits leave alone: they only skip what is pending. -/
structure Visited (s s' : DagState Out) : Prop where
  inFlight : s'.inFlight = s.inFlight
  abortScheduling : s'.abortScheduling = s.abortScheduling
  anyFailed : s'.anyFailed = s.anyFailed
  abortStatus : s'.abortStatus = s.abortStatus
  calls : s'.calls = s.calls
  status : ∀ id, s'.statusOf id = s.statusOf id
    ∨ s.statusOf id = some .pending ∧ s'.statusOf id = some .skipped

theorem Visited.refl (s : DagState Out) : Visited s s :=
  ⟨rfl, rfl, rfl, rfl, rfl, fun _ => Or.inl rfl⟩

theorem Visited.trans {s s' s'' : DagState Out} (h : Visited s s')
    (h' : Visited s' s'') : Visited s s'' := by
  refine ⟨h'.inFlight.trans h.inFlight,
    h'.abortScheduling.trans h.abortScheduling,
    h'.anyFailed.trans h.anyFailed, h'.abortStatus.trans h.abortStatus,
    h'.calls.trans h.calls, fun id => ?_⟩
  rcases h.status id with hsame | ⟨hpending, hskipped⟩
  · rcases h'.status id with hsame' | ⟨hpending', hskipped'⟩
    · exact Or.inl (hsame'.trans hsame)
    · exact Or.inr ⟨hsame ▸ hpending', hskipped'⟩
  · rcases h'.status id with hsame' | ⟨hpending', -⟩
    · exact Or.inr ⟨hpending, hsame'.trans hskipped⟩
    · rw [hskipped] at hpending'
      cases hpending'

/-- How many nodes are pending. -/
def pendingCount (nodes : List (DagNode T)) (s : DagState Out) : Nat :=
  (nodes.map (·.id)).countP fun id => s.statusOf id = some .pending

theorem countP_drop {l : List String} (hnodup : l.Nodup)
    (hc : c ∈ l) {p q : String → Bool} (hp : p c = true) (hq : q c = false)
    (hsame : ∀ id, id ≠ c → q id = p id) :
    l.countP p = l.countP q + 1 := by
  induction l with
  | nil => cases hc
  | cons a rest ih =>
    obtain ⟨ha, hrest⟩ := List.nodup_cons.mp hnodup
    rw [List.countP_cons, List.countP_cons]
    rcases List.mem_cons.mp hc with heq | hmem
    · subst heq
      have hrest : rest.countP p = rest.countP q := by
        refine List.countP_congr fun id hid => ?_
        rw [hsame id fun heq => ha (heq ▸ hid)]
      rw [hp, hq, hrest]
      simp
    · have hne : a ≠ c := fun heq => ha (heq ▸ hmem)
      rw [ih hrest hmem, hsame a hne]
      omega

/-- What the visit of a child comes to. -/
theorem visitChild_eq {child : DagNode T}
    (hchild : byId nodes c = some child) (s : DagState Out) :
    visitChild nodes c s =
      if (countDown s c).remainingDeps c ≠ 0 ∨ s.abortScheduling = true then
        (countDown s c, [])
      else if ∀ d ∈ child.dependsOn, s.statusOf d = some .completed then
        ({ countDown s c with ready := s.ready ++ [c] }, [])
      else if s.statusOf c = some .pending then
        ({ countDown s c with
          results := Function.update (countDown s c).results c
            (some ⟨some .skipped, none,
              some "skipped: dependency failed"⟩) }, [c])
      else (countDown s c, []) := by
  unfold visitChild
  rw [hchild, countDown_self]
  dsimp only
  by_cases hzero : s.remainingDeps c - 1 ≠ 0
  · rw [if_pos hzero, if_pos (Or.inl hzero)]
    rfl
  rw [if_neg hzero]
  by_cases habort : s.abortScheduling = true
  · rw [if_pos habort, if_pos (Or.inr habort)]
    rfl
  rw [if_neg habort, if_neg (not_or.mpr ⟨hzero, habort⟩)]
  by_cases hall : ∀ d ∈ child.dependsOn, s.statusOf d = some .completed
  · rw [if_pos hall, if_pos]
    · rfl
    · exact List.all_eq_true.mpr fun d hd => decide_eq_true (hall d hd)
  · rw [if_neg hall, if_neg]
    · rfl
    · exact fun h => hall fun d hd =>
        of_decide_eq_true (List.all_eq_true.mp h d hd)

theorem visitChild_followed (hplan : ValidPlan nodes)
    (h : Followed nodes seeds s queue (c :: left))
    (hmissed : NoneMissed nodes seeds s) :
    Followed nodes seeds (visitChild nodes c s).1
        (queue ++ (visitChild nodes c s).2) left
      ∧ NoneMissed nodes seeds (visitChild nodes c s).1
      ∧ Visited s (visitChild nodes c s).1
      ∧ pendingCount nodes s = pendingCount nodes (visitChild nodes c s).1
        + (visitChild nodes c s).2.length := by
  obtain ⟨hpending, hready⟩ := left_pending h
  have hc := h.children c List.mem_cons_self
  have hcount := followed_count h
  have hothers : s.abortScheduling = false → ∀ id, id ≠ c →
      Unseeded nodes seeds id → s.statusOf id = some .pending →
      (countDown s c).remainingDeps id = 0 → id ∈ s.ready := by
    intro habort id hne hid hstatus hzero
    rw [countDown_ne hne] at hzero
    exact hmissed habort id hid hstatus hzero
  obtain ⟨child, -, hchild, hdepsOf⟩ := byId_some hplan hc.1
  rw [visitChild_eq hchild]
  by_cases hstop : (countDown s c).remainingDeps c ≠ 0
      ∨ s.abortScheduling = true
  · -- others are still waited for, or scheduling has stopped
    rw [if_pos hstop, List.append_nil]
    refine ⟨hcount, ?_, ⟨rfl, rfl, rfl, rfl, rfl, fun _ => Or.inl rfl⟩, rfl⟩
    intro hrun id hid hstatus hzero
    by_cases heq : id = c
    · subst heq
      rcases hstop with hmore | habort
      · exact absurd hzero hmore
      · rw [show s.abortScheduling = false from hrun] at habort
        cases habort
    · exact hothers hrun id heq hid hstatus hzero
  · rw [if_neg hstop]
    have hzero : (countDown s c).remainingDeps c = 0 := by
      by_contra hne
      exact hstop (Or.inl hne)
    by_cases hall : ∀ d ∈ child.dependsOn, s.statusOf d = some .completed
    · rw [if_pos hall, List.append_nil]
      rw [hdepsOf] at hall
      refine ⟨followed_push hcount hc hpending hzero hready hall, ?_,
        ⟨rfl, rfl, rfl, rfl, rfl, fun _ => Or.inl rfl⟩, rfl⟩
      intro hrun id hid hstatus hremaining
      by_cases heq : id = c
      · subst heq
        exact List.mem_append_right _ (List.mem_singleton.mpr rfl)
      · exact List.mem_append_left _
          (hothers hrun id heq hid hstatus hremaining)
    · rw [if_neg hall, if_pos hpending]
      dsimp only
      have hdeps : ∃ d ∈ depsOf nodes c,
          (countDown s c).statusOf d ≠ some .completed := by
        rw [← hdepsOf]
        by_contra hnone
        refine hall fun d hd => ?_
        by_contra hne
        exact hnone ⟨d, hd, hne⟩
      refine ⟨followed_set hcount hc (hpending ▸ pending_not_terminal) rfl rfl
        (List.Sublist.refl _) hready (Or.inl ⟨rfl, Or.inr (Or.inr rfl)⟩)
        (counted_zero hcount hc hzero) (by simp [Started]) fun _ => hdeps,
        ?_, ?_, ?_⟩
      · intro hrun id hid hstatus hremaining
        rw [statusOf_set rfl] at hstatus
        by_cases heq : id = c
        · rw [if_pos heq] at hstatus
          cases hstatus
        · rw [if_neg heq] at hstatus
          exact hothers hrun id heq hid hstatus hremaining
      · refine ⟨rfl, rfl, rfl, rfl, rfl, fun id => ?_⟩
        rw [statusOf_set (s := s) rfl]
        by_cases heq : id = c
        · subst heq
          rw [if_pos rfl]
          exact Or.inr ⟨hpending, rfl⟩
        · rw [if_neg heq]
          exact Or.inl rfl
      · refine countP_drop hplan.nodup hc.1 (by simpa using hpending) ?_
          fun id hne => ?_
        · rw [statusOf_set (s := s) rfl, if_pos rfl]
          rfl
        · rw [statusOf_set (s := s) rfl, if_neg hne]

theorem visitChildren_followed (hplan : ValidPlan nodes)
    {children : List String}
    (h : Followed nodes seeds s queue children)
    (hmissed : NoneMissed nodes seeds s) :
    Followed nodes seeds (visitChildren nodes children s).1
        (queue ++ (visitChildren nodes children s).2) []
      ∧ NoneMissed nodes seeds (visitChildren nodes children s).1
      ∧ Visited s (visitChildren nodes children s).1
      ∧ pendingCount nodes s
        = pendingCount nodes (visitChildren nodes children s).1
          + (visitChildren nodes children s).2.length := by
  induction children generalizing s queue with
  | nil =>
    refine ⟨?_, hmissed, Visited.refl s, rfl⟩
    rw [visitChildren, List.append_nil]
    exact h
  | cons c rest ih =>
    obtain ⟨hfollowed, hnone, hvisited, hcount⟩ :=
      visitChild_followed hplan h hmissed
    obtain ⟨hfollowed', hnone', hvisited', hcount'⟩ := ih hfollowed hnone
    rw [visitChildren]
    dsimp only
    refine ⟨?_, hnone', hvisited.trans hvisited', ?_⟩
    · rw [← List.append_assoc]
      exact hfollowed'
    · rw [List.length_append]
      omega

/-- The next terminal node is taken from the queue, and its children are to
be visited. -/
theorem followed_take (hplan : ValidPlan nodes)
    (hseeds : ∀ n ∈ nodes, n.id ∈ seeds → ∀ d ∈ n.dependsOn, d ∈ seeds)
    {t : String} (h : Followed nodes seeds s (t :: queue) []) :
    Followed nodes seeds s queue (dependents nodes t) := by
  obtain ⟨⟨htnode, htseed⟩, hterminal⟩ := h.queued t List.mem_cons_self
  obtain ⟨hfresh, hnodup⟩ := List.nodup_cons.mp h.queueNodup
  have hopen : ¬Closed s (t :: queue) t := fun hclosed =>
    hclosed.2 List.mem_cons_self
  have hclose : ∀ d, Closed s queue d ↔ Closed s (t :: queue) d ∨ d = t := by
    intro d
    unfold Closed
    by_cases hd : d = t
    · subst hd
      simp [hterminal, hfresh]
    · simp [hd]
  refine ⟨h.known, h.seeded, ?_,
    fun id hid => h.queued id (List.mem_cons_of_mem _ hid), hnodup, ?_, ?_,
    h.started, h.skipped, h.readyNodup, h.readied⟩
  · intro id hid
    have hcount := h.counted id hid
    rw [List.count_nil] at hcount
    have hwaiting := Dag.waiting_close hopen hclose (depsOf nodes id)
    rw [dependents, Dag.count_dependents hplan.nodup hid.1, hcount, hwaiting]
    omega
  · intro id hid
    obtain ⟨hnode, hdep⟩ := Dag.mem_dependents.mp hid
    refine ⟨hnode, fun hseed => htseed ?_⟩
    obtain ⟨n, hn, rfl⟩ := List.mem_map.mp hnode
    rw [depsOf_mem hplan hn] at hdep
    exact hseeds n hn hseed t hdep
  · intro id hid hne
    obtain ⟨hdeps, -⟩ := h.through id hid hne
    refine ⟨fun d hd => (hclose d).mpr (Or.inl (hdeps d hd)), fun hmem => ?_⟩
    exact hopen (hdeps t (Dag.mem_dependents.mp hmem).2)

theorem drain_followed (hplan : ValidPlan nodes)
    (hseeds : ∀ n ∈ nodes, n.id ∈ seeds → ∀ d ∈ n.dependsOn, d ∈ seeds)
    {fuel : Nat} (hfuel : queue.length + pendingCount nodes s ≤ fuel)
    (h : Followed nodes seeds s queue []) (hmissed : NoneMissed nodes seeds s) :
    Followed nodes seeds (drain nodes fuel queue s) [] []
      ∧ NoneMissed nodes seeds (drain nodes fuel queue s)
      ∧ Visited s (drain nodes fuel queue s) := by
  induction fuel generalizing queue s with
  | zero =>
    have hempty : queue = [] := List.length_eq_zero_iff.mp (by omega)
    subst hempty
    exact ⟨h, hmissed, Visited.refl s⟩
  | succ fuel ih =>
    cases queue with
    | nil => exact ⟨h, hmissed, Visited.refl s⟩
    | cons t queue =>
      obtain ⟨hfollowed, hnone, hvisited, hcount⟩ :=
        visitChildren_followed hplan (followed_take hplan hseeds h)
          hmissed
      have hless : (queue ++ (visitChildren nodes (dependents nodes t)
          s).2).length + pendingCount nodes (visitChildren nodes
            (dependents nodes t) s).1 ≤ fuel := by
        rw [List.length_append]
        rw [List.length_cons] at hfuel
        omega
      obtain ⟨hdone, hdoneMissed, hdoneVisited⟩ :=
        ih hless hfollowed hnone
      exact ⟨hdone, hdoneMissed, hvisited.trans hdoneVisited⟩

end KamiyoProtocol.Swarm
