/-
Dependency graphs that are worked off by counters.

A node waits for its dependencies, each counted as often as it is listed.
When a node is done, the counter of everything that depends on it goes down
once for each time; what reaches zero is ready. `count_dependents` and
`waiting_close` say that the counter is then the number of dependencies that
are still open.

`topoSort` is the sort that works in this way. If it takes in all nodes, then
what holds of a node when it holds of its dependencies holds of every node
(`topoSort_induct`).
-/
import Mathlib.Data.List.Basic
import Mathlib.Data.List.Count
import Mathlib.Data.List.Nodup
import Mathlib.Data.List.Perm.Subperm
import Mathlib.Logic.Function.Basic

namespace Dag

variable {α : Type} [DecidableEq α]

-- ==== counters

/-- The nodes that depend on `t`, once for each time that they list it. -/
def dependents (nodes : List α) (deps : α → List α) (t : α) : List α :=
  nodes.flatMap fun n => List.replicate ((deps n).count t) n

/-- How many of the dependencies are not closed. -/
def waiting (closed : α → Prop) [DecidablePred closed] (ds : List α) : Nat :=
  ds.countP fun d => ¬closed d

theorem mem_dependents {nodes : List α} {deps : α → List α} {t n : α} :
    n ∈ dependents nodes deps t ↔ n ∈ nodes ∧ t ∈ deps n := by
  simp only [dependents, List.mem_flatMap, List.mem_replicate, ne_eq,
    List.count_eq_zero, not_not]
  constructor
  · rintro ⟨m, hm, ht, rfl⟩
    exact ⟨hm, ht⟩
  · rintro ⟨hn, ht⟩
    exact ⟨n, hn, ht, rfl⟩

theorem count_dependents {nodes : List α} {deps : α → List α} {n : α}
    (hnodup : nodes.Nodup) (hn : n ∈ nodes) (t : α) :
    (dependents nodes deps t).count n = (deps n).count t := by
  induction nodes with
  | nil => cases hn
  | cons m rest ih =>
    obtain ⟨hm, hrest⟩ := List.nodup_cons.mp hnodup
    have hsplit : dependents (m :: rest) deps t
        = List.replicate ((deps m).count t) m ++ dependents rest deps t :=
      rfl
    rw [hsplit, List.count_append]
    rcases List.mem_cons.mp hn with heq | hmem
    · subst heq
      have hnone : (dependents rest deps t).count n = 0 :=
        List.count_eq_zero.mpr fun h => hm (mem_dependents.mp h).1
      rw [hnone, List.count_replicate_self, Nat.add_zero]
    · have hne : m ≠ n := fun h => hm (h ▸ hmem)
      rw [ih hrest hmem, List.count_replicate, if_neg (by simpa using hne),
        Nat.zero_add]

omit [DecidableEq α] in
theorem waiting_zero {closed : α → Prop} [DecidablePred closed]
    {ds : List α} : waiting closed ds = 0 ↔ ∀ d ∈ ds, closed d := by
  simp [waiting, List.countP_eq_zero]

/-- Closing one more node takes off as many as list it. -/
theorem waiting_close {closed closed' : α → Prop} [DecidablePred closed]
    [DecidablePred closed'] {t : α} (ht : ¬closed t)
    (hclose : ∀ d, closed' d ↔ closed d ∨ d = t) (ds : List α) :
    waiting closed ds = waiting closed' ds + ds.count t := by
  induction ds with
  | nil => rfl
  | cons d rest ih =>
    unfold waiting at ih ⊢
    rw [List.countP_cons, List.countP_cons, List.count_cons, ih]
    by_cases hd : d = t
    · subst hd
      simp [ht, (hclose d).mpr (Or.inr rfl)]
      omega
    · have hiff : closed' d ↔ closed d := by
        rw [hclose d]
        simp [hd]
      simp only [decide_not, Bool.not_eq_eq_eq_not, Bool.not_true,
        decide_eq_false_iff_not, hiff, beq_iff_eq, hd, if_false]
      omega

omit [DecidableEq α] in
theorem waiting_congr {closed closed' : α → Prop} [DecidablePred closed]
    [DecidablePred closed'] {ds : List α}
    (h : ∀ d ∈ ds, closed d ↔ closed' d) :
    waiting closed ds = waiting closed' ds := by
  refine List.countP_congr fun d hd => ?_
  simp [h d hd]

-- ==== sort

/-- Counts down for each of the children, and returns what reached zero. -/
def relax : List α → (α → Int) → (α → Int) × List α
  | [], indegree => (indegree, [])
  | child :: rest, indegree =>
    let next := indegree child - 1
    let r := relax rest (Function.update indegree child next)
    (r.1, if next = 0 then child :: r.2 else r.2)

structure Sorting (α : Type) where
  indegree : α → Int
  queue : List α
  order : List α

/-- Takes from the queue until it is empty. -/
def work (nodes : List α) (deps : α → List α) : Nat → Sorting α → Sorting α
  | 0, s => s
  | fuel + 1, s =>
    match s.queue with
    | [] => s
    | id :: queue =>
      let r := relax (dependents nodes deps id) s.indegree
      work nodes deps fuel ⟨r.1, queue ++ r.2, s.order ++ [id]⟩

/-- Nothing is taken, and what waits for nothing is queued. -/
def Sorting.start (nodes : List α) (deps : α → List α) : Sorting α where
  indegree n := (deps n).length
  queue := nodes.filter fun n => (deps n).length = 0
  order := []

/-- Kahn's sort. -/
def topoSort (nodes : List α) (deps : α → List α) : List α :=
  (work nodes deps nodes.length (Sorting.start nodes deps)).order

theorem relax_indegree (children : List α) (indegree : α → Int) (n : α) :
    (relax children indegree).1 n = indegree n - children.count n := by
  induction children generalizing indegree with
  | nil => simp [relax]
  | cons child rest ih =>
    have hstep : (relax (child :: rest) indegree).1
        = (relax rest (Function.update indegree child
          (indegree child - 1))).1 := rfl
    rw [hstep, ih]
    by_cases hn : n = child
    · subst hn
      rw [Function.update_self, List.count_cons_self]
      omega
    · rw [Function.update_of_ne hn, List.count_cons_of_ne (Ne.symm hn)]

/-- What reaches zero is what was left exactly as often as it is counted
down. -/
theorem relax_pushed {children : List α} {indegree : α → Int}
    (henough : ∀ n ∈ children, (children.count n : Int) ≤ indegree n) :
    (relax children indegree).2.Nodup
      ∧ ∀ n, n ∈ (relax children indegree).2
        ↔ n ∈ children ∧ indegree n = children.count n := by
  induction children generalizing indegree with
  | nil => simp [relax]
  | cons child rest ih =>
    have hrest : ∀ n ∈ rest, (rest.count n : Int)
        ≤ Function.update indegree child (indegree child - 1) n := by
      intro n hmem
      have hn := henough n (List.mem_cons_of_mem _ hmem)
      by_cases heq : n = child
      · subst heq
        rw [List.count_cons_self] at hn
        rw [Function.update_self]
        omega
      · rw [List.count_cons_of_ne (Ne.symm heq)] at hn
        rw [Function.update_of_ne heq]
        exact hn
    obtain ⟨hnodup, hmem⟩ := ih hrest
    have hpushed : (relax (child :: rest) indegree).2
        = if indegree child - 1 = 0 then
            child :: (relax rest (Function.update indegree child
              (indegree child - 1))).2
          else (relax rest (Function.update indegree child
            (indegree child - 1))).2 := rfl
    have hchild := henough child List.mem_cons_self
    rw [List.count_cons_self] at hchild
    have hself : child ∈ (relax rest (Function.update indegree child
        (indegree child - 1))).2 ↔ child ∈ rest
          ∧ indegree child = rest.count child + 1 := by
      rw [hmem, Function.update_self]
      constructor <;> rintro ⟨hin, hcount⟩ <;> exact ⟨hin, by omega⟩
    have hother : ∀ n, n ≠ child → (n ∈ (relax rest (Function.update
        indegree child (indegree child - 1))).2
          ↔ n ∈ rest ∧ indegree n = rest.count n) := by
      intro n hn
      rw [hmem, Function.update_of_ne hn]
    rw [hpushed]
    by_cases hzero : indegree child - 1 = 0
    · have hlast : child ∉ rest := by
        rw [← List.count_eq_zero]
        omega
      rw [if_pos hzero]
      refine ⟨List.nodup_cons.mpr ⟨fun h => hlast (hself.mp h).1, hnodup⟩,
        fun n => ?_⟩
      by_cases hn : n = child
      · subst hn
        simp only [List.mem_cons, true_or, List.count_cons_self, true_iff,
          true_and]
        rw [List.count_eq_zero.mpr hlast]
        omega
      · rw [List.mem_cons, List.mem_cons, hother n hn,
          List.count_cons_of_ne (Ne.symm hn)]
        simp [hn]
    · rw [if_neg hzero]
      refine ⟨hnodup, fun n => ?_⟩
      by_cases hn : n = child
      · subst hn
        rw [hself, List.count_cons_self]
        constructor
        · rintro ⟨-, hcount⟩
          exact ⟨List.mem_cons_self, by omega⟩
        · rintro ⟨-, hcount⟩
          refine ⟨?_, by omega⟩
          rw [← List.count_pos_iff]
          omega
      · rw [hother n hn, List.mem_cons, List.count_cons_of_ne (Ne.symm hn)]
        simp [hn]

section Soundness

variable {nodes : List α} {deps : α → List α}

/-- What holds while the queue is worked off: the counters are those of the
nodes already taken, and a node is taken or queued when its counter is zero.
-/
structure Sorting.Sound (nodes : List α) (deps : α → List α)
    (s : Sorting α) : Prop where
  nodup : (s.order ++ s.queue).Nodup
  sub : ∀ n ∈ s.order ++ s.queue, n ∈ nodes
  counted : ∀ n ∈ nodes, s.indegree n = waiting (· ∈ s.order) (deps n)
  ready : ∀ n ∈ nodes, n ∈ s.order ++ s.queue ↔ s.indegree n = 0
  induct : ∀ P : α → Prop, (∀ n ∈ nodes, (∀ d ∈ deps n, P d) → P n) →
    ∀ n ∈ s.order, P n

theorem sound_step (hnodup : nodes.Nodup) {s : Sorting α}
    (h : s.Sound nodes deps) {id : α} {queue : List α}
    (hqueue : s.queue = id :: queue) :
    Sorting.Sound nodes deps
      ⟨(relax (dependents nodes deps id) s.indegree).1,
        queue ++ (relax (dependents nodes deps id) s.indegree).2,
        s.order ++ [id]⟩ := by
  have hid : id ∈ s.order ++ s.queue := by simp [hqueue]
  have hidNode := h.sub id hid
  have hfresh : id ∉ s.order := by
    have hnd := h.nodup
    rw [hqueue, List.nodup_append] at hnd
    exact fun hmem => hnd.2.2 id hmem id List.mem_cons_self rfl
  have hcount : ∀ n ∈ nodes,
      (relax (dependents nodes deps id) s.indegree).1 n
        = s.indegree n - (deps n).count id := by
    intro n hn
    rw [relax_indegree, count_dependents hnodup hn]
  have hwaiting : ∀ n ∈ nodes, s.indegree n
      = (waiting (· ∈ s.order ++ [id]) (deps n) : Int) + (deps n).count id := by
    intro n hn
    have htaken : ∀ d, d ∈ s.order ++ [id] ↔ d ∈ s.order ∨ d = id := by
      simp
    have hclose : waiting (· ∈ s.order) (deps n)
        = waiting (· ∈ s.order ++ [id]) (deps n) + (deps n).count id :=
      waiting_close hfresh htaken (deps n)
    rw [h.counted n hn, hclose]
    omega
  have henough : ∀ n ∈ dependents nodes deps id,
      ((dependents nodes deps id).count n : Int) ≤ s.indegree n := by
    intro n hn
    have hnode := (mem_dependents.mp hn).1
    rw [count_dependents hnodup hnode, hwaiting n hnode]
    omega
  obtain ⟨hpushedNodup, hpushed⟩ := relax_pushed henough
  have hnew : ∀ n, n ∈ (relax (dependents nodes deps id) s.indegree).2 ↔
      n ∈ nodes ∧ s.indegree n ≠ 0 ∧ s.indegree n = (deps n).count id := by
    intro n
    rw [hpushed]
    constructor
    · rintro ⟨hmem, heq⟩
      obtain ⟨hnode, hdep⟩ := mem_dependents.mp hmem
      rw [count_dependents hnodup hnode] at heq
      have hpos := List.count_pos_iff.mpr hdep
      exact ⟨hnode, by omega, heq⟩
    · rintro ⟨hnode, hne, heq⟩
      have hdep : id ∈ deps n := List.count_pos_iff.mp (by omega)
      rw [count_dependents hnodup hnode]
      exact ⟨mem_dependents.mpr ⟨hnode, hdep⟩, heq⟩
  have hassoc : s.order ++ [id] ++ (queue
      ++ (relax (dependents nodes deps id) s.indegree).2)
        = s.order ++ s.queue
          ++ (relax (dependents nodes deps id) s.indegree).2 := by
    simp [hqueue]
  refine ⟨?_, ?_, ?_, ?_, ?_⟩
  · dsimp only
    rw [hassoc, List.nodup_append]
    refine ⟨h.nodup, hpushedNodup, fun n hn m hm heq => ?_⟩
    subst heq
    obtain ⟨hnode, hne, -⟩ := (hnew n).mp hm
    exact hne ((h.ready n hnode).mp hn)
  · intro n hn
    dsimp only at hn
    rw [hassoc, List.mem_append] at hn
    rcases hn with hold | hpush
    · exact h.sub n hold
    · exact ((hnew n).mp hpush).1
  · intro n hn
    dsimp only
    rw [hcount n hn, hwaiting n hn]
    omega
  · intro n hn
    dsimp only
    rw [hassoc, List.mem_append, h.ready n hn, hnew, hcount n hn]
    have hw := hwaiting n hn
    constructor
    · rintro (hzero | ⟨-, -, heq⟩)
      · omega
      · omega
    · intro hzero
      by_cases hold : s.indegree n = 0
      · exact Or.inl hold
      · exact Or.inr ⟨hn, hold, by omega⟩
  · intro P hP n hn
    rcases List.mem_append.mp hn with hold | hlast
    · exact h.induct P hP n hold
    · rw [List.mem_singleton.mp hlast]
      have hzero := (h.ready id hidNode).mp hid
      rw [h.counted id hidNode, Int.natCast_eq_zero, waiting_zero] at hzero
      exact hP id hidNode fun d hd => h.induct P hP d (hzero d hd)

theorem sound_work (hnodup : nodes.Nodup) (fuel : Nat) {s : Sorting α}
    (h : s.Sound nodes deps) :
    (work nodes deps fuel s).Sound nodes deps := by
  induction fuel generalizing s with
  | zero => exact h
  | succ fuel ih =>
    rw [work]
    split
    · exact h
    next id queue hqueue => exact ih (sound_step hnodup h hqueue)

theorem sound_start (hnodup : nodes.Nodup) (deps : α → List α) :
    (Sorting.start nodes deps).Sound nodes deps := by
  refine ⟨?_, ?_, ?_, ?_, ?_⟩
  · exact hnodup.filter _
  · intro n hn
    exact (List.mem_filter.mp hn).1
  · intro n _
    simp [Sorting.start, waiting]
  · intro n hn
    simp [Sorting.start, hn]
  · intro P _ n hn
    cases hn

/-- A sort that takes in every node gives an induction along the
dependencies. -/
theorem topoSort_induct (hnodup : nodes.Nodup)
    (hall : (topoSort nodes deps).length = nodes.length) {P : α → Prop}
    (hP : ∀ n ∈ nodes, (∀ d ∈ deps n, P d) → P n) : ∀ n ∈ nodes, P n := by
  have hsound := sound_work hnodup nodes.length (sound_start hnodup deps)
  have hsub : (topoSort nodes deps).Subperm nodes := by
    refine List.subperm_of_subset ?_ fun n hn => hsound.sub n ?_
    · exact (List.nodup_append.mp hsound.nodup).1
    · exact List.mem_append_left _ hn
  have hperm := hsub.perm_of_length_le (Nat.le_of_eq hall.symm)
  intro n hn
  exact hsound.induct P hP n (hperm.mem_iff.mpr hn)

end Soundness

end Dag
