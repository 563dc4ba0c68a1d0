/-
Transactions that lock the rows they read.

A transaction takes rows one by one, each once nobody else holds it, and
reads a row as it takes it. It holds what it took until it ends, and
meanwhile nobody else writes there. Then what a transaction read is what
the row still is (`Current`), however the transactions interleave: each
writes back from values that are not stale, and no update is lost.
-/
import KamiyoProtocol.Lib.Keyed

namespace RowLocks

open Function

/-- Who holds which row, and what each transaction read, in order. -/
structure Locks (T K V : Type) where
  owner : K → Option T
  seen : T → List (K × V)

variable {T K V : Type} [DecidableEq T] [DecidableEq K]
  {l : Locks T K V} {row row' : K → V} {t u : T} {k : K} {v : V}

namespace Locks

def empty : Locks T K V := ⟨fun _ => none, fun _ => []⟩

/-- Nobody else holds the row. -/
def Free (l : Locks T K V) (t : T) (k : K) : Prop :=
  l.owner k = none ∨ l.owner k = some t

instance (l : Locks T K V) (t : T) (k : K) : Decidable (l.Free t k) :=
  inferInstanceAs (Decidable (_ ∨ _))

/-- Take a row and read it. -/
def take (l : Locks T K V) (t : T) (k : K) (v : V) : Locks T K V where
  owner := update l.owner k (some t)
  seen := update l.seen t (l.seen t ++ [(k, v)])

/-- End a transaction. -/
def release (l : Locks T K V) (t : T) : Locks T K V where
  owner k := if l.owner k = some t then none else l.owner k
  seen := update l.seen t []

end Locks

/-- What was read is held, and still so. -/
def Current (row : K → V) (l : Locks T K V) : Prop :=
  ∀ t k v, (k, v) ∈ l.seen t → l.owner k = some t ∧ row k = v

omit [DecidableEq T] [DecidableEq K] in
theorem current_empty : Current row (Locks.empty : Locks T K V) :=
  fun _ _ _ h => by cases h

theorem Current.take (h : Current row l) (hfree : l.Free t k) :
    Current row (l.take t k (row k)) := by
  intro u j v hmem
  have howner : l.owner j = some u → (update l.owner k (some t)) j = some u := by
    intro hj
    by_cases hjk : j = k
    · subst hjk
      rw [update_self]
      rcases hfree with hnone | hown
      · rw [hnone] at hj
        cases hj
      · rw [← hj, hown]
    · rw [update_of_ne hjk]
      exact hj
  simp only [Locks.take] at hmem
  by_cases hut : u = t
  · subst hut
    rw [update_self] at hmem
    rcases List.mem_append.mp hmem with hold | hnew
    · obtain ⟨hj, hrow⟩ := h u j v hold
      exact ⟨howner hj, hrow⟩
    · cases List.mem_singleton.mp hnew
      exact ⟨update_self .., rfl⟩
  · rw [update_of_ne hut] at hmem
    obtain ⟨hj, hrow⟩ := h u j v hmem
    exact ⟨howner hj, hrow⟩

omit [DecidableEq K] in
theorem Current.release (h : Current row l)
    (hown : ∀ k, l.owner k ≠ some t → row' k = row k) :
    Current row' (l.release t) := by
  intro u j v hmem
  simp only [Locks.release] at hmem ⊢
  by_cases hut : u = t
  · subst hut
    rw [update_self] at hmem
    cases hmem
  · rw [update_of_ne hut] at hmem
    obtain ⟨hj, hrow⟩ := h u j v hmem
    have hne : l.owner j ≠ some t := by
      rw [hj]
      exact fun he => hut (Option.some.inj he)
    rw [if_neg hne, hown j hne]
    exact ⟨hj, hrow⟩

end RowLocks
