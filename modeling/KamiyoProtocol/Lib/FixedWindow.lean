/-
Limits kept by a counter and the time it counts from.

The counter starts again at the first event that comes a whole span after
the time it counts from. Such a window says nothing of intervals that
straddle two of them, but no interval shorter than the span meets three:
it has at most twice the cap (`Kept.spread`).
-/
import Mathlib.Algebra.Ring.Int.Defs
import Mathlib.Algebra.Ring.Nat
import Mathlib.Data.List.Basic

namespace FixedWindow

/-- The events from `lo` to `hi`. -/
def inside (lo hi : Int) (times : List Int) : Nat :=
  times.countP fun t => lo ≤ t ∧ t ≤ hi

/-- The events after `lo`. -/
def after (lo : Int) (times : List Int) : Nat :=
  times.countP fun t => lo < t

/-- The counter has `count` events since a start it does not count from
later than `since`. The last `cap` or fewer of the events before the start
are the only ones less than a span older. -/
structure Kept (span : Int) (cap : Nat) (times : List Int) (count : Nat)
    (since : Int) : Prop where
  spread : ∀ lo hi, hi - lo < span → inside lo hi times ≤ 2 * cap
  split : ∃ start old recent, times = old ++ recent
    ∧ recent.length = count ∧ count ≤ cap ∧ recent ≠ [] ∧ start ≤ since
    ∧ (∀ t ∈ old, t ≤ start) ∧ (∀ t ∈ recent, start ≤ t)
    ∧ after (start - span) old ≤ cap

variable {span now since lo hi : Int} {cap count : Nat} {times : List Int}

theorem inside_append (l : List Int) :
    inside lo hi (times ++ l) = inside lo hi times + inside lo hi l :=
  List.countP_append

theorem inside_le_length : inside lo hi times ≤ times.length :=
  List.countP_le_length

theorem inside_le_after {x : Int} (h : x < lo) :
    inside lo hi times ≤ after x times := by
  refine List.countP_mono_left fun t _ ht => ?_
  simp only [decide_eq_true_eq] at ht ⊢
  omega

theorem inside_singleton (h : ¬ (lo ≤ now ∧ now ≤ hi)) :
    inside lo hi [now] = 0 := by
  simpa [inside] using h

theorem Kept.first (hcap : 0 < cap) : Kept span cap [now] 1 since where
  spread := fun lo hi _ => by
    have := @inside_le_length lo hi [now]
    rw [List.length_singleton] at this
    omega
  split := ⟨min since now, [], [now], rfl, rfl, hcap, by simp, by omega,
    by simp, fun t ht => by rw [List.mem_singleton] at ht; omega,
    Nat.zero_le _⟩

theorem Kept.restart (h : Kept span cap times count since)
    (hnow : ∀ t ∈ times, t ≤ now) : Kept span cap times count now := by
  obtain ⟨start, old, recent, rfl, hlen, hcap, hne, -, hold, hrecent,
    hafter⟩ := h.split
  obtain ⟨t, ht⟩ := List.exists_mem_of_ne_nil recent hne
  have hle := Int.le_trans (hrecent t ht)
    (hnow t (List.mem_append_right _ ht))
  exact ⟨h.spread, start, old, recent, rfl, hlen, hcap, hne, hle, hold,
    hrecent, hafter⟩

theorem Kept.note (h : Kept span cap times count since) (hlt : count < cap)
    (hnow : ∀ t ∈ times, t ≤ now) :
    Kept span cap (times ++ [now]) (count + 1) since := by
  obtain ⟨start, old, recent, rfl, hlen, hcap, hne, hstart, hold, hrecent,
    hafter⟩ := h.split
  obtain ⟨t, ht⟩ := List.exists_mem_of_ne_nil recent hne
  have hle := Int.le_trans (hrecent t ht)
    (hnow t (List.mem_append_right _ ht))
  refine ⟨fun lo hi hspan => ?_, start, old, recent ++ [now], by simp,
    by simp [hlen], hlt, by simp, hstart, hold, ?_, hafter⟩
  · rw [inside_append]
    by_cases hin : lo ≤ now ∧ now ≤ hi
    · -- what is in the interval is less than a span older than the start
      rw [inside_append]
      have h₁ := @inside_le_after lo hi old (start - span) (by omega)
      have h₂ := @inside_le_length lo hi recent
      have h₃ := @inside_le_length lo hi [now]
      rw [List.length_singleton] at h₃
      omega
    · rw [inside_singleton hin]
      exact h.spread lo hi hspan
  · intro x hx
    rcases List.mem_append.mp hx with hx | hx
    · exact hrecent x hx
    · rw [List.mem_singleton] at hx
      omega

theorem Kept.renew (h : Kept span cap times count since)
    (hspan : span ≤ now - since) (hnow : ∀ t ∈ times, t ≤ now) :
    Kept span cap (times ++ [now]) 1 now := by
  obtain ⟨start, old, recent, rfl, hlen, hcap, hne, hstart, hold, -, -⟩ :=
    h.split
  have hpos := List.length_pos_iff.mpr hne
  have hafter : after (now - span) (old ++ recent) ≤ cap := by
    have hnone : after (now - span) old = 0 := by
      refine List.countP_eq_zero.mpr fun t ht => ?_
      have := hold t ht
      simp only [decide_eq_true_eq]
      omega
    have hlen' : after (now - span) recent ≤ recent.length :=
      List.countP_le_length
    unfold after at hnone hlen' ⊢
    rw [List.countP_append]
    omega
  refine ⟨fun lo hi hlt => ?_, now, old ++ recent, [now], rfl, rfl,
    by omega, by simp, Int.le_refl _, hnow, by simp, hafter⟩
  rw [inside_append]
  by_cases hin : lo ≤ now ∧ now ≤ hi
  · have h₁ := @inside_le_after lo hi (old ++ recent) (now - span) (by omega)
    have h₂ := @inside_le_length lo hi [now]
    rw [List.length_singleton] at h₂
    omega
  · rw [inside_singleton hin]
    exact h.spread lo hi hlt

end FixedWindow
