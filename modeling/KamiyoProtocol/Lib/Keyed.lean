/-
Lists of records addressed by a key: the vector-with-linear-search
idiom.

`locate` finds the first record under a key together with its position,
which is what both `position(..)` followed by an index and a mutable
`find` give the code. Records are then replaced (`set`) or dropped
(`eraseIdx`) at that position. The laws here are the ones accounting
needs: what a replacement or a removal does to a sum over the records.

The last section is the other keyed store, a total map from addresses
written at one point (`Function.update`): what a write does to a sum.
-/
import Mathlib.Algebra.BigOperators.Group.List.Basic
import Mathlib.Data.List.Nodup
import Mathlib.Logic.Function.Basic
import Mathlib.Tactic.Abel

namespace Keyed

open Function

variable {α K : Type} [DecidableEq K]

/-- First record under `k`, with its position. -/
def locate (key : α → K) (l : List α) (k : K) : Option (Nat × α) :=
  (l.findIdx? fun x => key x = k).bind fun i => l[i]?.map fun x => (i, x)

variable {l : List α} {key : α → K} {i : Nat} {x : α}

variable {k : K}

theorem locate_some
    (h : locate key l k = some (i, x)) : l[i]? = some x ∧ key x = k := by
  obtain ⟨j, hj, hx⟩ := Option.bind_eq_some_iff.mp h
  obtain ⟨y, hy, hyx⟩ := Option.map_eq_some_iff.mp hx
  cases hyx
  obtain ⟨hlt, hkey, -⟩ := List.findIdx?_eq_some_iff_getElem.mp hj
  refine ⟨hy, ?_⟩
  rw [List.getElem?_eq_getElem hlt] at hy
  cases hy
  simpa using hkey

theorem locate_mem (h : locate key l k = some (i, x)) : x ∈ l :=
  List.mem_of_getElem? (locate_some h).1

theorem locate_none :
    locate key l k = none ↔ ∀ x ∈ l, key x ≠ k := by
  constructor
  · intro h x hx hk
    cases hi : l.findIdx? fun x => key x = k with
    | none =>
      have hnone := List.findIdx?_eq_none_iff.mp hi x hx
      simp [hk] at hnone
    | some i =>
      obtain ⟨hlt, -, -⟩ := List.findIdx?_eq_some_iff_getElem.mp hi
      simp [locate, hi, List.getElem?_eq_getElem hlt] at h
  · intro h
    have hi : (l.findIdx? fun x => key x = k) = none := by
      rw [List.findIdx?_eq_none_iff]
      intro x hx
      simpa using h x hx
    simp [locate, hi]

/-- Replacing a record by one of its key leaves every other lookup alone
and finds the new one where the old one was found. -/
theorem locate_set {x y : α}
    (hi : l[i]? = some x) (hkey : key y = key x) (k : K) :
    locate key (l.set i y) k
      = (locate key l k).map fun r => if r.1 = i then (i, y) else r := by
  have hidx : ((l.set i y).findIdx? fun z => key z = k)
      = l.findIdx? fun z => key z = k := by
    induction l generalizing i with
    | nil => rfl
    | cons z rest ih =>
      cases i with
      | zero =>
        have hz : z = x := by simpa using hi
        subst hz
        simp only [List.set_cons_zero, List.findIdx?_cons, hkey]
      | succ j =>
        have hrest := ih (i := j) (by simpa using hi)
        simp only [List.set_cons_succ, List.findIdx?_cons, hrest]
  unfold locate
  rw [hidx]
  cases hj : l.findIdx? fun z => key z = k with
  | none => rfl
  | some j =>
    obtain ⟨hlt, -, -⟩ := List.findIdx?_eq_some_iff_getElem.mp hj
    simp only [Option.bind_some, List.getElem?_eq_getElem hlt,
      Option.map_some, List.getElem?_set]
    by_cases hji : i = j
    · subst hji
      simp [hlt]
    · rw [if_neg hji, if_neg (Ne.symm hji)]
      rfl

theorem locate_of_mem (h : k ∈ l.map key) : ∃ r, locate key l k = some r := by
  cases hl : locate key l k with
  | some r => exact ⟨r, rfl⟩
  | none =>
    obtain ⟨x, hx, hkey⟩ := List.mem_map.mp h
    exact absurd hkey (locate_none.mp hl x hx)

theorem locate_append_ne {y : α}
    (hne : key y ≠ k) : locate key (l ++ [y]) k = locate key l k := by
  have hy : ([y].findIdx? fun z => key z = k) = none := by
    simp [hne]
  unfold locate
  rw [List.findIdx?_append, hy]
  cases hj : l.findIdx? fun z => key z = k with
  | none => rfl
  | some j =>
    obtain ⟨hlt, -, -⟩ := List.findIdx?_eq_some_iff_getElem.mp hj
    simp [List.getElem?_append_left hlt]

-- ==== distinct keys

omit [DecidableEq K] in
theorem map_set {x y : α} (hi : l[i]? = some x) (hkey : key y = key x) :
    (l.set i y).map key = l.map key := by
  apply List.ext_getElem?
  intro j
  rw [List.getElem?_map, List.getElem?_map]
  by_cases hij : i = j
  · subst hij
    obtain ⟨hlt, -⟩ := List.getElem?_eq_some_iff.mp hi
    rw [List.getElem?_set_self hlt, hi, Option.map_some, Option.map_some, hkey]
  · rw [List.getElem?_set_ne hij]

omit [DecidableEq K] in
theorem map_modify {f : α → α} (hf : ∀ x, key (f x) = key x)
    (l : List α) (i : Nat) : (l.modify i f).map key = l.map key := by
  apply List.ext_getElem?
  intro j
  rw [List.getElem?_map, List.getElem?_map, List.getElem?_modify]
  cases l[j]? with
  | none => rfl
  | some x =>
    show some (key (if i = j then f x else x)) = some (key x)
    by_cases hij : i = j
    · rw [if_pos hij, hf]
    · rw [if_neg hij]

omit [DecidableEq K] in
theorem nodup_append {y : α}
    (h : (l.map key).Nodup) (hnew : ∀ x ∈ l, key x ≠ key y) :
    ((l ++ [y]).map key).Nodup := by
  rw [List.map_append, List.nodup_append]
  refine ⟨h, by simp, ?_⟩
  intro k hk k' hk' heq
  obtain ⟨x, hx, rfl⟩ := List.mem_map.mp hk
  rw [List.map_singleton, List.mem_singleton] at hk'
  exact hnew x hx (heq.trans hk')

theorem locate_of_nodup (h : (l.map key).Nodup) (hx : x ∈ l) :
    ∃ i, locate key l (key x) = some (i, x) := by
  cases hl : locate key l (key x) with
  | none => exact absurd rfl (locate_none.mp hl x hx)
  | some r =>
    obtain ⟨i, y⟩ := r
    obtain ⟨-, hkey⟩ := locate_some hl
    rw [List.inj_on_of_nodup_map h (locate_mem hl) hx hkey]
    exact ⟨i, rfl⟩

theorem filter_eq_singleton (h : (l.map key).Nodup) (hx : x ∈ l) :
    l.filter (fun y => key y = key x) = [x] := by
  induction l with
  | nil => cases hx
  | cons z rest ih =>
    rw [List.map_cons, List.nodup_cons] at h
    rcases List.mem_cons.mp hx with rfl | hmem
    · have hrest : rest.filter (fun y => key y = key x) = [] := by
        rw [List.filter_eq_nil_iff]
        intro y hy hyk
        exact h.1 (List.mem_map.mpr ⟨y, hy, of_decide_eq_true hyk⟩)
      rw [List.filter_cons_of_pos (by simp), hrest]
    · have hne : key z ≠ key x := by
        intro hzx
        exact h.1 (List.mem_map.mpr ⟨x, hmem, hzx.symm⟩)
      rw [List.filter_cons_of_neg (by simpa using hne)]
      exact ih h.2 hmem

omit [DecidableEq K] in
/-- Under distinct keys, replacing a record by one of its key leaves the
records of the other keys. -/
theorem mem_set_iff {x y z : α}
    (h : (l.map key).Nodup) (hi : l[i]? = some x) (hkey : key y = key x) :
    z ∈ l.set i y ↔ z = y ∨ z ∈ l ∧ key z ≠ key x := by
  obtain ⟨hlt, -⟩ := List.getElem?_eq_some_iff.mp hi
  have hnew : y ∈ l.set i y := List.mem_set hlt y
  constructor
  · intro hz
    by_cases hk : key z = key x
    · have hnodup : ((l.set i y).map key).Nodup := by
        rw [map_set hi hkey]
        exact h
      left
      exact List.inj_on_of_nodup_map hnodup hz hnew (hk.trans hkey.symm)
    · rcases List.mem_or_eq_of_mem_set hz with hold | hy
      · exact .inr ⟨hold, hk⟩
      · exact .inl hy
  · rintro (rfl | ⟨hz, hk⟩)
    · exact hnew
    · obtain ⟨j, hj⟩ := List.mem_iff_getElem?.mp hz
      have hij : i ≠ j := by
        rintro rfl
        rw [hi] at hj
        cases hj
        exact hk rfl
      exact List.mem_of_getElem? ((List.getElem?_set_ne hij).trans hj)

omit [DecidableEq K] in
theorem key_ne_head {z : α} {rest : List α}
    (h : ((z :: rest).map key).Nodup) (hx : x ∈ rest) : key x ≠ key z := by
  rw [List.map_cons, List.nodup_cons] at h
  intro hk
  exact h.1 (List.mem_map.mpr ⟨x, hx, hk⟩)

theorem set_eq_map (h : (l.map key).Nodup) (hi : l[i]? = some x) (y : α) :
    l.set i y = l.map fun z => if key z = key x then y else z := by
  induction l generalizing i with
  | nil => cases hi
  | cons z rest ih =>
    cases i with
    | zero =>
      cases hi
      have hrest : (rest.map fun w => if key w = key x then y else w)
          = rest := by
        refine (List.map_congr_left fun w hw => ?_).trans (List.map_id _)
        rw [if_neg (key_ne_head h hw)]
        rfl
      rw [List.set_cons_zero, List.map_cons, if_pos rfl, hrest]
    | succ j =>
      have hx : rest[j]? = some x := by simpa using hi
      rw [List.set_cons_succ, List.map_cons, ih (List.nodup_cons.mp h).2 hx,
        if_neg (Ne.symm (key_ne_head h (List.mem_of_getElem? hx)))]

theorem set_apply (h : (l.map key).Nodup) (hi : l[i]? = some x) (f : α → α) :
    l.set i (f x) = l.map fun z => if key z = key x then f z else z := by
  rw [set_eq_map h hi]
  refine List.map_congr_left fun z hz => ?_
  by_cases hk : key z = key x
  · rw [if_pos hk, if_pos hk,
      List.inj_on_of_nodup_map h hz (List.mem_of_getElem? hi) hk]
  · rw [if_neg hk, if_neg hk]

omit [DecidableEq K] in
theorem set_same (hi : l[i]? = some x) :
    l.set i x = l := by
  obtain ⟨hlt, rfl⟩ := List.getElem?_eq_some_iff.mp hi
  exact List.set_getElem_self hlt

theorem eraseIdx_eq_filter (h : (l.map key).Nodup) (hi : l[i]? = some x) :
    l.eraseIdx i = l.filter fun z => key z ≠ key x := by
  induction l generalizing i with
  | nil => cases hi
  | cons z rest ih =>
    cases i with
    | zero =>
      cases hi
      have hrest : rest.filter (fun w => key w ≠ key x) = rest :=
        List.filter_eq_self.mpr fun w hw =>
          decide_eq_true (key_ne_head h hw)
      rw [List.eraseIdx_cons_zero, List.filter_cons_of_neg (by simp), hrest]
    | succ j =>
      have hx : rest[j]? = some x := by simpa using hi
      have hne := Ne.symm (key_ne_head h (List.mem_of_getElem? hx))
      rw [List.eraseIdx_cons_succ, ih (List.nodup_cons.mp h).2 hx,
        List.filter_cons_of_pos (by simpa using hne)]

-- ==== selections

omit [DecidableEq K] in
theorem filter_eraseIdx_neg {p : α → Bool}
    (h : l[i]? = some x) (hx : p x = false) :
    (l.eraseIdx i).filter p = l.filter p := by
  induction l generalizing i with
  | nil => cases h
  | cons z rest ih =>
    cases i with
    | zero =>
      cases h
      rw [List.eraseIdx_cons_zero, List.filter_cons_of_neg (by simp [hx])]
    | succ j =>
      rw [List.eraseIdx_cons_succ, List.filter_cons, List.filter_cons,
        ih (by simpa using h)]

omit [DecidableEq K] in
/-- Dropping a selected record drops it from the selection. -/
theorem filter_eraseIdx_pos {p : α → Bool}
    (h : l[i]? = some x) (hx : p x = true) :
    ∃ j, (l.filter p)[j]? = some x
      ∧ (l.eraseIdx i).filter p = (l.filter p).eraseIdx j := by
  induction l generalizing i with
  | nil => cases h
  | cons z rest ih =>
    cases i with
    | zero =>
      cases h
      refine ⟨0, ?_, ?_⟩
      · rw [List.filter_cons_of_pos hx]
        rfl
      · rw [List.filter_cons_of_pos hx]
        rfl
    | succ j =>
      obtain ⟨k, hk, herase⟩ := ih (i := j) (by simpa using h)
      rw [List.eraseIdx_cons_succ]
      by_cases hz : p z = true
      · refine ⟨k + 1, ?_, ?_⟩
        · rw [List.filter_cons_of_pos hz]
          exact hk
        · rw [List.filter_cons_of_pos hz, List.filter_cons_of_pos hz, herase]
          rfl
      · refine ⟨k, ?_, ?_⟩
        · rw [List.filter_cons_of_neg hz]
          exact hk
        · rw [List.filter_cons_of_neg hz, List.filter_cons_of_neg hz, herase]

-- ==== sums

theorem sum_set {M : Type} [AddCommMonoid M]
    (f : α → M) (h : l[i]? = some x) (y : α) :
    ((l.set i y).map f).sum + f x = (l.map f).sum + f y := by
  induction l generalizing i with
  | nil => cases h
  | cons z rest ih =>
    cases i with
    | zero =>
      cases h
      simp only [List.set_cons_zero, List.map_cons, List.sum_cons]
      abel
    | succ j =>
      have hrest := ih h
      simp only [List.set_cons_succ, List.map_cons, List.sum_cons,
        add_assoc, hrest]

theorem sum_eraseIdx (f : α → Nat) (h : l[i]? = some x) :
    ((l.eraseIdx i).map f).sum + f x = (l.map f).sum := by
  induction l generalizing i with
  | nil => simp at h
  | cons z rest ih =>
    cases i with
    | zero =>
      have hz : z = x := by simpa using h
      subst hz
      simp only [List.eraseIdx_cons_zero, List.map_cons, List.sum_cons]
      omega
    | succ j =>
      have hrest := ih (i := j) (by simpa using h)
      simp only [List.eraseIdx_cons_succ, List.map_cons, List.sum_cons]
      omega

theorem sum_append_single {M : Type} [AddCommMonoid M] (f : α → M)
    (l : List α) (y : α) :
    ((l ++ [y]).map f).sum = (l.map f).sum + f y := by
  simp

theorem le_sum (f : α → Nat) (h : l[i]? = some x) : f x ≤ (l.map f).sum := by
  have := sum_eraseIdx f h
  omega

theorem sum_map_zero {f : α → Nat} (h : ∀ x, f x = 0) (l : List α) :
    (l.map f).sum = 0 := by
  rw [funext h]
  simp

/-- Distinct keys contribute at most a list that holds those of them that
contribute. -/
theorem sum_le_of_nodup {f : K → Nat} {ks l : List K} (hks : ks.Nodup)
    (hzero : ∀ k ∈ ks, k ∉ l → f k = 0) :
    (ks.map f).sum ≤ (l.map f).sum := by
  induction ks generalizing l with
  | nil => simp
  | cons k rest ih =>
    obtain ⟨hnew, hrest⟩ := List.nodup_cons.mp hks
    rw [List.map_cons, List.sum_cons]
    by_cases hk : k ∈ l
    · have hperm := ((List.perm_cons_erase hk).map f).sum_eq
      rw [List.map_cons, List.sum_cons] at hperm
      have hle := ih (l := l.erase k) hrest (by
        intro j hj hout
        refine hzero j (List.mem_cons_of_mem _ hj) fun hjl => hout ?_
        have hjk : j ≠ k := fun he => hnew (he ▸ hj)
        exact (List.mem_erase_of_ne hjk).mpr hjl)
      omega
    · have hfk := hzero k (List.mem_cons_self ..) hk
      have hle := ih (l := l) hrest fun j hj =>
        hzero j (List.mem_cons_of_mem _ hj)
      omega

-- ==== maps

theorem sum_update_of_not_mem {V : Type} (f : V → Nat) (g : K → V)
    (v : V) {ks : List K} (hk : k ∉ ks) :
    (ks.map fun j => f (update g k v j)).sum = (ks.map fun j => f (g j)).sum := by
  congr 1
  apply List.map_congr_left
  intro j hj
  rw [update_of_ne]
  intro hjk
  exact hk (hjk ▸ hj)

/-- A write trades its contribution to a sum over distinct keys. -/
theorem sum_update {V : Type} (f : V → Nat) (g : K → V) (v : V)
    {ks : List K} (hn : ks.Nodup) (hk : k ∈ ks) :
    (ks.map fun j => f (update g k v j)).sum + f (g k)
      = (ks.map fun j => f (g j)).sum + f v := by
  induction ks with
  | nil => cases hk
  | cons j rest ih =>
    rw [List.nodup_cons] at hn
    simp only [List.map_cons, List.sum_cons]
    rcases List.mem_cons.mp hk with rfl | hmem
    · rw [sum_update_of_not_mem f g v hn.1, update_self]
      omega
    · have hne : j ≠ k := by
        intro hjk
        exact hn.1 (hjk ▸ hmem)
      have hrest := ih hn.2 hmem
      rw [update_of_ne hne]
      omega

end Keyed
