/-
Pieces of the ECMAScript library that programs lean on: trimming of strings,
and the `Map`, whose entries keep the order in which their keys were first
set.

A `Dict` carries that its keys are distinct, so a key has one entry. Writing
at a key either replaces the value of its entry (`entries_set_old`) or
appends an entry (`entries_set_new`); every other lookup is left alone
(`get_set_ne`).
-/
import Mathlib.Data.List.DropRight
import Mathlib.Data.List.Nodup

namespace Ecma

-- ==== strings

/-- The white space that `trim` takes off. -/
def isSpace (c : Char) : Bool :=
  c.toNat ∈ [0x09, 0x0A, 0x0B, 0x0C, 0x0D, 0x20, 0xA0, 0x1680, 0x2028,
    0x2029, 0x202F, 0x205F, 0x3000, 0xFEFF]
    || (0x2000 ≤ c.toNat && c.toNat ≤ 0x200A)

def trim (s : String) : String :=
  String.ofList
    (((s.toList.dropWhile isSpace).reverse.dropWhile isSpace).reverse)

theorem trim_eq (s : String) :
    trim s = String.ofList ((s.toList.dropWhile isSpace).rdropWhile isSpace) :=
  rfl

theorem dropWhile_of_append {l rest : List Char}
    (h : (l ++ rest).dropWhile isSpace = l ++ rest) :
    l.dropWhile isSpace = l := by
  cases l with
  | nil => rfl
  | cons c l =>
    have hc : isSpace c = false := by
      by_contra hspace
      have hlen := congrArg List.length h
      rw [List.cons_append, List.dropWhile_cons,
        if_pos (by simpa using hspace), List.length_cons] at hlen
      have := (List.dropWhile_sublist isSpace (l := l ++ rest)).length_le
      omega
    rw [List.dropWhile_cons, if_neg (by simp [hc])]

theorem trim_trim (s : String) : trim (trim s) = trim s := by
  rw [trim_eq (trim s), trim_eq s, String.toList_ofList]
  obtain ⟨rest, hrest⟩ :=
    List.rdropWhile_prefix isSpace (s.toList.dropWhile isSpace)
  have hfront := List.dropWhile_idempotent isSpace s.toList
  rw [← hrest] at hfront
  rw [dropWhile_of_append hfront, List.rdropWhile_idempotent]

-- ==== maps

/-- A `Map`: its entries in insertion order, under distinct keys. -/
structure Dict (K V : Type) where
  entries : List (K × V)
  distinct : (entries.map Prod.fst).Nodup

namespace Dict

variable {K V : Type}

def empty : Dict K V := ⟨[], List.nodup_nil⟩

def keys (m : Dict K V) : List K := m.entries.map Prod.fst

def values (m : Dict K V) : List V := m.entries.map Prod.snd

def size (m : Dict K V) : Nat := m.entries.length

variable [DecidableEq K]

def get (m : Dict K V) (k : K) : Option V :=
  (m.entries.find? fun e => e.1 = k).map Prod.snd

/-- The entries with `v` at `k`: in place where the key has an entry, last
where it has none. -/
def setEntries (k : K) (v : V) : List (K × V) → List (K × V)
  | [] => [(k, v)]
  | e :: rest =>
    if e.1 = k then (k, v) :: rest else e :: setEntries k v rest

variable {k : K} {v : V}

theorem setEntries_new {l : List (K × V)}
    (h : k ∉ l.map Prod.fst) : setEntries k v l = l ++ [(k, v)] := by
  induction l with
  | nil => rfl
  | cons e rest ih =>
    simp only [List.map_cons, List.mem_cons, not_or] at h
    rw [setEntries, if_neg (Ne.symm h.1), ih h.2]
    rfl

theorem setEntries_old {l : List (K × V)} (h : k ∈ l.map Prod.fst) :
    ∃ before old after, l = before ++ (k, old) :: after
      ∧ setEntries k v l = before ++ (k, v) :: after := by
  induction l with
  | nil => cases h
  | cons e rest ih =>
    by_cases he : e.1 = k
    · refine ⟨[], e.2, rest, ?_, ?_⟩
      · rw [← he]
        rfl
      · rw [setEntries, if_pos he]
        rfl
    · have hrest : k ∈ rest.map Prod.fst := by
        rcases List.mem_cons.mp h with hk | hk
        · exact absurd hk.symm he
        · exact hk
      obtain ⟨before, old, after, hl, hset⟩ := ih hrest
      refine ⟨e :: before, old, after, ?_, ?_⟩
      · rw [hl]
        rfl
      · rw [setEntries, if_neg he, hset]
        rfl

/-- A write adds its key at the end or leaves the keys as they are. -/
theorem keys_setEntries (k : K) (v : V) (l : List (K × V)) :
    (setEntries k v l).map Prod.fst
      = if k ∈ l.map Prod.fst then l.map Prod.fst
        else l.map Prod.fst ++ [k] := by
  split
  next h =>
    obtain ⟨before, old, after, hl, hset⟩ := setEntries_old (v := v) h
    rw [hset, hl]
    simp
  next h =>
    rw [setEntries_new h]
    simp

def set (m : Dict K V) (k : K) (v : V) : Dict K V where
  entries := setEntries k v m.entries
  distinct := by
    rw [keys_setEntries]
    split
    · exact m.distinct
    next h =>
      rw [List.nodup_append]
      refine ⟨m.distinct, List.nodup_singleton k, ?_⟩
      intro a ha b hb hab
      rw [List.mem_singleton] at hb
      rw [hab, hb] at ha
      exact h ha

def has (m : Dict K V) (k : K) : Bool := (m.get k).isSome

variable {m : Dict K V}

theorem get_some :
    m.get k = some v ↔ (k, v) ∈ m.entries := by
  obtain ⟨l, hl⟩ := m
  unfold get
  dsimp only
  induction l with
  | nil => simp
  | cons e rest ih =>
    rw [List.map_cons, List.nodup_cons] at hl
    by_cases he : e.1 = k
    · rw [List.find?_cons_of_pos (by simpa using he)]
      constructor
      · intro h
        obtain rfl : e.2 = v := by simpa using h
        rw [← he]
        exact List.mem_cons_self
      · intro h
        rcases List.mem_cons.mp h with h | h
        · rw [← h]
          rfl
        · exact absurd (List.mem_map_of_mem h) (he ▸ hl.1)
    · rw [List.find?_cons_of_neg (by simpa using he), ih hl.2]
      constructor
      · intro h
        exact List.mem_cons_of_mem e h
      · intro h
        rcases List.mem_cons.mp h with h | h
        · exact absurd (congrArg Prod.fst h.symm) he
        · exact h

theorem get_none : m.get k = none ↔ k ∉ m.keys := by
  unfold get keys
  rw [Option.map_eq_none_iff, List.find?_eq_none]
  constructor
  · intro h hk
    obtain ⟨e, he, hek⟩ := List.mem_map.mp hk
    exact h e he (by simpa using hek)
  · intro h e he hek
    exact h (List.mem_map.mpr ⟨e, he, by simpa using hek⟩)

theorem get_mem_keys (h : m.get k = some v) :
    k ∈ m.keys :=
  List.mem_map.mpr ⟨(k, v), get_some.mp h, rfl⟩

theorem mem_values :
    v ∈ m.values ↔ ∃ k, m.get k = some v := by
  constructor
  · intro h
    obtain ⟨e, he, rfl⟩ := List.mem_map.mp h
    exact ⟨e.1, get_some.mpr he⟩
  · rintro ⟨k, h⟩
    exact List.mem_map.mpr ⟨(k, v), get_some.mp h, rfl⟩

@[simp] theorem get_empty (k : K) : (empty : Dict K V).get k = none := rfl

@[simp] theorem get_set_self (m : Dict K V) (k : K) (v : V) :
    (m.set k v).get k = some v := by
  rw [get_some]
  show (k, v) ∈ setEntries k v m.entries
  by_cases h : k ∈ m.entries.map Prod.fst
  · obtain ⟨before, old, after, -, hset⟩ := setEntries_old (v := v) h
    rw [hset]
    simp
  · rw [setEntries_new h]
    simp

theorem get_set_ne (m : Dict K V) {j k : K} (v : V) (hne : j ≠ k) :
    (m.set k v).get j = m.get j := by
  have hentries : ∀ w, (j, w) ∈ setEntries k v m.entries
      ↔ (j, w) ∈ m.entries := by
    intro w
    by_cases h : k ∈ m.entries.map Prod.fst
    · obtain ⟨before, old, after, hl, hset⟩ := setEntries_old (v := v) h
      rw [hset, hl]
      simp [hne]
    · rw [setEntries_new h]
      simp [hne]
  apply Option.ext
  intro w
  rw [get_some, get_some]
  exact hentries w

theorem entries_set_new (v : V)
    (h : m.get k = none) : (m.set k v).entries = m.entries ++ [(k, v)] :=
  setEntries_new (get_none.mp h)

/-- A write at a key with an entry replaces the value there. -/
theorem entries_set_old {old : V} (v : V) (h : m.get k = some old) :
    ∃ before after, m.entries = before ++ (k, old) :: after
      ∧ (m.set k v).entries = before ++ (k, v) :: after := by
  obtain ⟨before, old', after, hl, hset⟩ :=
    setEntries_old (v := v) (get_mem_keys h)
  have hold : m.get k = some old' := by
    rw [get_some, hl]
    simp
  rw [h] at hold
  cases hold
  exact ⟨before, after, hl, hset⟩

/-- The map with the entry of a key taken out. -/
def delete (m : Dict K V) (k : K) : Dict K V where
  entries := m.entries.filter fun e => e.1 ≠ k
  distinct := (List.filter_sublist.map Prod.fst).nodup m.distinct

theorem get_delete {j k : K}
    (h : (m.delete k).get j = some v) : m.get j = some v :=
  get_some.mpr (List.mem_of_mem_filter (get_some.mp h))

-- ==== overlays

/-- The map with writes made one after the other. -/
def overlay (m : Dict K V) (writes : List (K × V)) : Dict K V :=
  writes.foldl (fun m w => m.set w.1 w.2) m

/-- The value of the last write at a key. -/
def lastWrite (k : K) : List (K × V) → Option V
  | [] => none
  | w :: rest => (lastWrite k rest).or (if w.1 = k then some w.2 else none)

variable {writes : List (K × V)}

theorem get_overlay :
    ∀ {m : Dict K V},
      (m.overlay writes).get k = (lastWrite k writes).or (m.get k) := by
  induction writes with
  | nil => exact rfl
  | cons w rest ih =>
    intro m
    change ((m.set w.1 w.2).overlay rest).get k = _
    rw [ih, lastWrite, Option.or_assoc]
    by_cases hk : w.1 = k
    · rw [if_pos hk, ← hk, get_set_self]
      rfl
    · rw [if_neg hk, get_set_ne _ _ (Ne.symm hk)]
      rfl

theorem get_overlay_iff :
    (∀ k, (m.overlay writes).get k = m.get k)
      ↔ ∀ k v, lastWrite k writes = some v → m.get k = some v := by
  refine forall_congr' fun k => ?_
  rw [get_overlay]
  cases lastWrite k writes with
  | none => simp
  | some v => simp [eq_comm]

theorem lastWrite_eq_none
    (h : k ∉ writes.map Prod.fst) : lastWrite k writes = none := by
  induction writes with
  | nil => rfl
  | cons w rest ih =>
    rw [List.map_cons, List.mem_cons, not_or] at h
    rw [lastWrite, ih h.2, if_neg (Ne.symm h.1)]
    rfl

theorem lastWrite_map {W : Type} (f : V → W) (k : K) (writes : List (K × V)) :
    lastWrite k (writes.map fun w => (w.1, f w.2))
      = (lastWrite k writes).map f := by
  induction writes with
  | nil => rfl
  | cons w rest ih =>
    rw [List.map_cons, lastWrite, lastWrite, ih, Option.map_or]
    by_cases hk : w.1 = k
    · simp [hk]
    · simp [hk]

theorem lastWrite_entries (m : Dict K V) (k : K) :
    lastWrite k m.entries = m.get k := by
  obtain ⟨l, hl⟩ := m
  unfold get
  dsimp only
  induction l with
  | nil => rfl
  | cons w rest ih =>
    rw [List.map_cons, List.nodup_cons] at hl
    rw [lastWrite]
    by_cases hk : w.1 = k
    · rw [lastWrite_eq_none (hk ▸ hl.1), if_pos hk,
        List.find?_cons_of_pos (by simpa using hk)]
      rfl
    · rw [ih hl.2, if_neg hk, List.find?_cons_of_neg (by simpa using hk),
        Option.or_none]

theorem entries_overlay :
    ∀ {m : Dict K V}, ((m.entries ++ writes).map Prod.fst).Nodup →
      (m.overlay writes).entries = m.entries ++ writes := by
  induction writes with
  | nil => simp [overlay]
  | cons w rest ih =>
    intro m h
    have hnew : m.get w.1 = none := by
      rw [get_none]
      intro hmem
      rw [List.map_append, List.map_cons, List.nodup_append] at h
      exact h.2.2 w.1 hmem w.1 List.mem_cons_self rfl
    have hentries := entries_set_new w.2 hnew
    change ((m.set w.1 w.2).overlay rest).entries = _
    rw [ih, hentries, List.append_assoc]
    · rfl
    · rwa [hentries, List.append_assoc]

theorem overlay_entries (m : Dict K V) : empty.overlay m.entries = m := by
  have h : (empty.overlay m.entries).entries = m.entries :=
    entries_overlay m.distinct
  obtain ⟨l, hl⟩ := m
  generalize hov : empty.overlay l = d at h
  obtain ⟨l', hl'⟩ := d
  obtain rfl : l' = l := h
  rfl

end Dict

end Ecma
