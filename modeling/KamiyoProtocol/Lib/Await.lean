/-
Programs that await operations, many of them over one shared store.

A program is a tree: it is done, or it awaits an operation and goes on
with the operation's result. Code between two awaits runs without
interruption, so one step of the system is one operation together with
the code up to the next await; what the operation answers may depend on
a choice of the environment, a failure for instance.

# Contracts

A `Contract` is what a program promises while the others run. The store
moves under it by `rely` between its own operations and the environment
answers them as `allowed`; at each operation it `owes` something that may
speak of how it goes on, and when it is done its result `ends` as
promised. `Safe` is to keep a contract from here on. It is kept by moves
in `rely` (`Safe.later`), hence by a step of any other program whose
effect the contract relies on (`safe_resume`).

`total` counts the programs that await an operation of a kind.
-/
import KamiyoProtocol.Lib.Keyed

namespace Await

/-- A program over the operations `Op`, whose answers are in `Res`. -/
inductive Prog (Op : Type) (Res : Op → Type) (α : Type) : Type
  | done (a : α)
  | await (op : Op) (k : Res op → Prog Op Res α)

/-- A store and the programs over it. -/
structure Pool (S Op : Type) (Res : Op → Type) (α : Type) where
  store : S
  progs : List (Prog Op Res α)

variable {S C Op α : Type} {Res : Op → Type}
variable {perform : (op : Op) → C → S → S × Res op}

/-- What program `i` awaits happens, and the program runs on to its next
await. -/
def resume (perform : (op : Op) → C → S → S × Res op) (i : Nat) (c : C)
    (x : Pool S Op Res α) : Option (Pool S Op Res α) :=
  match x.progs[i]? with
  | some (.await op k) =>
    some ⟨(perform op c x.store).1, x.progs.set i (k (perform op c x.store).2)⟩
  | _ => none

/-- Another program starts. -/
def arrive (p : Prog Op Res α) (x : Pool S Op Res α) : Pool S Op Res α :=
  { x with progs := x.progs ++ [p] }

variable {x y : Pool S Op Res α}

variable {c : C}

theorem resume_some {i : Nat} :
    resume perform i c x = some y
      ↔ ∃ op k, x.progs[i]? = some (.await op k)
        ∧ y.store = (perform op c x.store).1
        ∧ y.progs = x.progs.set i (k (perform op c x.store).2) := by
  unfold resume
  constructor
  · intro h
    split at h
    · next op k hi =>
        cases h
        exact ⟨op, k, hi, rfl, rfl⟩
    · cases h
  · intro h
    obtain ⟨op, k, hi, hs, hp⟩ := h
    rw [hi]
    show some _ = some y
    rw [← hs, ← hp]

theorem resume_store {i : Nat} {op : Op}
    {k : Res op → Prog Op Res α} (hi : x.progs[i]? = some (.await op k))
    (hy : resume perform i c x = some y) :
    y.store = (perform op c x.store).1 := by
  obtain ⟨_, _, hi', hs, -⟩ := resume_some.mp hy
  rw [hi] at hi'
  cases hi'
  exact hs

-- ==== contracts

/-- What a program relies on and promises. -/
structure Contract (S C Op : Type) (Res : Op → Type) (α : Type) where
  /-- What the others may do to the store. -/
  rely : S → S → Prop
  refl : ∀ s, rely s s
  trans : ∀ a b c, rely a b → rely b c → rely a c
  /-- What may happen at an operation. -/
  allowed : Op → C → S → Prop
  /-- What holds at an operation and of how the program goes on. -/
  owes : (op : Op) → (Res op → Prog Op Res α) → S → Prop
  /-- What holds of a result. -/
  ends : α → S → Prop
  lasts : ∀ a s s', rely s s' → ends a s → ends a s'

/-- The program keeps the contract from here on. -/
def Safe (perform : (op : Op) → C → S → S × Res op)
    (K : Contract S C Op Res α) : Prog Op Res α → S → Prop
  | .done a, s => K.ends a s
  | .await op k, s =>
    ∀ s', K.rely s s' → K.owes op k s' ∧
      ∀ c, K.allowed op c s' →
        Safe perform K (k (perform op c s').2) (perform op c s').1

variable {p : Prog Op Res α}

section Safety

variable {K : Contract S C Op Res α}

theorem Safe.later {s s' : S}
    (h : Safe perform K p s) (hs : K.rely s s') : Safe perform K p s' := by
  cases p with
  | done a => exact K.lasts a s s' hs h
  | await op k =>
    intro s'' hs'
    exact h s'' (K.trans s s' s'' hs hs')

theorem Safe.owed {op : Op} {k : Res op → Prog Op Res α} {s : S}
    (h : Safe perform K (.await op k) s) : K.owes op k s :=
  (h s (K.refl s)).1

theorem Safe.next {op : Op} {k : Res op → Prog Op Res α} {s : S}
    (h : Safe perform K (.await op k) s) (hc : K.allowed op c s) :
    Safe perform K (k (perform op c s).2) (perform op c s).1 :=
  (h s (K.refl s)).2 c hc

/-- Every program of the pool is safe in the pool's store. -/
def AllSafe (perform : (op : Op) → C → S → S × Res op)
    (K : Contract S C Op Res α) (x : Pool S Op Res α) : Prop :=
  ∀ p ∈ x.progs, Safe perform K p x.store

theorem safe_arrive {x : Pool S Op Res α}
    (h : AllSafe perform K x) (hp : Safe perform K p x.store) :
    AllSafe perform K (arrive p x) := by
  intro q hq
  rcases List.mem_append.mp hq with hold | hnew
  · exact h q hold
  · rw [List.mem_singleton] at hnew
    subst hnew
    exact hp

/-- A program stays safe through a step the contract relies on, its own
or another's. -/
theorem safe_resume_at {i j : Nat} {op : Op} {k : Res op → Prog Op Res α}
    (hi : x.progs[i]? = some (.await op k))
    (hy : resume perform i c x = some y)
    (hrely : K.rely x.store (perform op c x.store).1)
    (hc : K.allowed op c x.store)
    (hj : x.progs[j]? = some p) (h : Safe perform K p x.store) :
    ∃ q, y.progs[j]? = some q ∧ Safe perform K q y.store := by
  obtain ⟨op', k', hi', hs, hp⟩ := resume_some.mp hy
  rw [hi] at hi'
  cases hi'
  rw [hs, hp]
  by_cases hij : i = j
  · subst hij
    rw [hi] at hj
    cases hj
    obtain ⟨hlt, -⟩ := List.getElem?_eq_some_iff.mp hi
    exact ⟨_, List.getElem?_set_self hlt, h.next hc⟩
  · rw [List.getElem?_set_ne hij]
    exact ⟨p, hj, h.later hrely⟩

/-- A step the contract relies on leaves all programs safe. -/
theorem safe_resume {i : Nat} {op : Op}
    {k : Res op → Prog Op Res α} (h : AllSafe perform K x)
    (hi : x.progs[i]? = some (.await op k))
    (hy : resume perform i c x = some y)
    (hrely : K.rely x.store (perform op c x.store).1)
    (hc : K.allowed op c x.store) : AllSafe perform K y := by
  intro q hq
  obtain ⟨j, hj⟩ := List.mem_iff_getElem?.mp hq
  obtain ⟨op', k', hi', -, hp⟩ := resume_some.mp hy
  have hlt : j < x.progs.length := by
    obtain ⟨hlt, -⟩ := List.getElem?_eq_some_iff.mp hj
    rw [hp, List.length_set] at hlt
    exact hlt
  have hmem : x.progs[j] ∈ x.progs := List.getElem_mem hlt
  obtain ⟨q', hq', hsafe⟩ := safe_resume_at hi hy hrely hc
    (List.getElem?_eq_getElem hlt) (h _ hmem)
  rw [hj] at hq'
  cases hq'
  exact hsafe

end Safety

-- ==== operations

/-- Only operations of the kind `f` are awaited, whatever the answers, and
only results of the kind `g` are come to. -/
def Only (f : Op → Bool) (g : α → Bool) : Prog Op Res α → Prop
  | .done a => g a = true
  | .await op k => f op = true ∧ ∀ r, Only f g (k r)

theorem Only.mono {f f' : Op → Bool} {g g' : α → Bool}
    (hf : ∀ op, f op = true → f' op = true)
    (hg : ∀ a, g a = true → g' a = true) :
    ∀ {p : Prog Op Res α}, Only f g p → Only f' g' p := by
  intro p
  induction p with
  | done a =>
    intro h
    exact hg a h
  | await op k ih =>
    intro h
    exact ⟨hf op h.1, fun r => ih r (h.2 r)⟩

/-- A program is safe that never awaits an operation it would owe
anything at, if its results are as they should. -/
theorem Only.safe {K : Contract S C Op Res α} {f : Op → Bool} {g : α → Bool}
    (howes : ∀ op k s, f op = true → (∀ r, Only f g (k r)) → K.owes op k s)
    (hends : ∀ a s, g a = true → K.ends a s) :
    ∀ {p : Prog Op Res α} {s : S}, Only f g p → Safe perform K p s := by
  intro p
  induction p with
  | done a =>
    intro s h
    exact hends a s h
  | await op k ih =>
    intro s h s' hs
    exact ⟨howes op k s' h.1 h.2, fun c _ => ih _ (h.2 _)⟩

-- ==== counting

/-- The operation a program awaits. -/
def awaited : Prog Op Res α → Option Op
  | .done _ => none
  | .await op _ => some op

/-- What program `i` awaits. -/
def Pool.awaited (x : Pool S Op Res α) (i : Nat) : Option Op :=
  x.progs[i]?.bind Await.awaited

/-- One if the program awaits an operation of the kind `f`. -/
def awaits (f : Op → Bool) : Prog Op Res α → Nat
  | .done _ => 0
  | .await op _ => if f op then 1 else 0

theorem awaits_of_awaited {f : Op → Bool} {op : Op}
    (h : awaited p = some op) : awaits f p = if f op then 1 else 0 := by
  cases p with
  | done a => cases h
  | await op' k =>
    cases h
    rfl

theorem Only.awaits {f f' : Op → Bool} {g : α → Bool}
    (hf : ∀ op, f op = true → f' op = false)
    (h : Only f g p) : awaits f' p = 0 := by
  cases p with
  | done a => rfl
  | await op k =>
    show (if f' op then 1 else 0) = 0
    rw [hf op h.1]
    rfl

/-- How many programs await an operation of the kind `f`. -/
def total (f : Op → Bool) (x : Pool S Op Res α) : Nat :=
  (x.progs.map (awaits f)).sum

theorem total_arrive (f : Op → Bool) (p : Prog Op Res α) (x : Pool S Op Res α) :
    total f (arrive p x) = total f x + awaits f p :=
  Keyed.sum_append_single (awaits f) x.progs p

theorem total_resume {f : Op → Bool} {i : Nat}
    {op : Op} {k : Res op → Prog Op Res α}
    (hi : x.progs[i]? = some (.await op k))
    (hy : resume perform i c x = some y) :
    total f y + (if f op then 1 else 0)
      = total f x + awaits f (k (perform op c x.store).2) := by
  obtain ⟨op', k', hi', -, hp⟩ := resume_some.mp hy
  rw [hi] at hi'
  cases hi'
  unfold total
  rw [hp]
  exact Keyed.sum_set (awaits f) hi (k (perform op c x.store).2)

/-- The program has returned. -/
def Returned : Prog Op Res α → Prop
  | .done _ => True
  | .await _ _ => False

theorem total_returned (f : Op → Bool) {x : Pool S Op Res α}
    (h : ∀ p ∈ x.progs, Returned p) : total f x = 0 := by
  apply List.sum_eq_zero
  intro n hn
  obtain ⟨p, hp, rfl⟩ := List.mem_map.mp hn
  cases p with
  | done a => rfl
  | await op k => exact (h _ hp).elim

end Await
