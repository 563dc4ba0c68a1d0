/-
Programs that live within an allowance.

An operation may hand its program units of some allowance, and may take
units back. `Within` says that a program never has more taken than it
holds, whatever its operations answer. A store issues `cap` units and has
`used` of them spent; `Held` says that what the programs hold is issued
and not spent. One operation's bookkeeping is enough to keep that over
all interleavings: no program can spend what another one holds.
-/
import KamiyoProtocol.Lib.Await

namespace Await

variable {S C Op α : Type} {Res : Op → Type}
variable {perform : (op : Op) → C → S → S × Res op}
variable {gain cost : (op : Op) → Res op → Nat}

-- ==== programs

/-- A program that holds `n` units never spends more than it has. -/
def Within (gain cost : (op : Op) → Res op → Nat) :
    Prog Op Res α → Nat → Prop
  | .done _, _ => True
  | .await op k, n =>
    ∀ r, cost op r ≤ n + gain op r
      ∧ Within gain cost (k r) (n + gain op r - cost op r)

theorem Within.mono : ∀ {p : Prog Op Res α} {m n : Nat},
    Within gain cost p m → m ≤ n → Within gain cost p n := by
  intro p
  induction p with
  | done a =>
    intro m n _ _
    trivial
  | await op k ih =>
    intro m n h hmn r
    obtain ⟨hcost, hrest⟩ := h r
    refine ⟨by omega, ih r hrest (by omega)⟩

theorem Only.within {f : Op → Bool} {g : α → Bool}
    (hf : ∀ op r, f op = true → cost op r = 0) :
    ∀ {p : Prog Op Res α} {n : Nat}, Only f g p → Within gain cost p n := by
  intro p
  induction p with
  | done a =>
    intro n _
    trivial
  | await op k ih =>
    intro n h r
    rw [hf op r h.1]
    exact ⟨Nat.zero_le _, ih r (h.2 r)⟩

-- ==== pools

/-- What the programs hold is issued and not spent. -/
def Held (gain cost : (op : Op) → Res op → Nat) (used cap : S → Nat)
    (x : Pool S Op Res α) : Prop :=
  ∃ held : List Nat, List.Forall₂ (Within gain cost) x.progs held
    ∧ held.sum + used x.store ≤ cap x.store

variable {used cap : S → Nat}

theorem Held.le {x : Pool S Op Res α} (h : Held gain cost used cap x) :
    used x.store ≤ cap x.store := by
  obtain ⟨held, -, hle⟩ := h
  omega

theorem held_start {x : Pool S Op Res α} (hprogs : x.progs = [])
    (hused : used x.store ≤ cap x.store) : Held gain cost used cap x := by
  refine ⟨[], ?_, ?_⟩
  · rw [hprogs]
    exact List.Forall₂.nil
  · simpa using hused

theorem held_arrive {p : Prog Op Res α} {x : Pool S Op Res α}
    (h : Held gain cost used cap x) (hp : Within gain cost p 0) :
    Held gain cost used cap (arrive p x) := by
  obtain ⟨held, hall, hle⟩ := h
  refine ⟨held ++ [0], ?_, ?_⟩
  · exact List.rel_append hall (List.Forall₂.cons hp List.Forall₂.nil)
  · show (held ++ [0]).sum + used x.store ≤ cap x.store
    simpa using hle

theorem forall₂_set {β γ : Type} {R : β → γ → Prop} {l : List β}
    {m : List γ} (h : List.Forall₂ R l m) (i : Nat) {b : β} {c : γ}
    (hbc : R b c) : List.Forall₂ R (l.set i b) (m.set i c) := by
  induction h generalizing i with
  | nil => exact List.Forall₂.nil
  | cons hd tl ih =>
    cases i with
    | zero => exact List.Forall₂.cons hbc tl
    | succ i => exact List.Forall₂.cons hd (ih i)

/-- An operation that is paid for out of what its program holds, or what
it issues, leaves everything held. -/
theorem held_resume {x y : Pool S Op Res α} {i : Nat} {c : C} {op : Op}
    {k : Res op → Prog Op Res α} (h : Held gain cost used cap x)
    (hi : x.progs[i]? = some (.await op k))
    (hy : resume perform i c x = some y)
    (hop : used (perform op c x.store).1 + gain op (perform op c x.store).2
        + cap x.store
      ≤ used x.store + cost op (perform op c x.store).2
        + cap (perform op c x.store).1) :
    Held gain cost used cap y := by
  obtain ⟨op', k', hi', hs, hp⟩ := resume_some.mp hy
  rw [hi] at hi'
  cases hi'
  obtain ⟨held, hall, hle⟩ := h
  obtain ⟨hlt, hval⟩ := List.getElem?_eq_some_iff.mp hi
  have hlt' : i < held.length := by
    rw [← hall.length_eq]
    exact hlt
  have hat : Within gain cost (.await op k) held[i] := by
    have hget := hall.get hlt hlt'
    rw [List.get_eq_getElem, hval] at hget
    exact hget
  obtain ⟨hcost, hrest⟩ := hat (perform op c x.store).2
  refine ⟨held.set i (held[i] + gain op (perform op c x.store).2
    - cost op (perform op c x.store).2), ?_, ?_⟩
  · rw [hp]
    exact forall₂_set hall i hrest
  · have hsum := Keyed.sum_set (fun n : Nat => n)
      (List.getElem?_eq_getElem hlt') (held[i]
        + gain op (perform op c x.store).2 - cost op (perform op c x.store).2)
    rw [List.map_id', List.map_id'] at hsum
    rw [hs]
    omega

end Await
