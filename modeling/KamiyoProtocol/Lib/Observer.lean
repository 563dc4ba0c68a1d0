/-
Programs under observation.

An `Observer` keeps a note of each program. The note says which
operations the program may await next, grows with every answer the
program gets, and says in the end what its result has to be. `Obeys` is
to keep to one's note from here on, whatever the answers. Notes are
private to their programs, so the steps of the others leave them alone
(`observed_resume`): what a program was told stays on record while the
rest of the pool runs on.
-/
import KamiyoProtocol.Lib.Await

namespace Await

variable {S C Op α N : Type} {Res : Op → Type}
variable {perform : (op : Op) → C → S → S × Res op}

-- ==== programs

/-- What is noted of a program. -/
structure Observer (Op : Type) (Res : Op → Type) (α N : Type) where
  /-- The program may await the operation. -/
  permits : Op → N → Prop
  /-- The note once the operation is answered. -/
  note : (op : Op) → Res op → N → N
  /-- The program may come to the result. -/
  ends : α → N → Prop

/-- The program keeps to its note. -/
def Obeys (O : Observer Op Res α N) : Prog Op Res α → N → Prop
  | .done a, n => O.ends a n
  | .await op k, n => O.permits op n ∧ ∀ r, Obeys O (k r) (O.note op r n)

variable {O : Observer Op Res α N}

/-- A program of operations that are permitted wherever `J` holds, and
leave it so. -/
theorem Only.obeys {f : Op → Bool} {g : α → Bool} {J : N → Prop}
    (hpermits : ∀ op n, f op = true → J n → O.permits op n)
    (hnote : ∀ op r n, f op = true → J n → J (O.note op r n))
    (hends : ∀ a n, g a = true → J n → O.ends a n) :
    ∀ {p : Prog Op Res α} {n : N}, Only f g p → J n → Obeys O p n := by
  intro p
  induction p with
  | done a =>
    intro n h hn
    exact hends a n h hn
  | await op k ih =>
    intro n h hn
    refine ⟨hpermits op n h.1 hn, ?_⟩
    intro r
    exact ih r (h.2 r) (hnote op r n h.1 hn)

-- ==== pools

/-- Every program of the pool keeps to its note. -/
def Observed (O : Observer Op Res α N) (x : Pool S Op Res α)
    (notes : List N) : Prop :=
  List.Forall₂ (Obeys O) x.progs notes

variable {x y : Pool S Op Res α} {notes : List N}

theorem Observed.at {i : Nat} {p : Prog Op Res α} (h : Observed O x notes)
    (hi : x.progs[i]? = some p) : ∃ n, notes[i]? = some n ∧ Obeys O p n := by
  obtain ⟨hlt, hval⟩ := List.getElem?_eq_some_iff.mp hi
  have hlt' : i < notes.length := by
    rw [← List.Forall₂.length_eq h]
    exact hlt
  refine ⟨notes[i], List.getElem?_eq_getElem hlt', ?_⟩
  have hget := List.Forall₂.get h hlt hlt'
  rw [List.get_eq_getElem, hval] at hget
  exact hget

theorem observed_arrive {p : Prog Op Res α} {n : N}
    (h : Observed O x notes) (hp : Obeys O p n) :
    Observed O (arrive p x) (notes ++ [n]) :=
  List.rel_append h (List.Forall₂.cons hp List.Forall₂.nil)

/-- A list changed in one place, and its notes with it. -/
theorem forall₂_set_modify {β γ : Type} {R : β → γ → Prop} {l : List β}
    {m : List γ} (h : List.Forall₂ R l m) {i : Nat} {b : β} {f : γ → γ}
    (hf : ∀ c, m[i]? = some c → R b (f c)) :
    List.Forall₂ R (l.set i b) (m.modify i f) := by
  induction h generalizing i with
  | nil =>
    rw [List.set_nil, List.modify_nil]
    exact List.Forall₂.nil
  | @cons a c l m hd tl ih =>
    cases i with
    | zero => exact List.Forall₂.cons (hf c rfl) tl
    | succ i => exact List.Forall₂.cons hd (ih hf)

/-- A program that is answered keeps to its note, and so do the
others. -/
theorem observed_resume {i : Nat} {c : C} {op : Op}
    {k : Res op → Prog Op Res α} (h : Observed O x notes)
    (hi : x.progs[i]? = some (.await op k))
    (hy : resume perform i c x = some y) :
    Observed O y (notes.modify i (O.note op (perform op c x.store).2)) := by
  obtain ⟨op', k', hi', -, hp⟩ := resume_some.mp hy
  rw [hi] at hi'
  cases hi'
  unfold Observed
  rw [hp]
  apply forall₂_set_modify h
  intro n hn
  obtain ⟨n', hn', hobeys⟩ := h.at hi
  rw [hn] at hn'
  cases hn'
  exact hobeys.2 _

end Await
