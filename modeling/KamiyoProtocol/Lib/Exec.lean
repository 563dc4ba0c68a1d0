/-
Executions of a fallible transition function: the shared spine of every
system in this development.

A system is a function `step : A → S → Except E S` that either moves to
a new state or refuses. A run is a list of actions that are all
accepted; a refused action leaves no trace, so the states reached by
runs are exactly the states reached with refusals interleaved.

# The rules

- `run_induct` is the plain invariant rule: what one accepted step
  preserves, a whole run preserves.
- `run_induct_log` is the same for invariants of the actions so far and
  the state together.
- `run_induct_meets` is its conditional form. `Meets step cond s tr`
  says that every action of `tr` satisfies `cond` in the state it is
  taken from; the rule asks for preservation under `cond` only.
- `throughout_iff_meets` turns a step-level equivalence into a
  run-level one: when, from a good state, the next state is good exactly
  if the step meets `cond`, a run stays good exactly if all its steps
  meet `cond`.
- `tracked` carries a ghost beside the state; runs lift to it and back.
- `throughout_of_budgeted` is the potential rule: steps raise a
  potential by their cost, and a run stays good while the costs run up
  stay below what the states allow.

The first section is the inversion kit for `do` blocks in `Except`: a
block that succeeded succeeded at every bind.
-/
import Mathlib.Algebra.Ring.Int.Defs
import Mathlib.Algebra.Ring.Nat
import Mathlib.Data.List.Basic

namespace Exec

-- ==== inversion of binds

section Binds

variable {E α β γ δ ε : Type}

theorem bind_ok {x : Except E α} {f : α → Except E β} {b : β} :
    (x >>= f) = .ok b ↔ ∃ a, x = .ok a ∧ f a = .ok b := by
  cases x with
  | error e =>
    constructor
    · intro h
      cases h
    · rintro ⟨a, ha, -⟩
      cases ha
  | ok a =>
    constructor
    · intro h
      exact ⟨a, rfl, h⟩
    · rintro ⟨a', ha, hb⟩
      cases ha
      exact hb

section Steps

variable {x : Except E α} {f : α → Except E β} {g : α → β → Except E γ}
  {h : α → β → γ → Except E δ} {k : α → β → γ → δ → Except E ε}

/-- Two steps at once, and three, and four. -/
theorem bind_ok₂ {c : γ} : (x >>= fun a => f a >>= g a) = .ok c
    ↔ ∃ a, x = .ok a ∧ ∃ b, f a = .ok b ∧ g a b = .ok c := by
  simp only [bind_ok]

theorem bind_ok₃ {d : δ} :
    (x >>= fun a => f a >>= fun b => g a b >>= h a b) = .ok d
    ↔ ∃ a, x = .ok a ∧ ∃ b, f a = .ok b ∧ ∃ c, g a b = .ok c
      ∧ h a b c = .ok d := by
  simp only [bind_ok]

theorem bind_ok₄ {e : ε} :
    (x >>= fun a => f a >>= fun b => g a b >>= fun c => h a b c >>= k a b c)
      = .ok e
    ↔ ∃ a, x = .ok a ∧ ∃ b, f a = .ok b ∧ ∃ c, g a b = .ok c
      ∧ ∃ d, h a b c = .ok d ∧ k a b c d = .ok e := by
  simp only [bind_ok]

end Steps

theorem bind_isOk {x : Except E α} {f : α → Except E β} {a : α}
    (hx : x = .ok a) (hf : ∃ b, f a = .ok b) : ∃ b, (x >>= f) = .ok b := by
  obtain ⟨b, hb⟩ := hf
  exact ⟨b, bind_ok.mpr ⟨a, hx, hb⟩⟩

theorem pure_ok {a b : α} : (pure a : Except E α) = .ok b ↔ a = b := by
  constructor
  · intro h
    cases h
    rfl
  · rintro rfl
    rfl

/-- Turn an absent value into a refusal. -/
def okOr (o : Option α) (e : E) : Except E α :=
  match o with
  | some a => .ok a
  | none => .error e

theorem okOr_ok {o : Option α} {e : E} {a : α} :
    okOr o e = .ok a ↔ o = some a := by
  cases o with
  | none => simp [okOr]
  | some b => simp [okOr]

/-- Refuse with `e` unless `c` holds. -/
def require (c : Prop) [Decidable c] (e : E) : Except E Unit :=
  if c then .ok () else .error e

theorem require_ok {c : Prop} [Decidable c] {e : E} {u : Unit} :
    require c e = .ok u ↔ c := by
  unfold require
  split
  · simp [*]
  · simp [*]

theorem require_isOk {c : Prop} [Decidable c] {e : E}
    {f : Unit → Except E β} (hc : c) (hf : ∃ b, f () = .ok b) :
    ∃ b, (require c e >>= f) = .ok b :=
  bind_isOk (require_ok.mpr hc) hf

end Binds

-- ==== two executions

section Twins

variable {E S T : Type}

/-- Two outcomes that are both refusals, or both states in relation. -/
inductive Alike (R : S → T → Prop) : Except E S → Except E T → Prop
  | ok {s : S} {t : T} (h : R s t) : Alike R (.ok s) (.ok t)
  | error (e e' : E) : Alike R (.error e) (.error e')

/-- A check that both pass, or neither. -/
theorem Alike.require {R : S → T → Prop} {c c' : Prop} [Decidable c]
    [Decidable c'] {e e' : E} {f : Unit → Except E S} {g : Unit → Except E T}
    (hc : c ↔ c') (h : c → Alike R (f ()) (g ())) :
    Alike R (Exec.require c e >>= f) (Exec.require c' e' >>= g) := by
  by_cases hcond : c
  · have hleft : Exec.require c e = .ok () := require_ok.mpr hcond
    have hright : Exec.require c' e' = .ok () := require_ok.mpr (hc.mp hcond)
    rw [hleft, hright]
    exact h hcond
  · have hleft : Exec.require c e = .error e := if_neg hcond
    have hright : Exec.require c' e' = .error e' :=
      if_neg fun h => hcond (hc.mpr h)
    rw [hleft, hright]
    exact .error e e'

theorem Alike.getD {R : S → T → Prop} {x : Except E S} {y : Except E T}
    {s : S} {t : T} (h : Alike R x y) (hR : R s t) :
    R (x.toOption.getD s) (y.toOption.getD t) := by
  cases h with
  | ok h => exact h
  | error => exact hR

theorem Alike.map {S' T' : Type} {R : S → T → Prop} {R' : S' → T' → Prop}
    {x : Except E S} {y : Except E T} {f : S → S'} {g : T → T'}
    (h : Alike R x y) (hf : ∀ s t, R s t → R' (f s) (g t)) :
    Alike R' (x.map f) (y.map g) := by
  cases h with
  | ok h => exact .ok (hf _ _ h)
  | error e e' => exact .error e e'

end Twins

-- ==== runs

section Runs

variable {S A E : Type} {step : A → S → Except E S}

/-- Run a list of actions from a state, stopping at the first refusal. -/
def run (step : A → S → Except E S) (s : S) : List A → Except E S
  | [] => .ok s
  | a :: rest =>
    match step a s with
    | .ok s' => run step s' rest
    | .error e => .error e

@[simp] theorem run_nil (s : S) : run step s [] = .ok s := rfl

variable {s s' : S}

theorem run_cons {a : A} {rest : List A} :
    run step s (a :: rest) = .ok s'
      ↔ ∃ m, step a s = .ok m ∧ run step m rest = .ok s' := by
  have hrun : run step s (a :: rest)
      = step a s >>= fun m => run step m rest := by
    show (match step a s with
      | .ok m => run step m rest
      | .error e => .error e) = _
    cases step a s with
    | error e => rfl
    | ok m => rfl
  rw [hrun, bind_ok]

theorem run_append {tr tr' : List A} :
    run step s (tr ++ tr') = .ok s'
      ↔ ∃ m, run step s tr = .ok m ∧ run step m tr' = .ok s' := by
  induction tr generalizing s with
  | nil => simp
  | cons a rest ih =>
    rw [List.cons_append, run_cons]
    constructor
    · rintro ⟨m, ha, hr⟩
      obtain ⟨k, hk, hr'⟩ := ih.mp hr
      exact ⟨k, run_cons.mpr ⟨m, ha, hk⟩, hr'⟩
    · rintro ⟨k, hk, hr'⟩
      obtain ⟨m, ha, hr⟩ := run_cons.mp hk
      exact ⟨m, ha, ih.mpr ⟨k, hr, hr'⟩⟩

/-- The states some run from `init` ends in. -/
def Reachable (step : A → S → Except E S) (init : S → Prop) (s : S) :
    Prop :=
  ∃ s₀ tr, init s₀ ∧ run step s₀ tr = .ok s

variable {tr : List A}

theorem Reachable.run {init : S → Prop}
    (hs : Reachable step init s) (hr : run step s tr = .ok s') :
    Reachable step init s' := by
  obtain ⟨s₀, tr₀, h0, hr₀⟩ := hs
  exact ⟨s₀, tr₀ ++ tr, h0, run_append.mpr ⟨s, hr₀, hr⟩⟩

theorem Reachable.next {init : S → Prop} {a : A}
    (hs : Reachable step init s) (ha : step a s = .ok s') :
    Reachable step init s' := by
  have hone : Exec.run step s [a] = .ok s' := run_cons.mpr ⟨s', ha, rfl⟩
  exact hs.run hone

-- ==== invariant rules

variable {I : S → Prop}

theorem run_induct (hstep : ∀ a s s', I s → step a s = .ok s' → I s') :
    ∀ {s s' : S}, I s → run step s tr = .ok s' → I s' := by
  induction tr with
  | nil =>
    intro s s' hI hrun
    cases hrun
    exact hI
  | cons a rest ih =>
    intro s s' hI hrun
    obtain ⟨m, ha, hr⟩ := run_cons.mp hrun
    exact ih (hstep a s m hI ha) hr

/-- The rule for invariants that also speak of the actions taken so
far. -/
theorem run_induct_log {I : List A → S → Prop}
    (hstep : ∀ p a s s', I p s → step a s = .ok s' → I (p ++ [a]) s')
    :
    ∀ {p : List A} {s s' : S}, I p s → run step s tr = .ok s' →
      I (p ++ tr) s' := by
  induction tr with
  | nil =>
    intro p s s' hI hrun
    cases hrun
    rw [List.append_nil]
    exact hI
  | cons a rest ih =>
    intro p s s' hI hrun
    obtain ⟨m, ha, hr⟩ := run_cons.mp hrun
    have hcut : p ++ a :: rest = (p ++ [a]) ++ rest := by simp
    rw [hcut]
    exact ih (hstep p a s m hI ha) hr

theorem reachable_induct {I init : S → Prop} (h0 : ∀ s, init s → I s)
    (hstep : ∀ a s s', I s → step a s = .ok s' → I s') {s : S}
    (hs : Reachable step init s) : I s := by
  obtain ⟨s₀, tr, hi, hr⟩ := hs
  exact run_induct hstep (h0 s₀ hi) hr

/-- Every action of the list satisfies `cond` in the state it is taken
from. -/
def Meets (step : A → S → Except E S) (cond : A → S → Prop) (s : S) :
    List A → Prop
  | [] => True
  | a :: rest =>
    cond a s ∧ ∀ s', step a s = .ok s' → Meets step cond s' rest

variable {cond : A → S → Prop}

theorem meets_append {tr tr' : List A} :
    ∀ {s m : S}, Meets step cond s (tr ++ tr') → run step s tr = .ok m →
      Meets step cond s tr ∧ Meets step cond m tr' := by
  induction tr with
  | nil =>
    intro s m hm hrun
    cases hrun
    exact ⟨trivial, hm⟩
  | cons a rest ih =>
    intro s m hm hrun
    obtain ⟨k, ha, hr⟩ := run_cons.mp hrun
    obtain ⟨hhead, htail⟩ := ih (hm.2 k ha) hr
    refine ⟨⟨hm.1, ?_⟩, htail⟩
    intro k' hk'
    rw [ha] at hk'
    cases hk'
    exact hhead

theorem meets_iff_cut {s : S} :
    Meets step cond s tr
      ↔ ∀ p a q m, tr = p ++ a :: q → run step s p = .ok m → cond a m := by
  induction tr generalizing s with
  | nil =>
    constructor
    · intro _ p a q m hcut _
      cases p with
      | nil => cases hcut
      | cons b p => cases hcut
    · intro _
      trivial
  | cons b rest ih =>
    constructor
    · intro h p a q m hcut hrun
      cases p with
      | nil =>
        cases hrun
        cases hcut
        exact h.1
      | cons b' p =>
        cases hcut
        obtain ⟨m', hb, hr⟩ := run_cons.mp hrun
        exact ih.mp (h.2 m' hb) p a q m rfl hr
    · intro h
      refine ⟨h [] b rest s rfl rfl, ?_⟩
      intro s' hb
      refine ih.mpr ?_
      intro p a q m hcut hrun
      exact h (b :: p) a q m (by rw [hcut]; rfl)
        (run_cons.mpr ⟨s', hb, hrun⟩)

variable {P Q : A → S → Prop}

theorem meets_mono (h : ∀ a s, P a s → Q a s) :
    ∀ {s : S}, Meets step P s tr → Meets step Q s tr := by
  induction tr with
  | nil =>
    intro s _
    trivial
  | cons a rest ih =>
    intro s hm
    exact ⟨h a s hm.1, fun s' hs' => ih (hm.2 s' hs')⟩

theorem meets_and {P : A → Prop} :
    ∀ {s : S}, (∀ a ∈ tr, P a) → Meets step cond s tr →
      Meets step (fun a s => P a ∧ cond a s) s tr := by
  induction tr with
  | nil =>
    intro s _ _
    trivial
  | cons a rest ih =>
    intro s hP hm
    refine ⟨⟨hP a (List.mem_cons_self ..), hm.1⟩, ?_⟩
    intro s' hs'
    exact ih (fun b hb => hP b (List.mem_cons_of_mem _ hb)) (hm.2 s' hs')

theorem meets_both :
    ∀ {s : S}, Meets step P s tr → Meets step Q s tr →
      Meets step (fun a s => P a s ∧ Q a s) s tr := by
  induction tr with
  | nil =>
    intro s _ _
    trivial
  | cons a rest ih =>
    intro s hP hQ
    exact ⟨⟨hP.1, hQ.1⟩, fun s' hs' => ih (hP.2 s' hs') (hQ.2 s' hs')⟩

/-- The conditional invariant rule: preservation is owed only by the
steps that meet `cond`. -/
theorem run_induct_meets
    (hstep : ∀ a s s', I s → cond a s → step a s = .ok s' → I s')
    :
    ∀ {s s' : S}, I s → Meets step cond s tr →
      run step s tr = .ok s' → I s' := by
  induction tr with
  | nil =>
    intro s s' hI _ hrun
    cases hrun
    exact hI
  | cons a rest ih =>
    intro s s' hI hm hrun
    obtain ⟨m, ha, hr⟩ := run_cons.mp hrun
    exact ih (hstep a s m hI hm.1 ha) (hm.2 m ha) hr

/-- The invariant rule on top of what is known of the run's states: `P`
holds wherever a beginning of the run gets to. -/
theorem run_induct_cut {P I : S → Prop}
    (hP : ∀ p q m, tr = p ++ q → Meets step cond s p →
      run step s p = .ok m → P m)
    (hstep : ∀ a m m', P m → P m' → I m → cond a m → step a m = .ok m' → I m')
    (h₀ : I s) (hm : Meets step cond s tr) (hrun : run step s tr = .ok s') :
    I s' := by
  -- on the rest of the run, from any cut
  have hcut : ∀ (q p : List A) (m : S), tr = p ++ q →
      run step s p = .ok m → I m → run step m q = .ok s' → I s' := by
    intro q
    induction q with
    | nil =>
      intro p m _ _ hI hq
      cases hq
      exact hI
    | cons a rest ih =>
      intro p m htr hp hI hq
      obtain ⟨m', ha, hrest⟩ := run_cons.mp hq
      have htr' : tr = (p ++ [a]) ++ rest := by
        rw [htr, List.append_assoc]
        rfl
      have hp' : run step s (p ++ [a]) = .ok m' :=
        run_append.mpr ⟨m, hp, run_cons.mpr ⟨m', ha, rfl⟩⟩
      have hcond : cond a m := meets_iff_cut.mp hm p a rest m htr hp
      have hmeets : ∀ {l r : List A} {k : S}, tr = l ++ r →
          run step s l = .ok k → Meets step cond s l := by
        intro l r k hlr hl
        rw [hlr] at hm
        exact (meets_append hm hl).1
      refine ih (p ++ [a]) m' htr' hp' ?_ hrest
      exact hstep a m m' (hP p (a :: rest) m htr (hmeets htr hp) hp)
        (hP _ rest m' htr' (hmeets htr' hp') hp') hI hcond ha
  exact hcut tr [] s rfl rfl h₀ hrun

/-- Every step relates its end states by a preorder, hence so does a
run. -/
theorem run_rel {R : S → S → Prop} (hrefl : ∀ s, R s s)
    (htrans : ∀ s m s', R s m → R m s' → R s s')
    (hstep : ∀ a s s', step a s = .ok s' → R s s') :
    ∀ {s s' : S}, run step s tr = .ok s' → R s s' := by
  induction tr with
  | nil =>
    intro s s' hrun
    cases hrun
    exact hrefl s
  | cons a rest ih =>
    intro s s' hrun
    obtain ⟨m, ha, hr⟩ := run_cons.mp hrun
    exact htrans s m s' (hstep a s m ha) (ih hr)

/-- Along an accepted run with an invariant, one condition gives
another. -/
theorem meets_of_induct
    (hstep : ∀ a s s', I s → P a s → step a s = .ok s' → Q a s ∧ I s')
    : ∀ {s s' : S}, I s → run step s tr = .ok s' →
      Meets step P s tr → Meets step Q s tr := by
  induction tr with
  | nil =>
    intro s s' _ _ _
    trivial
  | cons a rest ih =>
    intro s s' hI hrun hm
    obtain ⟨m, ha, hr⟩ := run_cons.mp hrun
    obtain ⟨hQ, hI'⟩ := hstep a s m hI hm.1 ha
    refine ⟨hQ, ?_⟩
    intro k hk
    rw [ha] at hk
    cases hk
    exact ih hI' hr (hm.2 m ha)

/-- Conditions that agree on the accepted steps agree on an accepted
run. -/
theorem meets_congr (h : ∀ a s s', step a s = .ok s' → (P a s ↔ Q a s))
    (hrun : run step s tr = .ok s') :
    Meets step P s tr ↔ Meets step Q s tr :=
  ⟨meets_of_induct (I := fun _ => True)
      (fun a s s' _ hP hs => ⟨(h a s s' hs).mp hP, trivial⟩) trivial hrun,
    meets_of_induct (I := fun _ => True)
      (fun a s s' _ hQ hs => ⟨(h a s s' hs).mpr hQ, trivial⟩) trivial hrun⟩

/-- `P` holds in the start state and after every prefix of the run. -/
def Throughout (step : A → S → Except E S) (P : S → Prop) (s : S) :
    List A → Prop
  | [] => P s
  | a :: rest =>
    P s ∧ ∀ s', step a s = .ok s' → Throughout step P s' rest

theorem throughout_iff_prefix {P : S → Prop} {s : S} :
    Throughout step P s tr
      ↔ ∀ p q m, tr = p ++ q → run step s p = .ok m → P m := by
  induction tr generalizing s with
  | nil =>
    constructor
    · intro h p q m hpq hrun
      obtain ⟨rfl, rfl⟩ := List.append_eq_nil_iff.mp hpq.symm
      cases hrun
      exact h
    · intro h
      exact h [] [] s rfl rfl
  | cons a rest ih =>
    constructor
    · intro h p q m hpq hrun
      cases p with
      | nil =>
        cases hrun
        exact h.1
      | cons b p =>
        obtain ⟨rfl, rfl⟩ := List.cons_eq_cons.mp hpq
        obtain ⟨m', hb, hr⟩ := run_cons.mp hrun
        exact ih.mp (h.2 m' hb) p q m rfl hr
    · intro h
      refine ⟨h [] (a :: rest) s rfl rfl, ?_⟩
      intro s' ha
      refine ih.mpr ?_
      intro p q m hpq hrun
      exact h (a :: p) q m (by rw [hpq]; rfl)
        (run_cons.mpr ⟨s', ha, hrun⟩)

/-- A step-level equivalence lifts to runs: from good states the next
state is good exactly when the step meets `cond`, so an accepted run
stays good exactly when all its steps meet `cond`. -/
theorem throughout_iff_meets {P : S → Prop}
    (J : S → Prop) (hJ : ∀ a s s', J s → step a s = .ok s' → J s')
    (hstep : ∀ a s s', J s → P s → step a s = .ok s' → (P s' ↔ cond a s)) :
    ∀ {s s' : S}, J s → P s → run step s tr = .ok s' →
      (Throughout step P s tr ↔ Meets step cond s tr) := by
  induction tr with
  | nil =>
    intro s s' _ hP _
    exact ⟨fun _ => trivial, fun _ => hP⟩
  | cons a rest ih =>
    intro s s' hs hP hrun
    obtain ⟨m, ha, hr⟩ := run_cons.mp hrun
    have hm := hJ a s m hs ha
    have hcond := hstep a s m hs hP ha
    constructor
    · rintro ⟨-, hrest⟩
      have hPm : P m := by
        have h := throughout_iff_prefix.mp (hrest m ha)
        exact h [] rest m rfl rfl
      refine ⟨hcond.mp hPm, ?_⟩
      intro k hk
      obtain rfl : m = k := by
        rw [ha] at hk
        cases hk
        rfl
      exact (ih hm hPm hr).mp (hrest m ha)
    · rintro ⟨hc, hrest⟩
      refine ⟨hP, ?_⟩
      intro k hk
      obtain rfl : m = k := by
        rw [ha] at hk
        cases hk
        rfl
      exact (ih hm (hcond.mpr hc) hr).mpr (hrest m ha)

-- ==== budgets

/-- The running total of `cost`, starting from `c`, is below `bound` in
the start state and after every prefix of the run. -/
def Budgeted (step : A → S → Except E S) (cost : A → S → Int)
    (bound : S → Int) (c : Int) (s : S) : List A → Prop
  | [] => c < bound s
  | a :: rest =>
    c < bound s ∧
      ∀ s', step a s = .ok s' → Budgeted step cost bound (c + cost a s) s' rest

theorem Budgeted.start {cost : A → S → Int} {bound : S → Int} {c : Int}
    {s : S} (h : Budgeted step cost bound c s tr) :
    c < bound s := by
  cases tr with
  | nil => exact h
  | cons a rest => exact h.1

theorem Throughout.start {P : S → Prop} {s : S}
    (h : Throughout step P s tr) : P s := by
  cases tr with
  | nil => exact h
  | cons a rest => exact h.1

/-- The potential rule. A step raises the potential `V` by its cost at
most, and a state whose potential is below its bound is good; then a run
within its budget stays good. The step and the state are owed only where
`Q` holds, which the run does throughout. -/
theorem throughout_of_budgeted {I Q P : S → Prop} {V : S → Int}
    {cost : A → S → Int} {bound : S → Int}
    (hstep : ∀ a s s', I s → Q s → step a s = .ok s' →
      I s' ∧ V s' ≤ V s + cost a s)
    (hgood : ∀ s, I s → Q s → V s < bound s → P s) :
    ∀ {s : S} {c : Int}, I s → V s ≤ c → Throughout step Q s tr →
      Budgeted step cost bound c s tr → Throughout step P s tr := by
  induction tr with
  | nil =>
    intro s c hI hV hQ hc
    have hlt : V s < bound s := by
      have := hc.start
      omega
    exact hgood s hI hQ.start hlt
  | cons a rest ih =>
    intro s c hI hV hQ hc
    have hlt : V s < bound s := by
      have := hc.start
      omega
    refine ⟨hgood s hI hQ.start hlt, ?_⟩
    intro s' ha
    obtain ⟨hI', hV'⟩ := hstep a s s' hI hQ.start ha
    exact ih hI' (by omega) (hQ.2 s' ha) (hc.2 s' ha)

-- ==== ghosts

/-- The system with a ghost beside its state, which accepted steps
update and nothing reads. -/
def tracked {G : Type} (step : A → S → Except E S) (track : A → S → G → G)
    (a : A) (x : S × G) : Except E (S × G) :=
  match step a x.1 with
  | .ok s' => .ok (s', track a x.1 x.2)
  | .error e => .error e

theorem tracked_ok {G : Type} {track : A → S → G → G} {a : A} {x y : S × G} :
    tracked step track a x = .ok y
      ↔ step a x.1 = .ok y.1 ∧ y.2 = track a x.1 x.2 := by
  unfold tracked
  cases step a x.1 with
  | error e => simp
  | ok s' =>
    constructor
    · intro h
      cases h
      exact ⟨rfl, rfl⟩
    · intro h
      obtain ⟨hs, hg⟩ := h
      cases hs
      rw [← hg]

theorem run_tracked {G : Type} (track : A → S → G → G) :
    ∀ {s s' : S} (g : G), run step s tr = .ok s' →
      ∃ g', run (tracked step track) (s, g) tr = .ok (s', g') := by
  induction tr with
  | nil =>
    intro s s' g hrun
    cases hrun
    exact ⟨g, rfl⟩
  | cons a rest ih =>
    intro s s' g hrun
    obtain ⟨m, ha, hr⟩ := run_cons.mp hrun
    obtain ⟨g', hg'⟩ := ih (track a s g) hr
    exact ⟨g', run_cons.mpr ⟨(m, track a s g), tracked_ok.mpr ⟨ha, rfl⟩, hg'⟩⟩

theorem run_of_tracked {G : Type} {track : A → S → G → G} :
    ∀ {x y : S × G}, run (tracked step track) x tr = .ok y →
      run step x.1 tr = .ok y.1 := by
  induction tr with
  | nil =>
    intro x y hrun
    cases hrun
    rfl
  | cons a rest ih =>
    intro x y hrun
    obtain ⟨m, ha, hr⟩ := run_cons.mp hrun
    exact run_cons.mpr ⟨m.1, (tracked_ok.mp ha).1, ih hr⟩

-- ==== crossings

/-- How many steps of the run leave `p`. -/
def crossings (step : A → S → Except E S) (p : S → Bool) (s : S) :
    List A → Nat
  | [] => 0
  | a :: rest =>
    match step a s with
    | .ok s' =>
      (if p s = true ∧ p s' = false then 1 else 0) + crossings step p s' rest
    | .error _ => 0

/-- A property that, once left, is never entered again is left at most
once, and exactly once on the way from inside to outside. -/
theorem crossings_eq {p : S → Bool}
    (hI : ∀ a s s', I s → step a s = .ok s' → I s')
    (habs : ∀ a s s', I s → step a s = .ok s' → p s = false → p s' = false)
    :
    ∀ {s s' : S}, I s → run step s tr = .ok s' →
      crossings step p s tr = if p s = true ∧ p s' = false then 1 else 0 := by
  induction tr with
  | nil =>
    intro s s' _ hrun
    cases hrun
    cases hp : p s with
    | false => simp [crossings]
    | true => simp [crossings]
  | cons a rest ih =>
    intro s s' hs hrun
    obtain ⟨m, ha, hr⟩ := run_cons.mp hrun
    have hrest := ih (hI a s m hs ha) hr
    rw [crossings, ha]
    dsimp only
    rw [hrest]
    cases hp : p s with
    | false =>
      have hm := habs a s m hs ha hp
      simp [hm]
    | true =>
      cases hm : p m with
      | false =>
        have hend : p s' = false :=
          (run_induct (I := fun x => I x ∧ p x = false)
            (fun b x y hx hy => ⟨hI b x y hx.1 hy, habs b x y hx.1 hy hx.2⟩)
            ⟨hI a s m hs ha, hm⟩ hr).2
        simp [hend]
      | true => simp

-- ==== evaluation

/-- The outcome succeeded in a state passing the test. -/
def check (p : S → Bool) : Except E S → Bool
  | .ok s => p s
  | .error _ => false

theorem check_ok {p : S → Bool} {x : Except E S} (h : check p x = true) :
    ∃ s, x = .ok s ∧ p s = true := by
  cases x with
  | ok s => exact ⟨s, rfl, h⟩
  | error e => cases h

/-- Every action of the list passes the test in the state it is taken
from. -/
def checkMeets (step : A → S → Except E S) (test : A → S → Bool) (s : S) :
    List A → Bool
  | [] => true
  | a :: rest =>
    test a s && (match step a s with
      | .ok s' => checkMeets step test s' rest
      | .error _ => true)

/-- A passed check of a sound test meets the condition. -/
theorem meets_of_check {test : A → S → Bool}
    (htest : ∀ a s, test a s = true → cond a s) :
    ∀ {s : S}, checkMeets step test s tr = true → Meets step cond s tr := by
  induction tr with
  | nil =>
    intro s _
    trivial
  | cons a rest ih =>
    intro s h
    rw [checkMeets, Bool.and_eq_true] at h
    refine ⟨htest a s h.1, ?_⟩
    intro s' hs'
    have hrest := h.2
    rw [hs'] at hrest
    exact ih hrest

/-- Every action of the list is accepted, and passes the test in the state it
is taken from; the state at the end passes the last test. -/
def checkRun (step : A → S → Except E S) (test : A → S → Bool)
    (last : S → Bool) (s : S) : List A → Bool
  | [] => last s
  | a :: rest =>
    test a s && (match step a s with
      | .ok s' => checkRun step test last s' rest
      | .error _ => false)

/-- A passed check of a sound test yields the run and meets the condition. -/
theorem run_of_check {test : A → S → Bool}
    {last : S → Bool} (htest : ∀ a s, test a s = true → cond a s)
    :
    ∀ {s : S}, checkRun step test last s tr = true →
      ∃ s', run step s tr = .ok s' ∧ last s' = true ∧ Meets step cond s tr := by
  induction tr with
  | nil =>
    intro s h
    exact ⟨s, rfl, h, trivial⟩
  | cons a rest ih =>
    intro s h
    rw [checkRun, Bool.and_eq_true] at h
    obtain ⟨hhead, htail⟩ := h
    cases ha : step a s with
    | error e =>
      rw [ha] at htail
      cases htail
    | ok m =>
      rw [ha] at htail
      obtain ⟨s', hrun, hlast, hmeets⟩ := ih htail
      refine ⟨s', run_cons.mpr ⟨m, ha, hrun⟩, hlast, htest a s hhead, ?_⟩
      intro k hk
      rw [ha] at hk
      cases hk
      exact hmeets

theorem meets_of_forall {cond : A → Prop} :
    ∀ {s : S}, (∀ a ∈ tr, cond a) → Meets step (fun a _ => cond a) s tr := by
  induction tr with
  | nil =>
    intro s _
    trivial
  | cons a rest ih =>
    intro s h
    refine ⟨h a (List.mem_cons_self ..), ?_⟩
    intro s' _
    exact ih fun b hb => h b (List.mem_cons_of_mem _ hb)

/-- Every state of the run passes the test. -/
def checkThroughout (step : A → S → Except E S) (test : S → Bool)
    (s : S) : List A → Bool
  | [] => test s
  | a :: rest =>
    test s && (match step a s with
      | .ok s' => checkThroughout step test s' rest
      | .error _ => true)

theorem throughout_of_check {P : S → Prop} {test : S → Bool}
    (htest : ∀ s, test s = true → P s) :
    ∀ {s : S}, checkThroughout step test s tr = true →
      Throughout step P s tr := by
  induction tr with
  | nil =>
    intro s h
    exact htest s h
  | cons a rest ih =>
    intro s h
    rw [checkThroughout, Bool.and_eq_true] at h
    refine ⟨htest s h.1, ?_⟩
    intro s' hs'
    have hrest := h.2
    rw [hs'] at hrest
    exact ih hrest

/-- Evaluate a budget along the run. -/
def checkBudget (step : A → S → Except E S) (cost : A → S → Int)
    (bound : S → Int) (c : Int) (s : S) : List A → Bool
  | [] => decide (c < bound s)
  | a :: rest =>
    decide (c < bound s) && (match step a s with
      | .ok s' => checkBudget step cost bound (c + cost a s) s' rest
      | .error _ => true)

theorem budgeted_of_check {cost : A → S → Int} {bound : S → Int} :
    ∀ {s : S} {c : Int}, checkBudget step cost bound c s tr = true →
      Budgeted step cost bound c s tr := by
  induction tr with
  | nil =>
    intro s c h
    exact of_decide_eq_true (p := c < bound s) h
  | cons a rest ih =>
    intro s c h
    rw [checkBudget, Bool.and_eq_true] at h
    refine ⟨of_decide_eq_true h.1, ?_⟩
    intro s' hs'
    have hrest := h.2
    rw [hs'] at hrest
    exact ih hrest

end Runs

end Exec
