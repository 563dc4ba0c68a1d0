/-
Ledgers of fungible balances with a supply bound and a journal.

A `Ledger K cap` assigns a balance to every account key, and carries the
proof that no finite set of accounts holds `cap` or more together. The
bound is what a runtime with a conserved, machine-sized supply promises;
carried as a field it makes every credit of a completed move
overflow-free, so no later proof re-argues it.

The only mutation is `move`, a debit paired with a credit. Each move is
appended to the journal, so that "how much ever left this account" is a
function of the state (`debited`) and not of the proof that follows the
run. A move from an account to itself is legal: it needs the balance,
changes nothing, and is journalled.

`moves` runs a list of transfers. Its two laws carry all the accounting
of the development: the journal grows by exactly the list
(`journal_moves`), and at every account balance plus outflow equals old
balance plus inflow (`bal_moves`).
-/
import Mathlib.Algebra.BigOperators.Group.Finset.Basic
import Mathlib.Algebra.BigOperators.Group.Finset.Piecewise
import Mathlib.Algebra.Order.BigOperators.Group.Finset
import Mathlib.Algebra.Ring.Int.Defs
import Mathlib.Algebra.Ring.Nat

/-- One journalled movement of funds. -/
structure Transfer (K : Type) where
  src : K
  dst : K
  amount : Nat
deriving DecidableEq

namespace Transfer

variable {K : Type} [DecidableEq K]

/-- What a list of transfers takes out of `k`. -/
def outOf (ts : List (Transfer K)) (k : K) : Nat :=
  (ts.map fun t => if t.src = k then t.amount else 0).sum

/-- What a list of transfers pays into `k`. -/
def into (ts : List (Transfer K)) (k : K) : Nat :=
  (ts.map fun t => if t.dst = k then t.amount else 0).sum

@[simp] theorem outOf_nil (k : K) : outOf ([] : List (Transfer K)) k = 0 :=
  rfl

@[simp] theorem into_nil (k : K) : into ([] : List (Transfer K)) k = 0 :=
  rfl

@[simp] theorem outOf_cons (t : Transfer K) (ts : List (Transfer K))
    (k : K) :
    outOf (t :: ts) k = (if t.src = k then t.amount else 0) + outOf ts k :=
  rfl

@[simp] theorem into_cons (t : Transfer K) (ts : List (Transfer K))
    (k : K) :
    into (t :: ts) k = (if t.dst = k then t.amount else 0) + into ts k :=
  rfl

@[simp] theorem outOf_append (ts us : List (Transfer K)) (k : K) :
    outOf (ts ++ us) k = outOf ts k + outOf us k := by
  simp [outOf]

@[simp] theorem into_append (ts us : List (Transfer K)) (k : K) :
    into (ts ++ us) k = into ts k + into us k := by
  simp [into]

theorem outOf_eq_zero {ts : List (Transfer K)} {k : K}
    (h : ∀ t ∈ ts, t.src ≠ k) : outOf ts k = 0 := by
  induction ts with
  | nil => rfl
  | cons t rest ih =>
    have ht : t.src ≠ k := h t (List.mem_cons_self ..)
    have hrest := ih fun u hu => h u (List.mem_cons_of_mem _ hu)
    rw [outOf_cons, if_neg ht, hrest]

end Transfer

/-- Balances under a supply bound, with the history of their moves. -/
structure Ledger (K : Type) (cap : Nat) where
  bal : K → Nat
  journal : List (Transfer K)
  bounded : ∀ s : Finset K, ∑ k ∈ s, bal k < cap

namespace Ledger

open Transfer

variable {K : Type} [DecidableEq K] {cap : Nat}

-- ==== one move

/-- Balances after moving `n` from `src` to `dst`. -/
def shift (bal : K → Nat) (src dst : K) (n : Nat) (k : K) : Nat :=
  (if k = src then bal k - n else bal k) + (if k = dst then n else 0)

/-- A funded shift keeps every finite total under the bound: a set that
misses the source can only gain what the source loses. -/
theorem shift_bounded {bal : K → Nat} {src dst : K} {n : Nat}
    (hb : ∀ s : Finset K, ∑ k ∈ s, bal k < cap) (hn : n ≤ bal src)
    (s : Finset K) : ∑ k ∈ s, shift bal src dst n k < cap := by
  have hdebit : ∑ k ∈ insert src s, (if k = src then bal k - n else bal k)
      + n = ∑ k ∈ insert src s, bal k := by
    rw [← Finset.add_sum_erase _ _ (Finset.mem_insert_self src s),
      ← Finset.add_sum_erase _ bal (Finset.mem_insert_self src s)]
    have hrest : ∑ k ∈ (insert src s).erase src,
          (if k = src then bal k - n else bal k)
        = ∑ k ∈ (insert src s).erase src, bal k := by
      refine Finset.sum_congr rfl ?_
      intro k hk
      rw [if_neg (Finset.ne_of_mem_erase hk)]
    rw [hrest, if_pos rfl]
    omega
  have hsub : ∑ k ∈ s, (if k = src then bal k - n else bal k)
      ≤ ∑ k ∈ insert src s, (if k = src then bal k - n else bal k) :=
    Finset.sum_le_sum_of_subset (Finset.subset_insert src s)
  have hcredit : ∑ k ∈ s, (if k = dst then n else 0) ≤ n := by
    rw [Finset.sum_ite_eq' s dst fun _ => n]
    split
    · exact Nat.le_refl n
    · exact Nat.zero_le n
  have htotal := hb (insert src s)
  have hsplit : ∑ k ∈ s, shift bal src dst n k
      = ∑ k ∈ s, (if k = src then bal k - n else bal k)
        + ∑ k ∈ s, (if k = dst then n else 0) :=
    Finset.sum_add_distrib
  omega

/-- Debit `src` and credit `dst`; refused when `src` is short. -/
def move (l : Ledger K cap) (src dst : K) (n : Nat) :
    Option (Ledger K cap) :=
  if h : n ≤ l.bal src then
    some { bal := shift l.bal src dst n
           journal := l.journal ++ [⟨src, dst, n⟩]
           bounded := shift_bounded l.bounded h }
  else none

/-- Move a list of transfers in order. -/
def moves (l : Ledger K cap) : List (Transfer K) → Option (Ledger K cap)
  | [] => some l
  | t :: rest =>
    match l.move t.src t.dst t.amount with
    | some l' => l'.moves rest
    | none => none

theorem move_isSome {l : Ledger K cap} {src dst : K} {n : Nat}
    (h : n ≤ l.bal src) : ∃ l', l.move src dst n = some l' := by
  unfold move
  rw [dif_pos h]
  exact ⟨_, rfl⟩

/-- What a move that went through did. -/
theorem move_some {l l' : Ledger K cap} {src dst : K} {n : Nat}
    (h : l.move src dst n = some l') :
    n ≤ l.bal src ∧ l'.bal = shift l.bal src dst n
      ∧ l'.journal = l.journal ++ [⟨src, dst, n⟩] := by
  unfold move at h
  split at h
  · next hn =>
      cases h
      exact ⟨hn, rfl, rfl⟩
  · cases h

/-- One move, read as an accounting equation at `k`. -/
theorem bal_move {l l' : Ledger K cap} {src dst : K} {n : Nat}
    (h : l.move src dst n = some l') (k : K) :
    l'.bal k + (if src = k then n else 0)
      = l.bal k + (if dst = k then n else 0) := by
  obtain ⟨hn, hbal, -⟩ := move_some h
  rw [hbal, shift]
  by_cases hs : src = k
  · subst hs
    by_cases hd : dst = src
    · subst hd
      simp only [if_true]
      omega
    · simp only [if_true, if_neg hd, if_neg (Ne.symm hd)]
      omega
  · rw [if_neg hs, if_neg (Ne.symm hs)]
    by_cases hd : dst = k
    · subst hd
      simp
    · rw [if_neg hd, if_neg (Ne.symm hd)]

-- ==== many moves

@[simp] theorem moves_nil (l : Ledger K cap) : l.moves [] = some l := rfl

theorem moves_cons {l l' : Ledger K cap} {t : Transfer K}
    {rest : List (Transfer K)} :
    l.moves (t :: rest) = some l'
      ↔ ∃ m, l.move t.src t.dst t.amount = some m ∧ m.moves rest = some l' := by
  rw [moves]
  cases l.move t.src t.dst t.amount with
  | none => simp
  | some m => simp

theorem moves_single {l l' : Ledger K cap} {src dst : K} {n : Nat}
    (h : l.move src dst n = some l') :
    l.moves [⟨src, dst, n⟩] = some l' :=
  moves_cons.mpr ⟨l', h, rfl⟩

theorem moves_append {l m l' : Ledger K cap} {ts us : List (Transfer K)}
    (h : l.moves ts = some m) (h' : m.moves us = some l') :
    l.moves (ts ++ us) = some l' := by
  induction ts generalizing l with
  | nil =>
    cases h
    exact h'
  | cons t rest ih =>
    obtain ⟨k, hk, hrest⟩ := moves_cons.mp h
    exact moves_cons.mpr ⟨k, hk, ih hrest⟩

theorem journal_moves {l l' : Ledger K cap} {ts : List (Transfer K)}
    (h : l.moves ts = some l') : l'.journal = l.journal ++ ts := by
  induction ts generalizing l with
  | nil =>
    cases h
    simp
  | cons t rest ih =>
    obtain ⟨m, hm, hrest⟩ := moves_cons.mp h
    obtain ⟨-, -, hj⟩ := move_some hm
    rw [ih hrest, hj, List.append_assoc]
    rfl

/-- The accounting equation: at every account, balance plus outflow is
old balance plus inflow. -/
theorem bal_moves {l l' : Ledger K cap} {ts : List (Transfer K)}
    (h : l.moves ts = some l') (k : K) :
    l'.bal k + outOf ts k = l.bal k + into ts k := by
  induction ts generalizing l with
  | nil =>
    cases h
    simp
  | cons t rest ih =>
    obtain ⟨m, hm, hrest⟩ := moves_cons.mp h
    have hone := bal_move hm k
    have htail := ih hrest
    rw [outOf_cons, into_cons]
    omega

/-- What ever left `k`, read off the journal. -/
def debited (l : Ledger K cap) (k : K) : Nat := outOf l.journal k

theorem debited_moves {l l' : Ledger K cap} {ts : List (Transfer K)}
    (h : l.moves ts = some l') (k : K) :
    l'.debited k = l.debited k + outOf ts k := by
  unfold debited
  rw [journal_moves h, outOf_append]

theorem bal_mono {l l' : Ledger K cap} {ts : List (Transfer K)}
    (h : l.moves ts = some l') {k : K} (hk : ∀ t ∈ ts, t.src ≠ k) :
    l.bal k ≤ l'.bal k := by
  have hb := bal_moves h k
  rw [outOf_eq_zero hk] at hb
  omega

/-- A reserve survives moves whose net outflow is matched by the drop of
what it backs: if `base + owed` is covered before and the obligation
falls by at least the outflow less the inflow, `base + owed'` is covered
after. -/
theorem reserve_moves {l l' : Ledger K cap} {ts : List (Transfer K)}
    (h : l.moves ts = some l') {k : K} {base owed owed' : Nat}
    (hcov : base + owed ≤ l.bal k)
    (howed : owed' + outOf ts k ≤ owed + into ts k) :
    base + owed' ≤ l'.bal k := by
  have hb := bal_moves h k
  omega

-- ==== construction

/-- The ledger holding the listed balances and nothing else, when the
listed total is under the bound. -/
def ofList (es : List (K × Nat)) (h : (es.map Prod.snd).sum < cap) :
    Ledger K cap where
  bal k := (es.map fun e => if e.1 = k then e.2 else 0).sum
  journal := []
  bounded := by
    intro s
    refine Nat.lt_of_le_of_lt ?_ h
    clear h
    induction es with
    | nil => simp
    | cons e rest ih =>
      simp only [List.map_cons, List.sum_cons, Finset.sum_add_distrib]
      have hhead : ∑ k ∈ s, (if e.1 = k then e.2 else 0) ≤ e.2 := by
        rw [Finset.sum_ite_eq s e.1 fun _ => e.2]
        split
        · exact Nat.le_refl _
        · exact Nat.zero_le _
      omega

end Ledger
