/-
Derived accounts that hold an amount until it is paid out.

A record at a derived address says what its account holds and whether it
has been paid out. An instruction leaves the records alone, writes one
that is not paid out, or pays one out (`Effect`). A run of such
instructions pays out of an account at most once, and what has left the
account is what the record says (`books_run`).
-/
import KamiyoProtocol.Lib.Keyed
import KamiyoProtocol.Solana.Runtime

namespace KamiyoProtocol.Solana.Vaults

open Function

variable {Seed R : Type}

/-- What a record says of its account. -/
structure Terms (R : Type) where
  amount : R → Nat
  paid : R → Bool

/-- What an account has paid out, and how often, going by its record. -/
def Terms.spent (T : Terms R) : Option R → Nat
  | some r => if T.paid r then T.amount r else 0
  | none => 0

def Terms.times (T : Terms R) : Option R → Nat
  | some r => if T.paid r then 1 else 0
  | none => 0

/-- What an instruction does to the records and the lamports, with the
account it pays out of. -/
inductive Effect (env : Env Seed) (T : Terms R)
    (recs recs' : Pubkey → Option R) (l l' : Lamports) :
    Option Pubkey → Prop where
  | kept (ts : List (Transfer Pubkey)) (same : recs' = recs)
      (moved : l.moves ts = some l') (src : ∀ t ∈ ts, ∀ s, t.src ≠ env.pda s) :
      Effect env T recs recs' l l' none
  | wrote (s : Seed) (r : R) (ts : List (Transfer Pubkey))
      (frame : recs' = update recs (env.pda s) (some r))
      (unpaid : T.paid r = false)
      (before : ∀ r₀, recs (env.pda s) = some r₀ →
        T.paid r₀ = false ∧ T.amount r = T.amount r₀)
      (moved : l.moves ts = some l') (src : ∀ t ∈ ts, ∀ s, t.src ≠ env.pda s) :
      Effect env T recs recs' l l' none
  | paid (s : Seed) (r r' : R) (ts : List (Transfer Pubkey))
      (was : recs (env.pda s) = some r) (unpaid : T.paid r = false)
      (frame : recs' = update recs (env.pda s) (some r'))
      (settled : T.paid r' = true) (amount : T.amount r' = T.amount r)
      (moved : l.moves ts = some l') (src : ∀ t ∈ ts, t.src = env.pda s)
      (out : Transfer.outOf ts (env.pda s) = T.amount r) :
      Effect env T recs recs' l l' (some (env.pda s))

/-- Every derived account paid out what its record says, as often as its
record says; `outs` lists the accounts the instructions paid out of. -/
def Books (env : Env Seed) (T : Terms R) (recs : Pubkey → Option R)
    (l : Lamports) (outs : List (Option Pubkey)) : Prop :=
  ∀ s, l.debited (env.pda s) = T.spent (recs (env.pda s))
    ∧ outs.count (some (env.pda s)) = T.times (recs (env.pda s))

variable {env : Env Seed} {T : Terms R} {recs recs' : Pubkey → Option R}
  {l l' : Lamports} {outs : List (Option Pubkey)} {out : Option Pubkey}

theorem debited_aside {ts : List (Transfer Pubkey)}
    (hmoved : l.moves ts = some l')
    (hsrc : ∀ t ∈ ts, ∀ s, t.src ≠ env.pda s) (s : Seed) :
    l'.debited (env.pda s) = l.debited (env.pda s) := by
  rw [Ledger.debited_moves hmoved,
    Transfer.outOf_eq_zero fun t ht => hsrc t ht s]
  rfl

theorem Books.step (h : Books env T recs l outs)
    (he : Effect env T recs recs' l l' out) :
    Books env T recs' l' (outs ++ [out]) := by
  intro s
  obtain ⟨hspent, htimes⟩ := h s
  rw [List.count_append, htimes]
  cases he with
  | kept ts hsame hmoved hsrc =>
    rw [debited_aside hmoved hsrc, hspent, hsame]
    simp
  | wrote s₀ r ts hframe hunpaid hbefore hmoved hsrc =>
    rw [debited_aside hmoved hsrc, hspent, hframe]
    by_cases hs : env.pda s = env.pda s₀
    · rw [hs, update_self]
      cases hr : recs (env.pda s₀) with
      | none => simp [Terms.spent, Terms.times, hunpaid]
      | some r₀ =>
        simp [Terms.spent, Terms.times, hunpaid, (hbefore r₀ hr).1]
    · rw [update_of_ne hs]
      simp
  | paid s₀ r r' ts hwas hunpaid hframe hpaid hamount hmoved hsrc hout =>
    rw [Ledger.debited_moves hmoved, hspent, hframe]
    by_cases hs : env.pda s = env.pda s₀
    · rw [hs, update_self, hwas, hout]
      simp [Terms.spent, Terms.times, hunpaid, hpaid, hamount]
    · have hnone : Transfer.outOf ts (env.pda s) = 0 :=
        Transfer.outOf_eq_zero fun t ht hk =>
          hs (hk.symm.trans (hsrc t ht))
      have hne : some (env.pda s₀) ≠ some (env.pda s) := fun he =>
        hs (Option.some.inj he).symm
      rw [update_of_ne hs, hnone, List.count_singleton,
        if_neg (by simpa using hne)]
      exact ⟨rfl, rfl⟩

/-- The rule for runs: when every instruction has an effect, a run from
before any record keeps the books. -/
theorem books_run {W A E : Type} {step : A → W → Except E W}
    (recs : W → Pubkey → Option R) (lam : W → Lamports)
    {target : A → Option Pubkey}
    (heffect : ∀ a w w', step a w = .ok w' →
      Effect env T (recs w) (recs w') (lam w) (lam w') (target a))
    {w₀ w : W} {tr : List A} (hfresh : ∀ k, recs w₀ k = none)
    (hjournal : (lam w₀).journal = []) (hrun : Exec.run step w₀ tr = .ok w) :
    Books env T (recs w) (lam w) (tr.map target) := by
  have hstart : Books env T (recs w₀) (lam w₀)
      (([] : List A).map target) := by
    intro s
    simp [hfresh, Ledger.debited, hjournal, Terms.spent, Terms.times]
  refine Exec.run_induct_log
    (I := fun p w => Books env T (recs w) (lam w) (p.map target)) ?_ hstart
    hrun
  intro p a s s' hI hs
  rw [List.map_append]
  exact hI.step (heffect a s s' hs)

end KamiyoProtocol.Solana.Vaults
