/-
Custody of a SOL escrow.

An escrow funded in lamports holds its rent minimum and its amount for
as long as it is open; it is closed at most once, and closing debits it
exactly its amount, however the settlement splits it.

`Custody` is the invariant. Its three clauses move together: an action
aside of the escrow debits nothing and can only credit it, the vote
phases move nothing, and a settlement, which is the one action that
closes the escrow, takes out the amount in full. The running total of
debits is read off the ledger's journal.
-/
import KamiyoProtocol.Kamiyo.Concrete

namespace KamiyoProtocol.Kamiyo

open Solana Exec Function

variable {env : Env Seed} {w w' : World}

/-- The escrow at `k` exists and is open. -/
def World.escrowOpen (w : World) (k : Pubkey) : Bool :=
  match w.escrows k with
  | some e => e.Open
  | none => false

theorem escrowOpen_eq {k : Pubkey} {e : Escrow}
    (h : w.escrows k = some e) : w.escrowOpen k = decide e.Open := by
  rw [World.escrowOpen, h]

/-- The account at `k` is a SOL escrow of `amount`, backed while it is
open; since `base`, it was debited nothing while open and `amount` once
closed. -/
structure Custody (env : Env Seed) (k : Pubkey) (amount base : Nat)
    (w : World) (e : Escrow) : Prop where
  escrow : w.escrows k = some e
  sol : e.tokenMint = none
  worth : e.amount = amount
  backed : e.Open → env.minimumBalance escrowSpace + amount ≤ w.lamports.bal k
  debited : w.lamports.debited k = base + if e.Open then 0 else amount

theorem Custody.spared {k : Pubkey} {amount base : Nat} {e : Escrow}
    (h : Custody env k amount base w e) {ts : List (Transfer Pubkey)}
    (hl : w.lamports.moves ts = some w'.lamports)
    (hsrc : ∀ t ∈ ts, t.src ≠ k) (he : w'.escrows k = w.escrows k) :
    Custody env k amount base w' e := by
  refine ⟨he.trans h.escrow, h.sol, h.worth, ?_, ?_⟩
  · intro hopen
    exact Nat.le_trans (h.backed hopen) (Ledger.bal_mono hl hsrc)
  · rw [Ledger.debited_moves hl, Transfer.outOf_eq_zero hsrc]
    exact h.debited

/-- Rewriting an open escrow without touching amount, asset or status
keeps its custody. -/
theorem Custody.rewritten {k : Pubkey} {amount base : Nat} {e e' : Escrow}
    (h : Custody env k amount base w e) (he : w'.escrows k = some e')
    (hopen : e.Open) (hopen' : e'.Open) (hl : w'.lamports = w.lamports)
    (hsol : e'.tokenMint = e.tokenMint) (hamount : e'.amount = e.amount) :
    Custody env k amount base w' e' := by
  refine ⟨he, hsol.trans h.sol, hamount.trans h.worth, ?_, ?_⟩
  · intro _
    rw [hl]
    exact h.backed hopen
  · have hd := h.debited
    rw [if_pos hopen] at hd
    rw [hl, if_pos hopen']
    exact hd

theorem Custody.step {agent : Pubkey} {id : Bytes} {amount base : Nat}
    {e : Escrow} {a : Action env}
    (h : Custody env (env.pda (.escrow agent id)) amount base w e)
    (hstep : step env a w = .ok w') :
    ∃ e', Custody env (env.pda (.escrow agent id)) amount base w' e'
      ∧ (e'.Open → e.Open) := by
  have hkind : EscrowStep env a (env.pda (.escrow agent id)) w w' :=
    step_escrow hstep
  cases hkind with
  | aside ts hl hsrc he _ => exact ⟨e, h.spared hl hsrc he, fun ho => ho⟩
  | opened e' ts ho _ =>
    have := ho.fresh
    rw [h.escrow] at this
    cases this
  | marked e₁ he hstatus he' hl _ =>
    obtain rfl : e = e₁ := Option.some.inj (h.escrow.symm.trans he)
    exact ⟨_, h.rewritten he' (.inl hstatus) (.inr rfl) hl rfl rfl,
      fun _ => .inl hstatus⟩
  | committed e₁ oracle hash endsAt _ he hstatus _ hw =>
    obtain rfl : e = e₁ := Option.some.inj (h.escrow.symm.trans he)
    subst hw
    exact ⟨_, h.rewritten (setEscrow_self _ _ _) (.inr hstatus)
      (.inr hstatus) rfl rfl rfl, fun _ => .inr hstatus⟩
  | revealed e₁ i c oracle score salt sig _ he hstatus _ _ _ hw =>
    obtain rfl : e = e₁ := Option.some.inj (h.escrow.symm.trans he)
    subst hw
    exact ⟨_, h.rewritten (setEscrow_self _ _ _) (.inr hstatus)
      (.inr hstatus) rfl rfl rfl, fun _ => .inr hstatus⟩
  | settled e₁ e' ts us he hopen he' hclosed hterms hl htotal _ =>
    obtain rfl : e = e₁ := Option.some.inj (h.escrow.symm.trans he)
    refine ⟨e', ⟨he', hterms.tokenMint.trans h.sol, hterms.amount.trans h.worth,
      fun ho => absurd ho hclosed, ?_⟩, fun ho => absurd ho hclosed⟩
    have hd := h.debited
    rw [if_pos hopen] at hd
    rw [Ledger.debited_moves hl, htotal h.sol, h.worth, if_neg hclosed]
    omega

theorem Custody.init {tx : Tx env} {acc : InitializeEscrowAccounts}
    {amount : Nat} {lock : Int} {id : Bytes}
    (h : initializeEscrow env tx acc amount lock id false w = .ok w') :
    ∃ e, Custody env (env.pda (.escrow acc.agent id)) amount
      (w'.lamports.debited (env.pda (.escrow acc.agent id))) w' e
      ∧ e.Open := by
  obtain ⟨e, ts, -, hrec, ho, hsol, -⟩ := initializeEscrow_ok h
  obtain ⟨hmint, -, hback⟩ := hsol rfl
  have hopen : e.Open := .inl ho.status
  have hescrow : w'.escrows (env.pda (.escrow acc.agent id)) = some e := by
    obtain ⟨t, hw⟩ := ho.frame
    rw [hw]
    exact update_self ..
  refine ⟨e, ⟨hescrow, hmint, hrec.amount, fun _ => hback, ?_⟩, hopen⟩
  rw [if_pos hopen]
  rfl

/-- From the creation of a SOL escrow on, in every run: the escrow is
backed while open, at most one action closes it, and the lamports that
left it are none while it is open and its amount once it is closed. -/
theorem sol_escrow_custody {tx : Tx env} {acc : InitializeEscrowAccounts}
    {amount : Nat} {lock : Int} {id : Bytes} {w₀ w₁ w₂ : World}
    {tr : List (Action env)}
    (hinit : initializeEscrow env tx acc amount lock id false w₀ = .ok w₁)
    (hrun : run (step env) w₁ tr = .ok w₂) :
    ∃ e, w₂.escrows (env.pda (.escrow acc.agent id)) = some e
      ∧ e.amount = amount
      ∧ (e.Open → env.minimumBalance escrowSpace + e.amount
          ≤ w₂.lamports.bal (env.pda (.escrow acc.agent id)))
      ∧ crossings (step env)
          (fun w => w.escrowOpen (env.pda (.escrow acc.agent id))) w₁ tr ≤ 1
      ∧ w₂.lamports.debited (env.pda (.escrow acc.agent id))
        = w₁.lamports.debited (env.pda (.escrow acc.agent id))
          + if e.Open then 0 else e.amount := by
  obtain ⟨e₁, hc₁, -⟩ := Custody.init hinit
  let I : World → Prop := fun w => ∃ e,
    Custody env (env.pda (.escrow acc.agent id)) amount
      (w₁.lamports.debited (env.pda (.escrow acc.agent id))) w e
  have hI : ∀ a w w', I w → step env a w = .ok w' → I w' := by
    rintro a w w' ⟨e, hc⟩ hstep
    obtain ⟨e', hc', -⟩ := hc.step hstep
    exact ⟨e', hc'⟩
  have habs : ∀ a w w', I w → step env a w = .ok w' →
      w.escrowOpen (env.pda (.escrow acc.agent id)) = false →
      w'.escrowOpen (env.pda (.escrow acc.agent id)) = false := by
    rintro a w w' ⟨e, hc⟩ hstep hclosed
    obtain ⟨e', hc', hopen⟩ := hc.step hstep
    rw [escrowOpen_eq hc.escrow] at hclosed
    rw [escrowOpen_eq hc'.escrow]
    simp only [decide_eq_false_iff_not] at hclosed ⊢
    exact fun ho => hclosed (hopen ho)
  obtain ⟨e, hc⟩ := run_induct hI ⟨e₁, hc₁⟩ hrun
  have hcross := crossings_eq hI habs ⟨e₁, hc₁⟩ hrun
  refine ⟨e, hc.escrow, hc.worth, ?_, ?_, ?_⟩
  · rw [hc.worth]
    exact hc.backed
  · rw [hcross]
    split
    · exact Nat.le_refl 1
    · exact Nat.zero_le 1
  · rw [hc.worth]
    exact hc.debited

open Concrete in
/-- The custody of an escrow that is disputed and then split by its
oracles, fee and rewards included. -/
theorem sol_escrow_custody_finalized :
    ∃ w₀ w₁ w₂, initializeEscrow Concrete.env (tx [10] 1000 [])
        solAccounts 1000000000 3600 transactionId false w₀ = .ok w₁
      ∧ run (step Concrete.env) w₁ (dispute :: vote 70
          ++ [finalize true]) = .ok w₂
      ∧ ∃ e, w₂.escrows escrowKey = some e ∧ e.amount = 1000000000
        ∧ (e.Open → Concrete.env.minimumBalance escrowSpace + e.amount
            ≤ w₂.lamports.bal escrowKey)
        ∧ crossings (step Concrete.env)
            (fun w => w.escrowOpen escrowKey) w₁
            (dispute :: vote 70 ++ [finalize true]) ≤ 1
        ∧ w₂.lamports.debited escrowKey
          = w₁.lamports.debited escrowKey + if e.Open then 0 else e.amount := by
  obtain ⟨w₀, -, h₀⟩ := check_ok (show check (fun w₀ =>
    check (fun w₁ => check (fun _ => true)
      (run (step Concrete.env) w₁
        (dispute :: vote 70 ++ [finalize true])))
      (initializeEscrow Concrete.env (tx [10] 1000 []) solAccounts
        1000000000 3600 transactionId false w₀))
    (run (step Concrete.env) start setup) = true by decide +kernel)
  obtain ⟨w₁, h₁, hrun⟩ := check_ok h₀
  obtain ⟨w₂, h₂, -⟩ := check_ok hrun
  exact ⟨w₀, w₁, w₂, h₁, h₂, sol_escrow_custody h₁ h₂⟩

end KamiyoProtocol.Kamiyo
