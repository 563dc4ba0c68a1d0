/-
Conservation and single payout of an escrow.

From its creation on, an escrow is settled at most once, and what left
its account is nothing before that and its amount after it, all of it to
its user and its treasury. The transfers are read off the ledger's
journal, so nothing that left and came back is missed.

`Conserved` is the invariant; a settlement is the one action that moves
anything out, and it finds the escrow open. The deadline of an active
escrow parts the two ways that time decides between: up to it the user
may dispute, after it anyone may release.
-/
import KamiyoProtocol.CompanionEscrow.Concrete
import KamiyoProtocol.CompanionEscrow.Lifecycle

namespace KamiyoProtocol.CompanionEscrow

open Solana Exec

variable {env : Env Seed} {w w' : World} {k : Pubkey}

/-- The escrow at `k` exists and is open. -/
def World.escrowOpen (w : World) (k : Pubkey) : Bool :=
  match w.escrows k with
  | some e => e.Open
  | none => false

theorem escrowOpen_eq {e : Escrow} (h : w.escrows k = some e) :
    w.escrowOpen k = decide e.Open := by
  rw [World.escrowOpen, h]

/-- The escrow at `k` has the terms it was created under; since the
journal `base`, nothing left it while open and its amount once closed,
for its user and its treasury. -/
structure Conserved (k : Pubkey) (base : List (Transfer Pubkey))
    (user treasury : Pubkey) (amount : Nat) (w : World) (e : Escrow) :
    Prop where
  escrow : w.escrows k = some e
  payer : e.user = user
  payee : e.treasury = treasury
  worth : e.amount = amount
  journal : ∃ ts, w.lamports.journal = base ++ ts
    ∧ Transfer.outOf ts k = (if e.Open then 0 else amount)
    ∧ ∀ t ∈ ts, t.src = k → t.dst = user ∨ t.dst = treasury

section Steps

variable {base : List (Transfer Pubkey)} {user treasury : Pubkey}
  {amount : Nat} {e : Escrow}

theorem Conserved.spared (h : Conserved k base user treasury amount w e)
    {ts : List (Transfer Pubkey)}
    (hl : w.lamports.moves ts = some w'.lamports)
    (hsrc : ∀ t ∈ ts, t.src ≠ k) (he : w'.escrows k = w.escrows k) :
    Conserved k base user treasury amount w' e := by
  obtain ⟨us, hj, hout, hdst⟩ := h.journal
  refine ⟨he.trans h.escrow, h.payer, h.payee, h.worth, us ++ ts, ?_, ?_, ?_⟩
  · rw [Ledger.journal_moves hl, hj, List.append_assoc]
  · rw [Transfer.outOf_append, Transfer.outOf_eq_zero hsrc, Nat.add_zero]
    exact hout
  · intro t ht hk
    rcases List.mem_append.mp ht with hold | hnew
    · exact hdst t hold hk
    · exact absurd hk (hsrc t hnew)

theorem Conserved.rewritten {e' : Escrow}
    (h : Conserved k base user treasury amount w e) (hopen : e.Open)
    (hopen' : e'.Open) (huser : e'.user = e.user)
    (htreasury : e'.treasury = e.treasury) (hamount : e'.amount = e.amount) :
    Conserved k base user treasury amount (w.setEscrow k e') e' := by
  obtain ⟨ts, hj, hout, hdst⟩ := h.journal
  rw [if_pos hopen] at hout
  refine ⟨setEscrow_self _ _ _, huser.trans h.payer,
    htreasury.trans h.payee, hamount.trans h.worth, ts, hj, ?_, hdst⟩
  rw [if_pos hopen']
  exact hout

theorem Conserved.settled {e' : Escrow}
    (h : Conserved k base user treasury amount w e) (hopen : e.Open)
    (hclosed : ¬ e'.Open) (he : w'.escrows k = some e')
    (hpaid : Settlement k w w' e e') :
    Conserved k base user treasury amount w' e' := by
  obtain ⟨ts, hj, hout, hdst⟩ := h.journal
  obtain ⟨us, hl, hall, hends⟩ := hpaid.moves
  rw [if_pos hopen] at hout
  refine ⟨he, hpaid.user.trans h.payer, hpaid.treasury.trans h.payee,
    hpaid.amount.trans h.worth, ts ++ us, ?_, ?_, ?_⟩
  · rw [Ledger.journal_moves hl, hj, List.append_assoc]
  · rw [Transfer.outOf_append, hout, hall, Nat.zero_add, h.worth,
      if_neg hclosed]
  · intro t ht hk
    rcases List.mem_append.mp ht with hold | hnew
    · exact hdst t hold hk
    · rw [← h.payer, ← h.payee]
      exact hends t hnew

end Steps

theorem Conserved.step {u : Pubkey} {id : Bytes}
    {base : List (Transfer Pubkey)} {user treasury : Pubkey} {amount : Nat}
    {e : Escrow} {a : Action env}
    (h : Conserved (env.pda (.escrow u id)) base user treasury amount w e)
    (hstep : step env a w = .ok w') :
    ∃ e', Conserved (env.pda (.escrow u id)) base user treasury amount w' e'
      ∧ (e'.Open → e.Open) := by
  have hkind : EscrowStep env a (env.pda (.escrow u id)) w w' :=
    step_escrow hstep
  cases hkind with
  | aside hesc _ hmoves =>
    obtain ⟨ts, hl, hsrc⟩ := hmoves
    exact ⟨e, h.spared hl hsrc hesc, fun ho => ho⟩
  | opened x _ hnone =>
    rw [h.escrow] at hnone
    cases hnone
  | disputed x _ hx hactive hw =>
    obtain rfl : e = x := Option.some.inj (h.escrow.symm.trans hx)
    subst hw
    exact ⟨_, h.rewritten (Or.inl hactive) (Or.inr rfl) rfl rfl rfl,
      fun _ => Or.inl hactive⟩
  | committed x c ends _ hx hdisp _ _ hw =>
    obtain rfl : e = x := Option.some.inj (h.escrow.symm.trans hx)
    subst hw
    exact ⟨_, h.rewritten (Or.inr hdisp) (Or.inr hdisp) rfl rfl rfl,
      fun _ => Or.inr hdisp⟩
  | revealed x config cs s ends _ hx _ hdisp _ _ _ _ hw =>
    obtain rfl : e = x := Option.some.inj (h.escrow.symm.trans hx)
    subst hw
    exact ⟨_, h.rewritten (Or.inr hdisp) (Or.inr hdisp) rfl rfl rfl,
      fun _ => Or.inr hdisp⟩
  | settled x e' hx hopen _ hesc hclosed hpaid =>
    obtain rfl : e = x := Option.some.inj (h.escrow.symm.trans hx)
    exact ⟨e', h.settled hopen hclosed hesc hpaid, fun ho => absurd ho hclosed⟩

theorem conserved_create {tx : Tx env} {acc : CreateEscrowAccounts}
    {id : Bytes} {amount : Nat}
    (h : createEscrow env tx acc id amount w = .ok w') :
    ∃ e, Conserved (env.pda (.escrow acc.user id)) w'.lamports.journal
        acc.user acc.treasury amount w' e
      ∧ e.Open := by
  simp only [createEscrow, bind_ok] at h
  obtain ⟨-, -, -, -, l, -, -, -, -, -, -, -, -, -, -, -, -, -, b, -, l', -,
    hw⟩ := h
  cases hw
  refine ⟨_, ⟨setEscrow_self _ _ _, rfl, rfl, rfl, [], ?_, ?_, ?_⟩, Or.inl rfl⟩
  · exact (List.append_nil _).symm
  · rfl
  · intro t ht
    cases ht

-- ==== the deadline

theorem markDisputed_deadline {tx : Tx env} {acc : MarkDisputedAccounts}
    {e : Escrow} (he : w.escrows acc.escrow = some e)
    (h : markDisputed tx acc w = .ok w') :
    tx.clock ≤ e.createdAt + escrowTimeout := by
  simp only [markDisputed, bind_ok, load_ok, ensure_ok, addI64_ok] at h
  obtain ⟨-, -, x, hx, -, -, -, -, d, ⟨-, rfl⟩, -, hle, -⟩ := h
  rw [he] at hx
  cases hx
  exact hle

theorem timeoutRelease_deadline {tx : Tx env}
    {acc : TimeoutReleaseAccounts} {e : Escrow}
    (he : w.escrows acc.escrow = some e)
    (h : timeoutRelease tx acc w = .ok w') :
    e.createdAt + escrowTimeout < tx.clock := by
  simp only [timeoutRelease, bind_ok, load_ok, ensure_ok, addI64_ok] at h
  obtain ⟨x, hx, -, -, -, -, d, ⟨-, rfl⟩, -, hlt, -⟩ := h
  rw [he] at hx
  cases hx
  exact hlt

/-- Whoever calls, an escrow cannot at one time be disputed and be
released as timed out. -/
theorem dispute_or_timeout {a b : Action env} {x : MarkDisputedAccounts}
    {y : TimeoutReleaseAccounts} {e : Escrow} {m : World}
    (he : w.escrows k = some e)
    (ha : a.op = .markDisputed x) (hx : x.escrow = k)
    (hb : b.op = .timeoutRelease y) (hy : y.escrow = k)
    (hdispute : step env a w = .ok w') : step env b w ≠ .ok m := by
  intro hrelease
  have hnow : a.tx.clock = b.tx.clock :=
    (step_clock hdispute).trans (step_clock hrelease).symm
  simp only [step, bind_ok, perform, ha] at hdispute
  simp only [step, bind_ok, perform, hb] at hrelease
  obtain ⟨-, -, hdispute⟩ := hdispute
  obtain ⟨-, -, hrelease⟩ := hrelease
  have hbefore := markDisputed_deadline (hx ▸ he) hdispute
  have hafter := timeoutRelease_deadline (hy ▸ he) hrelease
  omega

-- ==== the theorem

/-- What is claimed of the end `w` of a run `tr` from the state `w₁` the
escrow at `k` was created in. -/
structure PaidOnce (env : Env Seed) (k user treasury : Pubkey)
    (amount : Nat) (w₁ : World) (tr : List (Action env)) (w : World) :
    Prop where
  /-- At most one action takes it out of being active or disputed. -/
  once : crossings (step env) (fun w => w.escrowOpen k) w₁ tr ≤ 1
  /-- What left its account since: nothing before that action, its amount
  after it, and only to its user and its treasury. -/
  outflow : ∃ e ts, w.escrows k = some e ∧ e.amount = amount
    ∧ w.lamports.journal = w₁.lamports.journal ++ ts
    ∧ Transfer.outOf ts k = (if e.Open then 0 else amount)
    ∧ ∀ t ∈ ts, t.src = k → t.dst = user ∨ t.dst = treasury
  /-- It is not open to both a dispute and a release by timeout. -/
  apart : ∀ (a b : Action env) x y, a.op = .markDisputed x →
    x.escrow = k → b.op = .timeoutRelease y → y.escrow = k →
    ¬ ((∃ m, step env a w = .ok m) ∧ ∃ m, step env b w = .ok m)

/-- From the creation of an escrow on, every run pays it out at most once,
its amount exactly, and to its user and treasury only. -/
theorem escrow_conserved {tx : Tx env} {acc : CreateEscrowAccounts}
    {id : Bytes} {amount : Nat} {w₀ w₁ : World} {tr : List (Action env)}
    (hcreate : createEscrow env tx acc id amount w₀ = .ok w₁)
    (hrun : run (step env) w₁ tr = .ok w) :
    PaidOnce env (env.pda (.escrow acc.user id)) acc.user acc.treasury
      amount w₁ tr w := by
  obtain ⟨e₁, hc₁, -⟩ := conserved_create hcreate
  let I : World → Prop := fun w => ∃ e,
    Conserved (env.pda (.escrow acc.user id)) w₁.lamports.journal
      acc.user acc.treasury amount w e
  have hI : ∀ a w w', I w → step env a w = .ok w' → I w' := by
    intro a w w' h hstep
    obtain ⟨e, hc⟩ := h
    obtain ⟨e', hc', -⟩ := hc.step hstep
    exact ⟨e', hc'⟩
  have habs : ∀ a w w', I w → step env a w = .ok w' →
      w.escrowOpen (env.pda (.escrow acc.user id)) = false →
      w'.escrowOpen (env.pda (.escrow acc.user id)) = false := by
    intro a w w' h hstep hclosed
    obtain ⟨e, hc⟩ := h
    obtain ⟨e', hc', hopen⟩ := hc.step hstep
    rw [escrowOpen_eq hc.escrow] at hclosed
    rw [escrowOpen_eq hc'.escrow]
    apply decide_eq_false
    intro ho
    exact of_decide_eq_false hclosed (hopen ho)
  obtain ⟨e, hc⟩ := run_induct hI ⟨e₁, hc₁⟩ hrun
  have hcross := crossings_eq hI habs ⟨e₁, hc₁⟩ hrun
  obtain ⟨ts, hj, hout, hdst⟩ := hc.journal
  refine ⟨?_, ⟨e, ts, hc.escrow, hc.worth, hj, hout, hdst⟩, ?_⟩
  · rw [hcross]
    split
    · exact Nat.le_refl 1
    · exact Nat.zero_le 1
  · intro a b x y ha hx hb hy h
    obtain ⟨⟨m, hm⟩, n, hn⟩ := h
    exact dispute_or_timeout hc.escrow ha hx hb hy hm hn

open Concrete Solana.Concrete in
/-- An escrow that is disputed and then split by its oracles. -/
theorem escrow_conserved_split :
    ∃ w₀ w₁ w, createEscrow Concrete.env
        (txOf Concrete.env coding.wallet_ne_pda [10] 1000 [])
        ⟨wallet 10, wallet 11, wallet 50, wallet 40⟩ sessionId 1000000000
        w₀ = .ok w₁
      ∧ run (step Concrete.env) w₁ split = .ok w
      ∧ PaidOnce Concrete.env escrowKey (wallet 10) (wallet 11) 1000000000
        w₁ split w := by
  obtain ⟨w₀, -, h₀⟩ := check_ok (show check (fun w₀ =>
      check (fun w₁ => check (fun _ => true)
          (run (step Concrete.env) w₁ split))
        (createEscrow Concrete.env
          (txOf Concrete.env coding.wallet_ne_pda [10] 1000 [])
          ⟨wallet 10, wallet 11, wallet 50, wallet 40⟩ sessionId 1000000000
          w₀))
      (run (step Concrete.env) start (dispute.take 5)) = true
    by decide)
  obtain ⟨w₁, hcreate, h₁⟩ := check_ok h₀
  obtain ⟨w, hrun, -⟩ := check_ok h₁
  exact ⟨w₀, w₁, w, hcreate, hrun, escrow_conserved hcreate hrun⟩

end KamiyoProtocol.CompanionEscrow
