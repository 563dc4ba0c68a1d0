/-
Custody of a token escrow.

A token escrow records the token account it was funded through. The
account is created by the instruction when the passed one holds no data,
and taken as passed otherwise; its authority is then never looked at.
So the escrow is backed, in every run and for as long as it is open,
exactly when the account was fresh or already under the escrow's
authority: from there on only the escrow's own settlements can move the
tokens (`Held`), and from any other start the first state is not backed.
-/
import KamiyoProtocol.Kamiyo.Concrete

namespace KamiyoProtocol.Kamiyo

open Solana Exec Function

variable {env : Env Seed} {tx : Tx env} {w w' : World}

/-- The recorded token account has the escrow's mint, the escrow as its
authority, and at least the amount. -/
def World.Backed (w : World) (k : Pubkey) (e : Escrow) : Prop :=
  ∃ ta mint, e.escrowTokenAccount = some ta ∧ e.tokenMint = some mint
    ∧ w.tokens.Held ta mint k e.amount

/-- While the escrow at `k` is open it is backed. -/
def TokenCustody (k : Pubkey) (w : World) : Prop :=
  ∃ e, w.escrows k = some e ∧ (e.Open → w.Backed k e)

/-- An open escrow rewritten with its terms kept, over spared tokens,
stays backed. -/
theorem World.Backed.rewritten {k : Pubkey} {e e' : Escrow}
    (h : w.Backed k e) (hs : Spares w.tokens w'.tokens k)
    (hta : e'.escrowTokenAccount = e.escrowTokenAccount)
    (hmint : e'.tokenMint = e.tokenMint) (hamount : e'.amount = e.amount) :
    w'.Backed k e' := by
  obtain ⟨ta, mint, h₁, h₂, h₃⟩ := h
  refine ⟨ta, mint, hta.trans h₁, hmint.trans h₂, ?_⟩
  rw [hamount]
  exact hs ta mint e.amount h₃

theorem TokenCustody.step {agent : Pubkey} {id : Bytes} {a : Action env}
    (h : TokenCustody (env.pda (.escrow agent id)) w)
    (hstep : step env a w = .ok w') :
    TokenCustody (env.pda (.escrow agent id)) w' := by
  obtain ⟨e, hesc, hback⟩ := h
  have hkind : EscrowStep env a (env.pda (.escrow agent id)) w w' :=
    step_escrow hstep
  cases hkind with
  | aside ts hl hsrc he hs =>
    exact ⟨e, he.trans hesc, fun ho =>
      (hback ho).rewritten hs rfl rfl rfl⟩
  | opened e' ts ho _ =>
    have := ho.fresh
    rw [hesc] at this
    cases this
  | marked e₁ he hstatus he' hl hb =>
    obtain rfl : e = e₁ := Option.some.inj (hesc.symm.trans he)
    exact ⟨_, he', fun _ =>
      (hback (.inl hstatus)).rewritten (.rfl' hb) rfl rfl rfl⟩
  | committed e₁ oracle hash endsAt _ he hstatus _ hw =>
    obtain rfl : e = e₁ := Option.some.inj (hesc.symm.trans he)
    subst hw
    exact ⟨_, setEscrow_self _ _ _, fun _ =>
      (hback (.inr hstatus)).rewritten (.rfl' rfl) rfl rfl rfl⟩
  | revealed e₁ i c oracle score salt sig _ he hstatus _ _ _ hw =>
    obtain rfl : e = e₁ := Option.some.inj (hesc.symm.trans he)
    subst hw
    exact ⟨_, setEscrow_self _ _ _, fun _ =>
      (hback (.inr hstatus)).rewritten (.rfl' rfl) rfl rfl rfl⟩
  | settled e₁ e' ts us he hopen he' hclosed _ _ _ _ =>
    exact ⟨e', he', fun ho => absurd ho hclosed⟩

-- ==== creation

/-- The condition on the account the agent passes: no data in it yet, or
a token account under the escrow's authority. -/
def EscrowOwned (w : World) (k ta : Pubkey) : Prop :=
  w.DataIsEmpty ta ∨ ∃ a, w.tokens.accounts ta = some a ∧ a.owner = k

/-- The funded token account keeps the mint and authority it had when
readied, and holds the amount. -/
theorem FundedSpl.funded {acc : InitializeEscrowAccounts} {k : Pubkey}
    {e : Escrow} {mint ta src : Pubkey}
    (h : FundedSpl w w' acc k e mint ta src) :
    ∃ d, (ataReady w k mint ta).accounts ta = some d ∧ d.mint = mint
      ∧ ∃ d', w'.tokens.accounts ta = some d' ∧ d'.mint = mint
        ∧ d'.owner = d.owner ∧ e.amount ≤ d'.amount := by
  obtain ⟨s, d, hs, hd, hmint, -, hn, hacc, -⟩ := Tokens.transfer_some h.paid
  have hsrc : s.mint = mint := by
    obtain ⟨a, ha, ham⟩ := h.source
    have hspared : Spares w.tokens (ataReady w k mint ta) a.owner :=
      spares_ataReady
    obtain ⟨a', ha', hm', -, -⟩ := hspared src a.mint a.amount
      ⟨a, ha, rfl, rfl, Nat.le_refl _⟩
    rw [hs] at ha'
    cases ha'
    rw [hm', ham]
  refine ⟨d, hd, hmint.symm.trans hsrc,
    { d with amount := (if ta = src then d.amount - e.amount else d.amount)
        + (if ta = ta then e.amount else 0) }, ?_, ?_, rfl, ?_⟩
  · rw [hacc]
    exact Tokens.adjust_some hd
  · exact hmint.symm.trans hsrc
  · dsimp only
    rw [if_pos rfl]
    exact Nat.le_add_left _ _

/-- A fresh token escrow is backed exactly when the account was the
escrow's to begin with. -/
theorem FundedSpl.backed_iff {acc : InitializeEscrowAccounts} {k : Pubkey}
    {e : Escrow} {mint ta src : Pubkey}
    (h : FundedSpl w w' acc k e mint ta src) :
    w'.Backed k e ↔ EscrowOwned w k ta := by
  obtain ⟨d, hd, -, d', hd', hm', ho', hn'⟩ := h.funded
  constructor
  · rintro ⟨ta', mint', hta, -, x, hx, -, hxo, -⟩
    obtain rfl : ta = ta' := Option.some.inj (h.recorded.2.symm.trans hta)
    rw [hd'] at hx
    cases hx
    unfold ataReady at hd
    split at hd
    · next hempty => exact .inl hempty
    · exact .inr ⟨d, hd, ho'.symm.trans hxo⟩
  · intro hown
    refine ⟨ta, mint, h.recorded.2, h.recorded.1, d', hd', hm', ?_, hn'⟩
    rw [ho']
    unfold ataReady at hd
    split at hd
    · rw [show ((w.tokens.put ta (some ⟨mint, k, 0⟩)).accounts ta)
        = some ⟨mint, k, 0⟩ from update_self ..] at hd
      cases hd
      rfl
    · next hfull =>
        rcases hown with hempty | ⟨a, ha, hao⟩
        · exact absurd hempty hfull
        · rw [hd] at ha
          cases ha
          exact hao

/-- From the creation of a token escrow on, the escrow is backed in every
open state of every run if and only if the token account passed held no
data or was already under the escrow's authority. -/
theorem token_escrow_backed_iff {acc : InitializeEscrowAccounts}
    {amount : Nat} {lock : Int} {id : Bytes} {w₀ w₁ : World}
    (hinit : initializeEscrow env tx acc amount lock id true w₀ = .ok w₁) :
    (∀ tr w₂ e, run (step env) w₁ tr = .ok w₂ →
        w₂.escrows (env.pda (.escrow acc.agent id)) = some e → e.Open →
        w₂.Backed (env.pda (.escrow acc.agent id)) e)
      ↔ ∀ ta, acc.escrowTokenAccount = some ta →
          EscrowOwned w₀ (env.pda (.escrow acc.agent id)) ta := by
  obtain ⟨e₁, ts, -, -, hopened, -, hspl⟩ := initializeEscrow_ok hinit
  obtain ⟨mint, ta, src, hfund⟩ := hspl rfl
  have hesc : w₁.escrows (env.pda (.escrow acc.agent id)) = some e₁ := by
    obtain ⟨t, hw⟩ := hopened.frame
    rw [hw]
    exact setEscrow_self _ _ _
  constructor
  · intro hall ta' hta'
    obtain rfl : ta = ta' := Option.some.inj (hfund.passed.symm.trans hta')
    exact hfund.backed_iff.mp
      (hall [] w₁ e₁ rfl hesc (.inl hopened.status))
  · intro hown tr w₂ e hrun he hopen
    have hback := hfund.backed_iff.mpr (hown ta hfund.passed)
    have hinv : TokenCustody (env.pda (.escrow acc.agent id)) w₂ :=
      run_induct (fun a w w' hI hstep => hI.step hstep)
        ⟨e₁, hesc, fun _ => hback⟩ hrun
    obtain ⟨e', he', hback'⟩ := hinv
    rw [he] at he'
    cases he'
    exact hback' hopen

open Concrete in
/-- An escrow created through its associated token account: the account
was empty, so the equivalence applies with both sides true. -/
theorem token_escrow_backed_iff_ata :
    ∃ w₀ w₁, initializeEscrow Concrete.env (Concrete.tx [10] 1000 [])
        (splAccounts escrowAta) 1000000000 3600 transactionId true w₀ = .ok w₁
      ∧ w₀.DataIsEmpty escrowAta
      ∧ ((∀ tr w₂ e, run (step Concrete.env) w₁ tr = .ok w₂ →
            w₂.escrows escrowKey = some e → e.Open →
            w₂.Backed escrowKey e)
          ↔ ∀ ta, (splAccounts escrowAta).escrowTokenAccount = some ta →
              EscrowOwned w₀ escrowKey ta) := by
  obtain ⟨w₀, -, h₀⟩ := check_ok (show check (fun w₀ =>
    decide (w₀.DataIsEmpty escrowAta) && check (fun _ => true)
      (initializeEscrow Concrete.env (Concrete.tx [10] 1000 [])
        (splAccounts escrowAta) 1000000000 3600 transactionId true w₀))
    (run (step Concrete.env) startSpl setup) = true
      by decide)
  rw [Bool.and_eq_true, decide_eq_true_eq] at h₀
  obtain ⟨w₁, h₁, -⟩ := check_ok h₀.2
  exact ⟨w₀, w₁, h₁, h₀.1, token_escrow_backed_iff h₁⟩

open Concrete in
/-- The agent names a token account of its own as the escrow's. The
escrow opens, the agent empties the account, and the escrow is active
with nothing behind it. -/
theorem token_escrow_drained :
    ∃ w₀ w₁ w₂ e, Genesis startSpl
      ∧ run (step Concrete.env) startSpl setup = .ok w₀
      ∧ initializeEscrow Concrete.env (Concrete.tx [10] 1000 [])
          (splAccounts (wallet 42)) 1000000000 3600 transactionId true w₀
            = .ok w₁
      ∧ run (step Concrete.env) w₁
          [act [10] 1001 (.tokenTransfer (wallet 42) (wallet 41)
            (wallet 10) 1000000000)] = .ok w₂
      ∧ w₂.escrows escrowKey = some e ∧ e.Open
      ∧ e.escrowTokenAccount = some (wallet 42)
      ∧ w₂.tokens.accounts (wallet 42) = some ⟨wallet 50, wallet 10, 0⟩
      ∧ ¬ w₂.Backed escrowKey e := by
  obtain ⟨w₀, h₀, hi⟩ := check_ok (show check (fun w₀ =>
    check (fun w₁ => check (fun w₂ =>
        (w₂.escrows escrowKey).any (fun e => decide (e.Open
          ∧ e.escrowTokenAccount = some (wallet 42)))
        && decide (w₂.tokens.accounts (wallet 42)
          = some ⟨wallet 50, wallet 10, 0⟩))
      (run (step Concrete.env) w₁
        [act [10] 1001 (.tokenTransfer (wallet 42) (wallet 41)
          (wallet 10) 1000000000)]))
      (initializeEscrow Concrete.env (Concrete.tx [10] 1000 [])
        (splAccounts (wallet 42)) 1000000000 3600 transactionId true w₀))
    (run (step Concrete.env) startSpl setup) = true
      by decide)
  obtain ⟨w₁, h₁, hd⟩ := check_ok hi
  obtain ⟨w₂, h₂, hend⟩ := check_ok hd
  rw [Bool.and_eq_true, decide_eq_true_eq] at hend
  obtain ⟨he, hta⟩ := hend
  obtain ⟨e, hesc, hopen⟩ := (Option.any_eq_true _ _).mp he
  have he := of_decide_eq_true hopen
  refine ⟨w₀, w₁, w₂, e, genesis_genesis _ _ _ _, h₀, h₁, h₂, hesc,
    he.1, he.2, hta, ?_⟩
  rintro ⟨ta, mint, hrec, -, a, ha, -, howner, -⟩
  obtain rfl : wallet 42 = ta := Option.some.inj (he.2.symm.trans hrec)
  rw [hta] at ha
  cases ha
  -- the account is still the agent's, a wallet
  exact coding.wallet_ne_pda 10 _ howner.symm

end KamiyoProtocol.Kamiyo
