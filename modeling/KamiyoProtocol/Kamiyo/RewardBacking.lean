/-
Backing of the recorded oracle rewards.

Rewards are recorded in units of whatever the escrow was denominated in
and are claimed in lamports from the treasury. A SOL finalisation pays
the treasury what it records; a token finalisation pays tokens to a
token account and records them all the same, and a treasury withdrawal
is bounded by the rent minimum alone. Runs whose token finalisations
record nothing and whose withdrawals leave the recorded rewards behind
keep every reward backed.
-/
import KamiyoProtocol.Kamiyo.Pools
import KamiyoProtocol.Kamiyo.TokenPayout

namespace KamiyoProtocol.Kamiyo

open Solana Exec

variable {env : Env Seed} {w w' : World}

/-- The rewards recorded for all listed oracles. -/
def owedRewards (w : World) : Nat :=
  match w.registry with
  | some reg => rewardSum reg.oracles
  | none => 0

theorem owedRewards_eq {reg : OracleRegistry} (h : w.registry = some reg) :
    owedRewards w = rewardSum reg.oracles := by
  rw [owedRewards, h]

/-- The treasury holds, above its rent minimum, every recorded reward. -/
def RewardsBacked (env : Env Seed) (w : World) : Prop :=
  owedRewards w
    ≤ w.lamports.bal (env.pda .treasury) - env.minimumBalance treasurySpace

/-- What runs preserve: an open treasury is at its rent minimum and the
rewards, and without a treasury nothing was ever recorded. -/
structure TreasuryReserve (env : Env Seed) (w : World) : Prop where
  funded : w.treasury.isSome = true →
    env.minimumBalance treasurySpace + owedRewards w
      ≤ w.lamports.bal (env.pda .treasury)
  idle : w.treasury.isSome = false → owedRewards w = 0

theorem TreasuryReserve.backed (h : TreasuryReserve env w) :
    RewardsBacked env w := by
  unfold RewardsBacked
  cases ht : w.treasury.isSome with
  | true =>
    have := h.funded ht
    omega
  | false =>
    rw [h.idle ht]
    exact Nat.zero_le _

/-- The action leaves the recorded rewards in the treasury: a withdrawal
takes from what is above them, and a token finalisation has nowhere to
send rewards or nothing to reward. -/
structure RewardsKept (env : Env Seed) (a : Action env) (w : World) :
    Prop where
  withdrawal : ∀ acc n, a.op = .withdrawTreasury acc n →
    env.minimumBalance treasurySpace + owedRewards w + n
      ≤ w.lamports.bal (env.pda .treasury)
  finalisation : ∀ acc e reg, a.op = .finalizeMultiOracleDispute acc →
    w.escrows acc.escrow = some e → w.registry = some reg →
    e.tokenMint = none ∨ acc.treasuryTokenAccount = none ∨ FullRefund e reg

/-- Moves whose net outflow the rewards follow keep the reserve. -/
theorem TreasuryReserve.moved {ts : List (Transfer Pubkey)}
    (h : TreasuryReserve env w)
    (hl : w.lamports.moves ts = some w'.lamports)
    (ht : w'.treasury.isSome = w.treasury.isSome)
    (howed : owedRewards w' + Transfer.outOf ts (env.pda .treasury)
      ≤ owedRewards w + Transfer.into ts (env.pda .treasury))
    (hidle : w.treasury.isSome = false → owedRewards w' ≤ owedRewards w) :
    TreasuryReserve env w' := by
  constructor
  · intro hsome
    exact Ledger.reserve_moves hl (h.funded (ht ▸ hsome)) howed
  · intro hnone
    have hnone' : w.treasury.isSome = false := ht ▸ hnone
    have hle := hidle hnone'
    rw [h.idle hnone'] at hle
    exact Nat.le_zero.mp hle

/-- The common case: rewards do not grow, and the treasury pays
nothing. -/
theorem TreasuryReserve.spared {ts : List (Transfer Pubkey)}
    (h : TreasuryReserve env w)
    (hl : w.lamports.moves ts = some w'.lamports)
    (ht : w'.treasury.isSome = w.treasury.isSome)
    (howed : owedRewards w' ≤ owedRewards w)
    (hsrc : ∀ t ∈ ts, t.src ≠ env.pda .treasury) :
    TreasuryReserve env w' := by
  refine h.moved hl ht ?_ fun _ => howed
  rw [Transfer.outOf_eq_zero hsrc]
  omega

/-- A finalisation that meets the condition records rewards only if it
pays them to an open treasury. -/
theorem Finalized.rewards_paid {tx : Tx env} {acc : FinalizeAccounts}
    {e : Escrow} {reg reg' : OracleRegistry} {c reward : Nat}
    {split : Split} {ts us : List (Transfer Pubkey)}
    (hf : Finalized env tx acc w w' e reg reg' c split reward ts us)
    (hmax : e.amount ≤ maxEscrowAmount)
    (hcond : e.tokenMint = none ∨ acc.treasuryTokenAccount = none
      ∨ FullRefund e reg) :
    reward = 0
      ∨ (w.treasury.isSome = true
        ∧ reward ≤ Transfer.into ts (env.pda .treasury)) := by
  have hbudget := hf.budget
  have hdisabled := (splitAmount_bounds e.amount c
    (oracleRewardsEnabled e acc) e.oracleSubmissions.length).disabled
  rw [← hf.shares] at hdisabled
  have hoff : split.rewardPerOracle = 0 → reward = 0 := by
    intro hrpo
    rw [hrpo] at hbudget
    omega
  cases hmint : e.tokenMint with
  | none =>
    cases htr : acc.treasury with
    | true => exact .inr ⟨hf.treasury htr, hf.funded hmint⟩
    | false =>
      left
      apply hoff
      apply hdisabled
      rw [oracleRewardsEnabled, hmint]
      exact htr
  | some mint =>
    left
    apply hoff
    rcases hcond with hsol | hta | ⟨c', hc', hlow⟩
    · rw [hmint] at hsol
      cases hsol
    · apply hdisabled
      rw [oracleRewardsEnabled, hmint, hta]
      rfl
    · rw [finalizeConsensus_ok hf.agreed] at hc'
      cases hc'
      exact (splitAmount_full hf.shares hmax hlow).2

theorem TreasuryReserve.step {a : Action env} (h : TreasuryReserve env w)
    (hreach : Reachable (step env) Genesis w)
    (hcond : RewardsKept env a w) (hstep : step env a w = .ok w') :
    TreasuryReserve env w' := by
  have hreg : env.pda .oracleRegistry ≠ env.pda .treasury :=
    pda_ne (by simp)
  cases step_pools hstep with
  | aside ts hl hsrc hr ht =>
    refine h.spared hl ht ?_ fun t hmem => (hsrc t hmem).2
    rw [owedRewards, hr]
    exact Nat.le_refl _
  | treasuryOpened ts hfresh hl hsig hcov hr =>
    have hzero : owedRewards w' = 0 := by
      rw [owedRewards, hr]
      apply h.idle
      rw [hfresh]
      rfl
    constructor
    · intro _
      rw [hzero]
      exact hcov
    · intro _
      exact hzero
  | treasuryPaid acc n hop hl hr ht ht' =>
    have hroom := hcond.withdrawal acc n hop
    have howed : owedRewards w' = owedRewards w := by
      rw [owedRewards, hr]
      rfl
    constructor
    · intro _
      rw [howed]
      have hbal := Ledger.bal_moves hl (env.pda .treasury)
      rw [Transfer.outOf_cons, if_pos rfl, Transfer.outOf_nil] at hbal
      dsimp only at hbal
      omega
    · intro hnone
      rw [ht'] at hnone
      cases hnone
  | registryOpened reg ts hfresh hempty hl hsig _ hr ht =>
    refine h.spared hl (by rw [ht]) ?_ fun t hmem =>
      signer_ne (hsig t hmem)
    rw [owedRewards_eq hr, hempty]
    exact Nat.zero_le _
  | neutral reg reg' hn =>
    have hnone : w.lamports.moves [] = some w'.lamports := by
      rw [hn.frame]
      rfl
    have hr' : w'.registry = some reg' := by
      rw [hn.frame]
      rfl
    refine h.spared hnone (by rw [hn.frame]; rfl) ?_ (by simp)
    rw [owedRewards_eq hr', owedRewards_eq hn.registry, hn.rewards]
  | deposited reg reg' src n hd =>
    have hr' : w'.registry = some reg' := by
      rw [hd.frame]
      rfl
    refine h.spared hd.lamports (by rw [hd.frame]; rfl) ?_ ?_
    · rw [owedRewards_eq hr', owedRewards_eq hd.registry, hd.rewards]
    · intro t ht
      rw [List.mem_singleton] at ht
      rw [ht]
      exact signer_ne hd.signer
  | removed reg reg' o dst hd =>
    have hr' : w'.registry = some reg' := by
      rw [hd.frame]
      rfl
    refine h.spared hd.lamports (by rw [hd.frame]; rfl) ?_ ?_
    · rw [owedRewards_eq hr', owedRewards_eq hd.registry, ← hd.rewards]
      exact Nat.le_add_right _ _
    · intro t ht
      rw [(of_mem_payment ht).1]
      exact hreg
  | withdrawn acc reg reg' i o _ _ _ hd =>
    have hr' : w'.registry = some reg' := by
      rw [hd.frame]
      rfl
    refine h.spared hd.lamports (by rw [hd.frame]; rfl) ?_ ?_
    · rw [owedRewards_eq hr', owedRewards_eq hd.registry, ← hd.rewards]
      exact Nat.le_add_right _ _
    · intro t ht
      rw [(of_mem_payment ht).1]
      exact hreg
  | claimed reg reg' oracle n hr hsig hl _ hrew hw =>
    have hr' : w'.registry = some reg' := by
      rw [hw]
      rfl
    have howed : owedRewards w' + n = owedRewards w := by
      rw [owedRewards_eq hr', owedRewards_eq hr, hrew]
    refine h.moved hl (by rw [hw]; rfl) ?_ ?_
    · rw [Transfer.outOf_cons, if_pos rfl, Transfer.outOf_nil]
      dsimp only
      omega
    · intro _
      omega
  | finalized acc e reg reg' c split reward ts us hop hf =>
    obtain ⟨t, hw, ht⟩ := hf.frame
    obtain ⟨-, hmax⟩ := amount_in_range hreach (hf.address ▸ hf.escrow)
    have hr' : w'.registry = some reg' := by rw [hw]
    have ht' : w'.treasury.isSome = w.treasury.isSome := by
      rw [hw]
      exact ht
    have hrew : owedRewards w' ≤ owedRewards w + reward := by
      rw [owedRewards_eq hr', owedRewards_eq hf.registry]
      exact hf.rewards
    have hsrc : ∀ x ∈ ts, x.src ≠ env.pda .treasury := by
      intro x hx
      rcases hf.sources x hx with hs | hs | hs
      · rw [hs, hf.address]
        exact pda_ne (by simp)
      · rw [hs]
        exact hreg
      · rw [hs]
        exact pda_ne (by simp)
    rcases hf.rewards_paid hmax (hcond.finalisation acc e reg hop
      hf.escrow hf.registry) with hzero | ⟨hsome, hinto⟩
    · refine h.spared hf.lamports ht' ?_ hsrc
      omega
    · refine h.moved hf.lamports ht' ?_ ?_
      · rw [Transfer.outOf_eq_zero hsrc]
        omega
      · intro hnone
        rw [hsome] at hnone
        cases hnone

/-- In every run from before the program is set up whose treasury
withdrawals and token finalisations meet the condition, every reward
recorded is held by the treasury. -/
theorem rewards_backed {w₀ : World} {tr : List (Action env)} (hgen : Genesis w₀)
    (hkept : Meets (step env) (RewardsKept env) w₀ tr)
    (hrun : run (step env) w₀ tr = .ok w) : RewardsBacked env w := by
  have hinv : Reachable (step env) Genesis w ∧ TreasuryReserve env w := by
    have hfirst : TreasuryReserve env w₀ := by
      constructor
      · intro hsome
        rw [hgen.treasury] at hsome
        cases hsome
      · intro _
        rw [owedRewards, hgen.registry]
    have hstart : Reachable (step env) Genesis w₀ :=
      ⟨w₀, [], hgen, rfl⟩
    refine run_induct_meets (I := fun s =>
      Reachable (step env) Genesis s ∧ TreasuryReserve env s) ?_
      ⟨hstart, hfirst⟩ hkept hrun
    intro a s s' hI hc hs
    exact ⟨hI.1.next hs, hI.2.step hI.1 hc hs⟩
  exact hinv.2.backed

open Concrete in
/-- A SOL dispute is voted and finalised with the treasury: the rewards
recorded are in it. -/
theorem rewards_backed_sol :
    ∃ w, run (step Concrete.env) start
        (setup ++ openSol :: dispute :: vote 70 ++ [finalize true]) = .ok w
      ∧ owedRewards w = 9999999 ∧ RewardsBacked Concrete.env w := by
  obtain ⟨w, hrun, howed⟩ := check_ok (show check (fun w =>
      decide (owedRewards w = 9999999))
    (run (step Concrete.env) start
      (setup ++ openSol :: dispute :: vote 70 ++ [finalize true])) = true
      by decide +kernel)
  rw [decide_eq_true_eq] at howed
  have hkept : Meets (step Concrete.env) (RewardsKept Concrete.env)
      start (setup ++ openSol :: dispute :: vote 70 ++ [finalize true]) := by
    refine meets_of_check ?_ (show checkMeets (step Concrete.env)
      (fun a _ => match a.op with
        | .withdrawTreasury _ _ => false
        | .finalizeMultiOracleDispute acc => acc.treasuryTokenAccount.isNone
        | _ => true) start _ = true by decide +kernel)
    intro a s hkind
    constructor
    · intro acc n hop
      rw [hop] at hkind
      cases hkind
    · intro acc e reg hop _ _
      rw [hop] at hkind
      exact .inr (.inl (Option.isNone_iff_eq_none.mp hkind))
  exact ⟨w, hrun, howed, rewards_backed (genesis_genesis _ _ _ _) hkept hrun⟩

/-- The treasury's own token account. -/
def treasuryAta : Pubkey :=
  Concrete.env.ata (Concrete.env.pda .treasury) (Concrete.wallet 50)

open Concrete in
/-- A token dispute is finalised into the treasury's own token account:
the rewards are recorded, the treasury holds the creation fee. -/
theorem rewards_unbacked :
    ∃ w, Reachable (step Concrete.env) Genesis w
      ∧ run (step Concrete.env) startSpl
        (setup ++ openSpl escrowAta :: dispute :: vote 70
          ++ [act [30] 1550 (.createAta (Concrete.env.pda .treasury)
              (wallet 50)), finalizeTokens treasuryAta]) = .ok w
      ∧ owedRewards w = 9999999
      ∧ w.lamports.bal (Concrete.env.pda .treasury)
        = Concrete.env.minimumBalance treasurySpace + 5000
      ∧ ¬ RewardsBacked Concrete.env w := by
  obtain ⟨w, hrun, hend⟩ := check_ok (show check (fun w =>
      decide (owedRewards w = 9999999)
      && decide (w.lamports.bal (Concrete.env.pda .treasury)
        = Concrete.env.minimumBalance treasurySpace + 5000))
    (run (step Concrete.env) startSpl
      (setup ++ openSpl escrowAta :: dispute :: vote 70
        ++ [act [30] 1550 (.createAta (Concrete.env.pda .treasury)
            (wallet 50)), finalizeTokens treasuryAta])) = true
      by decide +kernel)
  rw [Bool.and_eq_true, decide_eq_true_eq, decide_eq_true_eq] at hend
  obtain ⟨howed, hbal⟩ := hend
  refine ⟨w, ⟨startSpl, _, genesis_genesis _ _ _ _, hrun⟩, hrun, howed, hbal,
    ?_⟩
  unfold RewardsBacked
  omega

end KamiyoProtocol.Kamiyo
