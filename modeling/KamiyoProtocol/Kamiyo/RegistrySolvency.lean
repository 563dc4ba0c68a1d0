/-
Solvency of the oracle registry.

The registry account owes its rent minimum and every listed stake.
Deposits, removals and slashes move lamports and stakes together, so
they keep it solvent, whatever it holds. A completed withdrawal pays the
oracle's recorded rewards as well, and those lamports were never put
there: they sit in the treasury. The registry therefore stays solvent
through a run exactly when every completed withdrawal finds the rewards
covered by a surplus.
-/
import KamiyoProtocol.Kamiyo.Pools

namespace KamiyoProtocol.Kamiyo

open Solana Exec

variable {env : Env Seed} {w w' : World}

/-- The registry account holds its rent minimum and every stake. -/
def RegistrySolvent (env : Env Seed) (w : World) : Prop :=
  ∀ reg, w.registry = some reg →
    env.minimumBalance oracleRegistrySpace + stakeSum reg.oracles
      ≤ w.lamports.bal (env.pda .oracleRegistry)

/-- The action, when it completes a withdrawal, finds the oracle's
rewards in the registry account on top of rent and stakes. -/
def WithdrawalCovered (env : Env Seed) (a : Action env) (w : World) :
    Prop :=
  ∀ acc reg i o, a.op = .completeOracleWithdrawal acc → w.registry = some reg →
    Keyed.locate OracleConfig.pubkey reg.oracles acc.oracle = some (i, o) →
    env.minimumBalance oracleRegistrySpace + stakeSum reg.oracles
      + o.totalRewards ≤ w.lamports.bal (env.pda .oracleRegistry)

/-- Moves whose outflow the stakes follow keep the registry solvent. -/
theorem RegistrySolvent.moved {reg reg' : OracleRegistry}
    {ts : List (Transfer Pubkey)} (h : RegistrySolvent env w)
    (hreg : w.registry = some reg) (hreg' : w'.registry = some reg')
    (hl : w.lamports.moves ts = some w'.lamports)
    (hstakes : stakeSum reg'.oracles
        + Transfer.outOf ts (env.pda .oracleRegistry)
      ≤ stakeSum reg.oracles + Transfer.into ts (env.pda .oracleRegistry)) :
    RegistrySolvent env w' := by
  intro r hr
  obtain rfl : reg' = r := Option.some.inj (hreg'.symm.trans hr)
  exact Ledger.reserve_moves hl (h reg hreg) hstakes

theorem RegistrySolvent.spared {ts : List (Transfer Pubkey)}
    (h : RegistrySolvent env w) (hr : w'.registry = w.registry)
    (hl : w.lamports.moves ts = some w'.lamports)
    (hsrc : ∀ t ∈ ts, t.src ≠ env.pda .oracleRegistry) :
    RegistrySolvent env w' := by
  intro reg hreg
  exact Nat.le_trans (h reg (hr ▸ hreg)) (Ledger.bal_mono hl hsrc)

/-- Every action but a completed withdrawal keeps the registry
solvent. -/
theorem RegistrySolvent.step {a : Action env} (h : RegistrySolvent env w)
    (hop : ∀ acc, a.op ≠ .completeOracleWithdrawal acc)
    (hstep : step env a w = .ok w') : RegistrySolvent env w' := by
  have htr : env.pda .treasury ≠ env.pda .oracleRegistry :=
    pda_ne (by simp)
  cases step_pools hstep with
  | aside ts hl hsrc hr _ =>
    exact h.spared hr hl fun t ht => (hsrc t ht).1
  | treasuryOpened ts _ hl hsig _ hr =>
    exact h.spared hr hl fun t ht => signer_ne (hsig t ht)
  | treasuryPaid acc n _ hl hr _ _ =>
    refine h.spared hr hl ?_
    intro t ht
    rw [List.mem_singleton] at ht
    rw [ht]
    exact htr
  | registryOpened reg ts _ hempty _ _ hcov hr _ =>
    intro r hr'
    obtain rfl : reg = r := Option.some.inj (hr.symm.trans hr')
    rw [hempty]
    exact hcov
  | neutral reg reg' hn =>
    have hnone : w.lamports.moves [] = some w'.lamports := by
      rw [hn.frame]
      rfl
    refine h.moved hn.registry (by rw [hn.frame]; rfl) hnone ?_
    rw [hn.stakes]
    exact Nat.le_refl _
  | deposited reg reg' src n hd =>
    refine h.moved hd.registry (by rw [hd.frame]; rfl) hd.lamports ?_
    have hsrc : src ≠ env.pda .oracleRegistry := signer_ne hd.signer
    have hst := hd.stakes
    rw [Transfer.outOf_cons, Transfer.into_cons, if_neg hsrc, if_pos rfl,
      Transfer.outOf_nil, Transfer.into_nil]
    omega
  | removed reg reg' o dst hd =>
    refine h.moved hd.registry (by rw [hd.frame]; rfl) hd.lamports ?_
    have hst := hd.stakes
    rw [outOf_payment, if_pos rfl]
    omega
  | withdrawn acc reg reg' i o hwd _ _ _ => exact absurd hwd (hop acc)
  | claimed reg reg' oracle n hreg _ hl hst _ hw =>
    refine h.moved hreg (by rw [hw]; rfl) hl ?_
    rw [Transfer.outOf_cons, if_neg htr, Transfer.outOf_nil, hst]
    exact Nat.le_add_right _ _
  | finalized acc e reg reg' c split reward ts us _ hf =>
    obtain ⟨t, hw, -⟩ := hf.frame
    refine h.moved hf.registry (by rw [hw]) hf.lamports ?_
    rw [hf.stakes]
    exact Nat.le_add_right _ _

/-- A completed withdrawal keeps the registry solvent exactly when the
rewards it pays are covered. -/
theorem registrySolvent_withdrawal {a : Action env} {acc : OracleAccounts}
    (hop : a.op = .completeOracleWithdrawal acc)
    (hstep : step env a w = .ok w') :
    RegistrySolvent env w' ↔ WithdrawalCovered env a w := by
  unfold step at hstep
  rw [hop] at hstep
  obtain ⟨reg, reg', i, o, hsig, hloc, hd⟩ :=
    completeOracleWithdrawal_ok hstep
  have hreg' : w'.registry = some reg' := by
    rw [hd.frame]
    rfl
  -- stake and rewards left, and none of it came back
  have hdst : acc.oracle ≠ env.pda .oracleRegistry := signer_ne hsig
  have hbal := Ledger.bal_moves hd.lamports (env.pda .oracleRegistry)
  rw [outOf_payment, into_payment, if_pos rfl, if_neg hdst] at hbal
  have hstakes := hd.stakes
  constructor
  · intro hsolv acc' r i' o' hop' hr hloc'
    obtain rfl : acc = acc' := by
      rw [hop] at hop'
      cases hop'
      rfl
    obtain rfl : reg = r := Option.some.inj (hd.registry.symm.trans hr)
    rw [hloc] at hloc'
    cases hloc'
    have := hsolv reg' hreg'
    omega
  · intro hcov r hr
    obtain rfl : reg' = r := Option.some.inj (hreg'.symm.trans hr)
    have := hcov acc reg i o hop hd.registry hloc
    omega

/-- From the creation of the registry on, a run keeps it solvent
throughout if and only if every withdrawal it completes is covered. -/
theorem registry_solvent_iff {tx : Tx env}
    {acc : InitializeOracleRegistryAccounts} {c d : Nat} {w₀ w₁ w₂ : World}
    {tr : List (Action env)}
    (hinit : initializeOracleRegistry env tx acc c d w₀ = .ok w₁)
    (hrun : run (step env) w₁ tr = .ok w₂) :
    Throughout (step env) (RegistrySolvent env) w₁ tr
      ↔ Meets (step env) (WithdrawalCovered env) w₁ tr := by
  have hfirst : RegistrySolvent env w₁ := by
    obtain ⟨reg, ts, -, hempty, -, -, hcov, hw⟩ :=
      initializeOracleRegistry_ok hinit
    intro r hr
    rw [hw] at hr
    cases hr
    rw [hempty]
    exact hcov
  refine throughout_iff_meets (fun _ => True)
    (fun _ _ _ _ _ => trivial) ?_ trivial hfirst hrun
  intro a w w' _ hsolv hstep
  by_cases hop : ∃ acc, a.op = .completeOracleWithdrawal acc
  · obtain ⟨acc', hacc⟩ := hop
    exact registrySolvent_withdrawal hacc hstep
  · have hother : ∀ acc, a.op ≠ .completeOracleWithdrawal acc :=
      fun acc' hacc => hop ⟨acc', hacc⟩
    constructor
    · intro _ acc' reg i o hacc
      exact absurd hacc (hother acc')
    · intro _
      exact hsolv.step hother hstep

-- ==== instances

/-- Oracle 20 leaves: it asks, waits the cooldown out, and completes. -/
def depart : List (Action Concrete.env) :=
  [Concrete.act [20] 1700 (.requestOracleWithdrawal ⟨Concrete.wallet 20⟩),
   Concrete.act [20] 1000000
    (.completeOracleWithdrawal ⟨Concrete.wallet 20⟩)]

open Concrete in
/-- Three oracles enrol and one leaves with no rewards recorded. -/
theorem registry_solvent_iff_departed :
    ∃ w₀ w₁ w₂, initializeOracleRegistry Concrete.env (tx [1] 1000 [])
        ⟨wallet 1⟩ 3 10 w₀ = .ok w₁
      ∧ run (step Concrete.env) w₁ (setup.drop 3 ++ depart) = .ok w₂
      ∧ (Throughout (step Concrete.env) (RegistrySolvent Concrete.env)
          w₁ (setup.drop 3 ++ depart)
        ↔ Meets (step Concrete.env) (WithdrawalCovered Concrete.env)
          w₁ (setup.drop 3 ++ depart)) := by
  obtain ⟨w₀, -, h₀⟩ := check_ok (show check (fun w₀ =>
    check (fun w₁ => check (fun _ => true)
      (run (step Concrete.env) w₁ (setup.drop 3 ++ depart)))
      (initializeOracleRegistry Concrete.env (tx [1] 1000 []) ⟨wallet 1⟩
        3 10 w₀))
    (run (step Concrete.env) start (setup.take 2)) = true
      by decide)
  obtain ⟨w₁, h₁, hrun⟩ := check_ok h₀
  obtain ⟨w₂, h₂, -⟩ := check_ok hrun
  exact ⟨w₀, w₁, w₂, h₁, h₂, registry_solvent_iff h₁ h₂⟩

open Concrete in
/-- An oracle rewarded by a dispute leaves, and is paid its rewards out of
the other oracles' stakes: two SOL of stake are left against less than
two SOL and rent. -/
theorem registry_insolvent :
    ∃ w₀ w₁ w₂ reg, Genesis start
      ∧ run (step Concrete.env) start (setup.take 2) = .ok w₀
      ∧ initializeOracleRegistry Concrete.env (tx [1] 1000 []) ⟨wallet 1⟩
          3 10 w₀ = .ok w₁
      ∧ run (step Concrete.env) w₁ (setup.drop 3
          ++ openSol :: dispute :: vote 70 ++ finalize true :: depart)
        = .ok w₂
      ∧ w₂.registry = some reg
      ∧ stakeSum reg.oracles = 2000000000
      ∧ w₂.lamports.bal (Concrete.env.pda .oracleRegistry) = 2024854667
      ∧ ¬ RegistrySolvent Concrete.env w₂ := by
  obtain ⟨w₀, h₀, hinit⟩ := check_ok (show check (fun w₀ =>
    check (fun w₁ => check (fun w₂ =>
        (w₂.registry.any fun r => stakeSum r.oracles = 2000000000)
        && decide (w₂.lamports.bal (Concrete.env.pda .oracleRegistry)
          = 2024854667))
      (run (step Concrete.env) w₁ (setup.drop 3
        ++ openSol :: dispute :: vote 70 ++ finalize true :: depart)))
      (initializeOracleRegistry Concrete.env (tx [1] 1000 []) ⟨wallet 1⟩
        3 10 w₀))
    (run (step Concrete.env) start (setup.take 2)) = true
      by decide +kernel)
  obtain ⟨w₁, h₁, hrun⟩ := check_ok hinit
  obtain ⟨w₂, h₂, hend⟩ := check_ok hrun
  rw [Bool.and_eq_true, decide_eq_true_eq] at hend
  obtain ⟨hany, hbal⟩ := hend
  obtain ⟨reg, hreg, hst⟩ := (Option.any_eq_true _ _).mp hany
  rw [decide_eq_true_eq] at hst
  refine ⟨w₀, w₁, w₂, reg, genesis_genesis _ _ _ _, h₀, h₁, h₂, hreg, hst,
    hbal, ?_⟩
  intro hsolv
  have hrent : Concrete.env.minimumBalance oracleRegistrySpace
      = 28188000 := by decide
  have := hsolv reg hreg
  omega

end KamiyoProtocol.Kamiyo
