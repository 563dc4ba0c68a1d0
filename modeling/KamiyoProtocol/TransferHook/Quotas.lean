/-
Whose transfers use up a wallet's quota.

The cooldown, the count and the volume of a wallet live in its transfer
state, and `execute` is what writes there. It is meant to be called by
the token program in the middle of a transfer, but asks for no proof of
one: no signer, no transfer flag on the token account, no caller. So
anyone can have a transfer counted against a wallet by naming one of its
token accounts, and each such call is accounted like a real one
(`quota_used_up`).

Nothing else writes a wallet's state. A run by others in which nobody
calls `execute` that way leaves it as it is (`Kept.spares` for one
instruction, `quota_unused` for a run).
-/
import KamiyoProtocol.TransferHook.Flags

namespace KamiyoProtocol.TransferHook

open Solana Exec Function

variable {env : Env Seed} {a : Action env} {w w' w₀ : World}
  {config : HookConfig} {clock : Int} {amount : Nat}
  {state s s' : TransferState} {k wallet : Pubkey}

/-- Where a wallet's state is. -/
def stateOf (env : Env Seed) (w : World) (wallet : Pubkey) :
    Option TransferState :=
  w.transferStates (env.pda (.transferState wallet))

/-- A call, not signed by the wallet, has a transfer out of one of its
token accounts judged. -/
def Intrudes (env : Env Seed) (wallet : Pubkey) (a : Action env)
    (w : World) : Prop :=
  wallet ∉ a.tx.signers ∧ ∃ acc amount config source state,
    a.op = .execute acc amount ∧ Judges env w acc config source state
      ∧ source.owner = wallet

-- ==== one step

/-- An instruction that does not intrude leaves the wallet's state, if
the wallet did not sign it. -/
theorem Kept.spares (h : Kept env w)
    (hstate : stateOf env w wallet = some state)
    (hsigner : wallet ∉ a.tx.signers) (hno : ¬ Intrudes env wallet a w)
    (hstep : step env a w = .ok w') :
    stateOf env w' wallet = some state := by
  have hne : ∀ owner, owner ≠ wallet →
      env.pda (.transferState wallet) ≠ env.pda (.transferState owner) := by
    intro owner howner
    exact pda_ne fun he => howner (Seed.transferState.inj he).symm
  rcases step_moved hstep with hstates | ⟨owner, hfresh, hstates⟩
    | ⟨acc, amount, config, source, s₀, s, s', hop, hjudges, hlimits, hdetect,
      hstates⟩ | ⟨k, s, hs, hstates⟩
  · rw [stateOf, hstates]
    exact hstate
  · rw [stateOf, hstates]
    by_cases howner : owner = wallet
    · subst howner
      exact absurd (hfresh.symm.trans hstate) (by simp)
    · rw [update_of_ne (hne owner howner)]
      exact hstate
  · rw [stateOf, hstates, hjudges.keyed]
    by_cases howner : source.owner = wallet
    · exact absurd ⟨hsigner, acc, amount, config, source, s₀, hop, hjudges,
        howner⟩ hno
    · rw [update_of_ne (hne source.owner howner)]
      exact hstate
  · rw [stateOf, hstates]
    by_cases hk : k = env.pda (.transferState wallet)
    · subst hk
      rw [update_self]
      cases hstate.symm.trans hs
      -- unflagging a wallet that is not flagged
      obtain ⟨-, hinert⟩ := h _ state hs
      have hsame : { state with isFlagged := false, rapidReversals := 0 }
          = state := by
        rw [← hinert.isFlagged, ← hinert.rapidReversals]
      rw [hsame]
    · rw [update_of_ne (Ne.symm hk)]
      exact hstate

-- ==== runs

/-- In a run that the wallet signs nothing of, and in which nobody has a
transfer out of its token accounts judged, its state stays what it is. -/
theorem quota_unused {pre tr : List (Action env)} (h₀ : Deployed w₀)
    (hpre : run (step env) w₀ pre = .ok w)
    (hstate : stateOf env w wallet = some state)
    (hothers : ∀ a ∈ tr, wallet ∉ a.tx.signers)
    (hmeets : Meets (step env) (fun a w => ¬ Intrudes env wallet a w) w tr)
    (hrun : run (step env) w tr = .ok w') :
    stateOf env w' wallet = some state := by
  have hkept : Kept env w ∧ stateOf env w wallet = some state :=
    ⟨kept_of_run h₀ hpre, hstate⟩
  refine (run_induct_meets (I := fun x => Kept env x
    ∧ stateOf env x wallet = some state) ?_ hkept
    (meets_and hothers hmeets) hrun).2
  intro a x x' hx hcond hstep
  exact ⟨hx.1.next hstep, hx.1.spares hx.2 hcond.1 hcond.2 hstep⟩

end KamiyoProtocol.TransferHook

namespace KamiyoProtocol.TransferHook.Concrete

open Solana Solana.Concrete Exec

-- ==== the runs of a stranger

/-- Wallet 2 calls it ten times, a second apart. -/
def drained : List (Action env) :=
  [sent 2 1000 0, sent 2 1001 0, sent 2 1002 0, sent 2 1003 0, sent 2 1004 0,
    sent 2 1005 0, sent 2 1006 0, sent 2 1007 0, sent 2 1008 0,
    sent 2 1009 0]

/-- The wallet has an unused state and is not let through. -/
def unused (w : World) : Bool :=
  decide (stateOf env w (wallet 1) = some (.initial (wallet 1)))
    && decide (w.whitelist.map PlatformWhitelist.platforms = some [])

/-- The wallet's state has changed, and its own transfer exceeds the
limit. -/
def exhausted (w : World) : Bool :=
  decide (stateOf env w (wallet 1) ≠ some (.initial (wallet 1)))
    && (match step env (sent 1 1010 5) w with
      | .ok _ => false
      | .error e => decide (e = .custom .rateLimitExceeded))

theorem quota_used_up : ∃ w w', Deployed start
    ∧ run (step env) start opened = .ok w
    ∧ stateOf env w (wallet 1) = some (.initial (wallet 1))
    ∧ (∀ l, w.whitelist = some l → wallet 1 ∉ l.platforms)
    ∧ (∀ a ∈ drained, wallet 1 ∉ a.tx.signers)
    ∧ run (step env) w drained = .ok w'
    ∧ stateOf env w' (wallet 1) ≠ some (.initial (wallet 1))
    ∧ step env (sent 1 1010 5) w' = .error (.custom .rateLimitExceeded) := by
  obtain ⟨w, hopened, hw⟩ := check_ok
    (show check (fun w => unused w && check exhausted
        (run (step env) w drained)) (run (step env) start opened) = true
      by decide)
  rw [Bool.and_eq_true, unused, Bool.and_eq_true] at hw
  obtain ⟨⟨hstate, hlist⟩, hdrained⟩ := hw
  obtain ⟨w', hrun, hw'⟩ := check_ok hdrained
  rw [exhausted, Bool.and_eq_true] at hw'
  obtain ⟨hchanged, hover⟩ := hw'
  refine ⟨w, w', start_deployed, hopened, of_decide_eq_true hstate, ?_, ?_,
    hrun, of_decide_eq_true hchanged, ?_⟩
  · intro l hl
    have hlist := of_decide_eq_true hlist
    rw [hl] at hlist
    have hnil : l.platforms = [] := Option.some.inj hlist
    rw [hnil]
    exact List.not_mem_nil
  · decide
  · split at hover
    · cases hover
    · next e he =>
        rw [he, of_decide_eq_true hover]

/-- Wallet 2 has a transfer out of its own token account judged. -/
def ownTransfer : List (Action env) :=
  [act 2 1000 (.initializeTransferState (wallet 2) (wallet 2)),
    act 2 1001 (.execute ⟨env.pda (.transferState (wallet 2)), purse 2,
      purse 1, mint⟩ 0)]

/-- No transfer out of a token account of wallet 1 is judged. -/
def spares (a : Action env) (w : World) : Bool :=
  match a.op with
  | .execute acc _ =>
    (w.tokenAccounts acc.sourceAccount).all fun t => t.owner ≠ wallet 1
  | _ => true

theorem not_intrudes {a : Action env} {w : World} (h : spares a w = true) :
    ¬ Intrudes env (wallet 1) a w := by
  rintro ⟨-, acc, amount, config, source, state, hop, hjudges, howner⟩
  unfold spares at h
  rw [hop] at h
  dsimp only at h
  rw [hjudges.held, Option.all_some] at h
  exact of_decide_eq_true h howner

theorem quota_unused_own : ∃ w w',
    run (step env) start opened = .ok w ∧ run (step env) w ownTransfer = .ok w'
      ∧ stateOf env w' (wallet 1) = some (.initial (wallet 1)) := by
  obtain ⟨w, hopened, hw⟩ := check_ok
    (show check (fun w => unused w
        && checkRun (step env) spares (fun _ => true) w ownTransfer)
        (run (step env) start opened) = true by decide)
  rw [Bool.and_eq_true, unused, Bool.and_eq_true] at hw
  obtain ⟨⟨hstate, -⟩, hown⟩ := hw
  have hspares : ∀ a w, spares a w = true → ¬ Intrudes env (wallet 1) a w :=
    fun _ _ => not_intrudes
  obtain ⟨w', hrun, -, hmeets⟩ := run_of_check hspares hown
  exact ⟨w, w', hopened, hrun, quota_unused start_deployed hopened
    (of_decide_eq_true hstate) (by decide) hmeets hrun⟩

end KamiyoProtocol.TransferHook.Concrete
