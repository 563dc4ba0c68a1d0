/-
The sandwich flag.

A wallet is to be flagged at its third rapid reversal. Two things keep
that from ever happening. The handler sets the flag and returns an error,
and what it set is dropped with the rest of the instruction. And the
detection never fires at all: the one direction ever recorded is
outbound, which is also the direction of every transfer that is judged,
so nothing is a reversal. The second holds in the states that are
reached; the first does in any state.
-/
import KamiyoProtocol.TransferHook.Concrete

namespace KamiyoProtocol.TransferHook

open Solana Exec Function

variable {env : Env Seed} {a : Action env} {w w' w₀ : World}
  {config : HookConfig} {clock : Int} {amount : Nat}
  {state s s' : TransferState} {k : Pubkey}

-- ==== judging

/-- Two states that differ in the window's counts at most. -/
structure SameHistory (s s' : TransferState) : Prop where
  owner : s'.owner = s.owner
  lastTransferTime : s'.lastTransferTime = s.lastTransferTime
  lastTransferOutbound : s'.lastTransferOutbound = s.lastTransferOutbound
  rapidReversals : s'.rapidReversals = s.rapidReversals
  isFlagged : s'.isFlagged = s.isFlagged

theorem SameHistory.reverses (h : SameHistory s s') :
    Reverses clock s' ↔ Reverses clock s := by
  unfold Reverses
  rw [h.lastTransferTime, h.lastTransferOutbound]

theorem resetWindow_ok (h : resetWindow config clock s = .ok s') :
    SameHistory s s' := by
  obtain ⟨elapsed, -, h⟩ := bind_ok.mp h
  split at h
  · cases h
    exact ⟨rfl, rfl, rfl, rfl, rfl⟩
  · cases h
    exact ⟨rfl, rfl, rfl, rfl, rfl⟩

theorem checkLimits_ok (h : checkLimits config clock amount s = .ok s') :
    s.isFlagged = false ∧ SameHistory s s' := by
  obtain ⟨_, hflag, _, -, m, hreset, h⟩ := bind_ok₃.mp h
  obtain ⟨_, -, _, -, h⟩ := bind_ok₂.mp h
  cases h
  exact ⟨ensure_ok.mp hflag, resetWindow_ok hreset⟩

theorem detectSandwich_quiet {err : Option TransferHookError}
    (hquiet : ¬ Reverses clock s)
    (h : detectSandwich clock s = .ok (s', err)) :
    s'.owner = s.owner ∧ s'.isFlagged = s.isFlagged
      ∧ (s'.rapidReversals = s.rapidReversals ∨ s'.rapidReversals = 0) := by
  obtain ⟨elapsed, -, h⟩ := bind_ok.mp h
  rw [if_neg hquiet] at h
  split at h
  · cases h
    exact ⟨rfl, rfl, .inr rfl⟩
  · cases h
    exact ⟨rfl, rfl, .inl rfl⟩

theorem detectSandwich_third {err : Option TransferHookError}
    (hrev : Reverses clock s)
    (hthird : 3 ≤ Fixed.saturatingAdd 8 s.rapidReversals 1)
    (h : detectSandwich clock s = .ok (s', err)) :
    err = some .suspectedSandwichAttack := by
  obtain ⟨elapsed, -, h⟩ := bind_ok.mp h
  rw [if_pos hrev] at h
  dsimp only at h
  rw [if_pos hthird] at h
  cases h
  rfl

theorem judgeTransfer_ok {acc : ExecuteAccounts} {exempt : List Pubkey}
    (h : judgeTransfer acc config exempt clock amount state w = .ok w') :
    ∃ s s', checkLimits config clock amount state = .ok s
      ∧ detectSandwich clock s = .ok (s', none)
      ∧ w' = settleTransfer acc config exempt clock amount s' w := by
  obtain ⟨s, hlimits, ⟨s', err⟩, hdetect, h⟩ := bind_ok₂.mp h
  cases err with
  | some e => cases h
  | none =>
    cases h
    exact ⟨s, s', hlimits, hdetect, rfl⟩

/-- The accounts a call of `execute` is about: a source account of an
owner that the hook, being enabled, does not let through unjudged, and
the state under the owner's address. -/
structure Judges (env : Env Seed) (w : World) (acc : ExecuteAccounts)
    (config : HookConfig) (source : TokenAccount) (state : TransferState) :
    Prop where
  configured : w.config = some config
  enabled : config.enabled = true
  held : w.tokenAccounts acc.sourceAccount = some source
  unlisted : ∀ l, w.whitelist = some l → source.owner ∉ l.platforms
  stored : w.transferStates acc.sourceState = some state
  keyed : acc.sourceState = env.pda (.transferState source.owner)

theorem Judges.unique {acc : ExecuteAccounts} {config' : HookConfig}
    {source source' : TokenAccount} {state' : TransferState}
    (h : Judges env w acc config source state)
    (h' : Judges env w acc config' source' state') :
    config = config' ∧ state = state' := by
  have hconfig : some config = some config' :=
    h.configured.symm.trans h'.configured
  have hstate : some state = some state' := h.stored.symm.trans h'.stored
  exact ⟨Option.some.inj hconfig, Option.some.inj hstate⟩

/-- A call that went through was let by, being about nothing to judge, or
judged. -/
theorem execute_ok {tx : Tx env} {acc : ExecuteAccounts}
    (h : execute env tx acc amount w = .ok w') :
    (w' = w ∧ ∀ config source state, ¬ Judges env w acc config source state)
      ∨ ∃ config exempt source state,
        Judges env w acc config source state
          ∧ judgeTransfer acc config exempt tx.clock amount state w
            = .ok w' := by
  obtain ⟨_, -, config, hconfig, whitelist, hwhitelist, exempt, -, h⟩ :=
    bind_ok₄.mp h
  obtain ⟨state, hstate, source, hsource, _, -, h⟩ := bind_ok₃.mp h
  obtain ⟨_, -, _, hkey, h⟩ := bind_ok₂.mp h
  have hconfig := load_ok.mp hconfig
  have hwhitelist := load_ok.mp hwhitelist
  have hsource := load_ok.mp hsource
  split at h
  · next hdisabled =>
      cases h
      refine .inl ⟨rfl, ?_⟩
      intro config' source' state' hj
      have heq := hj.configured
      rw [hconfig] at heq
      cases heq
      exact absurd (hdisabled.symm.trans hj.enabled) (by decide)
  · next henabled =>
      split at h
      · next hlisted =>
          cases h
          refine .inl ⟨rfl, ?_⟩
          intro config' source' state' hj
          have heq := hj.held
          rw [hsource] at heq
          cases heq
          exact hj.unlisted _ hwhitelist hlisted
      · next hplatform =>
          refine .inr ⟨config, exempt.exemptAddresses, source, state,
            ⟨hconfig, by simpa using henabled, hsource, ?_,
              load_ok.mp hstate, requireSeeds_ok.mp hkey⟩, h⟩
          intro l hl
          rw [hwhitelist] at hl
          cases hl
          exact hplatform

-- ==== instructions

/-- What an instruction does to the states of the wallets. -/
inductive Moved (env : Env Seed) (a : Action env) (w w' : World) : Prop
  | aside (hstates : w'.transferStates = w.transferStates)
  | opened (owner : Pubkey)
      (hfresh : w.transferStates (env.pda (.transferState owner)) = none)
      (hstates : w'.transferStates = update w.transferStates
        (env.pda (.transferState owner)) (some (.initial owner)))
  | counted (acc : ExecuteAccounts) (amount : Nat) (config : HookConfig)
      (source : TokenAccount) (state s s' : TransferState)
      (hop : a.op = .execute acc amount)
      (hjudges : Judges env w acc config source state)
      (hlimits : checkLimits config a.tx.clock amount state = .ok s)
      (hdetect : detectSandwich a.tx.clock s = .ok (s', none))
      (hstates : w'.transferStates = update w.transferStates
        acc.sourceState (some (s'.update a.tx.clock amount)))
  | unflagged (k : Pubkey) (state : TransferState)
      (hstate : w.transferStates k = some state)
      (hstates : w'.transferStates = update w.transferStates k
        (some { state with isFlagged := false, rapidReversals := 0 }))

theorem opened_ok {tx : Tx env} {owner payer : Pubkey}
    (h : initializeTransferState env tx owner payer w = .ok w') :
    Moved env a w w' := by
  obtain ⟨_, hfresh, _, -, h⟩ := bind_ok₂.mp h
  cases h
  exact .opened owner (requireFresh_ok.mp hfresh) rfl

theorem unflagAccount_ok {tx : Tx env} {acc : AdminActionAccounts}
    (h : unflagAccount env tx acc w = .ok w') : Moved env a w w' := by
  obtain ⟨config, -, state, hstate, h⟩ := bind_ok₂.mp h
  iterate 3 obtain ⟨_, -, h⟩ := bind_ok.mp h
  cases h
  exact .unflagged acc.transferState state (load_ok.mp hstate) rfl

theorem step_moved (h : step env a w = .ok w') : Moved env a w w' := by
  unfold step at h
  split at h
  · obtain ⟨_, -, _, -, h⟩ := bind_ok₂.mp h
    cases h
    exact .aside rfl
  · obtain ⟨_, -, _, -, h⟩ := bind_ok₂.mp h
    cases h
    exact .aside rfl
  · obtain ⟨exempt, -, _, -, h⟩ := bind_ok₂.mp h
    cases h
    exact .aside rfl
  · obtain ⟨exempt, -, h⟩ := bind_ok.mp h
    cases h
    exact .aside rfl
  · obtain ⟨_, -, _, -, h⟩ := bind_ok₂.mp h
    cases h
    exact .aside rfl
  · obtain ⟨whitelist, -, _, -, h⟩ := bind_ok₂.mp h
    cases h
    exact .aside rfl
  · obtain ⟨whitelist, -, h⟩ := bind_ok.mp h
    cases h
    exact .aside rfl
  · exact opened_ok h
  · next acc amount hop =>
      rcases execute_ok h with ⟨rfl, -⟩
        | ⟨config, exempt, source, state, hjudges, h⟩
      · exact .aside rfl
      · obtain ⟨s, s', hlimits, hdetect, rfl⟩ := judgeTransfer_ok h
        exact .counted acc amount config source state s s' hop hjudges
          hlimits hdetect rfl
  · exact unflagAccount_ok h
  · obtain ⟨config, -, _, -, _, -, h⟩ := bind_ok₃.mp h
    cases h
    exact .aside rfl
  · cases h
    exact .aside rfl
  · cases h
    exact .aside rfl

-- ==== invariant

/-- A wallet on which nothing was ever detected. -/
structure Inert (s : TransferState) : Prop where
  isFlagged : s.isFlagged = false
  rapidReversals : s.rapidReversals = 0
  outbound : 0 < s.lastTransferTime → s.lastTransferOutbound = isOutbound

theorem Inert.quiet (h : Inert s) : ¬ Reverses clock s :=
  fun hrev => hrev.2.2 (h.outbound hrev.1)

theorem initial_inert (owner : Pubkey) : Inert (.initial owner) :=
  ⟨rfl, rfl, fun h => absurd h (Int.lt_irrefl 0)⟩

theorem Inert.counted (h : Inert state)
    (hlimits : checkLimits config clock amount state = .ok s)
    (hdetect : detectSandwich clock s = .ok (s', none)) :
    (s'.update clock amount).owner = state.owner
      ∧ Inert (s'.update clock amount) := by
  obtain ⟨-, hsame⟩ := checkLimits_ok hlimits
  have hquiet : ¬ Reverses clock s :=
    fun hrev => h.quiet (hsame.reverses.mp hrev)
  obtain ⟨howner, hflag, hrapid⟩ := detectSandwich_quiet hquiet hdetect
  refine ⟨howner.trans hsame.owner, ?_, ?_, fun _ => rfl⟩
  · show s'.isFlagged = false
    rw [hflag, hsame.isFlagged, h.isFlagged]
  · show s'.rapidReversals = 0
    rcases hrapid with hrapid | hrapid
    · rw [hrapid, hsame.rapidReversals, h.rapidReversals]
    · exact hrapid

/-- Each wallet's state is under the wallet's address, and inert. -/
def Kept (env : Env Seed) (w : World) : Prop :=
  ∀ k state, w.transferStates k = some state →
    k = env.pda (.transferState state.owner) ∧ Inert state

theorem Deployed.kept (h : Deployed w) : Kept env w := by
  intro k state hk
  rw [h.transferStates k] at hk
  cases hk

theorem Kept.put (h : Kept env w)
    (hstates : w'.transferStates = update w.transferStates k (some s))
    (hkey : k = env.pda (.transferState s.owner)) (hs : Inert s) :
    Kept env w' := by
  intro j state hj
  rw [hstates] at hj
  by_cases hjk : j = k
  · subst hjk
    rw [update_self] at hj
    cases hj
    exact ⟨hkey, hs⟩
  · rw [update_of_ne hjk] at hj
    exact h j state hj

theorem Kept.next (h : Kept env w) (hstep : step env a w = .ok w') :
    Kept env w' := by
  rcases step_moved hstep with hstates | ⟨owner, -, hstates⟩
    | ⟨acc, amount, config, source, state, s, s', -, hjudges, hlimits, hdetect,
      hstates⟩ | ⟨k, state, hstate, hstates⟩
  · intro k state hk
    rw [hstates] at hk
    exact h k state hk
  · exact h.put hstates rfl (initial_inert owner)
  · obtain ⟨hkey, hinert⟩ := h _ state hjudges.stored
    obtain ⟨howner, hinert'⟩ := hinert.counted hlimits hdetect
    exact h.put hstates (by rw [howner]; exact hkey) hinert'
  · obtain ⟨hkey, hinert⟩ := h k state hstate
    exact h.put hstates hkey ⟨rfl, rfl, hinert.outbound⟩

theorem kept_of_run {tr : List (Action env)} (h₀ : Deployed w₀)
    (hrun : run (step env) w₀ tr = .ok w) : Kept env w :=
  run_induct (fun _ _ _ => Kept.next) h₀.kept hrun

-- ==== detection

/-- The instruction finds the third rapid reversal of a wallet within the
detection window. -/
def Detects (env : Env Seed) (a : Action env) (w : World) : Prop :=
  ∃ acc amount config source state s, a.op = .execute acc amount
    ∧ Judges env w acc config source state
    ∧ checkLimits config a.tx.clock amount state = .ok s
    ∧ Reverses a.tx.clock s
    ∧ 3 ≤ Fixed.saturatingAdd 8 s.rapidReversals 1

theorem Detects.fails (h : Detects env a w) : step env a w ≠ .ok w' := by
  obtain ⟨acc, amount, config, source, state, s, hop, hjudges, hlimits, hrev,
    hthird⟩ := h
  intro hstep
  rw [step, hop] at hstep
  rcases execute_ok hstep with ⟨-, hnone⟩
    | ⟨config', exempt, source', state', hjudges', h⟩
  · exact hnone config source state hjudges
  · obtain ⟨rfl, rfl⟩ := hjudges.unique hjudges'
    obtain ⟨m, s', hlimits', hdetect, -⟩ := judgeTransfer_ok h
    rw [hlimits] at hlimits'
    cases hlimits'
    cases detectSandwich_third hrev hthird hdetect

theorem committed_of_fails (h : ∀ w', step env a w ≠ .ok w') :
    committed env a w = w := by
  unfold committed
  split
  · next w' hstep => exact absurd hstep (h w')
  · rfl

theorem Kept.undetected (h : Kept env w) : ¬ Detects env a w := by
  rintro ⟨acc, amount, config, source, state, s, -, hjudges, hlimits, hrev, -⟩
  obtain ⟨-, hinert⟩ := h _ state hjudges.stored
  exact hinert.quiet ((checkLimits_ok hlimits).2.reverses.mp hrev)

/-- The wallet's state is there and flagged. -/
def Flagged (w : World) (k : Pubkey) : Prop :=
  ∃ state, w.transferStates k = some state ∧ state.isFlagged = true

/-- The instruction is no call of `unflag_account` for the wallet. -/
def KeepsFlag (k : Pubkey) (a : Action env) : Prop :=
  ∀ acc, a.op = .unflagAccount acc → acc.transferState ≠ k

/-- The flag is kept: a third reversal commits it, it then blocks the
wallet's transfers until it is taken back, and some wallet can get it. -/
structure FlagPersists (env : Env Seed) (w₀ : World) : Prop where
  commits : ∀ tr w a acc amount, run (step env) w₀ tr = .ok w →
    a.op = .execute acc amount → Detects env a w →
    Flagged (committed env a w) acc.sourceState
  blocks : ∀ tr w k tr' w' a acc amount, run (step env) w₀ tr = .ok w →
    Flagged w k → (∀ b ∈ tr', KeepsFlag k b) →
    run (step env) w tr' = .ok w' → a.op = .execute acc amount →
    acc.sourceState = k → ∀ w'', step env a w' ≠ .ok w''
  reached : ∃ tr w k, run (step env) w₀ tr = .ok w ∧ Flagged w k

theorem never_flagged {tr : List (Action env)} (h₀ : Deployed w₀)
    (hrun : run (step env) w₀ tr = .ok w) (k : Pubkey) : ¬ Flagged w k := by
  intro hflag
  obtain ⟨state, hstate, hflag⟩ := hflag
  obtain ⟨-, hinert⟩ := kept_of_run h₀ hrun k state hstate
  rw [hinert.isFlagged] at hflag
  cases hflag

/-- The flag is never kept. In the states that are reached nothing is
detected and nobody is flagged; and in any state whatever, an instruction
that detects changes nothing. -/
theorem sandwich_flag_lost (h₀ : Deployed w₀) :
    ¬ FlagPersists env w₀
      ∧ (∀ tr w, run (step env) w₀ tr = .ok w →
        (∀ k, ¬ Flagged w k) ∧ ∀ a, ¬ Detects env a w)
      ∧ ∀ a w, Detects env a w → committed env a w = w := by
  refine ⟨?_, ?_, ?_⟩
  · intro h
    obtain ⟨tr, w, k, hrun, hflag⟩ := h.reached
    exact never_flagged h₀ hrun k hflag
  · intro tr w hrun
    exact ⟨never_flagged h₀ hrun, fun a => (kept_of_run h₀ hrun).undetected⟩
  · intro a w h
    exact committed_of_fails fun w' => h.fails

end KamiyoProtocol.TransferHook

namespace KamiyoProtocol.TransferHook.Concrete

open Solana Solana.Concrete Exec

/-- The program as it is deployed never keeps its flag. -/
theorem no_flag_from_start : ¬ FlagPersists env start := by
  intro h
  obtain ⟨tr, w, k, hrun, hflag⟩ := h.reached
  exact never_flagged start_deployed hrun k hflag

theorem sandwich_flag_lost_from_start :
    ¬ FlagPersists env start
      ∧ (∀ tr w, run (step env) start tr = .ok w →
        (∀ k, ¬ Flagged w k) ∧ ∀ a, ¬ Detects env a w)
      ∧ ∀ a w, Detects env a w → committed env a w = w :=
  sandwich_flag_lost start_deployed

end KamiyoProtocol.TransferHook.Concrete
