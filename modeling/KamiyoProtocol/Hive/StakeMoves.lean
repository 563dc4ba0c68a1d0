/-
What one instruction of the hive program does to agents, their requests
and their vaults.

`step_moved` is the inversion lemma the stake accounting and the
withdrawals are derived from: eight kinds of instructions that touch an
agent or a request, and the rest, which leave both alone and take nothing
out of a vault.
-/
import KamiyoProtocol.Hive.Stakes

namespace KamiyoProtocol.Hive.Stakes

open Solana Exec Function

variable {env : Env Seed} {rule : DebitRule} {w w' : World}

/-- `total_stake`, which is zero before there is a registry. -/
def totalStake (w : World) : Nat :=
  match w.registry with
  | some r => r.totalStake
  | none => 0

/-- The vault of the agent's collateral is there, with `n` or more. -/
def Vaulted (env : Env Seed) (b : Tokens) (k : Pubkey) (n : Nat) : Prop :=
  b.Held (collateralVault env k) kamiyoMintId (collateralVault env k) n

/-- Nothing is taken out of a vault of collateral. -/
def TokensKept (env : Env Seed) (b b' : Tokens) : Prop :=
  ∀ k n, Vaulted env b k n → Vaulted env b' k n

theorem TokensKept.refl (env : Env Seed) (b : Tokens) :
    TokensKept env b b :=
  fun _ _ h => h

/-- An accepted `register_agent`. -/
structure Registered (env : Env Seed) (w w' : World) (k : Pubkey)
    (a : Agent) : Prop where
  fresh : Keyed.locate Prod.fst w.agents k = none
  address : ∃ c, k = env.pda (.agent c)
  registry : a.registry = env.pda .registry
  active : a.active = true
  collateral : a.collateralAmount = 0
  owner : ∀ s, a.owner ≠ env.pda s
  total : totalStake w' = totalStake w + a.stake
  vault : w.lamports.bal (stakeVault env) + a.stake
    = w'.lamports.bal (stakeVault env)
  tokens : TokensKept env w.tokens w'.tokens
  after : ∃ l b r, w' = { w with
    lamports := l, tokens := b, registry := some r
    agents := w.agents ++ [(k, a)] }

/-- An accepted `request_withdrawal`. -/
structure Requested (env : Env Seed) (w w' : World) (k : Pubkey)
    (a : Agent) (r : WithdrawalRequest) : Prop where
  agent : (k, a) ∈ w.agents
  active : a.active = true
  fresh : w.withdrawals (env.pda (.withdrawal k)) = none
  ofAgent : r.agent = k
  amount : r.amount = a.stake
  after : w' = { w with
    withdrawals := update w.withdrawals (env.pda (.withdrawal k))
      (some r) }

/-- Stake paid out to close an agent. -/
structure PaidOut (env : Env Seed) (rule : DebitRule) (w w₁ : World)
    (w' : World) (i : Nat) (k : Pubkey) (a : Agent) (amount : Nat) :
    Prop where
  agent : w.agents[i]? = some (k, a)
  allowed : rule = .asWritten ∨ amount = 0
    ∨ programOwns env w (stakeVault env) = true
  vault : w.lamports.bal (stakeVault env)
    ≤ w'.lamports.bal (stakeVault env) + amount
  total : totalStake w' = totalStake w - amount
  paused : w'.registry.map AgentRegistry.paused
    = w.registry.map AgentRegistry.paused
  after : ∃ l r, w' = { w₁ with lamports := l, registry := r }.setAgent i k
    { a with active := false, stake := 0 }

variable {n : Nat}

theorem PaidOut.agents {w₁ : World} {i : Nat} {k : Pubkey} {a : Agent}
    (h : PaidOut env rule w w₁ w' i k a n)
    (hagents : w₁.agents = w.agents) :
    w'.agents = w.agents.set i (k, { a with active := false, stake := 0 }) := by
  obtain ⟨l, r, rfl⟩ := h.after
  rw [← hagents]
  rfl

/-- The world with the request marked as claimed. -/
def markClaimed (env : Env Seed) (w : World) (k : Pubkey)
    (r : WithdrawalRequest) : World :=
  { w with
    withdrawals := update w.withdrawals (env.pda (.withdrawal k))
      (some { r with claimed := true }) }

/-- An accepted `deposit_collateral`. -/
structure Deposited (env : Env Seed) (w w' : World) (i : Nat) (k : Pubkey)
    (a : Agent) (acc : DepositAccounts) (amount : Nat) : Prop where
  agent : w.agents[i]? = some (k, a)
  ofAgent : acc.agent = k
  unpaused : ∃ r, w.registry = some r ∧ r.paused = false
  opened : ∃ b, openVault w.tokens (collateralVault env k) kamiyoMintId = .ok b
    ∧ b.transfer acc.depositorTokenAccount (collateralVault env k)
      acc.depositor amount = some w'.tokens
  source : ∃ s, w.tokens.accounts acc.depositorTokenAccount = some s
    ∧ s.mint = kamiyoMintId ∧ s.owner = acc.depositor
  signer : ∀ s, acc.depositor ≠ env.pda s
  positive : 0 < amount
  room : a.collateralAmount + amount < 2 ^ 64
  after : ∃ b, w' = { w with tokens := b }.setAgent i k
    { a with
      collateralAmount := a.collateralAmount + amount
      collateralLockedAt := w.now }

/-- An accepted `request_collateral_withdrawal`. -/
structure CollateralRequested (env : Env Seed) (w w' : World) (k : Pubkey)
    (a : Agent) (amount : Nat) : Prop where
  agent : (k, a) ∈ w.agents
  active : a.active = true
  fresh : w.collateralWithdrawals (env.pda (.collateralWithdrawal k)) = none
  bounded : amount ≤ a.collateralAmount
  inTime : Fixed.InRange 64 (w.now + collateralWithdrawalTimelock)
  after : w' = { w with
    collateralWithdrawals := update w.collateralWithdrawals
      (env.pda (.collateralWithdrawal k)) (some
        { agent := k
          requester := a.owner
          amount := amount
          requestTime := w.now
          unlockTime := w.now + collateralWithdrawalTimelock
          claimed := false }) }

/-- An accepted `claim_collateral_withdrawal`. -/
structure CollateralClaimed (env : Env Seed) (w w' : World) (i : Nat)
    (k : Pubkey) (a : Agent) (acc : ClaimCollateralAccounts)
    (r : CollateralWithdrawal) : Prop where
  agent : w.agents[i]? = some (k, a)
  ofAgent : acc.agent = k
  request : w.collateralWithdrawals (env.pda (.collateralWithdrawal k)) = some r
  unclaimed : r.claimed = false
  claimer : acc.claimer = r.requester
  target : ∃ t, w.tokens.accounts acc.claimerTokenAccount = some t
    ∧ t.mint = kamiyoMintId ∧ t.owner = acc.claimer
  bounded : r.amount ≤ a.collateralAmount
  paid : w.tokens.transfer (collateralVault env k) acc.claimerTokenAccount
    (collateralVault env k) r.amount = some w'.tokens
  after : ∃ b, w' = { w with
    tokens := b
    collateralWithdrawals := update w.collateralWithdrawals
      (env.pda (.collateralWithdrawal k))
      (some { r with claimed := true }) }.setAgent i k
        { a with collateralAmount := a.collateralAmount - r.amount }

/-- An accepted `slash_agent`. -/
structure Slashed (env : Env Seed) (w w' : World) (i : Nat) (k : Pubkey)
    (a : Agent) (amount : Nat) : Prop where
  agent : w.agents[i]? = some (k, a)
  paid : w.tokens.transfer (collateralVault env k) (treasuryVault env)
    (collateralVault env k) amount = some w'.tokens
  after : ∃ b slashed n, w' = { w with tokens := b }.setAgent i k
    { a with
      collateralAmount := a.collateralAmount - amount
      slashedAmount := slashed
      violationCount := n }

/-- An instruction that leaves agents and requests alone. -/
structure Aside (env : Env Seed) (w w' : World) : Prop where
  slot : w.slot ≤ w'.slot
  now : w.now ≤ w'.now
  clock : Fixed.InRange 64 w.now → Fixed.InRange 64 w'.now
  agents : w'.agents = w.agents
  withdrawals : w'.withdrawals = w.withdrawals
  collateralWithdrawals : w'.collateralWithdrawals = w.collateralWithdrawals
  total : totalStake w' = totalStake w
  vault : w.lamports.bal (stakeVault env) ≤ w'.lamports.bal (stakeVault env)
  tokens : TokensKept env w.tokens w'.tokens

/-- The operations that put stake into the vault or take it out. -/
def Op.movesStake : Op → Bool
  | .registerAgent .. | .claimWithdrawal .. | .deactivateAgent .. => true
  | _ => false

/-- What one instruction does. -/
inductive Moved (env : Env Seed) (rule : DebitRule) (a : Action env)
    (w w' : World) : Prop
  | registered (acc : FeeAccounts) (c : Bytes) (n : Nat) (k : Pubkey)
      (agent : Agent) (hop : a.op = .registerAgent acc c n)
      (hk : k = env.pda (.agent c)) (hn : agent.stake = n)
      (h : Registered env w w' k agent)
  | requested (k : Pubkey) (agent : Agent) (r : WithdrawalRequest)
      (hop : a.op.movesStake = false) (h : Requested env w w' k agent r)
  | claimed (acc : PayoutAccounts) (i : Nat) (k : Pubkey) (agent : Agent)
      (r : WithdrawalRequest) (hop : a.op = .claimWithdrawal acc)
      (hlocate : Keyed.locate Prod.fst w.agents acc.agent = some (i, k, agent))
      (hr : w.withdrawals (env.pda (.withdrawal k)) = some r)
      (hof : r.agent = k)
      (h : PaidOut env rule w (markClaimed env w k r) w' i k agent
        r.amount)
  | cancelled (k : Pubkey) (hop : a.op.movesStake = false) (hw : w' = { w with
      withdrawals := update w.withdrawals k none })
  | deactivated (acc : PayoutAccounts) (i : Nat) (k : Pubkey)
      (agent : Agent) (hop : a.op = .deactivateAgent acc)
      (hlocate : Keyed.locate Prod.fst w.agents acc.agent = some (i, k, agent))
      (hactive : agent.active = true)
      (h : PaidOut env rule w w w' i k agent agent.stake)
  | deposited (i : Nat) (k : Pubkey) (agent : Agent)
      (acc : DepositAccounts) (n : Nat) (hop : a.op.movesStake = false)
      (h : Deposited env w w' i k agent acc n)
  | collateralRequested (k : Pubkey) (agent : Agent) (n : Nat)
      (hop : a.op.movesStake = false)
      (h : CollateralRequested env w w' k agent n)
  | collateralClaimed (i : Nat) (k : Pubkey) (agent : Agent)
      (acc : ClaimCollateralAccounts) (r : CollateralWithdrawal)
      (hop : a.op.movesStake = false)
      (h : CollateralClaimed env w w' i k agent acc r)
  | slashed (i : Nat) (k : Pubkey) (agent : Agent) (n : Nat)
      (hop : a.op.movesStake = false)
      (h : Slashed env w w' i k agent n)
  | aside (hop : a.op.movesStake = false) (h : Aside env w w')

variable {a : Action env}

theorem mem_set {i : Nat} {p : Pubkey × Agent}
    (hi : w.agents[i]? = some p) (q : Pubkey × Agent) :
    q ∈ w.agents.set i q := by
  obtain ⟨hlt, -⟩ := List.getElem?_eq_some_iff.mp hi
  exact List.mem_set hlt q

theorem located {k : Pubkey} {r : Nat × Pubkey × Agent}
    (h : w.agent k = .ok r) :
    Keyed.locate Prod.fst w.agents k = some r
      ∧ w.agents[r.1]? = some (k, r.2.2) ∧ r.2.1 = k := by
  have hr := load_ok.mp h
  obtain ⟨hi, hkey⟩ := Keyed.locate_some hr
  refine ⟨hr, ?_, hkey⟩
  have hkey' : r.2.1 = k := hkey
  rw [hi, ← hkey']

theorem debitVault_ok {dst : Pubkey} {l : Lamports}
    (h : debitVault env rule w dst n = .ok l) :
    (rule = .asWritten ∨ n = 0 ∨ programOwns env w (stakeVault env) = true)
      ∧ w.lamports.bal (stakeVault env) ≤ l.bal (stakeVault env) + n := by
  simp only [debitVault, bind_ok, require_ok, moveLamports_ok] at h
  obtain ⟨-, hallowed, hmove⟩ := h
  refine ⟨hallowed, ?_⟩
  have hb := Ledger.bal_move hmove (stakeVault env)
  rw [if_pos rfl] at hb
  omega

theorem checkCaps_ok {registry : AgentRegistry} {n total : Nat}
    (h : checkCaps registry n = .ok total) :
    total = registry.totalStake + n := by
  simp only [checkCaps, bind_ok, okOr_ok, Fixed.checkedAdd_some] at h
  obtain ⟨-, -, t, ⟨-, rfl⟩, -, -, hout⟩ := h
  cases hout
  rfl

theorem payFee_kept {tx : Tx env} {b b' : Tokens}
    {registry registry' : AgentRegistry} {acc : FeeAccounts} {fee : Nat}
    (hsig : acc.payer ∈ tx.signers)
    (h : payFee env b registry acc fee = .ok (b', registry')) :
    TokensKept env b b' :=
  fun _ _ hh => payFee_held hsig h hh

theorem registerAgent_registered {acc : FeeAccounts} {c : Bytes}
    (h : registerAgent env a.tx acc c n w = .ok w') :
    ∃ agent, agent.stake = n
      ∧ Registered env w w' (env.pda (.agent c)) agent := by
  simp only [registerAgent, bind_ok, load_ok, requireFresh_ok,
    ensure_ok, systemTransfer_ok] at h
  obtain ⟨registry, hreg, -, hfresh, _, hacc, -, -, -, -, total, htotal,
    paid, hpaid, count, -, l, hmove, hw⟩ := h
  cases hw
  have hsig := checkFeeAccounts_ok hacc
  have hne : acc.payer ≠ stakeVault env := signer_ne hsig
  have hb := Ledger.bal_move hmove (stakeVault env)
  rw [if_neg hne, if_pos rfl, Nat.add_zero] at hb
  refine ⟨_, rfl, hfresh, ⟨c, rfl⟩, rfl, rfl, rfl, fun s => signer_ne hsig, ?_,
    hb.symm, payFee_kept hsig hpaid, l, paid.1, _, rfl⟩
  show total = _
  rw [checkCaps_ok htotal, totalStake, hreg]

theorem requestWithdrawal_requested {acc : OwnerAccounts}
    (h : requestWithdrawal env a.tx acc w = .ok w') :
    ∃ agent r, Requested env w w' acc.agent agent r := by
  simp only [requestWithdrawal, bind_ok, load_ok, requireFresh_ok,
    ensure_ok] at h
  obtain ⟨-, -, r, hr, -, hfresh, -, -, -, hactive, -, -, unlock, -, hw⟩ := h
  cases hw
  obtain ⟨-, hget, -⟩ := located hr
  exact ⟨r.2.2, _, List.mem_of_getElem? hget, hactive, hfresh, rfl, rfl, rfl⟩

theorem claimWithdrawal_paid {acc : PayoutAccounts}
    (h : claimWithdrawal env rule a.tx acc w = .ok w') :
    ∃ i k agent r, Keyed.locate Prod.fst w.agents acc.agent = some (i, k, agent)
      ∧ w.withdrawals (env.pda (.withdrawal k)) = some r ∧ r.agent = k
      ∧ PaidOut env rule w (markClaimed env w k r) w' i k agent
        r.amount := by
  simp only [claimWithdrawal, bind_ok, load_ok, require_ok, ensure_ok] at h
  obtain ⟨registry, hreg, ⟨i, k, agent⟩, hr, -, -, r, hreq, -, hof, -, -,
    -, -, -, -, -, -, l, hdebit, hw⟩ := h
  cases hw
  obtain ⟨hlocate, hget, hk⟩ := located hr
  have hk' : k = acc.agent := hk
  subst hk'
  obtain ⟨hallowed, hbal⟩ := debitVault_ok hdebit
  refine ⟨i, _, agent, r, hlocate, hreq, hof, hget, hallowed, hbal, ?_,
    ?_, l, _, rfl⟩
  · show registry.totalStake - r.amount = _
    rw [totalStake, hreg]
  · rw [hreg]
    rfl

theorem cancelWithdrawal_cancelled {acc : CancelAccounts}
    (h : cancelWithdrawal a.tx acc w = .ok w') :
    w' = { w with
      withdrawals := update w.withdrawals acc.withdrawal none } := by
  simp only [cancelWithdrawal, bind_ok] at h
  obtain ⟨r, -, -, -, -, -, -, -, hw⟩ := h
  cases hw
  rfl

theorem deactivateAgent_paid {acc : PayoutAccounts}
    (h : deactivateAgent env rule a.tx acc w = .ok w') :
    ∃ i k agent, Keyed.locate Prod.fst w.agents acc.agent
        = some (i, k, agent) ∧ agent.active = true
      ∧ PaidOut env rule w w w' i k agent agent.stake := by
  simp only [deactivateAgent, bind_ok, load_ok, ensure_ok] at h
  obtain ⟨registry, hreg, ⟨i, k, agent⟩, hr, -, -, -, -, -, -, -, hactive,
    l, hdebit, hw⟩ := h
  cases hw
  obtain ⟨hlocate, hget, hk⟩ := located hr
  have hk' : k = acc.agent := hk
  subst hk'
  obtain ⟨hallowed, hbal⟩ := debitVault_ok hdebit
  refine ⟨i, _, agent, hlocate, hactive, hget, hallowed, hbal, ?_, ?_,
    l, _, rfl⟩
  · show registry.totalStake - agent.stake = _
    rw [totalStake, hreg]
  · rw [hreg]
    rfl

theorem depositCollateral_deposited {acc : DepositAccounts}
    (h : depositCollateral env a.tx acc n w = .ok w') :
    ∃ i agent, Deposited env w w' i acc.agent agent acc n := by
  simp only [depositCollateral, bind_ok, load_ok, ensure_ok,
    require_ok, requireSigner_ok, transferTokens_ok, okOr_ok,
    Fixed.checkedAdd_some] at h
  obtain ⟨registry, hreg, -, hpaused, r, hr, -, -, source, hsource, -,
    hmint, -, howner, -, hkamiyo, -, hsig, b, hb, -, hpos, -, -, b', hb',
    total, ⟨hroom, rfl⟩, hw⟩ := h
  cases hw
  obtain ⟨-, hget, -⟩ := located hr
  refine ⟨r.1, r.2.2, hget, rfl, ⟨registry, hreg, hpaused⟩, ⟨b, ?_, hb'⟩,
    ⟨source, hsource, hmint, howner⟩, fun s => signer_ne hsig, hpos,
    hroom, b', rfl⟩
  rw [← hkamiyo]
  exact hb

theorem requestCollateralWithdrawal_requested {acc : OwnerAccounts}
    (h : requestCollateralWithdrawal env a.tx acc n w = .ok w') :
    ∃ agent, CollateralRequested env w w' acc.agent agent n := by
  simp only [requestCollateralWithdrawal, bind_ok, ensure_ok,
    requireFresh_ok, addI64_ok] at h
  obtain ⟨r, hr, -, hfresh, -, -, -, hactive, -, howner, -, hle, unlock,
    ⟨hrange, rfl⟩, hw⟩ := h
  cases hw
  obtain ⟨-, hget, -⟩ := located hr
  refine ⟨r.2.2, List.mem_of_getElem? hget, hactive, hfresh, hle, hrange, ?_⟩
  rw [← howner]

theorem claimCollateralWithdrawal_claimed {acc : ClaimCollateralAccounts}
    (h : claimCollateralWithdrawal env a.tx acc w = .ok w') :
    ∃ i agent r, CollateralClaimed env w w' i acc.agent agent acc r := by
  simp only [claimCollateralWithdrawal, bind_ok, ensure_ok, load_ok,
    require_ok, requireSigner_ok, transferTokens_ok] at h
  obtain ⟨s, hs, r, hr, -, -, v, -, t, ht, -, hmint, -, howner, -, -, -,
    hunclaimed, -, -, -, hclaimer, -, hle, b, hb, hw⟩ := h
  cases hw
  obtain ⟨-, hget, -⟩ := located hs
  exact ⟨s.1, s.2.2, r, hget, rfl, hr, hunclaimed, hclaimer,
    ⟨t, ht, hmint, howner⟩, hle, hb, b, rfl⟩

theorem slashAgent_slashed {acc : SlashAccounts}
    (h : slashAgent env a.tx acc n w = .ok w') :
    ∃ i agent m, Slashed env w w' i acc.agent agent m := by
  simp only [slashAgent, bind_ok, transferTokens_ok] at h
  obtain ⟨registry, -, r, hr, -, -, -, -, -, -, -, -, -, -, actual, -,
    slashed, -, b, hb, hw⟩ := h
  cases hw
  obtain ⟨-, hget, -⟩ := located hr
  exact ⟨r.1, r.2.2, actual, hget, hb, b, slashed, _, rfl⟩

-- ==== the others

theorem initializeRegistry_aside {authority mint : Pubkey}
    {config : RegistryConfig} {bump treasuryBump : Nat}
    (h : initializeRegistry env a.tx authority mint config bump
      treasuryBump w = .ok w') : Aside env w w' := by
  simp only [initializeRegistry, openTokens, bind_ok,
    requireFresh_ok, okOr_ok] at h
  obtain ⟨-, hnone, -, -, b, hb, hw⟩ := h
  cases hw
  refine ⟨Nat.le_refl _, Int.le_refl _, id, rfl, rfl, rfl, ?_, Nat.le_refl _,
    fun _ _ hh => hh.openAccount hb⟩
  rw [totalStake, totalStake, hnone]

theorem aside_registry {r r' : AgentRegistry} {b : Tokens}
    (hr : w.registry = some r) (htotal : r'.totalStake = r.totalStake)
    (hb : TokensKept env w.tokens b) :
    Aside env w { w with tokens := b, registry := some r' } := by
  refine ⟨Nat.le_refl _, Int.le_refl _, id, rfl, rfl, rfl, ?_, Nat.le_refl _,
    hb⟩
  rw [totalStake, totalStake, hr]
  exact htotal

theorem Setting.apply_total {s : Setting} {r r' : AgentRegistry}
    (h : s.apply r = .ok r') : r'.totalStake = r.totalStake := by
  cases s with
  | updateAgentsRoot root count =>
    simp only [Setting.apply, bind_ok] at h
    obtain ⟨epoch, -, hout⟩ := h
    cases hout
    rfl
  | pauseProtocol | unpauseProtocol | updateCaps
  | updateMinSignalCollateral => cases h; rfl

theorem changeSetting_aside {authority : Pubkey} {s : Setting}
    (h : changeSetting a.tx authority s w = .ok w') : Aside env w w' := by
  simp only [changeSetting, bind_ok, load_ok] at h
  obtain ⟨r, hr, -, -, -, -, r', hr', hw⟩ := h
  cases hw
  exact aside_registry hr (Setting.apply_total hr') (.refl env _)

theorem chargeOther_aside {acc : FeeAccounts} {fee : Nat}
    (h : chargeOther env a.tx acc fee w = .ok w') : Aside env w w' := by
  simp only [chargeOther, bind_ok, load_ok] at h
  obtain ⟨r, hr, _, hacc, -, -, ⟨b, r'⟩, hpaid, hw⟩ := h
  cases hw
  refine aside_registry hr ?_ (payFee_kept (checkFeeAccounts_ok hacc) hpaid)
  obtain ⟨⟨burned, collected, hr'⟩, -⟩ := payFee_ok hpaid
  rw [hr']

theorem burnFromTreasury_aside {acc : AuthorityAccounts}
    (h : burnFromTreasury env a.tx acc n w = .ok w') : Aside env w w' := by
  simp only [burnFromTreasury, bind_ok, load_ok, burnTokens_ok] at h
  obtain ⟨r, hr, t, -, -, -, -, -, -, -, -, -, -, -, b, hb, burned, -, hw⟩ := h
  cases hw
  have hne : ∀ k, treasuryVault env ≠ collateralVault env k := by
    intro k
    exact pda_ne (by simp)
  exact aside_registry hr rfl fun k _ hh => hh.burn (hne k) hb

theorem advanceClock_aside {slot : Nat} {now : Int}
    (h : step env rule ⟨a.tx, .advanceClock slot now⟩ w = .ok w') :
    Aside env w w' := by
  simp only [step, bind_ok, require_ok] at h
  obtain ⟨-, ⟨hslot, hnow, hrange⟩, hw⟩ := h
  cases hw
  exact ⟨hslot, hnow, fun _ => hrange, rfl, rfl, rfl, rfl, Nat.le_refl _,
    .refl env _⟩

theorem transferLamports_aside {src dst : Pubkey}
    (h : step env rule ⟨a.tx, .transferLamports src dst n⟩ w = .ok w') :
    Aside env w w' := by
  simp only [step, bind_ok, requireSigner_ok, systemTransfer_ok] at h
  obtain ⟨-, hsig, l, hmove, hw⟩ := h
  cases hw
  have hne : src ≠ stakeVault env := signer_ne hsig
  have hb := Ledger.bal_move hmove (stakeVault env)
  rw [if_neg hne] at hb
  exact ⟨Nat.le_refl _, Int.le_refl _, id, rfl, rfl, rfl, rfl,
    Nat.le_trans (Nat.le_add_right _ _) (Nat.le_of_eq hb.symm),
    .refl env _⟩

theorem viaTokens_aside {op : TokenOp}
    (h : step env rule ⟨a.tx, .viaTokens op⟩ w = .ok w') :
    Aside env w w' := by
  simp only [step, bind_ok, okOr_ok] at h
  obtain ⟨b, hb, hw⟩ := h
  cases hw
  exact ⟨Nat.le_refl _, Int.le_refl _, id, rfl, rfl, rfl, rfl, Nat.le_refl _,
    fun _ _ hh => hh.tokenOp (a.tx.no_pda_signs _) hb⟩

theorem step_moved (h : step env rule a w = .ok w') :
    Moved env rule a w w' := by
  obtain ⟨tx, op⟩ := a
  cases op with
  | initializeRegistry authority mint config bump treasuryBump =>
    exact .aside rfl (initializeRegistry_aside (a := ⟨tx, _⟩) h)
  | changeSetting authority s =>
    exact .aside rfl (changeSetting_aside (a := ⟨tx, _⟩) h)
  | chargeOther acc fee => exact .aside rfl (chargeOther_aside (a := ⟨tx, _⟩) h)
  | burnFromTreasury acc n =>
    exact .aside rfl (burnFromTreasury_aside (a := ⟨tx, _⟩) h)
  | registerAgent acc c n =>
    obtain ⟨agent, hn, hr⟩ := registerAgent_registered (a := ⟨tx, _⟩) h
    exact .registered acc c n _ agent rfl rfl hn hr
  | requestWithdrawal acc =>
    obtain ⟨agent, r, hr⟩ := requestWithdrawal_requested (a := ⟨tx, _⟩) h
    exact .requested _ agent r rfl hr
  | claimWithdrawal acc =>
    obtain ⟨i, k, agent, r, hl, hr, hof, hp⟩ :=
      claimWithdrawal_paid (a := ⟨tx, _⟩) h
    exact .claimed acc i k agent r rfl hl hr hof hp
  | cancelWithdrawal acc =>
    exact .cancelled _ rfl (cancelWithdrawal_cancelled (a := ⟨tx, _⟩) h)
  | deactivateAgent acc =>
    obtain ⟨i, k, agent, hl, hactive, hp⟩ :=
      deactivateAgent_paid (a := ⟨tx, _⟩) h
    exact .deactivated acc i k agent rfl hl hactive hp
  | depositCollateral acc n =>
    obtain ⟨i, agent, hd⟩ := depositCollateral_deposited (a := ⟨tx, _⟩) h
    exact .deposited i _ agent acc n rfl hd
  | requestCollateralWithdrawal acc n =>
    obtain ⟨agent, hr⟩ :=
      requestCollateralWithdrawal_requested (a := ⟨tx, _⟩) h
    exact .collateralRequested _ agent n rfl hr
  | claimCollateralWithdrawal acc =>
    obtain ⟨i, agent, r, hc⟩ :=
      claimCollateralWithdrawal_claimed (a := ⟨tx, _⟩) h
    exact .collateralClaimed i _ agent acc r rfl hc
  | slashAgent acc n =>
    obtain ⟨i, agent, m, hs⟩ := slashAgent_slashed (a := ⟨tx, _⟩) h
    exact .slashed i _ agent m rfl hs
  | advanceClock slot now =>
    exact .aside rfl (advanceClock_aside (a := ⟨tx, .advanceClock slot now⟩) h)
  | transferLamports src dst n =>
    exact .aside rfl
      (transferLamports_aside (a := ⟨tx, .transferLamports src dst n⟩) h)
  | viaTokens op =>
    exact .aside rfl (viaTokens_aside (a := ⟨tx, .viaTokens op⟩) h)

end KamiyoProtocol.Hive.Stakes
