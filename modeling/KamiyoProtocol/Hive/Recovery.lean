/-
What an owner can get back without the authority of the registry.

The owner of an active agent may request, cancel and claim withdrawals,
deposit, and wait. Under the rule of the runtime that a program debits
its own accounts only, no claim pays any stake. Collateral is paid by the
one request that can ever be made, since its account is not closed: all
of it, when the request is still to be made or is for all of it, and when
it is for more and the owner can deposit the difference first.
-/
import KamiyoProtocol.Hive.Concrete
import KamiyoProtocol.Hive.Soundness

namespace KamiyoProtocol.Hive.Stakes

open Solana Exec Function

variable {env : Env Seed} {w w' : World} {a : Action env}
  {k owner : Pubkey}

-- ==== continuations

/-- The instructions of an agent's owner on the agent, and waiting. That the
owner opens a token account, of the token program, is none of them. -/
inductive OwnerOp (k owner : Pubkey) : Op → Prop
  | requestWithdrawal : OwnerOp k owner (.requestWithdrawal ⟨k, owner⟩)
  | claimWithdrawal (recipient : Pubkey) :
      OwnerOp k owner (.claimWithdrawal ⟨k, recipient, owner⟩)
  | cancelWithdrawal (j : Pubkey) :
      OwnerOp k owner (.cancelWithdrawal ⟨j, owner⟩)
  | depositCollateral (src mint : Pubkey) (n : Nat) :
      OwnerOp k owner (.depositCollateral ⟨k, src, mint, owner⟩ n)
  | requestCollateralWithdrawal (n : Nat) :
      OwnerOp k owner (.requestCollateralWithdrawal ⟨k, owner⟩ n)
  | claimCollateralWithdrawal (dst : Pubkey) :
      OwnerOp k owner (.claimCollateralWithdrawal ⟨k, dst, owner⟩)
  | advanceClock (slot : Nat) (now : Int) :
      OwnerOp k owner (.advanceClock slot now)

/-- What the owner was paid and what it deposited meanwhile. -/
structure Receipts where
  stake : Nat
  deposited : Nat
  collected : Nat

def Receipts.none : Receipts := ⟨0, 0, 0⟩

/-- Enter a payment of the agent's stake or collateral, or a deposit. -/
def receive (k : Pubkey) (a : Action env) (w : World) (g : Receipts) :
    Receipts :=
  match a.op with
  | .claimWithdrawal acc =>
    match w.withdrawals (env.pda (.withdrawal acc.agent)) with
    | some r =>
      if acc.agent = k then { g with stake := g.stake + r.amount }
      else g
    | none => g
  | .depositCollateral acc n =>
    if acc.agent = k then { g with deposited := g.deposited + n } else g
  | .claimCollateralWithdrawal acc =>
    match w.collateralWithdrawals
      (env.pda (.collateralWithdrawal acc.agent)) with
    | some r =>
      if acc.agent = k then
        { g with collected := g.collected + r.amount }
      else g
    | none => g
  | _ => g

/-- A run of the owner's, under the rule of the runtime. -/
def Continues (env : Env Seed) (k owner : Pubkey) (x : World × Receipts)
    (tr : List (Action env)) (y : World × Receipts) : Prop :=
  (∀ a ∈ tr, OwnerOp k owner a.op)
    ∧ run (tracked (step env .ownedOnly) (receive k)) x tr = .ok y

/-- The owner can be paid the stake of its agent. -/
def StakeRecoverable (env : Env Seed) (w : World) (k : Pubkey)
    (agent : Agent) : Prop :=
  ∃ tr x, Continues env k agent.owner (w, .none) tr x ∧ agent.stake ≤ x.2.stake

/-- The owner can be paid the collateral of its agent, beyond what it
deposits to that end. -/
def CollateralRecoverable (env : Env Seed) (w : World) (k : Pubkey)
    (agent : Agent) : Prop :=
  ∃ tr x, Continues env k agent.owner (w, .none) tr x
    ∧ agent.collateralAmount + x.2.deposited ≤ x.2.collected

-- ==== conditions

/-- The amount of a token account, if it is the owner's. -/
def purse (b : Tokens) (owner j : Pubkey) : Nat :=
  match b.accounts j with
  | some t =>
    if t.mint = kamiyoMintId ∧ t.owner = owner then t.amount else 0
  | none => 0

/-- The owner has a token account. -/
def HasAccount (b : Tokens) (owner : Pubkey) : Prop :=
  ∃ j t, b.accounts j = some t ∧ t.mint = kamiyoMintId ∧ t.owner = owner

/-- The owner's token accounts hold `n` together. -/
def Fundable (b : Tokens) (owner : Pubkey) (n : Nat) : Prop :=
  ∃ js : List Pubkey, js.Nodup ∧ n ≤ (js.map (purse b owner)).sum

def Unpaused (w : World) : Prop :=
  w.registry.map AgentRegistry.paused = some false

/-- The request of the agent's collateral. -/
def requestOf (env : Env Seed) (w : World) (k : Pubkey) :
    Option CollateralWithdrawal :=
  w.collateralWithdrawals (env.pda (.collateralWithdrawal k))

/-- A request for all of the collateral can be made, or is there and can
be met. -/
def Requestable (env : Env Seed) (w : World) (k : Pubkey)
    (agent : Agent) : Prop :=
  match requestOf env w k with
  | none => Fixed.InRange 64 (w.now + collateralWithdrawalTimelock)
  | some r => r.claimed = false
      ∧ (r.amount = agent.collateralAmount
        ∨ agent.collateralAmount < r.amount ∧ Unpaused w
          ∧ Fundable w.tokens agent.owner
            (r.amount - agent.collateralAmount))

/-- The collateral is there to be had. -/
def Withdrawable (env : Env Seed) (w : World) (k : Pubkey)
    (agent : Agent) : Prop :=
  agent.collateralAmount = 0
    ∨ HasAccount w.tokens agent.owner ∧ Requestable env w k agent

-- ==== purses

theorem purse_openVault {b b' : Tokens} {v : Pubkey} (hv : v ≠ owner)
    (h : openVault b v kamiyoMintId = .ok b') (j : Pubkey) :
    purse b' owner j = purse b owner j := by
  unfold openVault at h
  split at h
  · next hnone =>
      have hopen := okOr_ok.mp h
      unfold Tokens.openAccount at hopen
      rw [hnone] at hopen
      cases hopen
      by_cases hj : j = v
      · subst hj
        have hput : (b.put j (some ⟨kamiyoMintId, j, 0⟩)).accounts j
            = some ⟨kamiyoMintId, j, 0⟩ := update_self ..
        rw [purse, hput, purse, hnone]
        exact if_neg fun hc => hv hc.2
      · have hput : (b.put v (some ⟨kamiyoMintId, v, 0⟩)).accounts j
            = b.accounts j := update_of_ne hj ..
        rw [purse, hput]
        rfl
  · simp only [bind_ok] at h
    obtain ⟨-, -, -, -, hout⟩ := h
    cases hout
    rfl

variable {n : Nat}

theorem purse_transfer {b b' : Tokens} {src v : Pubkey}
    {t : TokenAccount} (ht : b.accounts v = some t) (hv : t.owner ≠ owner)
    {s : TokenAccount} (hs : b.accounts src = some s)
    (hmint : s.mint = kamiyoMintId)
    (h : b.transfer src v owner n = some b') (j : Pubkey) :
    purse b' owner j + (if j = src then n else 0) = purse b owner j := by
  obtain ⟨s', d, hs', -, -, howner, hle, hacc, -⟩ := Tokens.transfer_some h
  rw [hs] at hs'
  cases hs'
  rw [purse, hacc, Tokens.adjust]
  by_cases hj : j = src
  · subst hj
    have hne : j ≠ v := by
      rintro rfl
      rw [hs] at ht
      cases ht
      exact hv howner
    rw [purse, hs, if_pos rfl]
    simp only [Option.map_some, if_true]
    rw [if_neg hne, if_pos ⟨hmint, howner⟩, if_pos ⟨hmint, howner⟩]
    omega
  · rw [if_neg hj]
    by_cases hjv : j = v
    · subst hjv
      rw [purse, ht]
      simp only [Option.map_some]
      rw [if_neg fun hc => hv hc.2, if_neg fun hc => hv hc.2]
    · rw [purse]
      cases b.accounts j with
      | none => rfl
      | some t' =>
        simp only [Option.map_some]
        rw [if_neg hj, if_neg hjv]
        rfl

/-- The owner's accounts held `n` more before. -/
def Spent (b₀ b : Tokens) (owner : Pubkey) (n : Nat) : Prop :=
  ∃ js : List Pubkey, js.Nodup
    ∧ (js.map (purse b owner)).sum + n ≤ (js.map (purse b₀ owner)).sum
    ∧ ∀ j, j ∉ js → purse b owner j ≤ purse b₀ owner j

theorem Spent.refl (b : Tokens) (owner : Pubkey) : Spent b b owner 0 :=
  ⟨[], List.nodup_nil, Nat.le_refl _, fun _ _ => Nat.le_refl _⟩

theorem Spent.fundable {b₀ b : Tokens} {m n : Nat}
    (h : Spent b₀ b owner n) (hm : m ≤ n) : Fundable b₀ owner m := by
  obtain ⟨js, hn, hsum, -⟩ := h
  exact ⟨js, hn, by omega⟩

theorem Spent.pay {b₀ b b' : Tokens} {src : Pubkey} {m n : Nat}
    (h : Spent b₀ b owner n)
    (hpay : ∀ j, purse b' owner j + (if j = src then m else 0)
      = purse b owner j) : Spent b₀ b' owner (n + m) := by
  obtain ⟨js, hn, hsum, hout⟩ := h
  have hsrc := hpay src
  rw [if_pos rfl] at hsrc
  have hput : purse b' owner
      = update (purse b owner) src (purse b' owner src) := by
    funext j
    by_cases hj : j = src
    · rw [hj, update_self]
    · have := hpay j
      rw [if_neg hj, Nat.add_zero] at this
      rw [update_of_ne hj, this]
  by_cases hmem : src ∈ js
  · have htrade : (js.map (purse b' owner)).sum + purse b owner src
        = (js.map (purse b owner)).sum + purse b' owner src := by
      rw [hput, update_self]
      exact Keyed.sum_update id (purse b owner) (purse b' owner src) hn hmem
    refine ⟨js, hn, by omega, ?_⟩
    intro j hj
    have hle := hout j hj
    have := hpay j
    omega
  · have hsame : (js.map (purse b' owner)).sum
        = (js.map (purse b owner)).sum := by
      rw [hput]
      exact Keyed.sum_update_of_not_mem id (purse b owner)
        (purse b' owner src) hmem
    have hle := hout src hmem
    refine ⟨src :: js, List.nodup_cons.mpr ⟨hmem, hn⟩, ?_, ?_⟩
    · simp only [List.map_cons, List.sum_cons]
      omega
    · intro j hj
      rw [List.mem_cons, not_or] at hj
      have hle' := hout j hj.2
      have := hpay j
      omega

-- ==== impossibility

/-- While nothing was collected: the collateral as it was and what was
deposited, and everything a claim would need as it was or worse. -/
structure Pending (env : Env Seed) (w₀ : World) (k : Pubkey)
    (agent₀ : Agent) (x : World × Receipts) : Prop where
  agent : ∃ agent, (k, agent) ∈ x.1.agents ∧ agent.owner = agent₀.owner
    ∧ agent.collateralAmount = agent₀.collateralAmount + x.2.deposited
  nothing : x.2.collected = 0
  paused : x.1.registry.map AgentRegistry.paused
    = w₀.registry.map AgentRegistry.paused
  now : w₀.now ≤ x.1.now
  request : requestOf env x.1 k = requestOf env w₀ k
    ∨ requestOf env w₀ k = none
      ∧ Fixed.InRange 64 (w₀.now + collateralWithdrawalTimelock)
  account : HasAccount x.1.tokens agent₀.owner →
    HasAccount w₀.tokens agent₀.owner
  funds : Spent w₀.tokens x.1.tokens agent₀.owner x.2.deposited
  deposits : 0 < x.2.deposited → Unpaused w₀

/-- The one claim was made: of all there was, as it could be, or of
less. -/
def Done (env : Env Seed) (w₀ : World) (k : Pubkey) (agent₀ : Agent)
    (x : World × Receipts) : Prop :=
  Withdrawable env w₀ k agent₀
    ∨ ∃ r, requestOf env x.1 k = some r ∧ r.claimed = true
      ∧ x.2.collected < agent₀.collateralAmount

variable {w₀ : World} {agent₀ : Agent} {x y : World × Receipts}

theorem pending_start (h : (k, agent₀) ∈ w₀.agents) :
    Pending env w₀ k agent₀ (w₀, .none) :=
  ⟨⟨agent₀, h, rfl, rfl⟩, rfl, rfl, Int.le_refl _, .inl rfl, id,
    .refl _ _, nofun⟩

/-- Leaving the collateral and what a claim of it needs alone. -/
theorem Pending.same (h : Pending env w₀ k agent₀ x)
    (ha : ∀ agent, (k, agent) ∈ x.1.agents →
      ∃ agent', (k, agent') ∈ y.1.agents ∧ agent'.owner = agent.owner
        ∧ agent'.collateralAmount = agent.collateralAmount)
    (hp : y.1.registry.map AgentRegistry.paused
      = x.1.registry.map AgentRegistry.paused)
    (hnow : x.1.now ≤ y.1.now)
    (hr : requestOf env y.1 k = requestOf env x.1 k)
    (ht : y.1.tokens = x.1.tokens)
    (hd : y.2.deposited = x.2.deposited)
    (hc : y.2.collected = x.2.collected) :
    Pending env w₀ k agent₀ y := by
  obtain ⟨⟨agent, hmem, howner, hamount⟩, hnone, hpaused, hlate, hreq,
    hacc, hfunds, hdep⟩ := h
  obtain ⟨agent', hmem', howner', hamount'⟩ := ha agent hmem
  refine ⟨⟨agent', hmem', howner'.trans howner, ?_⟩, hc.trans hnone,
    hp.trans hpaused, Int.le_trans hlate hnow, ?_, ?_, ?_, ?_⟩
  · rw [hamount', hamount, hd]
  · rw [hr]
    exact hreq
  · rw [ht]
    exact hacc
  · rw [ht, hd]
    exact hfunds
  · rw [hd]
    exact hdep

theorem Pending.unpaused (h : Pending env w₀ k agent₀ x)
    (hr : ∃ r, x.1.registry = some r ∧ r.paused = false) :
    Unpaused w₀ := by
  obtain ⟨r, hr, hp⟩ := hr
  rw [Unpaused, ← h.paused, hr, Option.map_some, hp]

variable {agent : Agent} {g : Receipts}

theorem Pending.deposited {i : Nat} {acc : DepositAccounts} (hs : Sound env w)
    (h : Pending env w₀ k agent₀ (w, g))
    (hd : Deposited env w w' i k agent acc n)
    (hacc : acc.depositor = agent₀.owner)
    (howner : ∀ s, agent₀.owner ≠ env.pda s) :
    Pending env w₀ k agent₀
      (w', { g with deposited := g.deposited + n }) := by
  have hmem := List.mem_of_getElem? hd.agent
  obtain ⟨⟨agent', hmem', howner', hamount⟩, hnone, hpaused, hlate, hreq,
    haccount, hfunds, hdep⟩ := id h
  have hsame : (k, agent') = (k, agent) :=
    List.inj_on_of_nodup_map hs.nodup hmem' hmem rfl
  cases hsame
  obtain ⟨s, hsource, hmint, hsowner⟩ := hd.source
  rw [hacc] at hsowner
  obtain ⟨b, hopen, htransfer⟩ := hd.opened
  rw [hacc] at htransfer
  -- what leaves the owner's account leaves its purse
  have hpay : ∀ j, purse w'.tokens agent₀.owner j
      + (if j = acc.depositorTokenAccount then n else 0)
        = purse w.tokens agent₀.owner j := by
    intro j
    obtain ⟨t, ht, -, htowner, -⟩ := (openVault_ok hopen).2
    have hvault : collateralVault env k ≠ agent₀.owner :=
      (howner _).symm
    have hsource' : ∃ s', b.accounts acc.depositorTokenAccount = some s'
        ∧ s'.mint = kamiyoMintId := by
      obtain ⟨s', d, hs', hd', hmints, -, -, -, -⟩ :=
        Tokens.transfer_some htransfer
      obtain ⟨t', ht', htmint, -, -⟩ := (openVault_ok hopen).2
      rw [hd'] at ht'
      cases ht'
      exact ⟨s', hs', hmints.trans htmint⟩
    obtain ⟨s', hs', hmint'⟩ := hsource'
    rw [← purse_openVault hvault hopen j]
    exact purse_transfer ht (by rw [htowner]; exact hvault) hs' hmint'
      htransfer j
  have hunpaused := h.unpaused hd.unpaused
  obtain ⟨b', rfl⟩ := hd.after
  refine ⟨⟨{ agent with
      collateralAmount := agent.collateralAmount + n
      collateralLockedAt := w.now }, ?_, howner', ?_⟩, hnone, hpaused,
    hlate, hreq, ?_, ?_, ?_⟩
  · exact mem_set hd.agent _
  · show agent.collateralAmount + n = _
    rw [hamount, Nat.add_assoc]
  · intro _
    exact haccount ⟨_, s, hsource, hmint, hsowner⟩
  · exact hfunds.pay hpay
  · intro _
    exact hunpaused

variable {r : CollateralWithdrawal}

/-- The claim that can be made was of all there was, as it could be, or of
less. -/
theorem Pending.claimed {i : Nat} {acc : ClaimCollateralAccounts}
    (hs : Sound env w)
    (h : Pending env w₀ k agent₀ (w, g))
    (hc : CollateralClaimed env w w' i k agent acc r)
    (hacc : acc.claimer = agent₀.owner) :
    Done env w₀ k agent₀
      (w', { g with collected := g.collected + r.amount }) := by
  obtain ⟨⟨agent', hmem', -, hamount⟩, hnone, -, -, hreq, haccount, hfunds,
    hdep⟩ := h
  have hsame : (k, agent') = (k, agent) :=
    List.inj_on_of_nodup_map hs.nodup hmem' (List.mem_of_getElem? hc.agent)
      rfl
  cases hsame
  dsimp only at hamount hnone hreq haccount hfunds hdep
  have hhas : HasAccount w₀.tokens agent₀.owner := by
    obtain ⟨t, ht, hmint, howner⟩ := hc.target
    exact haccount ⟨_, t, ht, hmint, howner.trans hacc⟩
  have hbounded := hc.bounded
  have hr : requestOf env w k = some r := hc.request
  rcases hreq with hsame | ⟨hfresh, htime⟩
  · rw [hr] at hsame
    rcases Nat.lt_trichotomy r.amount agent₀.collateralAmount
      with hlt | heq | hgt
    · right
      obtain ⟨b, rfl⟩ := hc.after
      refine ⟨{ r with claimed := true }, ?_, rfl, ?_⟩
      · exact update_self ..
      · show g.collected + r.amount < _
        omega
    · refine .inl (.inr ⟨hhas, ?_⟩)
      rw [Requestable, ← hsame]
      exact ⟨hc.unclaimed, .inl heq⟩
    · refine .inl (.inr ⟨hhas, ?_⟩)
      rw [Requestable, ← hsame]
      exact ⟨hc.unclaimed, .inr ⟨hgt, hdep (by omega),
        hfunds.fundable (by omega)⟩⟩
  · refine .inl (.inr ⟨hhas, ?_⟩)
    rw [Requestable, hfresh]
    exact htime

theorem Pending.requested (h₀ : Fixed.InRange 64 w₀.now)
    (h : Pending env w₀ k agent₀ (w, g))
    (hr : CollateralRequested env w w' k agent n) :
    Pending env w₀ k agent₀ (w', g) := by
  obtain ⟨hagent, hnone, hpaused, hlate, hreq, haccount, hfunds, hdep⟩ := h
  have hfresh : requestOf env w k = none := hr.fresh
  have htime := hr.inTime
  have hafter := hr.after
  subst hafter
  refine ⟨hagent, hnone, hpaused, hlate, .inr ⟨?_, ?_⟩, haccount, hfunds, hdep⟩
  · rcases hreq with hsame | ⟨hfresh₀, -⟩
    · exact hsame.symm.trans hfresh
    · exact hfresh₀
  · dsimp only at hlate
    unfold collateralWithdrawalTimelock at htime ⊢
    obtain ⟨hlo, hhi⟩ := h₀
    obtain ⟨-, hhi'⟩ := htime
    constructor
    · omega
    · omega

theorem Done.step (h : Done env w₀ k agent₀ x)
    (hown : OwnerOp k agent₀.owner a.op)
    (hs : tracked (step env .ownedOnly) (receive k) a x = .ok y) :
    Done env w₀ k agent₀ y := by
  rcases h with hw | ⟨r, hr, hclaimed, hlt⟩
  · exact .inl hw
  · obtain ⟨tx, op⟩ := a
    obtain ⟨w, g⟩ := x
    obtain ⟨w', g'⟩ := y
    obtain ⟨hstep, hg⟩ := tracked_ok.mp hs
    dsimp only at hown hstep hg hr hlt
    right
    cases hown with
    | requestWithdrawal =>
      obtain ⟨agent, r', hm⟩ :=
        requestWithdrawal_requested (a := ⟨tx, _⟩) hstep
      have hafter := hm.after
      subst hafter hg
      exact ⟨r, hr, hclaimed, hlt⟩
    | claimWithdrawal recipient =>
      obtain ⟨i, j, agent, r', -, -, -, hm⟩ :=
        claimWithdrawal_paid (a := ⟨tx, _⟩) hstep
      obtain ⟨l, reg, rfl⟩ := hm.after
      refine ⟨r, hr, hclaimed, ?_⟩
      rw [hg]
      unfold receive
      dsimp only
      split
      · rw [if_pos rfl]
        exact hlt
      · exact hlt
    | cancelWithdrawal j =>
      have hafter := cancelWithdrawal_cancelled (a := ⟨tx, _⟩) hstep
      subst hafter hg
      exact ⟨r, hr, hclaimed, hlt⟩
    | depositCollateral src mint n =>
      obtain ⟨i, agent, hm⟩ :=
        depositCollateral_deposited (a := ⟨tx, _⟩) hstep
      obtain ⟨b, rfl⟩ := hm.after
      refine ⟨r, hr, hclaimed, ?_⟩
      rw [hg]
      simp only [receive, if_true]
      exact hlt
    | requestCollateralWithdrawal n =>
      obtain ⟨agent, hm⟩ :=
        requestCollateralWithdrawal_requested (a := ⟨tx, _⟩) hstep
      have hfresh : requestOf env w k = none := hm.fresh
      rw [hr] at hfresh
      cases hfresh
    | claimCollateralWithdrawal dst =>
      obtain ⟨i, agent, r', hm⟩ :=
        claimCollateralWithdrawal_claimed (a := ⟨tx, _⟩) hstep
      have hr' : requestOf env w k = some r' := hm.request
      rw [hr] at hr'
      cases hr'
      have hun := hm.unclaimed
      rw [hclaimed] at hun
      cases hun
    | advanceClock slot now =>
      have hm := advanceClock_aside
        (a := ⟨tx, .advanceClock slot now⟩) hstep
      subst hg
      refine ⟨r, ?_, hclaimed, hlt⟩
      rw [requestOf, hm.collateralWithdrawals]
      exact hr

theorem Pending.step (h₀ : Fixed.InRange 64 w₀.now)
    (howner : ∀ s, agent₀.owner ≠ env.pda s) (hs : Sound env x.1)
    (h : Pending env w₀ k agent₀ x)
    (hown : OwnerOp k agent₀.owner a.op)
    (hstep : tracked (step env .ownedOnly) (receive k) a x = .ok y) :
    Pending env w₀ k agent₀ y ∨ Done env w₀ k agent₀ y := by
  obtain ⟨tx, op⟩ := a
  obtain ⟨w, g⟩ := x
  obtain ⟨w', g'⟩ := y
  obtain ⟨hstep, hg⟩ := tracked_ok.mp hstep
  dsimp only at hown hstep hg hs
  cases hown with
  | requestWithdrawal =>
    obtain ⟨agent, r, hm⟩ :=
      requestWithdrawal_requested (a := ⟨tx, _⟩) hstep
    have hafter := hm.after
    subst hafter hg
    exact .inl (h.same (fun b hb => ⟨b, hb, rfl, rfl⟩) rfl
      (Int.le_refl _) rfl rfl rfl rfl)
  | claimWithdrawal recipient =>
    obtain ⟨i, j, agent, r, -, hr, -, hm⟩ :=
      claimWithdrawal_paid (a := ⟨tx, _⟩) hstep
    have hset := hm.agents rfl
    have hpaused := hm.paused
    obtain ⟨l, reg, rfl⟩ := hm.after
    have hbooks : g'.deposited = g.deposited ∧ g'.collected = g.collected := by
      rw [hg]
      unfold receive
      dsimp only
      split
      · rw [if_pos rfl]
        exact ⟨rfl, rfl⟩
      · exact ⟨rfl, rfl⟩
    refine .inl (h.same ?_ hpaused (Int.le_refl _) rfl rfl hbooks.1
      hbooks.2)
    intro b hb
    by_cases hj : k = j
    · have hsame : (k, b) = (j, agent) :=
        List.inj_on_of_nodup_map hs.nodup hb
          (List.mem_of_getElem? hm.agent) hj
      cases hsame
      exact ⟨_, mem_set hm.agent _, rfl, rfl⟩
    · refine ⟨b, ?_, rfl, rfl⟩
      dsimp only at hset ⊢
      rw [hset]
      refine (Keyed.mem_set_iff hs.nodup hm.agent ?_).mpr
        (.inr ⟨hb, hj⟩)
      rfl
  | cancelWithdrawal j =>
    have hafter := cancelWithdrawal_cancelled (a := ⟨tx, _⟩) hstep
    subst hafter hg
    exact .inl (h.same (fun b hb => ⟨b, hb, rfl, rfl⟩) rfl
      (Int.le_refl _) rfl rfl rfl rfl)
  | depositCollateral src mint n =>
    obtain ⟨i, agent, hm⟩ :=
      depositCollateral_deposited (a := ⟨tx, _⟩) hstep
    have hbooks : g' = { g with deposited := g.deposited + n } := by
      rw [hg]
      simp only [receive, if_true]
    rw [hbooks]
    exact .inl (h.deposited hs hm rfl howner)
  | requestCollateralWithdrawal n =>
    obtain ⟨agent, hm⟩ :=
      requestCollateralWithdrawal_requested (a := ⟨tx, _⟩) hstep
    subst hg
    exact .inl (h.requested h₀ hm)
  | claimCollateralWithdrawal dst =>
    obtain ⟨i, agent, r, hm⟩ :=
      claimCollateralWithdrawal_claimed (a := ⟨tx, _⟩) hstep
    have hr : requestOf env w k = some r := hm.request
    have hbooks : g' = { g with collected := g.collected + r.amount } := by
      unfold requestOf at hr
      rw [hg]
      simp only [receive, hr, if_true]
    rw [hbooks]
    exact .inr (h.claimed hs hm rfl)
  | advanceClock slot now =>
    simp only [Stakes.step, bind_ok, require_ok] at hstep
    obtain ⟨-, ⟨-, hnow, -⟩, hw⟩ := hstep
    cases hw
    subst hg
    exact .inl (h.same (fun b hb => ⟨b, hb, rfl, rfl⟩) rfl hnow rfl rfl
      rfl rfl)

theorem withdrawable_of_recoverable (hs : Sound env w₀)
    (hmem : (k, agent₀) ∈ w₀.agents)
    (h : CollateralRecoverable env w₀ k agent₀) :
    Withdrawable env w₀ k agent₀ := by
  obtain ⟨tr, x, ⟨hown, hrun⟩, hle⟩ := h
  have howner := (hs.agents k agent₀ hmem).owner
  have hend : Sound env x.1
      ∧ (Pending env w₀ k agent₀ x ∨ Done env w₀ k agent₀ x) := by
    refine run_induct_meets
      (I := fun x => Sound env x.1
        ∧ (Pending env w₀ k agent₀ x ∨ Done env w₀ k agent₀ x)) ?_
      ⟨hs, .inl (pending_start hmem)⟩ (meets_of_forall hown) hrun
    rintro a x y ⟨hsx, hx⟩ ha hstep
    refine ⟨sound_step hsx (tracked_ok.mp hstep).1, ?_⟩
    rcases hx with hp | hd
    · exact hp.step hs.clock howner hsx ha hstep
    · exact .inr (hd.step ha hstep)
  rcases hend.2 with hp | hw | ⟨r, -, -, hlt⟩
  · have := hp.nothing
    left
    omega
  · exact hw
  · omega

-- ==== possibility

/-- A transaction the owner signs. -/
def ownTx (env : Env Seed) (owner : Pubkey)
    (h : ∀ s, owner ≠ env.pda s) : Tx env where
  signers := [owner]
  clock := 0
  instructions := []
  systemOwned _ := true
  clock_i64 := by decide
  no_pda_signs := by
    intro s hs
    rw [List.mem_singleton] at hs
    exact h s hs.symm

theorem own_signs {owner : Pubkey} (h : ∀ s, owner ≠ env.pda s) :
    owner ∈ (ownTx env owner h).signers :=
  List.mem_singleton_self _

theorem agent_found (hs : Sound env w) (hmem : (k, agent) ∈ w.agents) :
    ∃ i, w.agent k = .ok (i, k, agent) := by
  cases hl : Keyed.locate Prod.fst w.agents k with
  | none => exact absurd rfl (Keyed.locate_none.mp hl _ hmem)
  | some r =>
    obtain ⟨i, p⟩ := r
    obtain ⟨-, hk⟩ := Keyed.locate_some hl
    have hsame : p = (k, agent) :=
      List.inj_on_of_nodup_map hs.nodup (Keyed.locate_mem hl) hmem hk
    subst hsame
    exact ⟨i, load_ok.mpr hl⟩

theorem request_own (hs : Sound env w) (hmem : (k, agent) ∈ w.agents)
    (hr : requestOf env w k = some r) :
    r.agent = k ∧ r.requester = agent.owner := by
  obtain ⟨haddr, ⟨b, hb, hreq⟩, -, -⟩ := hs.requests _ r hr
  have hk : k = r.agent :=
    Seed.collateralWithdrawal.inj (env.pda_injective haddr)
  refine ⟨hk.symm, ?_⟩
  have hsame : (r.agent, b) = (k, agent) :=
    List.inj_on_of_nodup_map hs.nodup hb hmem hk.symm
  cases hsame
  exact hreq

/-- A due request of no more than the collateral is paid. -/
theorem claim_isOk
    {tx : Tx env} (hs : Sound env w) (hmem : (k, agent) ∈ w.agents)
    (hr : requestOf env w k = some r) (hun : r.claimed = false)
    (hdue : r.unlockTime ≤ w.now) (hpos : 0 < agent.collateralAmount)
    (hle : r.amount ≤ agent.collateralAmount) {j : Pubkey}
    {t : TokenAccount} (ht : w.tokens.accounts j = some t)
    (hmint : t.mint = kamiyoMintId) (howner : t.owner = agent.owner)
    (hsig : agent.owner ∈ tx.signers) :
    ∃ w', claimCollateralWithdrawal env tx ⟨k, j, agent.owner⟩ w = .ok w' := by
  obtain ⟨i, hfound⟩ := agent_found hs hmem
  obtain ⟨hof, hreq⟩ := request_own hs hmem hr
  obtain ⟨v, hv, hvmint, hvowner, hamount⟩ :=
    (hs.agents k agent hmem).vaulted hpos
  obtain ⟨b, hb⟩ : ∃ b, w.tokens.transfer (collateralVault env k) j
      (collateralVault env k) r.amount = some b :=
    Tokens.transfer_isSome hv ht (hvmint.trans hmint.symm) hvowner
      (Nat.le_trans hle hamount)
  exact bind_isOk hfound (bind_isOk (load_ok.mpr hr) (require_isOk hof
    (bind_isOk (load_ok.mpr hv) (bind_isOk (load_ok.mpr ht)
      (require_isOk hmint (require_isOk howner (requireSigner_isOk hsig
        (ensure_isOk hun (ensure_isOk hdue (ensure_isOk hreq.symm
          (ensure_isOk hle (bind_isOk (transferTokens_ok.mpr hb)
            ⟨_, rfl⟩))))))))))))

theorem request_isOk {tx : Tx env} (hs : Sound env w)
    (hmem : (k, agent) ∈ w.agents) (hactive : agent.active = true)
    (hr : requestOf env w k = none)
    (htime : Fixed.InRange 64 (w.now + collateralWithdrawalTimelock))
    (hsig : agent.owner ∈ tx.signers) :
    ∃ w', requestCollateralWithdrawal env tx ⟨k, agent.owner⟩
      agent.collateralAmount w = .ok w' := by
  obtain ⟨i, hfound⟩ := agent_found hs hmem
  exact bind_isOk hfound (requireFresh_isOk hr (requireSigner_isOk hsig
    (ensure_isOk hactive (ensure_isOk rfl (ensure_isOk (Nat.le_refl _)
      (bind_isOk (addI64_ok.mpr ⟨htime, rfl⟩) ⟨_, rfl⟩))))))

theorem openVault_there {b : Tokens} (h : Vaulted env b k n) :
    openVault b (collateralVault env k) kamiyoMintId = .ok b := by
  obtain ⟨v, hv, hmint, howner, -⟩ := h
  unfold openVault
  rw [hv]
  exact bind_ok.mpr ⟨(), require_ok.mpr hmint,
    bind_ok.mpr ⟨(), require_ok.mpr howner, rfl⟩⟩

/-- A deposit into a vault that is there. -/
theorem deposit_isOk {tx : Tx env} (hs : Sound env w)
    (hmem : (k, agent) ∈ w.agents) (hactive : agent.active = true)
    (hunpaused : Unpaused w) (hpos : 0 < agent.collateralAmount)
    (hn : 0 < n) (hroom : agent.collateralAmount + n < 2 ^ 64)
    {j : Pubkey} {t : TokenAccount} (ht : w.tokens.accounts j = some t)
    (hmint : t.mint = kamiyoMintId) (howner : t.owner = agent.owner)
    (hle : n ≤ t.amount) (hsig : agent.owner ∈ tx.signers) :
    ∃ w', depositCollateral env tx ⟨k, j, kamiyoMintId, agent.owner⟩ n w
      = .ok w' := by
  obtain ⟨i, hfound⟩ := agent_found hs hmem
  have hself := hs.agents k agent hmem
  obtain ⟨v, hv, hvmint, -, -⟩ := hself.vaulted hpos
  obtain ⟨registry, hreg, hpaused⟩ := Option.map_eq_some_iff.mp hunpaused
  have hopen := openVault_there (hself.vaulted hpos)
  obtain ⟨b, hb⟩ : ∃ b, w.tokens.transfer j (collateralVault env k)
      agent.owner n = some b :=
    Tokens.transfer_isSome ht hv (hmint.trans hvmint.symm) howner hle
  exact bind_isOk (load_ok.mpr hreg) (ensure_isOk hpaused
    (bind_isOk hfound (require_isOk hself.registry
      (bind_isOk (load_ok.mpr ht) (require_isOk hmint (require_isOk howner
        (ensure_isOk rfl (requireSigner_isOk hsig (bind_isOk hopen
          (ensure_isOk hn (ensure_isOk hactive
            (bind_isOk (transferTokens_ok.mpr hb)
              (bind_isOk (okOr_ok.mpr
                (Fixed.checkedAdd_some.mpr ⟨hroom, rfl⟩))
                ⟨_, rfl⟩)))))))))))))

theorem Continues.append {z : World × Receipts} {p q : List (Action env)}
    (h : Continues env k owner x p y) (h' : Continues env k owner y q z) :
    Continues env k owner x (p ++ q) z := by
  refine ⟨?_, run_append.mpr ⟨y, h.2, h'.2⟩⟩
  intro a ha
  rcases List.mem_append.mp ha with hp | hq
  · exact h.1 a hp
  · exact h'.1 a hq

theorem Continues.single (hown : OwnerOp k owner a.op)
    (hs : step env .ownedOnly a w = .ok w') :
    Continues env k owner (w, g) [a] (w', receive k a w g) := by
  refine ⟨?_, run_cons.mpr ⟨_, tracked_ok.mpr ⟨hs, rfl⟩, rfl⟩⟩
  intro b hb
  rw [List.mem_singleton] at hb
  rw [hb]
  exact hown

theorem Continues.sound {tr : List (Action env)}
    (h : Continues env k owner x tr y) (hs : Sound env x.1) :
    Sound env y.1 :=
  run_induct (fun _ _ _ => sound_step) hs (run_of_tracked h.2)

/-- The agent with its collateral `n` higher, and the rest as it was. -/
structure Topped (env : Env Seed) (k : Pubkey) (agent : Agent) (n : Nat)
    (x y : World × Receipts) : Prop where
  there : ∃ agent', (k, agent') ∈ y.1.agents
    ∧ agent'.owner = agent.owner ∧ agent'.active = agent.active
    ∧ agent'.collateralAmount = agent.collateralAmount + n
  deposited : y.2.deposited = x.2.deposited + n
  collected : y.2.collected = x.2.collected
  request : requestOf env y.1 k = requestOf env x.1 k
  account : HasAccount x.1.tokens agent.owner →
    HasAccount y.1.tokens agent.owner

theorem HasAccount.transfer {b b' : Tokens} {src dst authority : Pubkey}
    (h : b.transfer src dst authority n = some b')
    (ho : HasAccount b owner) : HasAccount b' owner := by
  obtain ⟨j, t, ht, hmint, howner⟩ := ho
  obtain ⟨-, -, -, -, -, -, -, hacc, -⟩ := Tokens.transfer_some h
  rw [HasAccount, hacc]
  exact ⟨j, _, Tokens.adjust_some ht, hmint, howner⟩

/-- One deposit of the owner's. -/
theorem deposit_once {j : Pubkey}
    (hs : Sound env w) (hmem : (k, agent) ∈ w.agents)
    (hactive : agent.active = true) (hunpaused : Unpaused w)
    (hpos : 0 < agent.collateralAmount) (hn : 0 < n)
    (hroom : agent.collateralAmount + n < 2 ^ 64)
    (hle : n ≤ purse w.tokens agent.owner j) :
    ∃ tr y, Continues env k agent.owner (w, g) tr y
      ∧ Topped env k agent n (w, g) y ∧ Unpaused y.1
      ∧ ∀ j', j' ≠ j → purse y.1.tokens agent.owner j'
        = purse w.tokens agent.owner j' := by
  have howner := (hs.agents k agent hmem).owner
  -- the purse is an account of the owner's
  obtain ⟨t, ht, hmint, htowner, hamount⟩ : ∃ t,
      w.tokens.accounts j = some t ∧ t.mint = kamiyoMintId
        ∧ t.owner = agent.owner ∧ n ≤ t.amount := by
    unfold purse at hle
    split at hle
    · next t ht =>
        split at hle
        · next hc => exact ⟨t, ht, hc.1, hc.2, hle⟩
        · omega
    · omega
  obtain ⟨w', hw'⟩ := deposit_isOk hs
    hmem hactive hunpaused hpos hn hroom ht hmint htowner hamount
    (own_signs howner)
  have hown : OwnerOp k agent.owner
      (.depositCollateral ⟨k, j, kamiyoMintId, agent.owner⟩ n) :=
    .depositCollateral j kamiyoMintId n
  have hstep : step env .ownedOnly ⟨ownTx env agent.owner howner,
      .depositCollateral ⟨k, j, kamiyoMintId, agent.owner⟩ n⟩ w = .ok w' :=
    hw'
  refine ⟨_, _, Continues.single (g := g) hown hstep, ?_⟩
  obtain ⟨i, agent', hd⟩ := depositCollateral_deposited
    (a := ⟨ownTx env agent.owner howner, .advanceClock 0 0⟩) hw'
  have hsame : (k, agent') = (k, agent) :=
    List.inj_on_of_nodup_map hs.nodup (List.mem_of_getElem? hd.agent) hmem
      rfl
  cases hsame
  obtain ⟨b, hopen, htransfer⟩ := hd.opened
  obtain ⟨v, hv, -, hvowner, -⟩ := (hs.agents k agent hmem).vaulted hpos
  have hb : w.tokens = b := by
    rw [openVault_there ((hs.agents k agent hmem).vaulted hpos)] at hopen
    cases hopen
    rfl
  subst hb
  have hpay : ∀ j', purse w'.tokens agent.owner j'
      + (if j' = j then n else 0) = purse w.tokens agent.owner j' :=
    purse_transfer hv (by rw [hvowner]; exact (howner _).symm) ht hmint
      htransfer
  obtain ⟨b', rfl⟩ := hd.after
  refine ⟨⟨⟨_, mem_set hd.agent _, rfl, rfl, rfl⟩, ?_, ?_, rfl, ?_⟩,
    hunpaused, ?_⟩
  · simp only [receive, if_true]
  · simp only [receive, if_true]
  · intro hhas
    exact hhas.transfer htransfer
  · intro j' hj'
    have := hpay j'
    rw [if_neg hj', Nat.add_zero] at this
    exact this

theorem Topped.refl (hmem : (k, agent) ∈ w.agents)
    (g : Receipts) : Topped env k agent 0 (w, g) (w, g) :=
  ⟨⟨agent, hmem, rfl, rfl, rfl⟩, rfl, rfl, rfl, id⟩

theorem Topped.trans {agent agent' : Agent} {m n : Nat}
    {z : World × Receipts} (h : Topped env k agent m x y)
    (howner : agent'.owner = agent.owner)
    (hactive : agent'.active = agent.active)
    (hamount : agent'.collateralAmount = agent.collateralAmount + m)
    (h' : Topped env k agent' n y z) : Topped env k agent (m + n) x z := by
  obtain ⟨b, hmem, hb, hba, hbc⟩ := h'.there
  refine ⟨⟨b, hmem, hb.trans howner, hba.trans hactive, ?_⟩, ?_, ?_, ?_, ?_⟩
  · rw [hbc, hamount, Nat.add_assoc]
  · rw [h'.deposited, h.deposited, Nat.add_assoc]
  · rw [h'.collected, h.collected]
  · rw [h'.request, h.request]
  · intro hhas
    have hmid := h.account hhas
    rw [← howner] at hmid ⊢
    exact h'.account hmid

/-- What the owner's accounts hold can be deposited, one account after
the other. -/
theorem deposit_all {js : List Pubkey} :
    ∀ {w : World} {g : Receipts} {agent : Agent} {n : Nat},
      Sound env w → (k, agent) ∈ w.agents → agent.active = true →
      Unpaused w → 0 < agent.collateralAmount →
      agent.collateralAmount + n < 2 ^ 64 → js.Nodup →
      n ≤ (js.map (purse w.tokens agent.owner)).sum →
      ∃ tr y, Continues env k agent.owner (w, g) tr y
        ∧ Topped env k agent n (w, g) y := by
  induction js with
  | nil =>
    intro w g agent n _ hmem _ _ _ _ _ hn
    rw [List.map_nil, List.sum_nil, Nat.le_zero] at hn
    subst hn
    exact ⟨[], (w, g), ⟨fun a ha => (nomatch ha), rfl⟩, .refl hmem g⟩
  | cons j rest ih =>
    intro w g agent n hs hmem hactive hunpaused hpos hroom hnodup hn
    rw [List.nodup_cons] at hnodup
    rw [List.map_cons, List.sum_cons] at hn
    by_cases hm : min n (purse w.tokens agent.owner j) = 0
    · -- nothing left to deposit, or nothing in this account
      exact ih hs hmem hactive hunpaused hpos hroom hnodup.2 (by omega)
    · obtain ⟨tr, y, hrun, htop, hun, hothers⟩ := deposit_once (g := g) hs
        hmem hactive hunpaused hpos (Nat.pos_of_ne_zero hm) (by omega)
        (Nat.min_le_right n _)
      obtain ⟨agent', hmem', howner', hactive', hamount'⟩ := htop.there
      have hrest : (rest.map (purse y.1.tokens agent'.owner)).sum
          = (rest.map (purse w.tokens agent.owner)).sum := by
        congr 1
        refine List.map_congr_left ?_
        intro j' hj'
        rw [howner']
        refine hothers j' ?_
        rintro rfl
        exact hnodup.1 hj'
      obtain ⟨tr', z, hrun', htop'⟩ := ih (g := y.2)
        (n := n - min n (purse w.tokens agent.owner j))
        (hrun.sound hs) hmem' (hactive'.trans hactive) hun (by omega)
        (by omega) hnodup.2 (by omega)
      rw [howner'] at hrun'
      have hall := htop.trans howner' hactive' hamount' htop'
      rw [Nat.add_sub_cancel' (Nat.min_le_left n _)] at hall
      exact ⟨tr ++ tr', z, hrun.append hrun', hall⟩

/-- A request that is there is paid when it is due. -/
theorem collect (hs : Sound env w) (hmem : (k, agent) ∈ w.agents)
    (hr : requestOf env w k = some r) (hun : r.claimed = false)
    (hpos : 0 < agent.collateralAmount)
    (hle : r.amount ≤ agent.collateralAmount)
    (hhas : HasAccount w.tokens agent.owner) :
    ∃ tr y, Continues env k agent.owner (w, g) tr y
      ∧ y.2.deposited = g.deposited
      ∧ y.2.collected = g.collected + r.amount := by
  have howner := (hs.agents k agent hmem).owner
  obtain ⟨j, t, ht, hmint, htowner⟩ := hhas
  -- wait until the request is due
  have hrange : Fixed.InRange 64 (max w.now r.unlockTime) := by
    rcases max_choice w.now r.unlockTime with hmax | hmax
    · rw [hmax]
      exact hs.clock
    · rw [hmax]
      exact (hs.requests _ r hr).unlocks
  have hwait : step env .ownedOnly ⟨ownTx env agent.owner howner,
      .advanceClock w.slot (max w.now r.unlockTime)⟩ w
        = .ok { w with now := max w.now r.unlockTime } :=
    bind_ok.mpr ⟨(), require_ok.mpr
      ⟨Nat.le_refl _, le_max_left _ _, hrange⟩, rfl⟩
  obtain ⟨w', hw'⟩ := claim_isOk
    (sound_step hs hwait) hmem hr hun (le_max_right _ _) hpos hle ht hmint
    htowner (own_signs howner)
  have hclaim : step env .ownedOnly ⟨ownTx env agent.owner howner,
      .claimCollateralWithdrawal ⟨k, j, agent.owner⟩⟩
      { w with now := max w.now r.unlockTime } = .ok w' := hw'
  refine ⟨_, _, (Continues.single (g := g) (.advanceClock _ _) hwait).append
    (Continues.single (.claimCollateralWithdrawal _) hclaim), ?_, ?_⟩
  · unfold requestOf at hr
    simp only [receive, hr, if_true]
  · unfold requestOf at hr
    simp only [receive, hr, if_true]

theorem recoverable_of_withdrawable (hs : Sound env w)
    (hmem : (k, agent) ∈ w.agents) (hactive : agent.active = true)
    (h : Withdrawable env w k agent) :
    CollateralRecoverable env w k agent := by
  have howner := (hs.agents k agent hmem).owner
  by_cases hpos : 0 < agent.collateralAmount
  case neg =>
    refine ⟨[], (w, .none), ⟨fun a ha => (nomatch ha), rfl⟩, ?_⟩
    show agent.collateralAmount + 0 ≤ 0
    omega
  rcases h with hzero | ⟨hhas, hreq⟩
  · omega
  unfold Requestable at hreq
  split at hreq
  · next hnone =>
      -- request all of it first
      obtain ⟨w', hw'⟩ := request_isOk
        hs hmem hactive hnone hreq (own_signs howner)
      have hstep : step env .ownedOnly ⟨ownTx env agent.owner howner,
          .requestCollateralWithdrawal ⟨k, agent.owner⟩
            agent.collateralAmount⟩ w = .ok w' := hw'
      obtain ⟨agent', hm⟩ := requestCollateralWithdrawal_requested
        (a := ⟨ownTx env agent.owner howner, .advanceClock 0 0⟩) hw'
      have hsound := sound_step hs hstep
      have hafter := hm.after
      subst hafter
      obtain ⟨tr, y, hrun, hd, hc⟩ := collect (g := .none) hsound hmem
        (update_self ..) rfl hpos (Nat.le_refl _) hhas
      refine ⟨_, y, (Continues.single
        (.requestCollateralWithdrawal _) hstep).append hrun, ?_⟩
      rw [hd, hc]
      show agent.collateralAmount + 0 ≤ 0 + agent.collateralAmount
      omega
  · next r hr =>
      obtain ⟨hun, heq | ⟨hgt, hunpaused, js, hnodup, hsum⟩⟩ := hreq
      · obtain ⟨tr, y, hrun, hd, hc⟩ := collect (g := .none) hs hmem hr hun
          hpos (Nat.le_of_eq heq) hhas
        refine ⟨tr, y, hrun, ?_⟩
        rw [hd, hc, heq]
        show agent.collateralAmount + 0 ≤ 0 + agent.collateralAmount
        omega
      · -- deposit the difference first
        have hbound := (hs.requests _ r hr).bounded
        obtain ⟨tr, y, hrun, htop⟩ := deposit_all (g := .none) hs hmem
          hactive hunpaused hpos (by omega) hnodup hsum
        obtain ⟨agent', hmem', howner', -, hamount'⟩ := htop.there
        obtain ⟨tr', z, hrun', hd, hc⟩ := collect (g := y.2)
          (hrun.sound hs) hmem' (htop.request.trans hr) hun (by omega)
          (by omega) (by rw [howner']; exact htop.account hhas)
        rw [howner'] at hrun'
        refine ⟨tr ++ tr', z, hrun.append hrun', ?_⟩
        have hdep := htop.deposited
        have hcol := htop.collected
        rw [hd, hc, hdep, hcol]
        show agent.collateralAmount + (0 + (r.amount
          - agent.collateralAmount)) ≤ 0 + r.amount
        omega

-- ==== stake

theorem stake_unpaid (hs : Sound env x.1) (hzero : x.2.stake = 0)
    (hown : OwnerOp k owner a.op)
    (hnext : tracked (step env .ownedOnly) (receive k) a x = .ok y) :
    y.2.stake = 0 := by
  obtain ⟨tx, op⟩ := a
  obtain ⟨w, g⟩ := x
  obtain ⟨w', g'⟩ := y
  obtain ⟨hstep, hg⟩ := tracked_ok.mp hnext
  dsimp only at hown hstep hg hs hzero ⊢
  subst hg
  cases hown with
  | claimWithdrawal recipient =>
    obtain ⟨i, j, agent, r, hl, hr, hof, hm⟩ :=
      claimWithdrawal_paid (a := ⟨tx, _⟩) hstep
    obtain ⟨-, hj⟩ := Keyed.locate_some hl
    have hj' : j = k := hj
    subst hj'
    have hnothing : r.amount = 0 := by
      rcases hm.allowed with hrule | hnone | howned
      · cases hrule
      · exact hnone
      · rw [hs.vault_unowned] at howned
        cases howned
    simp only [receive, hr, if_true]
    omega
  | depositCollateral src mint n =>
    simp only [receive, if_true]
    exact hzero
  | claimCollateralWithdrawal dst =>
    unfold receive
    dsimp only
    split
    · rw [if_pos rfl]
      exact hzero
    · exact hzero
  | _ => exact hzero

theorem stakeRecoverable_iff (hs : Sound env w) :
    StakeRecoverable env w k agent ↔ agent.stake = 0 := by
  constructor
  · rintro ⟨tr, x, ⟨hown, hrun⟩, hle⟩
    have hend : Sound env x.1 ∧ x.2.stake = 0 := by
      refine run_induct_meets (I := fun x => Sound env x.1 ∧ x.2.stake = 0)
        ?_ ⟨hs, rfl⟩ (meets_of_forall hown) hrun
      rintro a x y ⟨hsx, hx⟩ ha hstep
      exact ⟨sound_step hsx (tracked_ok.mp hstep).1,
        stake_unpaid hsx hx ha hstep⟩
    have := hend.2
    omega
  · intro hzero
    refine ⟨[], (w, .none), ⟨?_, rfl⟩, ?_⟩
    · intro a ha
      cases ha
    · rw [hzero]
      exact Nat.zero_le _

-- ==== result

/-- In every reachable state the owner of an active agent can get its
stake back exactly if there is none, and its collateral exactly if a
request for all of it can be made or met. -/
theorem funds_recoverable_iff {agent : Agent}
    (h : Reachable (step env .ownedOnly) Genesis w)
    (hmem : (k, agent) ∈ w.agents) (hactive : agent.active = true) :
    (StakeRecoverable env w k agent ↔ agent.stake = 0)
      ∧ (CollateralRecoverable env w k agent ↔ Withdrawable env w k agent) := by
  have hs := sound_reachable h
  exact ⟨stakeRecoverable_iff hs, withdrawable_of_recoverable hs hmem,
    recoverable_of_withdrawable hs hmem hactive⟩

end KamiyoProtocol.Hive.Stakes

-- ==== examples

namespace KamiyoProtocol.Hive.Stakes.Concrete

open Solana Solana.Concrete Exec Hive.Concrete

def depositFifty : Action Hive.Concrete.env :=
  act (.depositCollateral ⟨agentKey 1, Hive.Concrete.purse 1, kamiyoMintId, wallet 1⟩ 50)

/-- The agent of wallet 1, active. -/
def activeAgent (test : World → Agent → Bool) (w : World) : Bool :=
  match w.agents with
  | [(k, agent)] => decide (k = agentKey 1) && agent.active && test w agent
  | _ => false

theorem activeAgent_ok {test : World → Agent → Bool} {w : World}
    (h : activeAgent test w = true) :
    ∃ agent, (agentKey 1, agent) ∈ w.agents ∧ agent.active = true
      ∧ test w agent = true := by
  unfold activeAgent at h
  split at h
  · next k agent hagents =>
      simp only [Bool.and_eq_true, decide_eq_true_eq] at h
      obtain ⟨⟨rfl, hactive⟩, htest⟩ := h
      exact ⟨agent, hagents ▸ List.mem_singleton_self _, hactive, htest⟩
  · cases h

/-- A deposit nobody has requested yet. -/
def funded : List (Action Hive.Concrete.env) :=
  [opening, register 1 100, depositFifty]

theorem funds_recoverable_iff_funded : ∃ w agent,
    Reachable (step Hive.Concrete.env .ownedOnly) Genesis w
      ∧ (agentKey 1, agent) ∈ w.agents ∧ agent.active = true
      ∧ agent.collateralAmount = 50
      ∧ (StakeRecoverable Hive.Concrete.env w (agentKey 1) agent
        ↔ agent.stake = 0)
      ∧ (CollateralRecoverable Hive.Concrete.env w (agentKey 1) agent
        ↔ Withdrawable Hive.Concrete.env w (agentKey 1) agent) := by
  obtain ⟨w, hrun, htest⟩ := check_ok
    (show check (activeAgent fun _ agent =>
        decide (agent.collateralAmount = 50))
      (run (step Hive.Concrete.env .ownedOnly) start funded) = true
      by decide)
  obtain ⟨agent, hmem, hactive, hfifty⟩ := activeAgent_ok htest
  have hreach : Reachable (step Hive.Concrete.env .ownedOnly) Genesis w :=
    ⟨start, funded, start_genesis, hrun⟩
  exact ⟨w, agent, hreach, hmem, hactive, of_decide_eq_true hfifty,
    funds_recoverable_iff hreach hmem hactive⟩

/-- Twenty of the fifty are withdrawn, a week later. -/
def partlyWithdrawn : List (Action Hive.Concrete.env) :=
  funded ++ [act (.requestCollateralWithdrawal ⟨agentKey 1, wallet 1⟩ 20),
    act (.advanceClock 0 604800),
    act (.claimCollateralWithdrawal ⟨agentKey 1, Hive.Concrete.purse 1, wallet 1⟩)]

/-- Stake and collateral are left, and the request is used up. -/
def stuck (w : World) (agent : Agent) : Bool :=
  decide (agent.stake ≠ 0) && decide (agent.collateralAmount ≠ 0)
    && (match requestOf Hive.Concrete.env w (agentKey 1) with
      | some r => r.claimed
      | none => false)

theorem partly_withdrawn_stuck : ∃ w agent,
    Reachable (step Hive.Concrete.env .ownedOnly) Genesis w
      ∧ (agentKey 1, agent) ∈ w.agents ∧ agent.active = true
      ∧ ¬ StakeRecoverable Hive.Concrete.env w (agentKey 1) agent
      ∧ ¬ CollateralRecoverable Hive.Concrete.env w (agentKey 1) agent := by
  obtain ⟨w, hrun, htest⟩ := check_ok
    (show check (activeAgent stuck)
      (run (step Hive.Concrete.env .ownedOnly) start partlyWithdrawn) = true
      by decide)
  obtain ⟨agent, hmem, hactive, hstuck⟩ := activeAgent_ok htest
  have hreach : Reachable (step Hive.Concrete.env .ownedOnly) Genesis w :=
    ⟨start, partlyWithdrawn, start_genesis, hrun⟩
  have hs := sound_reachable hreach
  simp only [stuck, Bool.and_eq_true, decide_eq_true_eq] at hstuck
  obtain ⟨⟨hstake, hcollateral⟩, hrequest⟩ := hstuck
  refine ⟨w, agent, hreach, hmem, hactive, ?_, ?_⟩
  · intro hrec
    exact hstake ((stakeRecoverable_iff hs).mp hrec)
  · intro hrec
    rcases withdrawable_of_recoverable hs hmem hrec with hzero | ⟨-, hreq⟩
    · exact hcollateral hzero
    · unfold Requestable at hreq
      split at hrequest
      · next r hr =>
          rw [hr] at hreq
          rw [hreq.1] at hrequest
          cases hrequest
      · cases hrequest

end KamiyoProtocol.Hive.Stakes.Concrete
