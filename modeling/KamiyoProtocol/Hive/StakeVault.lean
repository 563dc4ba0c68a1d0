/-
The accounting of the shared stake vault.

A request copies the stake of its agent and a claim pays that copy,
without asking whether the agent is still there to be paid. If the
authority deactivated it in between, its stake was returned already, and
the claim takes the same amount again out of what the others deposited.
The vault is sound throughout a run exactly when no claim finds its agent
inactive, unless it is of nothing.
-/
import KamiyoProtocol.Hive.Concrete
import KamiyoProtocol.Hive.StakeMoves

namespace KamiyoProtocol.Hive.Stakes

open Solana Exec Function

variable {env : Env Seed} {rule : DebitRule} {w w' : World}
  {a : Action env}

-- ==== books

/-- What each agent deposited, and what was paid out for it. -/
structure Books where
  deposited : Pubkey → Nat
  paid : Pubkey → Nat

def Books.empty : Books := ⟨fun _ => 0, fun _ => 0⟩

def Books.deposit (g : Books) (k : Pubkey) (n : Nat) : Books :=
  { g with deposited := update g.deposited k (g.deposited k + n) }

def Books.pay (g : Books) (k : Pubkey) (n : Nat) : Books :=
  { g with paid := update g.paid k (g.paid k + n) }

/-- Enter what an accepted instruction moves. -/
def enter (a : Action env) (w : World) (g : Books) : Books :=
  match a.op with
  | .registerAgent _ c n => g.deposit (env.pda (.agent c)) n
  | .claimWithdrawal acc =>
    match w.withdrawals (env.pda (.withdrawal acc.agent)) with
    | some r => g.pay acc.agent r.amount
    | none => g
  | .deactivateAgent acc =>
    match Keyed.locate Prod.fst w.agents acc.agent with
    | some r => g.pay acc.agent r.2.2.stake
    | none => g
  | _ => g

variable {g : Books}

theorem enter_quiet (h : a.op.movesStake = false) :
    enter a w g = g := by
  unfold enter
  cases hop : a.op with
  | registerAgent | claimWithdrawal | deactivateAgent => rw [hop] at h; cases h
  | _ => rfl

/-- The stakes of all agents. -/
def stakes (w : World) : Nat := (w.agents.map fun p => p.2.stake).sum

/-- The vault covers the stakes, the registry counts them, and nobody was
paid more than it deposited. -/
structure Backed (env : Env Seed) (x : World × Books) : Prop where
  vault : stakes x.1 ≤ x.1.lamports.bal (stakeVault env)
  total : totalStake x.1 = stakes x.1
  paid : ∀ k, x.2.paid k ≤ x.2.deposited k

/-- A claim finds its agent active, or is of nothing. -/
def ClaimsActive (a : Action env) (x : World × Books) : Prop :=
  ∀ acc p r, a.op = .claimWithdrawal acc →
    Keyed.locate Prod.fst x.1.agents acc.agent = some p →
    x.1.withdrawals (env.pda (.withdrawal acc.agent)) = some r →
    p.2.2.active = true ∨ r.amount = 0

-- ==== invariant

/-- An active agent has its deposit at stake and was paid nothing; an
inactive one has nothing at stake and was paid its deposit, at least. -/
def Settled (g : Books) (k : Pubkey) (agent : Agent) : Prop :=
  (agent.active = true → agent.stake = g.deposited k ∧ g.paid k = 0)
    ∧ (agent.active = false → agent.stake = 0 ∧ g.deposited k ≤ g.paid k)

/-- What every run keeps, sound or not. -/
structure Booked (w : World) (g : Books) : Prop where
  nodup : (w.agents.map Prod.fst).Nodup
  agents : ∀ k agent, (k, agent) ∈ w.agents → Settled g k agent
  strangers : ∀ k, (∀ agent, (k, agent) ∉ w.agents) →
    g.deposited k = 0 ∧ g.paid k = 0
  requests : ∀ j r, w.withdrawals j = some r →
    r.amount = g.deposited r.agent ∧ ∃ agent, (r.agent, agent) ∈ w.agents

theorem booked_genesis (h : Genesis w) : Booked w .empty := by
  constructor
  · rw [h.agents]
    exact List.nodup_nil
  · intro k agent hmem
    rw [h.agents] at hmem
    cases hmem
  · intro k _
    exact ⟨rfl, rfl⟩
  · intro j r hr
    rw [h.withdrawals] at hr
    cases hr

theorem backed_genesis (h : Genesis w) : Backed env (w, .empty) := by
  have hstakes : stakes w = 0 := by
    rw [stakes, h.agents]
    rfl
  refine ⟨?_, ?_, fun _ => Nat.le_refl _⟩
  · rw [hstakes]
    exact Nat.zero_le _
  · rw [hstakes, totalStake, h.registry]

theorem Booked.same (h : Booked w g) (ha : w'.agents = w.agents)
    (hw : ∀ j r, w'.withdrawals j = some r → w.withdrawals j = some r) :
    Booked w' g := by
  obtain ⟨hn, hag, hst, hreq⟩ := h
  refine ⟨ha ▸ hn, ?_, ?_, ?_⟩
  · rw [ha]
    exact hag
  · rw [ha]
    exact hst
  · intro j r hr
    rw [ha]
    exact hreq j r (hw j r hr)

variable {k : Pubkey}

variable {i : Nat}

/-- One agent rewritten, with what the books say of it. -/
theorem Booked.set {g g' : Books} {agent agent' : Agent} (h : Booked w g)
    (hi : w.agents[i]? = some (k, agent))
    (ha : w'.agents = w.agents.set i (k, agent'))
    (hdeposited : g'.deposited = g.deposited)
    (hpaid : ∀ j, j ≠ k → g'.paid j = g.paid j)
    (hself : Settled g' k agent')
    (hw : ∀ j r, w'.withdrawals j = some r →
      ∃ r₀, w.withdrawals j = some r₀ ∧ r.amount = r₀.amount
        ∧ r.agent = r₀.agent) : Booked w' g' := by
  have hiff : ∀ p, p ∈ w'.agents
      ↔ p = (k, agent') ∨ p ∈ w.agents ∧ p.1 ≠ k := by
    intro p
    rw [ha]
    exact Keyed.mem_set_iff h.nodup hi rfl
  have hknown : ∀ j b, (j, b) ∈ w.agents → ∃ c, (j, c) ∈ w'.agents := by
    intro j b hb
    by_cases hj : j = k
    · exact ⟨agent', (hiff _).mpr (.inl (by rw [hj]))⟩
    · exact ⟨b, (hiff _).mpr (.inr ⟨hb, hj⟩)⟩
  refine ⟨?_, ?_, ?_, ?_⟩
  · rw [ha, Keyed.map_set (y := (k, agent')) hi rfl]
    exact h.nodup
  · intro j b hb
    rcases (hiff _).mp hb with hnew | ⟨hold, hj⟩
    · cases hnew
      exact hself
    · have hs := h.agents j b hold
      simp only [Settled, hdeposited, hpaid j hj]
      exact hs
  · intro j hj
    have hne : j ≠ k := by
      rintro rfl
      exact hj agent' ((hiff _).mpr (.inl rfl))
    have hold : ∀ b, (j, b) ∉ w.agents := by
      intro b hb
      obtain ⟨c, hc⟩ := hknown j b hb
      exact hj c hc
    obtain ⟨hd, hp⟩ := h.strangers j hold
    exact ⟨by rw [hdeposited, hd], by rw [hpaid j hne, hp]⟩
  · intro j r hr
    obtain ⟨r₀, hr₀, hamount, hagent⟩ := hw j r hr
    obtain ⟨heq, b, hb⟩ := h.requests j r₀ hr₀
    refine ⟨by rw [hamount, hdeposited, hagent, heq], ?_⟩
    rw [hagent]
    exact hknown _ b hb

variable {agent : Agent}

theorem Booked.registered (h : Booked w g) (hr : Registered env w w' k agent) :
    Booked w' (g.deposit k agent.stake) := by
  obtain ⟨l, b, reg, rfl⟩ := hr.after
  have hnew : ∀ p ∈ w.agents, p.1 ≠ k := Keyed.locate_none.mp hr.fresh
  have hstranger : ∀ c, (k, c) ∉ w.agents := fun c hc => hnew _ hc rfl
  obtain ⟨hd, hp⟩ := h.strangers k hstranger
  have hkept : ∀ j, j ≠ k →
      (g.deposit k agent.stake).deposited j = g.deposited j :=
    fun j hj => update_of_ne hj ..
  have hself : (g.deposit k agent.stake).deposited k = agent.stake := by
    show update g.deposited k (g.deposited k + agent.stake) k = _
    rw [update_self, hd, Nat.zero_add]
  refine ⟨?_, ?_, ?_, ?_⟩
  · exact Keyed.nodup_append h.nodup hnew
  · intro j c hc
    rcases List.mem_append.mp hc with hold | hlast
    · have hj := hnew _ hold
      have hs := h.agents j c hold
      rw [Settled, hkept j hj]
      exact hs
    · rw [List.mem_singleton] at hlast
      cases hlast
      refine ⟨fun _ => ⟨hself.symm, hp⟩, ?_⟩
      intro hoff
      rw [hr.active] at hoff
      cases hoff
  · intro j hj
    have hne : j ≠ k := by
      rintro rfl
      exact hj agent (List.mem_append_right _ (List.mem_singleton_self _))
    rw [hkept j hne]
    exact h.strangers j fun c hc => hj c (List.mem_append_left _ hc)
  · intro j r hr'
    obtain ⟨heq, c, hc⟩ := h.requests j r hr'
    rw [hkept r.agent (hnew _ hc)]
    exact ⟨heq, c, List.mem_append_left _ hc⟩

theorem Booked.requested {r : WithdrawalRequest} (h : Booked w g)
    (hr : Requested env w w' k agent r) : Booked w' g := by
  have hafter := hr.after
  subst hafter
  refine ⟨h.nodup, h.agents, h.strangers, ?_⟩
  intro j r' hr'
  by_cases hj : j = env.pda (.withdrawal k)
  · rw [hj] at hr'
    cases (update_self ..).symm.trans hr'
    obtain ⟨hstake, -⟩ := (h.agents k agent hr.agent).1 hr.active
    rw [hr.amount, hr.ofAgent]
    exact ⟨hstake, agent, hr.agent⟩
  · exact h.requests j r' ((update_of_ne hj ..).symm.trans hr')

variable {w₁ : World}

theorem Booked.paidOut {n : Nat} (h : Booked w g)
    (hp : PaidOut env rule w w₁ w' i k agent n)
    (hagents : w₁.agents = w.agents) (hn : g.deposited k ≤ g.paid k + n)
    (hw : ∀ j r, w₁.withdrawals j = some r →
      ∃ r₀, w.withdrawals j = some r₀ ∧ r.amount = r₀.amount
        ∧ r.agent = r₀.agent) : Booked w' (g.pay k n) := by
  have hset := hp.agents hagents
  obtain ⟨l, reg, rfl⟩ := hp.after
  refine h.set hp.agent hset rfl (fun j hj => update_of_ne hj ..)
    ⟨?_, ?_⟩ hw
  · intro hon
    cases hon
  · intro _
    refine ⟨rfl, ?_⟩
    show g.deposited k ≤ update g.paid k (g.paid k + n) k
    rw [update_self]
    exact hn

theorem enter_claim {acc : PayoutAccounts} {r : WithdrawalRequest}
    (hop : a.op = .claimWithdrawal acc)
    (hl : Keyed.locate Prod.fst w.agents acc.agent = some (i, k, agent))
    (hr : w.withdrawals (env.pda (.withdrawal k)) = some r) :
    enter a w g = g.pay k r.amount := by
  obtain ⟨-, hk⟩ := Keyed.locate_some hl
  have hk' : k = acc.agent := hk
  rw [enter, hop]
  dsimp only
  rw [← hk', hr]

theorem enter_deactivate {acc : PayoutAccounts}
    (hop : a.op = .deactivateAgent acc)
    (hl : Keyed.locate Prod.fst w.agents acc.agent = some (i, k, agent)) :
    enter a w g = g.pay k agent.stake := by
  obtain ⟨-, hk⟩ := Keyed.locate_some hl
  have hk' : k = acc.agent := hk
  rw [enter, hop]
  dsimp only
  rw [hl, hk']

theorem booked_step {x y : World × Books} (h : Booked x.1 x.2)
    (hs : tracked (step env rule) enter a x = .ok y) :
    Booked y.1 y.2 := by
  obtain ⟨w, g⟩ := x
  obtain ⟨w', g'⟩ := y
  obtain ⟨hstep, hg⟩ := tracked_ok.mp hs
  dsimp only at h hstep hg ⊢
  subst hg
  rcases step_moved hstep with ⟨acc, c, n, k, agent, hop, rfl, rfl, hr⟩
    | ⟨k, agent, r, hop, hr⟩ | ⟨acc, i, k, agent, r, hop, hl, hr, hof, hp⟩
    | ⟨k, hop, rfl⟩ | ⟨acc, i, k, agent, hop, hl, hactive, hp⟩
    | ⟨i, k, agent, acc, n, hop, hd⟩ | ⟨k, agent, n, hop, hr⟩
    | ⟨i, k, agent, acc, r, hop, hc⟩ | ⟨i, k, agent, n, hop, hsl⟩
    | ⟨hop, ha⟩
  · have henter : enter a w g = g.deposit (env.pda (.agent c)) agent.stake := by
      rw [enter, hop]
    rw [henter]
    exact h.registered hr
  · rw [enter_quiet hop]
    exact h.requested hr
  · rw [enter_claim hop hl hr]
    obtain ⟨hamount, -⟩ := h.requests _ r hr
    rw [hof] at hamount
    refine h.paidOut hp rfl (by omega) ?_
    intro j r' hr'
    by_cases hj : j = env.pda (.withdrawal k)
    · rw [hj] at hr' ⊢
      cases (update_self ..).symm.trans hr'
      exact ⟨r, hr, rfl, rfl⟩
    · exact ⟨r', (update_of_ne hj ..).symm.trans hr', rfl, rfl⟩
  · rw [enter_quiet hop]
    refine h.same rfl ?_
    intro j r hr
    by_cases hj : j = k
    · rw [hj] at hr
      cases (update_self ..).symm.trans hr
    · exact (update_of_ne hj ..).symm.trans hr
  · rw [enter_deactivate hop hl]
    obtain ⟨hstake, -⟩ :=
      (h.agents k agent (List.mem_of_getElem? hp.agent)).1 hactive
    exact h.paidOut hp rfl (by omega) fun j r hr => ⟨r, hr, rfl, rfl⟩
  · rw [enter_quiet hop]
    obtain ⟨b, rfl⟩ := hd.after
    exact h.set hd.agent rfl rfl (fun _ _ => rfl)
      (h.agents k agent (List.mem_of_getElem? hd.agent))
      fun j r hr => ⟨r, hr, rfl, rfl⟩
  · rw [enter_quiet hop, hr.after]
    exact h.same rfl fun _ _ hr => hr
  · rw [enter_quiet hop]
    obtain ⟨b, rfl⟩ := hc.after
    exact h.set hc.agent rfl rfl (fun _ _ => rfl)
      (h.agents k agent (List.mem_of_getElem? hc.agent))
      fun j r hr => ⟨r, hr, rfl, rfl⟩
  · rw [enter_quiet hop]
    obtain ⟨b, slashed, m, rfl⟩ := hsl.after
    exact h.set hsl.agent rfl rfl (fun _ _ => rfl)
      (h.agents k agent (List.mem_of_getElem? hsl.agent))
      fun j r hr => ⟨r, hr, rfl, rfl⟩
  · rw [enter_quiet hop]
    exact h.same ha.agents fun j r hr => ha.withdrawals ▸ hr

-- ==== soundness

theorem stakes_set {agent agent' : Agent} (hi : w.agents[i]? = some (k, agent))
    (ha : w₁.agents = w.agents.set i (k, agent')) :
    stakes w₁ + agent.stake = stakes w + agent'.stake := by
  rw [stakes, ha]
  exact Keyed.sum_set (fun p : Pubkey × Agent => p.2.stake) hi (k, agent')

theorem stakes_same {agent agent' : Agent} (hi : w.agents[i]? = some (k, agent))
    (ha : w₁.agents = w.agents.set i (k, agent'))
    (hstake : agent'.stake = agent.stake) : stakes w₁ = stakes w := by
  have hset := stakes_set hi ha
  omega

theorem Backed.same (h : Backed env (w, g))
    (hs : stakes w' = stakes w) (ht : totalStake w' = totalStake w)
    (hv : w.lamports.bal (stakeVault env)
      ≤ w'.lamports.bal (stakeVault env)) : Backed env (w', g) := by
  obtain ⟨hvault, htotal, hpaid⟩ := h
  dsimp only at hvault htotal hpaid
  refine ⟨?_, ?_, hpaid⟩
  · show stakes w' ≤ _
    rw [hs]
    exact Nat.le_trans hvault hv
  · show totalStake w' = stakes w'
    rw [hs, ht, htotal]

theorem Backed.paidOut (h : Backed env (w, g))
    (hp : PaidOut env rule w w₁ w' i k agent agent.stake)
    (hagents : w₁.agents = w.agents)
    (hpaid : g.paid k + agent.stake ≤ g.deposited k) :
    Backed env (w', g.pay k agent.stake) := by
  have hvault := hp.vault
  have htotal := hp.total
  have hstakes : stakes w' + agent.stake = stakes w + 0 :=
    stakes_set hp.agent (hp.agents hagents)
  obtain ⟨hcov, hsum, hle⟩ := h
  dsimp only at hcov hsum hle
  refine ⟨?_, ?_, ?_⟩
  · show stakes w' ≤ w'.lamports.bal (stakeVault env)
    omega
  · show totalStake w' = stakes w'
    omega
  · intro j
    show update g.paid k (g.paid k + agent.stake) j ≤ g.deposited j
    by_cases hj : j = k
    · subst hj
      rw [update_self]
      exact hpaid
    · rw [update_of_ne hj]
      exact hle j

theorem not_backed_paidTwice {n : Nat}
    (hpaid : g.deposited k ≤ g.paid k) (hn : 0 < n) :
    ¬ Backed env (w', g.pay k n) := by
  intro h
  have hle := h.paid k
  have hle' : update g.paid k (g.paid k + n) k ≤ g.deposited k := hle
  rw [update_self] at hle'
  omega

theorem backed_other (hb : Booked w g) (h : Backed env (w, g))
    (hs : step env rule a w = .ok w')
    (hother : ∀ acc, a.op ≠ .claimWithdrawal acc) :
    Backed env (w', enter a w g) := by
  rcases step_moved hs with ⟨acc, c, n, k, agent, hop, rfl, rfl, hr⟩
    | ⟨k, agent, r, hop, hr⟩ | ⟨acc, -, -, -, -, hop, -, -, -, -⟩
    | ⟨k, hop, rfl⟩ | ⟨acc, i, k, agent, hop, hl, hactive, hp⟩
    | ⟨i, k, agent, acc, n, hop, hd⟩ | ⟨k, agent, n, hop, hr⟩
    | ⟨i, k, agent, acc, r, hop, hc⟩ | ⟨i, k, agent, n, hop, hsl⟩
    | ⟨hop, ha⟩
  · have henter : enter a w g = g.deposit (env.pda (.agent c)) agent.stake := by
      rw [enter, hop]
    have hvault := hr.vault
    have htotal := hr.total
    have hstakes : stakes w' = stakes w + agent.stake := by
      obtain ⟨l, b, reg, rfl⟩ := hr.after
      exact Keyed.sum_append_single _ _ _
    obtain ⟨hcov, hsum, hle⟩ := h
    dsimp only at hcov hsum hle
    rw [henter]
    refine ⟨?_, ?_, ?_⟩
    · show stakes w' ≤ w'.lamports.bal (stakeVault env)
      omega
    · show totalStake w' = stakes w'
      omega
    · intro j
      refine Nat.le_trans (hle j) ?_
      show g.deposited j ≤ update g.deposited _ _ j
      by_cases hj : j = env.pda (.agent c)
      · rw [hj, update_self]
        exact Nat.le_add_right _ _
      · rw [update_of_ne hj]
  · rw [enter_quiet hop, hr.after]
    exact h.same rfl rfl (Nat.le_refl _)
  · exact absurd hop (hother acc)
  · rw [enter_quiet hop]
    exact h.same rfl rfl (Nat.le_refl _)
  · rw [enter_deactivate hop hl]
    obtain ⟨hstake, hzero⟩ :=
      (hb.agents k agent (List.mem_of_getElem? hp.agent)).1 hactive
    exact h.paidOut hp rfl (by omega)
  · rw [enter_quiet hop]
    obtain ⟨b, rfl⟩ := hd.after
    exact h.same (stakes_same hd.agent rfl rfl) rfl (Nat.le_refl _)
  · rw [enter_quiet hop, hr.after]
    exact h.same rfl rfl (Nat.le_refl _)
  · rw [enter_quiet hop]
    obtain ⟨b, rfl⟩ := hc.after
    exact h.same (stakes_same hc.agent rfl rfl) rfl (Nat.le_refl _)
  · rw [enter_quiet hop]
    obtain ⟨b, slashed, m, rfl⟩ := hsl.after
    exact h.same (stakes_same hsl.agent rfl rfl) rfl (Nat.le_refl _)
  · rw [enter_quiet hop]
    have hstakes : stakes w' = stakes w := by
      rw [stakes, stakes, ha.agents]
    exact h.same hstakes ha.total ha.vault

/-- From sound books, the next are sound exactly when the step meets the
condition. -/
theorem backed_step {x y : World × Books} (hb : Booked x.1 x.2)
    (h : Backed env x) (hs : tracked (step env rule) enter a x = .ok y) :
    Backed env y ↔ ClaimsActive a x := by
  obtain ⟨w, g⟩ := x
  obtain ⟨w', g'⟩ := y
  obtain ⟨hstep, hg⟩ := tracked_ok.mp hs
  dsimp only at hb hstep hg
  subst hg
  by_cases hclaim : ∃ acc, a.op = .claimWithdrawal acc
  · obtain ⟨acc, hop⟩ := hclaim
    rw [step, hop] at hstep
    obtain ⟨i, k, agent, r, hl, hr, hof, hp⟩ := claimWithdrawal_paid hstep
    rw [enter_claim hop hl hr]
    obtain ⟨-, hk⟩ := Keyed.locate_some hl
    have hk' : k = acc.agent := hk
    obtain ⟨hamount, -⟩ := hb.requests _ r hr
    rw [hof] at hamount
    obtain ⟨hon, hoff⟩ := hb.agents k agent (List.mem_of_getElem? hp.agent)
    have hcond : ClaimsActive a (w, g)
        ↔ agent.active = true ∨ r.amount = 0 := by
      constructor
      · intro hc
        exact hc acc _ r hop hl (hk' ▸ hr)
      · intro hc acc' p r' hop' hp' hr'
        rw [hop] at hop'
        cases hop'
        dsimp only at hp' hr'
        rw [hl] at hp'
        cases hp'
        rw [← hk', hr] at hr'
        cases hr'
        exact hc
    rw [hcond]
    cases hactive : agent.active with
    | true =>
      obtain ⟨hstake, hzero⟩ := hon hactive
      have heq : r.amount = agent.stake := by rw [hamount, hstake]
      rw [heq] at hp ⊢
      refine iff_of_true (h.paidOut hp rfl ?_) (.inl rfl)
      omega
    | false =>
      obtain ⟨hstake, hpaid⟩ := hoff hactive
      by_cases hn : r.amount = 0
      · refine iff_of_true ?_ (.inr hn)
        rw [hn] at hp ⊢
        rw [← hstake] at hp ⊢
        have hle := h.paid k
        exact h.paidOut hp rfl (by rw [hstake]; exact hle)
      · refine iff_of_false (not_backed_paidTwice hpaid (by omega)) ?_
        rintro (hc | hc)
        · cases hc
        · exact hn hc
  · refine iff_of_true ?_ ?_
    · exact backed_other hb h hstep fun acc hop => hclaim ⟨acc, hop⟩
    · intro acc p r hop
      exact absurd ⟨acc, hop⟩ hclaim

-- ==== result

/-- A run keeps the vault sound throughout exactly when every claim finds
its agent active, or is of nothing. -/
theorem vault_backed_iff {tr : List (Action env)} {y : World × Books}
    (h : Genesis w)
    (hrun : run (tracked (step env rule) enter) (w, .empty) tr = .ok y) :
    Throughout (tracked (step env rule) enter) (Backed env) (w, .empty) tr
      ↔ Meets (tracked (step env rule) enter) ClaimsActive (w, .empty)
        tr :=
  throughout_iff_meets (fun x => Booked x.1 x.2)
    (fun _ _ _ => booked_step) (fun _ _ _ => backed_step)
    (booked_genesis h) (backed_genesis h) hrun

end KamiyoProtocol.Hive.Stakes

-- ==== examples

namespace KamiyoProtocol.Hive.Stakes.Concrete

open Solana Solana.Concrete Exec Hive.Concrete

def request (i : UInt8) : Action Hive.Concrete.env :=
  act (.requestWithdrawal ⟨agentKey i, wallet i⟩)

def claim (i : UInt8) : Action Hive.Concrete.env :=
  act (.claimWithdrawal ⟨agentKey i, wallet i, wallet i⟩)

def deactivate (i : UInt8) : Action Hive.Concrete.env :=
  act (.deactivateAgent ⟨agentKey i, wallet i, wallet 0⟩)

/-- A day later. -/
def nextDay : Action Hive.Concrete.env :=
  act (.advanceClock stakeWithdrawalTimelock 86400)

/-- Agent 1 withdraws and agent 2 is deactivated. -/
def orderly : List (Action Hive.Concrete.env) :=
  [opening, register 1 100, register 2 200, request 1, nextDay, claim 1,
    deactivate 2]

/-- The condition, evaluated. -/
def claimsActive (a : Action Hive.Concrete.env) (x : World × Books) :
    Bool :=
  match a.op with
  | .claimWithdrawal acc =>
    match Keyed.locate Prod.fst x.1.agents acc.agent,
      x.1.withdrawals (Hive.Concrete.env.pda (.withdrawal acc.agent)) with
    | some p, some r => p.2.2.active || decide (r.amount = 0)
    | _, _ => true
  | _ => true

theorem claimsActive_sound (a : Action Hive.Concrete.env)
    (x : World × Books) (h : claimsActive a x = true) :
    ClaimsActive a x := by
  intro acc p r hop hp hr
  rw [claimsActive, hop] at h
  dsimp only at h
  rw [hp, hr] at h
  simpa using h

theorem vault_backed_orderly :
    ∃ y, run (tracked (step Hive.Concrete.env .asWritten) enter)
        (start, .empty) orderly = .ok y
      ∧ (Throughout (tracked (step Hive.Concrete.env .asWritten) enter)
          (Backed Hive.Concrete.env) (start, .empty) orderly
        ↔ Meets (tracked (step Hive.Concrete.env .asWritten) enter)
          ClaimsActive (start, .empty) orderly)
      ∧ Throughout (tracked (step Hive.Concrete.env .asWritten) enter)
          (Backed Hive.Concrete.env) (start, .empty) orderly := by
  have hcheck : checkRun
      (tracked (step Hive.Concrete.env .asWritten) enter) claimsActive
      (fun _ => true) (start, .empty) orderly = true := by
    decide
  obtain ⟨y, hrun, -, hmeets⟩ := run_of_check claimsActive_sound hcheck
  have hiff := vault_backed_iff start_genesis hrun
  exact ⟨y, hrun, hiff, hiff.mpr hmeets⟩

/-- Agent 1 requests its stake, is deactivated, and claims a day later. -/
def paidTwice : List (Action Hive.Concrete.env) :=
  [opening, register 1 100, register 2 200, request 1, deactivate 1,
    nextDay, claim 1]

/-- Agent 1 was paid more than its deposit, and the vault holds less than
the stake of agent 2. -/
def looted (x : World × Books) : Bool :=
  decide (x.2.deposited (agentKey 1) < x.2.paid (agentKey 1))
    && decide (x.1.lamports.bal (stakeVault Hive.Concrete.env) < stakes x.1)
    && decide (totalStake x.1 ≠ stakes x.1)

theorem deactivated_claim : ∃ x : World × Books,
    run (tracked (step Hive.Concrete.env .asWritten) enter)
        (start, .empty) paidTwice = .ok x
      ∧ x.2.deposited (agentKey 1) < x.2.paid (agentKey 1)
      ∧ x.1.lamports.bal (stakeVault Hive.Concrete.env) < stakes x.1
      ∧ totalStake x.1 ≠ stakes x.1
      ∧ ¬ Backed Hive.Concrete.env x := by
  obtain ⟨x, hrun, htest⟩ := check_ok
    (show check looted
      (run (tracked (step Hive.Concrete.env .asWritten) enter)
        (start, .empty) paidTwice) = true by decide)
  simp only [looted, Bool.and_eq_true, decide_eq_true_eq] at htest
  obtain ⟨⟨hpaid, hvault⟩, htotal⟩ := htest
  refine ⟨x, hrun, hpaid, hvault, htotal, ?_⟩
  intro h
  exact htotal h.total

end KamiyoProtocol.Hive.Stakes.Concrete
