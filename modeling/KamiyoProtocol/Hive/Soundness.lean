/-
What every run of the hive program keeps of agents, their vaults and
their requests.

Each account stands at the address derived for it, which is why the
runtime's rule shuts the stake vault: no account of the program is at its
address. The vault of an agent holds the collateral its account records,
and a request of collateral is its owner's.
-/
import KamiyoProtocol.Hive.StakeMoves

namespace KamiyoProtocol.Hive.Stakes

open Solana Exec Function

variable {env : Env Seed} {rule : DebitRule} {w w' : World}
  {a : Action env}

structure AgentSound (env : Env Seed) (w : World) (k : Pubkey)
    (agent : Agent) : Prop where
  address : ∃ c, k = env.pda (.agent c)
  registry : agent.registry = env.pda .registry
  owner : ∀ s, agent.owner ≠ env.pda s
  bounded : agent.collateralAmount < 2 ^ 64
  vaulted : 0 < agent.collateralAmount →
    Vaulted env w.tokens k agent.collateralAmount

structure RequestSound (env : Env Seed) (w : World) (j : Pubkey)
    (r : CollateralWithdrawal) : Prop where
  address : j = env.pda (.collateralWithdrawal r.agent)
  requester : ∃ agent, (r.agent, agent) ∈ w.agents ∧ r.requester = agent.owner
  bounded : r.amount < 2 ^ 64
  unlocks : Fixed.InRange 64 r.unlockTime

structure Sound (env : Env Seed) (w : World) : Prop where
  clock : Fixed.InRange 64 w.now
  nodup : (w.agents.map Prod.fst).Nodup
  agents : ∀ k agent, (k, agent) ∈ w.agents → AgentSound env w k agent
  withdrawals : ∀ j, w.withdrawals j ≠ none → ∃ k, j = env.pda (.withdrawal k)
  requests : ∀ j r, w.collateralWithdrawals j = some r → RequestSound env w j r

theorem sound_genesis (h : Genesis w) : Sound env w := by
  refine ⟨h.clock, ?_, ?_, ?_, ?_⟩
  · rw [h.agents]
    exact List.nodup_nil
  · intro k agent hmem
    rw [h.agents] at hmem
    cases hmem
  · intro j hj
    exact absurd (h.withdrawals j) hj
  · intro j r hr
    rw [h.collateralWithdrawals] at hr
    cases hr

theorem Sound.vault_unowned (h : Sound env w) :
    programOwns env w (stakeVault env) = false := by
  have hne : ∀ s, s ≠ Seed.stakeVault (env.pda .registry) →
      stakeVault env ≠ env.pda s := fun s hs => pda_ne hs.symm
  have hreg : stakeVault env ≠ env.pda .registry := hne _ (by simp)
  have hagents : Keyed.locate Prod.fst w.agents (stakeVault env) = none := by
    rw [Keyed.locate_none]
    rintro ⟨k, agent⟩ hmem hk
    obtain ⟨c, hc⟩ := (h.agents k agent hmem).address
    have hk' : k = stakeVault env := hk
    exact hne (.agent c) (by simp) (hk'.symm.trans hc)
  have hwith : w.withdrawals (stakeVault env) = none := by
    by_contra hsome
    obtain ⟨k, hk⟩ := h.withdrawals _ hsome
    exact hne (.withdrawal k) (by simp) hk
  have hcoll : w.collateralWithdrawals (stakeVault env) = none := by
    cases hr : w.collateralWithdrawals (stakeVault env) with
    | none => rfl
    | some r =>
      exact absurd (h.requests _ r hr).address
        (hne (.collateralWithdrawal r.agent) (by simp))
  simp [programOwns, hreg, hagents, hwith, hcoll]

-- ==== frames

variable {k : Pubkey} {agent : Agent}

theorem AgentSound.same (h : AgentSound env w k agent)
    (hv : ∀ n, Vaulted env w.tokens k n → Vaulted env w'.tokens k n) :
    AgentSound env w' k agent :=
  ⟨h.address, h.registry, h.owner, h.bounded, fun hpos => hv _ (h.vaulted hpos)⟩

theorem RequestSound.same {j : Pubkey} {r : CollateralWithdrawal}
    (h : RequestSound env w j r) (ha : w'.agents = w.agents) :
    RequestSound env w' j r :=
  ⟨h.address, ha.symm ▸ h.requester, h.bounded, h.unlocks⟩

theorem Sound.same (h : Sound env w)
    (hclock : Fixed.InRange 64 w'.now) (ha : w'.agents = w.agents)
    (hc : w'.collateralWithdrawals = w.collateralWithdrawals)
    (hv : TokensKept env w.tokens w'.tokens)
    (hw : ∀ j, w'.withdrawals j ≠ none →
      ∃ k, j = env.pda (.withdrawal k)) : Sound env w' := by
  refine ⟨hclock, ha ▸ h.nodup, ?_, hw, ?_⟩
  · intro k agent hmem
    rw [ha] at hmem
    exact (h.agents k agent hmem).same (hv k)
  · intro j r hr
    rw [hc] at hr
    exact (h.requests j r hr).same ha

variable {i : Nat}

/-- One agent rewritten, under its owner. -/
theorem Sound.set {agent agent' : Agent}
    (h : Sound env w) (hi : w.agents[i]? = some (k, agent))
    (ha : w'.agents = w.agents.set i (k, agent'))
    (howner : agent'.owner = agent.owner)
    (hself : AgentSound env w' k agent')
    (hclock : w'.now = w.now)
    (hv : ∀ j n, j ≠ k → Vaulted env w.tokens j n → Vaulted env w'.tokens j n)
    (hw : ∀ j, w'.withdrawals j ≠ none → w.withdrawals j ≠ none)
    (hc : ∀ j r, w'.collateralWithdrawals j = some r →
      ∃ r₀, w.collateralWithdrawals j = some r₀ ∧ r₀.agent = r.agent
        ∧ r₀.requester = r.requester ∧ r₀.amount = r.amount
        ∧ r₀.unlockTime = r.unlockTime) : Sound env w' := by
  have hiff : ∀ p, p ∈ w'.agents
      ↔ p = (k, agent') ∨ p ∈ w.agents ∧ p.1 ≠ k := by
    intro p
    rw [ha]
    exact Keyed.mem_set_iff h.nodup hi rfl
  have hnodup : (w'.agents.map Prod.fst).Nodup := by
    rw [ha, Keyed.map_set (y := (k, agent')) hi rfl]
    exact h.nodup
  refine ⟨hclock ▸ h.clock, hnodup, ?_, fun j hj => h.withdrawals j (hw j hj),
    ?_⟩
  · intro j b hb
    rcases (hiff _).mp hb with hnew | ⟨hold, hj⟩
    · cases hnew
      exact hself
    · exact (h.agents j b hold).same fun n => hv j n hj
  · intro j r hr
    obtain ⟨r₀, hr₀, hagent, hreq, hamount, hunlock⟩ := hc j r hr
    obtain ⟨haddr, ⟨b, hb, hb'⟩, hbound, hun⟩ := h.requests j r₀ hr₀
    refine ⟨hagent ▸ haddr, ?_, hamount ▸ hbound, hunlock ▸ hun⟩
    rw [hagent] at hb
    by_cases hk : r.agent = k
    · have hsame : (r.agent, b) = (k, agent) :=
        List.inj_on_of_nodup_map h.nodup hb (List.mem_of_getElem? hi) hk
      cases hsame
      refine ⟨agent', (hiff _).mpr (.inl rfl), ?_⟩
      rw [← hreq, hb', howner]
    · exact ⟨b, (hiff _).mpr (.inr ⟨hb, hk⟩), by rw [← hreq, hb']⟩

-- ==== steps

theorem openVault_ok {b b' : Tokens}
    (h : openVault b (collateralVault env k) kamiyoMintId = .ok b') :
    TokensKept env b b' ∧ Vaulted env b' k 0 := by
  unfold openVault at h
  split at h
  · have hopen := okOr_ok.mp h
    exact ⟨fun _ _ hh => hh.openAccount hopen, Tokens.held_openAccount hopen⟩
  · next v hv =>
      simp only [bind_ok, require_ok] at h
      obtain ⟨-, hmint, -, howner, hout⟩ := h
      cases hout
      exact ⟨.refl env _, v, hv, hmint, howner, Nat.zero_le _⟩

theorem collateralVault_ne {j k : Pubkey} (h : j ≠ k) :
    collateralVault env j ≠ collateralVault env k :=
  pda_ne fun he => h (Seed.collateralVault.inj he)

theorem vaulted_transfer {b b' : Tokens} {j k dst : Pubkey} {m n : Nat}
    (hj : j ≠ k)
    (h : b.transfer (collateralVault env k) dst (collateralVault env k) m
      = some b') (hv : Vaulted env b j n) : Vaulted env b' j n :=
  Tokens.Held.transfer hv (collateralVault_ne (Ne.symm hj)) h

variable {n : Nat}

/-- What a vault paid is no longer owed. -/
theorem AgentSound.paid {k dst : Pubkey} {agent agent' : Agent}
    (h : AgentSound env w k agent)
    (hpaid : w.tokens.transfer (collateralVault env k) dst
      (collateralVault env k) n = some w'.tokens)
    (hregistry : agent'.registry = agent.registry)
    (howner : agent'.owner = agent.owner)
    (hamount : agent'.collateralAmount = agent.collateralAmount - n) :
    AgentSound env w' k agent' := by
  refine ⟨h.address, hregistry.trans h.registry, howner ▸ h.owner, ?_, ?_⟩
  · have := h.bounded
    omega
  · intro hpos
    have hpos' : 0 < agent.collateralAmount := by omega
    rw [hamount]
    exact Tokens.Held.debit (h.vaulted hpos') hpaid

theorem Sound.registered (h : Sound env w)
    (hr : Registered env w w' k agent) : Sound env w' := by
  have htokens := hr.tokens
  obtain ⟨l, b, reg, rfl⟩ := hr.after
  have hnew : ∀ p ∈ w.agents, p.1 ≠ k := Keyed.locate_none.mp hr.fresh
  refine ⟨h.clock, Keyed.nodup_append h.nodup hnew, ?_, h.withdrawals, ?_⟩
  · intro j c hc
    rcases List.mem_append.mp hc with hold | hlast
    · exact (h.agents j c hold).same (htokens j)
    · rw [List.mem_singleton] at hlast
      cases hlast
      refine ⟨hr.address, hr.registry, hr.owner, ?_, ?_⟩
      · rw [hr.collateral]
        decide
      · intro hpos
        rw [hr.collateral] at hpos
        cases hpos
  · intro j r hr'
    obtain ⟨haddr, ⟨c, hc, howner⟩, hbound, hun⟩ := h.requests j r hr'
    exact ⟨haddr, ⟨c, List.mem_append_left _ hc, howner⟩, hbound, hun⟩

theorem Sound.paidOut {w₁ : World} (h : Sound env w)
    (hp : PaidOut env rule w w₁ w' i k agent n)
    (hagents : w₁.agents = w.agents) (hnow : w₁.now = w.now)
    (htokens : w₁.tokens = w.tokens)
    (hcoll : w₁.collateralWithdrawals = w.collateralWithdrawals)
    (hw : ∀ j, w₁.withdrawals j ≠ none → w.withdrawals j ≠ none) :
    Sound env w' := by
  have hset := hp.agents hagents
  obtain ⟨l, reg, rfl⟩ := hp.after
  have hkept : ∀ j m, Vaulted env w.tokens j m → Vaulted env w₁.tokens j m := by
    rw [htokens]
    exact fun _ _ hh => hh
  have hself := h.agents k agent (List.mem_of_getElem? hp.agent)
  refine h.set hp.agent hset rfl ?_ hnow (fun j m _ => hkept j m) hw ?_
  · exact ⟨hself.address, hself.registry, hself.owner, hself.bounded,
      fun hpos => hkept _ _ (hself.vaulted hpos)⟩
  · intro j r hr
    have hr' : w₁.collateralWithdrawals j = some r := hr
    rw [hcoll] at hr'
    exact ⟨r, hr', rfl, rfl, rfl, rfl⟩

theorem Sound.deposited {acc : DepositAccounts} (h : Sound env w)
    (hd : Deposited env w w' i k agent acc n) : Sound env w' := by
  obtain ⟨b, hopen, htransfer⟩ := hd.opened
  obtain ⟨hkept, hthere⟩ := openVault_ok hopen
  have hself := h.agents k agent (List.mem_of_getElem? hd.agent)
  have hsrc : ∀ m, Vaulted env b k m →
      acc.depositorTokenAccount ≠ collateralVault env k := fun m hh =>
    Tokens.Held.src_ne hh (hd.signer _) htransfer
  have hroom := hd.room
  obtain ⟨b', rfl⟩ := hd.after
  refine h.set hd.agent rfl rfl ⟨hself.address, hself.registry,
    hself.owner, hroom, ?_⟩ rfl ?_ (fun _ hj => hj)
    (fun j r hr => ⟨r, hr, rfl, rfl, rfl, rfl⟩)
  · intro _
    by_cases hpos : 0 < agent.collateralAmount
    · have hold := hkept _ _ (hself.vaulted hpos)
      exact Tokens.Held.credit hold (Ne.symm (hsrc _ hold)) htransfer
    · have hzero : agent.collateralAmount = 0 := by omega
      show Vaulted env _ k (agent.collateralAmount + n)
      rw [hzero]
      exact Tokens.Held.credit hthere (Ne.symm (hsrc _ hthere)) htransfer
  · intro j m _ hh
    exact Tokens.Held.transfer (hkept j m hh) (hd.signer _) htransfer

theorem Sound.collateralRequested
    (h : Sound env w) (hr : CollateralRequested env w w' k agent n) :
    Sound env w' := by
  have hself := h.agents k agent hr.agent
  have hbounded := hr.bounded
  have hafter := hr.after
  subst hafter
  refine ⟨h.clock, h.nodup, ?_, h.withdrawals, ?_⟩
  · intro j b hb
    exact (h.agents j b hb).same fun _ hh => hh
  · intro j r hr'
    by_cases hj : j = env.pda (.collateralWithdrawal k)
    · rw [hj] at hr' ⊢
      cases (update_self ..).symm.trans hr'
      have hlt := hself.bounded
      refine ⟨rfl, ⟨agent, hr.agent, rfl⟩, ?_, hr.inTime⟩
      show n < 2 ^ 64
      omega
    · exact (h.requests j r ((update_of_ne hj ..).symm.trans hr')).same rfl

theorem Sound.collateralClaimed
    {acc : ClaimCollateralAccounts} {r : CollateralWithdrawal}
    (h : Sound env w)
    (hc : CollateralClaimed env w w' i k agent acc r) : Sound env w' := by
  have hself := h.agents k agent (List.mem_of_getElem? hc.agent)
  have hpaid := hc.paid
  obtain ⟨b, rfl⟩ := hc.after
  refine h.set hc.agent rfl rfl (hself.paid hpaid rfl rfl rfl) rfl
    (fun j m hj hh => vaulted_transfer hj hpaid hh) (fun _ hj => hj) ?_
  intro j r' hr'
  by_cases hj : j = env.pda (.collateralWithdrawal k)
  · rw [hj] at hr' ⊢
    cases (update_self ..).symm.trans hr'
    exact ⟨r, hc.request, rfl, rfl, rfl, rfl⟩
  · exact ⟨r', (update_of_ne hj ..).symm.trans hr', rfl, rfl, rfl, rfl⟩

theorem Sound.slashed (h : Sound env w) (hs : Slashed env w w' i k agent n) :
    Sound env w' := by
  have hself := h.agents k agent (List.mem_of_getElem? hs.agent)
  have hpaid := hs.paid
  obtain ⟨b, slashed, m, rfl⟩ := hs.after
  exact h.set hs.agent rfl rfl (hself.paid hpaid rfl rfl rfl) rfl
    (fun j m hj hh => vaulted_transfer hj hpaid hh) (fun _ hj => hj)
    fun j r hr => ⟨r, hr, rfl, rfl, rfl, rfl⟩

theorem sound_step (h : Sound env w) (hs : step env rule a w = .ok w') :
    Sound env w' := by
  rcases step_moved hs with ⟨acc, c, n, k, agent, -, -, -, hr⟩
    | ⟨k, agent, r, -, hr⟩ | ⟨acc, i, k, agent, r, -, -, hreq, -, hp⟩
    | ⟨k, -, rfl⟩ | ⟨acc, i, k, agent, -, -, -, hp⟩
    | ⟨i, k, agent, acc, n, -, hd⟩ | ⟨k, agent, n, -, hr⟩
    | ⟨i, k, agent, acc, r, -, hc⟩ | ⟨i, k, agent, n, -, hsl⟩ | ⟨-, ha⟩
  · exact h.registered hr
  · rw [hr.after]
    refine h.same h.clock rfl rfl (.refl env _) ?_
    intro j hj
    by_cases hk : j = env.pda (.withdrawal k)
    · exact ⟨k, hk⟩
    · refine h.withdrawals j fun hnone => hj ?_
      exact (update_of_ne hk ..).trans hnone
  · refine h.paidOut hp rfl rfl rfl rfl ?_
    intro j hj hnone
    by_cases hk : j = env.pda (.withdrawal k)
    · rw [hk, hreq] at hnone
      cases hnone
    · exact hj ((update_of_ne hk ..).trans hnone)
  · refine h.same h.clock rfl rfl (.refl env _) ?_
    intro j hj
    refine h.withdrawals j fun hnone => hj ?_
    by_cases hk : j = k
    · rw [hk]
      exact update_self ..
    · exact (update_of_ne hk ..).trans hnone
  · exact h.paidOut hp rfl rfl rfl rfl fun _ hj => hj
  · exact h.deposited hd
  · exact h.collateralRequested hr
  · exact h.collateralClaimed hc
  · exact h.slashed hsl
  · refine h.same (ha.clock h.clock) ha.agents ha.collateralWithdrawals
      ha.tokens ?_
    rw [ha.withdrawals]
    exact h.withdrawals

theorem sound_reachable (h : Reachable (step env rule) Genesis w) :
    Sound env w :=
  reachable_induct (fun _ => sound_genesis) (fun _ _ _ => sound_step) h

end KamiyoProtocol.Hive.Stakes
