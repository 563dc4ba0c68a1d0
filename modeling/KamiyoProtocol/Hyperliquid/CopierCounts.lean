/-
The vault and the registry agree on how much an agent is copied.

The registry counts an agent's copiers, the vault its deposits, and both
are kept by the calls of the vault alone. So the counters are what a
count of the active positions gives, no exit finds them in its way, and
the limits that a new position is checked against are those of the sums.
-/
import KamiyoProtocol.Hyperliquid.VaultSolvency

namespace KamiyoProtocol.Hyperliquid

open Exec Evm Function

variable {env : Env} {w w' : World} {tx : Tx} {a : WorldAction}

-- ==== the sums

/-- Whether a position is an active copy of the agent. -/
def activeCopy (agent : Address) (pos : CopyPosition) : Nat :=
  if pos.active ∧ pos.agent = agent then 1 else 0

/-- What it has deposited with the agent. -/
def copyDeposit (agent : Address) (pos : CopyPosition) : Nat :=
  if pos.active ∧ pos.agent = agent then pos.deposit else 0

/-- The vault stays the registry's only one, and values are left alone. -/
def WorldAction.steady : WorldAction → Bool
  | .vault _ (.updatePositionValue _ _)
  | .vault _ (.batchUpdatePositionValues _ _)
  | .registry _ (.setVault _) => false
  | _ => true

/-- So is the limits contract, and nobody but the vault counts copiers. -/
def WorldAction.calm : WorldAction → Bool
  | .vault _ (.setReputationLimits _) => false
  | .registry _ (.updateCopiers _ _) => false
  | a => a.steady

theorem WorldAction.calm_steady (h : a.calm = true) : a.steady = true := by
  unfold WorldAction.calm at h
  split at h
  · cases h
  · cases h
  · exact h

/-- The contracts as they are deployed: no position and no agent, the
registry knows its vault and the vault its limits contract. -/
structure World.Deployed (env : Env) (w : World) : Prop where
  fresh : w.vault.Fresh
  agents : ∀ agent, w.registry.agents agent = Agent.empty
  isRegistered : ∀ agent, w.registry.isRegistered agent = false
  vault : w.registry.vault = env.this
  limits : w.vault.reputationLimits ≠ zeroAddress

-- ==== invariant

/-- The list of an agent's positions is that of the positions with it. -/
def VaultBook.Listed (b : VaultBook) : Prop :=
  ∀ agent, b.agentPositions agent = (List.range b.positionCount).filter
    fun id => (b.positions id).agent = agent

/-- Only registered agents have copiers or are active. -/
def AgentRegistry.Standing (r : AgentRegistry) : Prop :=
  ∀ agent, r.isRegistered agent = false →
    (r.agents agent).copiers = 0 ∧ (r.agents agent).active = false

/-- What the vault keeps, and the registry for it. -/
structure Accounted (env : Env) (w : World) : Prop where
  numbered : w.vault.Numbered
  deposits : w.vault.totalDeposits = w.vault.activeDeposits
  listed : w.vault.Listed
  known : ∀ id < w.vault.positionCount,
    w.registry.isRegistered (w.vault.positions id).agent = true
  valued : ∀ id, (w.vault.positions id).currentValue
    = (w.vault.positions id).deposit
  standing : w.registry.Standing
  vault : w.registry.vault = env.this

/-- And the registry counts what the vault has. -/
structure Counted (env : Env) (w : World) : Prop extends Accounted env w where
  copiers : ∀ agent,
    w.registry.copiersOf agent = w.vault.total (activeCopy agent)

-- ==== the registry

/-- The registry forgets no agent. -/
structure Stays (r r' : AgentRegistry) : Prop where
  isRegistered : ∀ agent, r.isRegistered agent = true →
    r'.isRegistered agent = true
  standing : r'.Standing
  vault : r'.vault = r.vault

/-- And counts no copiers, as in a call from outside. -/
structure Unmoved (r r' : AgentRegistry) : Prop extends Stays r r' where
  copiers : r'.copiersOf = r.copiersOf

theorem Noted.standing {r r' : AgentRegistry} {copiers : Address → Nat}
    (h : Noted r r' copiers) (hr : r.Standing)
    (hcopiers : ∀ agent, r.isRegistered agent = false → copiers agent = 0) :
    r'.Standing := by
  intro agent hagent
  rw [h.isRegistered] at hagent
  exact ⟨(h.copiers agent).trans (hcopiers agent hagent),
    (h.active agent).trans (hr agent hagent).2⟩

theorem Noted.stays {r r' : AgentRegistry} {copiers : Address → Nat}
    (h : Noted r r' copiers) (hr : r.Standing)
    (hcopiers : ∀ agent, r.isRegistered agent = false → copiers agent = 0) :
    Stays r r' where
  isRegistered := fun agent hagent => by
    rw [h.isRegistered]
    exact hagent
  standing := h.standing hr hcopiers
  vault := h.vault

/-- So does one that the vault makes for a trade or a dispute. -/
theorem Noted.unmoved {r r' : AgentRegistry} (h : Noted r r' r.copiersOf)
    (hr : r.Standing) : Unmoved r r' where
  toStays := h.stays hr fun agent hagent => (hr agent hagent).1
  copiers := funext h.copiers

section Registry

variable {r r' : AgentRegistry}

/-- A call that leaves the agents alone. -/
theorem Unmoved.same (hr : r.Standing) (hagents : r'.agents = r.agents)
    (hregistered : r'.isRegistered = r.isRegistered)
    (hvault : r'.vault = r.vault) : Unmoved r r' := by
  refine ⟨⟨?_, ?_, hvault⟩, ?_⟩
  · intro agent hagent
    rw [hregistered]
    exact hagent
  · intro agent hagent
    rw [hregistered] at hagent
    rw [hagents]
    exact hr agent hagent
  · funext agent
    unfold AgentRegistry.copiersOf
    rw [hagents]

/-- A call that writes its caller's own entry, once it has registered, and
not its copiers. -/
theorem Unmoved.entry (hr : r.Standing) {sender : Address} {agent : Agent}
    (hagents : r'.agents = update r.agents sender agent)
    (hcopiers : agent.copiers = (r.agents sender).copiers)
    (hregistered : r'.isRegistered = update r.isRegistered sender true)
    (hvault : r'.vault = r.vault) : Unmoved r r' := by
  refine ⟨⟨?_, ?_, hvault⟩, ?_⟩
  · intro a ha
    rw [hregistered]
    by_cases hsender : a = sender
    · subst hsender
      exact update_self ..
    · rw [update_of_ne hsender]
      exact ha
  · intro a ha
    rw [hregistered] at ha
    by_cases hsender : a = sender
    · subst hsender
      rw [update_self] at ha
      cases ha
    · rw [update_of_ne hsender] at ha
      rw [hagents, update_of_ne hsender]
      exact hr a ha
  · funext a
    unfold AgentRegistry.copiersOf
    rw [hagents]
    by_cases ha : a = sender
    · subst ha
      rw [update_self, hcopiers]
    · rw [update_of_ne ha]

theorem put_registered {sender : Address} (h : r.isRegistered sender = true) :
    r.isRegistered = update r.isRegistered sender true := by
  funext a
  by_cases ha : a = sender
  · subst ha
    rw [update_self, h]
  · rw [update_of_ne ha]

theorem register_unmoved {name : List Nat} (hr : r.Standing)
    (h : r.register tx name = .ok r') : Unmoved r r' := by
  obtain ⟨_, -, _, hnew, _, -, _, -, h⟩ := bind_ok₄.mp h
  cases h
  exact Unmoved.entry hr rfl (hr _ (require_ok.mp hnew)).1.symm rfl rfl

theorem addStake_unmoved (hr : r.Standing) (h : r.addStake tx = .ok r') :
    Unmoved r r' := by
  obtain ⟨_, -, _, hregistered, _, -, h⟩ := bind_ok₃.mp h
  have hput := put_registered (require_ok.mp hregistered)
  cases h
  refine Unmoved.entry hr (?_ : _ = update r.agents tx.sender
    { r.agents tx.sender with
      stake := (r.agents tx.sender).stake + tx.value }) rfl ?_ ?_
  · split
    · rfl
    · rfl
  · refine Eq.trans ?_ hput
    split
    · rfl
    · rfl
  · split
    · rfl
    · rfl

theorem requestWithdrawal_unmoved {amount : Nat} (hr : r.Standing)
    (h : r.requestWithdrawal tx amount = .ok r') : Unmoved r r' := by
  iterate 6 obtain ⟨_, -, h⟩ := bind_ok.mp h
  cases h
  exact Unmoved.same hr rfl rfl rfl

theorem executeWithdrawal_unmoved (hr : r.Standing)
    (h : r.executeWithdrawal tx = .ok r') : Unmoved r r' := by
  obtain ⟨_, hregistered, h⟩ := bind_ok.mp h
  iterate 7 obtain ⟨_, -, h⟩ := bind_ok.mp h
  cases h
  exact Unmoved.entry hr rfl rfl (put_registered (require_ok.mp hregistered))
    rfl

theorem cancelWithdrawal_unmoved (hr : r.Standing)
    (h : r.cancelWithdrawal tx = .ok r') : Unmoved r r' := by
  obtain ⟨_, -, _, -, h⟩ := bind_ok₂.mp h
  cases h
  exact Unmoved.same hr rfl rfl rfl

theorem deactivate_unmoved (hr : r.Standing)
    (h : r.deactivate tx = .ok r') : Unmoved r r' := by
  obtain ⟨_, hregistered, _, -, h⟩ := bind_ok₂.mp h
  cases h
  exact Unmoved.entry hr rfl rfl (put_registered (require_ok.mp hregistered))
    rfl

theorem reactivate_unmoved (hr : r.Standing)
    (h : r.reactivate tx = .ok r') : Unmoved r r' := by
  obtain ⟨_, hregistered, _, -, _, -, h⟩ := bind_ok₃.mp h
  cases h
  exact Unmoved.entry hr rfl rfl (put_registered (require_ok.mp hregistered))
    rfl

theorem registry_unmoved {c : RegistryCall} (hr : r.Standing)
    (hcalm : (WorldAction.registry tx c).calm = true)
    (h : r.call tx c = .ok r') : Unmoved r r' := by
  obtain ⟨_, -, h⟩ := bind_ok.mp h
  cases c with
  | register => exact register_unmoved hr h
  | addStake => exact addStake_unmoved hr h
  | requestWithdrawal => exact requestWithdrawal_unmoved hr h
  | executeWithdrawal => exact executeWithdrawal_unmoved hr h
  | cancelWithdrawal => exact cancelWithdrawal_unmoved hr h
  | deactivate => exact deactivate_unmoved hr h
  | reactivate => exact reactivate_unmoved hr h
  | recordTrade => exact (recordTrade_ok h).unmoved hr
  | slash => exact (slash_ok h).unmoved hr
  | updateCopiers => cases hcalm
  | transferAdmin =>
    obtain ⟨_, -, _, -, h⟩ := bind_ok₂.mp h
    cases h
    exact Unmoved.same hr rfl rfl rfl
  | acceptAdmin =>
    obtain ⟨_, -, h⟩ := bind_ok.mp h
    cases h
    exact Unmoved.same hr rfl rfl rfl
  | setDisputeResolver =>
    obtain ⟨_, -, _, -, h⟩ := bind_ok₂.mp h
    cases h
    exact Unmoved.same hr rfl rfl rfl
  | setVault => cases hcalm
  | setPaused =>
    obtain ⟨_, -, _, -, h⟩ := bind_ok₂.mp h
    cases h
    exact Unmoved.same hr rfl rfl rfl
  | receive =>
    cases h
    exact Unmoved.same hr rfl rfl rfl

theorem registry_stays {c : RegistryCall} (hr : r.Standing)
    (hsteady : (WorldAction.registry tx c).steady = true)
    (h : r.call tx c = .ok r') : Stays r r' := by
  by_cases hc : ∃ agent increment, c = .updateCopiers agent increment
  · obtain ⟨agent, increment, rfl⟩ := hc
    obtain ⟨_, -, h⟩ := bind_ok.mp h
    obtain ⟨hregistered, hnoted⟩ := updateCopiers_ok h
    apply hnoted.stays hr
    intro b hb
    have hne : b ≠ agent := by
      rintro rfl
      rw [hregistered] at hb
      cases hb
    rw [update_of_ne hne]
    exact (hr b hb).1
  · refine (registry_unmoved hr ?_ h).toStays
    cases c with
    | updateCopiers agent increment => exact absurd ⟨_, _, rfl⟩ hc
    | _ => exact hsteady

end Registry

-- ==== each step

section Steps

variable {b b' : VaultBook} {r : AgentRegistry}

theorem VaultBook.Listed.congr (h : b.Listed)
    (hlists : b'.agentPositions = b.agentPositions)
    (hcount : b'.positionCount = b.positionCount)
    (hagents : ∀ id, (b'.positions id).agent = (b.positions id).agent) :
    b'.Listed := by
  intro agent
  rw [hlists, hcount, h agent]
  congr 1
  funext id
  rw [hagents]

theorem VaultBook.Listed.push (h : b.Listed) (pos : CopyPosition) :
    (b.push pos).Listed := by
  intro agent
  show update b.agentPositions pos.agent _ agent
    = (List.range (b.positionCount + 1)).filter
      fun id => (update b.positions b.positionCount pos id).agent = agent
  have hold : ((List.range b.positionCount).filter
      fun id => (update b.positions b.positionCount pos id).agent = agent)
      = b.agentPositions agent := by
    rw [h agent]
    apply List.filter_congr
    intro id hid
    rw [update_of_ne (by
      have := List.mem_range.mp hid
      omega)]
  rw [List.range_succ, List.filter_append, hold]
  by_cases hagent : agent = pos.agent
  · subst hagent
    rw [update_self]
    simp
  · rw [update_of_ne hagent]
    simp [Ne.symm hagent]

theorem sum_filter {α : Type} (p : α → Prop) [DecidablePred p]
    (f : α → Nat) (l : List α) :
    ((l.filter fun x => p x).map f).sum
      = (l.map fun x => if p x then f x else 0).sum := by
  induction l with
  | nil => rfl
  | cons x rest ih =>
    by_cases hx : p x
    · rw [List.filter_cons_of_pos (by simpa using hx)]
      simp only [List.map_cons, List.sum_cons, ih, if_pos hx]
    · rw [List.filter_cons_of_neg (by simpa using hx)]
      simp only [List.map_cons, List.sum_cons, ih, if_neg hx, Nat.zero_add]

/-- What the limits are checked against is what is deposited with the
agent. -/
theorem getAgentAUM_eq (hlisted : b.Listed)
    (hvalued : ∀ id, (b.positions id).currentValue = (b.positions id).deposit)
    (agent : Address) : b.getAgentAUM agent = b.total (copyDeposit agent) := by
  unfold VaultBook.getAgentAUM VaultBook.total
  rw [hlisted agent, sum_filter]
  congr 1
  apply List.map_congr_left
  intro id _
  unfold copyDeposit
  rw [hvalued]
  by_cases hagent : (b.positions id).agent = agent
  · by_cases hactive : (b.positions id).active = true
    · rw [if_pos hagent, if_pos hactive, if_pos ⟨hactive, hagent⟩]
    · rw [if_pos hagent, if_neg hactive, if_neg (fun h => hactive h.1)]
  · rw [if_neg hagent, if_neg (fun h => hagent h.2)]

end Steps

/-- Nothing the accounts are about changes. -/
theorem Accounted.keep (h : Accounted env w)
    (hcount : w'.vault.positionCount = w.vault.positionCount)
    (hnumbered : w'.vault.Numbered)
    (hdeposits : w'.vault.totalDeposits = w.vault.totalDeposits)
    (hlists : w'.vault.agentPositions = w.vault.agentPositions)
    (hsame : ∀ id, (w'.vault.positions id).agent = (w.vault.positions id).agent
      ∧ (w'.vault.positions id).deposit = (w.vault.positions id).deposit
      ∧ (w'.vault.positions id).currentValue
        = (w.vault.positions id).currentValue
      ∧ (w'.vault.positions id).active = (w.vault.positions id).active)
    (hregistry : Stays w.registry w'.registry) : Accounted env w' where
  numbered := hnumbered
  deposits := by
    rw [hdeposits, h.deposits]
    refine (VaultBook.total_congr hcount fun id => ?_).symm
    obtain ⟨-, hdeposit, -, hactive⟩ := hsame id
    unfold VaultBook.activeDeposit
    rw [hdeposit, hactive]
  listed := h.listed.congr hlists hcount fun id => (hsame id).1
  known := by
    intro id hid
    rw [(hsame id).1]
    exact hregistry.isRegistered _ (h.known id (hcount ▸ hid))
  valued := by
    intro id
    obtain ⟨-, hdeposit, hvalue, -⟩ := hsame id
    rw [hdeposit, hvalue]
    exact h.valued id
  standing := hregistry.standing
  vault := hregistry.vault.trans h.vault

theorem Accounted.push (h : Accounted env w) {pos : CopyPosition} {amount : Nat}
    (hactive : pos.active = true) (hvalue : pos.currentValue = pos.deposit)
    (hagent : (w.registry.agents pos.agent).active = true)
    (hnoted : Noted w.registry w'.registry (update w.registry.copiersOf
      pos.agent (w.registry.copiersOf pos.agent + 1)))
    (hbooks : w.Books w' ((w.vault.push pos).receive amount)) :
    Accounted env w' := by
  have hregistered : w.registry.isRegistered pos.agent = true := by
    by_contra hno
    rw [(h.standing pos.agent (by simpa using hno)).2] at hagent
    cases hagent
  have hbook := hbooks.book
  have htotal : ∀ f, w'.vault.total f = w.vault.total f + f pos := by
    intro f
    rw [hbook]
    exact VaultBook.total_push w.vault.toVaultBook pos f
  refine ⟨?_, ?_, ?_, ?_, ?_, ?_, hnoted.vault.trans h.vault⟩
  · rw [hbook]
    exact h.numbered.push pos
  · show w'.vault.totalDeposits = w'.vault.total VaultBook.activeDeposit
    rw [htotal, hbook]
    show w.vault.totalDeposits + pos.deposit = _
    rw [h.deposits]
    unfold VaultBook.activeDeposit
    rw [if_pos hactive]
    rfl
  · rw [hbook]
    exact h.listed.push pos
  · intro id hid
    rw [hnoted.isRegistered]
    rw [hbook] at hid ⊢
    change id < w.vault.positionCount + 1 at hid
    show w.registry.isRegistered
      (update w.vault.positions w.vault.positionCount pos id).agent = true
    by_cases hnew : id = w.vault.positionCount
    · rw [hnew, update_self]
      exact hregistered
    · rw [update_of_ne hnew]
      exact h.known id (by omega)
  · intro id
    rw [hbook]
    show (update w.vault.positions w.vault.positionCount pos id).currentValue
      = (update w.vault.positions w.vault.positionCount pos id).deposit
    by_cases hnew : id = w.vault.positionCount
    · rw [hnew, update_self]
      exact hvalue
    · rw [update_of_ne hnew]
      exact h.valued id
  · apply hnoted.standing h.standing
    intro agent hno
    have hne : agent ≠ pos.agent := by
      rintro rfl
      rw [hregistered] at hno
      cases hno
    rw [update_of_ne hne]
    exact (h.standing agent hno).1

/-- A position that leaves takes its deposit with it. -/
theorem Accounted.exit (h : Accounted env w) {timestamp id payout fee : Nat}
    {payee : Address} {disputes : Nat → DisputeInfo}
    (hactive : (w.vault.positions id).active = true)
    (hnoted : Noted w.registry w'.registry
      (update w.registry.copiersOf (w.vault.positions id).agent
        (w.registry.copiersOf (w.vault.positions id).agent - 1)))
    (hbooks : w.Books w' (w.vault.exit timestamp id payee payout fee
      disputes)) : Accounted env w' := by
  have hid := h.numbered.lt_of_active hactive
  have hbook := hbooks.book
  have hwrites : w.vault.Writes w'.vault.toVaultBook id
      { w.vault.positions id with
        active := false, endTime := uint 64 timestamp } := by
    rw [hbook]
    exact exit_writes
  have hsame : ∀ j, (w'.vault.positions j).agent = (w.vault.positions j).agent
      ∧ (w'.vault.positions j).deposit = (w.vault.positions j).deposit
      ∧ (w'.vault.positions j).currentValue
        = (w.vault.positions j).currentValue := by
    intro j
    rw [hwrites.positions]
    by_cases hj : j = id
    · subst hj
      rw [update_self]
      exact ⟨rfl, rfl, rfl⟩
    · rw [update_of_ne hj]
      exact ⟨rfl, rfl, rfl⟩
  refine ⟨hwrites.numbered h.numbered hid, ?_, ?_, ?_, ?_, ?_,
    hnoted.vault.trans h.vault⟩
  · have htotal := hwrites.total hid VaultBook.activeDeposit
    have hafter : VaultBook.activeDeposit { w.vault.positions id with
        active := false, endTime := uint 64 timestamp } = 0 := rfl
    have hbefore : VaultBook.activeDeposit (w.vault.positions id)
        = (w.vault.positions id).deposit := by
      unfold VaultBook.activeDeposit
      rw [if_pos hactive]
    rw [hafter, hbefore] at htotal
    have hdeposits := h.deposits
    unfold VaultBook.activeDeposits at hdeposits ⊢
    have hleft : w'.vault.totalDeposits
        = w.vault.totalDeposits - (w.vault.positions id).deposit := by
      rw [hbook]
      rfl
    omega
  · exact h.listed.congr (by rw [hbook]; rfl) hwrites.positionCount
      fun j => (hsame j).1
  · intro j hj
    rw [hnoted.isRegistered, (hsame j).1]
    exact h.known j (hwrites.positionCount ▸ hj)
  · intro j
    obtain ⟨-, hdeposit, hvalue⟩ := hsame j
    rw [hdeposit, hvalue]
    exact h.valued j
  · apply hnoted.standing h.standing
    intro agent hno
    have hzero := (h.standing agent hno).1
    by_cases ha : agent = (w.vault.positions id).agent
    · subst ha
      rw [update_self]
      show (w.registry.agents _).copiers - 1 = 0
      omega
    · rw [update_of_ne ha]
      exact hzero

theorem accounted_step (h : Accounted env w) (hsteady : a.steady = true)
    (hstep : World.step env a w = .ok w') : Accounted env w' := by
  have hquiet : Stays w.registry w.registry :=
    (Unmoved.same h.standing rfl rfl rfl).toStays
  have heffect := step_effect hstep
  cases heffect with
  | opened hdeposit htier hagent hnoted hlimits hbooks =>
    exact h.push rfl rfl hagent hnoted hbooks
  | exited hexits hactive hcovered hfunded hnoted hbooks =>
    exact h.exit hactive hnoted hbooks
  | repaid hexits hactive hfunded hnoted hbooks =>
    have hbook := hbooks.book
    refine h.keep (by rw [hbook]) ?_ (by rw [hbook]) (by rw [hbook]) ?_
      (hnoted.unmoved h.standing).toStays
    · rw [hbook]
      exact h.numbered
    · rw [hbook]
      exact fun _ => ⟨rfl, rfl, rfl, rfl⟩
  | filed huser hfresh hregistry hbooks =>
    rename_i id actualReturnBps
    have hid := h.numbered.lt_of_user (huser ▸ (step_sender hstep).1)
    have hbook := hbooks.book
    have hwrites : w.vault.Writes w'.vault.toVaultBook id
        { w.vault.positions id with disputed := true } := by
      rw [hbook]
      exact file_writes
    refine h.keep hwrites.positionCount (hwrites.numbered h.numbered hid)
      (by rw [hbook]; rfl) (by rw [hbook]; rfl) ?_ (hregistry ▸ hquiet)
    · intro j
      rw [hwrites.positions]
      by_cases hj : j = id
      · subst hj
        rw [update_self]
        exact ⟨rfl, rfl, rfl, rfl⟩
      · rw [update_of_ne hj]
        exact ⟨rfl, rfl, rfl, rfl⟩
  | revalued hactive hchange hregistry hbooks => cases hsteady
  | revaluedEach hregistry hbooks heach => cases hsteady
  | withdrew hfunded hregistry hbooks =>
    have hbook := hbooks.book
    refine h.keep (by rw [hbook]) ?_ (by rw [hbook]) (by rw [hbook]) ?_
      (hregistry ▸ hquiet)
    · rw [hbook]
      exact h.numbered
    · rw [hbook]
      exact fun _ => ⟨rfl, rfl, rfl, rfl⟩
  | kept hconfigure hregistry hbook =>
    refine h.keep (by rw [hbook]; rfl) ?_ (by rw [hbook]; rfl)
      (by rw [hbook]; rfl) ?_ (hregistry ▸ hquiet)
    · rw [hbook]
      exact h.numbered
    · rw [hbook]
      exact fun _ => ⟨rfl, rfl, rfl, rfl⟩
  | registered hvault hcall =>
    refine h.keep (by rw [hvault]) ?_ (by rw [hvault]) (by rw [hvault]) ?_
      (registry_stays h.standing hsteady hcall)
    · rw [hvault]
      exact h.numbered
    · rw [hvault]
      exact fun _ => ⟨rfl, rfl, rfl, rfl⟩
  | limited hvault hregistry =>
    refine h.keep (by rw [hvault]) ?_ (by rw [hvault]) (by rw [hvault]) ?_
      (hregistry ▸ hquiet)
    · rw [hvault]
      exact h.numbered
    · rw [hvault]
      exact fun _ => ⟨rfl, rfl, rfl, rfl⟩

theorem copiers_step (h : Counted env w) (hcalm : a.calm = true)
    (hstep : World.step env a w = .ok w') (agent : Address) :
    w'.registry.copiersOf agent = w'.vault.total (activeCopy agent) := by
  have hcopiers := h.copiers agent
  have heffect := step_effect hstep
  cases heffect with
  | opened hdeposit htier hagent hnoted hlimits hbooks =>
    rename_i tx chosen minReturnBps lockPeriod
    have htotal : w'.vault.total (activeCopy agent)
        = w.vault.total (activeCopy agent) + activeCopy agent
          (World.newPosition tx chosen minReturnBps lockPeriod) := by
      rw [hbooks.book]
      exact VaultBook.total_push w.vault.toVaultBook _ _
    rw [htotal, ← hcopiers]
    refine (hnoted.copiers agent).trans ?_
    unfold activeCopy
    by_cases ha : agent = chosen
    · subst ha
      rw [update_self, if_pos ⟨rfl, rfl⟩]
    · rw [update_of_ne ha, if_neg (fun hpos => ha hpos.2.symm), Nat.add_zero]
  | exited hexits hactive hcovered hfunded hnoted hbooks =>
    rename_i id payout fee payee disputes
    have hid := h.numbered.lt_of_active hactive
    have hwrites : w.vault.Writes w'.vault.toVaultBook id
        { w.vault.positions id with
          active := false, endTime := uint 64 a.tx.timestamp } := by
      rw [hbooks.book]
      exact exit_writes
    have htotal := hwrites.total hid (activeCopy agent)
    have hafter : activeCopy agent { w.vault.positions id with
        active := false, endTime := uint 64 a.tx.timestamp } = 0 := by
      unfold activeCopy
      rw [if_neg (fun hpos => by cases hpos.1)]
    rw [hafter] at htotal
    refine (hnoted.copiers agent).trans ?_
    by_cases ha : agent = (w.vault.positions id).agent
    · subst ha
      have hbefore : activeCopy (w.vault.positions id).agent
          (w.vault.positions id) = 1 := by
        unfold activeCopy
        rw [if_pos ⟨hactive, rfl⟩]
      rw [hbefore] at htotal
      rw [update_self]
      omega
    · have hbefore : activeCopy agent (w.vault.positions id) = 0 := by
        unfold activeCopy
        rw [if_neg (fun hpos => ha hpos.2.symm)]
      rw [hbefore] at htotal
      rw [update_of_ne ha]
      omega
  | repaid hexits hactive hfunded hnoted hbooks =>
    rw [hbooks.book]
    exact (hnoted.copiers agent).trans hcopiers
  | filed huser hfresh hregistry hbooks =>
    rename_i id actualReturnBps
    rw [hregistry, hbooks.book, hcopiers]
    exact (file_writes.total_same rfl).symm
  | revalued hactive hchange hregistry hbooks => cases hcalm
  | revaluedEach hregistry hbooks heach => cases hcalm
  | withdrew hfunded hregistry hbooks =>
    rw [hregistry, hbooks.book]
    exact hcopiers
  | kept hconfigure hregistry hbook =>
    rw [hregistry, hbook]
    exact hcopiers
  | registered hvault hcall =>
    rw [(registry_unmoved h.standing hcalm hcall).copiers, hvault]
    exact hcopiers
  | limited hvault hregistry =>
    rw [hregistry, hvault]
    exact hcopiers

theorem counted_step (h : Counted env w) (hcalm : a.calm = true)
    (hstep : World.step env a w = .ok w') : Counted env w' :=
  ⟨accounted_step h.toAccounted (WorldAction.calm_steady hcalm) hstep,
    copiers_step h hcalm hstep⟩

theorem limits_step (hcalm : a.calm = true)
    (hstep : World.step env a w = .ok w') :
    w'.vault.reputationLimits = w.vault.reputationLimits := by
  have heffect := step_effect hstep
  cases heffect with
  | opened hdeposit htier hagent hnoted hlimits hbooks =>
    exact hbooks.reputationLimits
  | exited hexits hactive hcovered hfunded hnoted hbooks =>
    exact hbooks.reputationLimits
  | repaid hexits hactive hfunded hnoted hbooks =>
    exact hbooks.reputationLimits
  | filed huser hfresh hregistry hbooks => exact hbooks.reputationLimits
  | revalued hactive hchange hregistry hbooks =>
    exact hbooks.reputationLimits
  | revaluedEach hregistry hbooks heach => exact hbooks.reputationLimits
  | withdrew hfunded hregistry hbooks => exact hbooks.reputationLimits
  | kept hconfigure hregistry hbook =>
    apply (configure_ok hconfigure).limits
    rintro limits rfl
    cases hcalm
  | registered hvault hcall => rw [hvault]
  | limited hvault hregistry => rw [hvault]

-- ==== exits

/-- The registry can note a trade. -/
def AgentRegistry.Records (r : AgentRegistry) (sender agent : Address)
    (pnl : Int) (successful : Bool) : Prop :=
  ∃ r', r.recordTrade sender agent pnl successful = .ok r'

/-- The ether is there and its payee takes it, if there is any to send. -/
def VaultBook.Pays (b : VaultBook) (tx : Tx) (payee : Address)
    (amount : Nat) : Prop :=
  amount = 0 ∨ amount ≤ b.balance ∧ payee ∉ tx.refusing

/-- The time from which a position may be closed has come. -/
def CopyPosition.Unlocked (pos : CopyPosition) (timestamp delay : Nat) :
    Prop :=
  pos.startTime + pos.lockPeriod < 2 ^ 64
    ∧ pos.startTime + pos.lockPeriod + delay < 2 ^ 64
    ∧ pos.startTime + pos.lockPeriod + delay ≤ timestamp

/-- An exit succeeds exactly if its own conditions hold, the registry can
note the trade, and the payee takes the ether: no counter is asked. -/
structure ExitsOpen (env : Env) (w : World) : Prop where
  close : ∀ tx id, (∃ w', w.closePosition env tx id = .ok w') ↔
    (w.vault.positions id).active = true
      ∧ tx.sender = (w.vault.positions id).user
      ∧ (w.vault.positions id).Unlocked tx.timestamp 0
      ∧ w.registry.Records env.this (w.vault.positions id).agent 0
        ((w.vault.positions id).minReturnBps ≤ 0)
      ∧ w.vault.Pays tx (w.vault.positions id).user
        (w.vault.positions id).deposit
  resolve : ∀ tx disputeId userWins,
    (∃ w', w.resolveDispute env tx disputeId userWins = .ok w') ↔
      tx.sender = w.vault.disputeResolver
        ∧ (w.vault.disputes disputeId).resolved = false
        ∧ (∃ r, World.noteDispute env.this w.registry tx (w.vault.positions
            (w.vault.disputes disputeId).positionId).agent
          (w.vault.disputes disputeId).actualReturnBps userWins = .ok r)
        ∧ w.vault.Pays tx (w.vault.disputes disputeId).user
          (w.vault.positions (w.vault.disputes disputeId).positionId).deposit
  withdraw : ∀ tx id, (∃ w', w.emergencyWithdraw env tx id = .ok w') ↔
    tx.sender = w.vault.admin ∧ (w.vault.positions id).active = true
      ∧ (w.vault.positions id).Unlocked tx.timestamp emergencyDelay
      ∧ w.vault.Pays tx (w.vault.positions id).user
        (w.vault.positions id).deposit

section Counters

variable {r r' : AgentRegistry} {sender agent : Address}

/-- One copier less, where there is one. -/
def AgentRegistry.drop (r : AgentRegistry) (agent : Address) :
    AgentRegistry :=
  r.setAgent agent { r.agents agent with
    copiers := (r.agents agent).copiers - 1 }

theorem updateCopiers_drop (hsender : sender = r.vault)
    (hregistered : r.isRegistered agent = true) :
    r.updateCopiers sender agent false = .ok (r.drop agent) := by
  refine bind_ok.mpr ⟨(), require_ok.mpr (Or.inl hsender), ?_⟩
  refine bind_ok.mpr ⟨(), require_ok.mpr hregistered, ?_⟩
  show (if 0 < (r.agents agent).copiers then pure (r.setAgent agent
      { r.agents agent with copiers := (r.agents agent).copiers - 1 })
    else pure r) = Except.ok (r.drop agent)
  by_cases hpos : 0 < (r.agents agent).copiers
  · rw [if_pos hpos]
    rfl
  · rw [if_neg hpos]
    have hzero : (r.agents agent).copiers - 1 = (r.agents agent).copiers := by
      omega
    unfold AgentRegistry.drop AgentRegistry.setAgent
    rw [hzero, update_eq_self]
    rfl

/-- Whether a trade can be noted depends on who notes it and on the counts
of trades. -/
theorem records_iff {pnl : Int} {successful : Bool} :
    r.Records sender agent pnl successful ↔
      (sender = r.vault ∨ sender = r.admin) ∧ r.isRegistered agent = true
        ∧ (∃ n, checked 64 ((r.agents agent).totalTrades + 1) = .ok n)
        ∧ (∃ n, checkedInt 64 ((r.agents agent).totalPnl + pnl) = .ok n)
        ∧ ∃ n, AgentRegistry.countTrade (r.agents agent).successfulTrades
          successful = .ok n := by
  constructor
  · rintro ⟨r', h⟩
    obtain ⟨_, hsender, _, hregistered, n, htrades, h⟩ := bind_ok₃.mp h
    obtain ⟨m, hpnl, k, hsuccess, h⟩ := bind_ok₂.mp h
    exact ⟨require_ok.mp hsender, require_ok.mp hregistered, ⟨n, htrades⟩,
      ⟨m, hpnl⟩, k, hsuccess⟩
  · rintro ⟨hsender, hregistered, ⟨n, htrades⟩, ⟨m, hpnl⟩, k, hsuccess⟩
    exact bind_isOk (a := ()) (require_ok.mpr hsender)
      (bind_isOk (a := ()) (require_ok.mpr hregistered)
        (bind_isOk htrades (bind_isOk hpnl (bind_isOk hsuccess ⟨_, rfl⟩))))

theorem records_drop {b : Address} {pnl : Int} {successful : Bool} :
    (r.drop b).Records sender agent pnl successful
      ↔ r.Records sender agent pnl successful := by
  have hagent : ((r.drop b).agents agent).totalTrades
        = (r.agents agent).totalTrades
      ∧ ((r.drop b).agents agent).totalPnl = (r.agents agent).totalPnl
      ∧ ((r.drop b).agents agent).successfulTrades
        = (r.agents agent).successfulTrades := by
    show (update r.agents b _ agent).totalTrades = _
      ∧ (update r.agents b _ agent).totalPnl = _
      ∧ (update r.agents b _ agent).successfulTrades = _
    by_cases hb : agent = b
    · subst hb
      rw [update_self]
      exact ⟨rfl, rfl, rfl⟩
    · rw [update_of_ne hb]
      exact ⟨rfl, rfl, rfl⟩
  rw [records_iff, records_iff, hagent.1, hagent.2.1, hagent.2.2]
  exact Iff.rfl

end Counters

theorem calculateReturnBps_same (n : Nat) : calculateReturnBps n n = .ok 0 := by
  unfold calculateReturnBps
  by_cases hzero : n = 0
  · rw [if_pos hzero]
    rfl
  · rw [if_neg hzero, Int.sub_self]
    refine bind_ok.mpr ⟨0, by decide, ?_⟩
    refine bind_ok.mpr ⟨0, by decide, ?_⟩
    rw [Int.zero_tdiv]
    exact bind_ok.mpr ⟨0, by decide, rfl⟩

theorem closingFee_le {deposit currentValue : Nat}
    (h : currentValue ≤ deposit) : closingFee deposit currentValue = .ok 0 := by
  unfold closingFee
  rw [if_neg (Nat.not_lt.mpr h)]
  rfl

theorem safeTransfer_isOk {b : VaultBook} {id amount : Nat}
    {payee : Address} : (∃ b', b.safeTransfer tx id payee amount = .ok b')
      ↔ b.Pays tx payee amount := by
  constructor
  · rintro ⟨b', h⟩
    exact (VaultBook.safeTransfer_ok.mp h).1
  · intro h
    exact ⟨_, VaultBook.safeTransfer_ok.mpr ⟨h, rfl⟩⟩

section Exits

variable {id : Nat}

theorem Accounted.exit_counters (h : Accounted env w)
    (hactive : (w.vault.positions id).active = true) :
    (w.vault.positions id).deposit ≤ w.vault.totalDeposits
      ∧ w.registry.isRegistered (w.vault.positions id).agent = true := by
  have hid := h.numbered.lt_of_active hactive
  refine ⟨?_, h.known id hid⟩
  have hle := VaultBook.le_total VaultBook.activeDeposit hid
  have hdeposit : VaultBook.activeDeposit (w.vault.positions id)
      = (w.vault.positions id).deposit := by
    unfold VaultBook.activeDeposit
    rw [if_pos hactive]
  rw [hdeposit] at hle
  rw [h.deposits]
  exact hle

theorem Accounted.close_iff (h : Accounted env w) :
    (∃ w', w.closePosition env tx id = .ok w') ↔
      (w.vault.positions id).active = true
        ∧ tx.sender = (w.vault.positions id).user
        ∧ (w.vault.positions id).Unlocked tx.timestamp 0
        ∧ w.registry.Records env.this (w.vault.positions id).agent 0
          ((w.vault.positions id).minReturnBps ≤ 0)
        ∧ w.vault.Pays tx (w.vault.positions id).user
          (w.vault.positions id).deposit := by
  constructor
  · rintro ⟨w', h'⟩
    obtain ⟨_, hactive, _, hsender, unlocked, hunlocked, _, hlater, h'⟩ :=
      bind_ok₄.mp h'
    obtain ⟨returnBps, hreturn, fee, hfee, _, -, book, hbook, h'⟩ :=
      bind_ok₄.mp h'
    obtain ⟨registry, hcopiers, registry', htrade, book', hsend, -⟩ :=
      bind_ok₃.mp h'
    have hactive := require_ok.mp hactive
    obtain ⟨-, hregistered⟩ := h.exit_counters hactive
    rw [h.valued, calculateReturnBps_same] at hreturn
    rw [h.valued, closingFee_le (Nat.le_refl _)] at hfee
    cases hreturn
    cases hfee
    rw [updateCopiers_drop h.vault.symm hregistered] at hcopiers
    cases hcopiers
    obtain ⟨-, rfl⟩ := VaultBook.endPosition_ok.mp hbook
    obtain ⟨hlt, rfl⟩ := checked_ok.mp hunlocked
    refine ⟨hactive, require_ok.mp hsender,
      ⟨hlt, hlt, require_ok.mp hlater⟩, records_drop.mp ⟨_, htrade⟩, ?_⟩
    have hpays := safeTransfer_isOk.mp ⟨_, hsend⟩
    rw [h.valued] at hpays
    exact hpays
  · rintro ⟨hactive, hsender, ⟨hlt, -, hlater⟩, hrecords, hpays⟩
    obtain ⟨hcovered, hregistered⟩ := h.exit_counters hactive
    obtain ⟨registry, htrade⟩ := records_drop.mpr hrecords
    refine bind_isOk (a := ()) (require_ok.mpr hactive) ?_
    refine bind_isOk (a := ()) (require_ok.mpr hsender) ?_
    refine bind_isOk (checked_ok.mpr ⟨hlt, rfl⟩) ?_
    refine bind_isOk (a := ()) (require_ok.mpr hlater) ?_
    rw [h.valued, calculateReturnBps_same, closingFee_le (Nat.le_refl _)]
    refine bind_isOk rfl ?_
    refine bind_isOk rfl ?_
    refine bind_isOk (a := ()) (require_ok.mpr (Or.inl rfl)) ?_
    refine bind_isOk (VaultBook.endPosition_ok.mpr ⟨hcovered, rfl⟩) ?_
    refine bind_isOk (updateCopiers_drop h.vault.symm hregistered) ?_
    refine bind_isOk htrade ?_
    exact bind_isOk (VaultBook.safeTransfer_ok.mpr ⟨hpays, rfl⟩) ⟨_, rfl⟩

theorem Accounted.withdraw_iff (h : Accounted env w) :
    (∃ w', w.emergencyWithdraw env tx id = .ok w') ↔
      tx.sender = w.vault.admin ∧ (w.vault.positions id).active = true
        ∧ (w.vault.positions id).Unlocked tx.timestamp emergencyDelay
        ∧ w.vault.Pays tx (w.vault.positions id).user
          (w.vault.positions id).deposit := by
  constructor
  · rintro ⟨w', h'⟩
    obtain ⟨_, hadmin, _, hactive, unlocked, hunlocked, allowed, hallowed,
      h'⟩ := bind_ok₄.mp h'
    obtain ⟨_, hlater, book, hbook, registry, hcopiers, book', hsend, -⟩ :=
      bind_ok₄.mp h'
    obtain ⟨-, rfl⟩ := VaultBook.endPosition_ok.mp hbook
    obtain ⟨hlt, rfl⟩ := checked_ok.mp hunlocked
    obtain ⟨hlt', rfl⟩ := checked_ok.mp hallowed
    refine ⟨require_ok.mp hadmin, require_ok.mp hactive,
      ⟨hlt, hlt', require_ok.mp hlater⟩, ?_⟩
    have hpays := safeTransfer_isOk.mp ⟨_, hsend⟩
    rw [h.valued] at hpays
    exact hpays
  · rintro ⟨hadmin, hactive, ⟨hlt, hlt', hlater⟩, hpays⟩
    obtain ⟨hcovered, hregistered⟩ := h.exit_counters hactive
    refine bind_isOk (a := ()) (require_ok.mpr hadmin) ?_
    refine bind_isOk (a := ()) (require_ok.mpr hactive) ?_
    refine bind_isOk (checked_ok.mpr ⟨hlt, rfl⟩) ?_
    refine bind_isOk (checked_ok.mpr ⟨hlt', rfl⟩) ?_
    refine bind_isOk (a := ()) (require_ok.mpr hlater) ?_
    refine bind_isOk (VaultBook.endPosition_ok.mpr ⟨hcovered, rfl⟩) ?_
    refine bind_isOk (updateCopiers_drop h.vault.symm hregistered) ?_
    rw [h.valued]
    exact bind_isOk (VaultBook.safeTransfer_ok.mpr ⟨hpays, rfl⟩) ⟨_, rfl⟩

theorem Accounted.resolve_iff (h : Accounted env w) {disputeId : Nat}
    {userWins : Bool} :
    (∃ w', w.resolveDispute env tx disputeId userWins = .ok w') ↔
      tx.sender = w.vault.disputeResolver
        ∧ (w.vault.disputes disputeId).resolved = false
        ∧ (∃ r, World.noteDispute env.this w.registry tx (w.vault.positions
            (w.vault.disputes disputeId).positionId).agent
          (w.vault.disputes disputeId).actualReturnBps userWins = .ok r)
        ∧ w.vault.Pays tx (w.vault.disputes disputeId).user
          (w.vault.positions
            (w.vault.disputes disputeId).positionId).deposit := by
  have hpayout : (if userWins then
      (w.vault.positions (w.vault.disputes disputeId).positionId).deposit
    else (w.vault.positions
      (w.vault.disputes disputeId).positionId).currentValue)
    = (w.vault.positions (w.vault.disputes disputeId).positionId).deposit := by
    rw [h.valued, ite_self]
  constructor
  · rintro ⟨w', h'⟩
    obtain ⟨_, hresolver, _, hopen, registry, hnote, h'⟩ := bind_ok₃.mp h'
    refine ⟨require_ok.mp hresolver, require_ok.mp hopen, ⟨_, hnote⟩, ?_⟩
    rw [← hpayout]
    split at h'
    · obtain ⟨book, hbook, registry', -, book', hsend, -⟩ := bind_ok₃.mp h'
      obtain ⟨-, rfl⟩ := VaultBook.endPosition_ok.mp hbook
      have hpays := safeTransfer_isOk.mp ⟨_, hsend⟩
      exact hpays
    · obtain ⟨book, hsend, -⟩ := bind_ok.mp h'
      have hpays := safeTransfer_isOk.mp ⟨_, hsend⟩
      exact hpays
  · rintro ⟨hresolver, hopen, ⟨registry, hnote⟩, hpays⟩
    rw [← hpayout] at hpays
    refine bind_isOk (a := ()) (require_ok.mpr hresolver) ?_
    refine bind_isOk (a := ()) (require_ok.mpr hopen) ?_
    refine bind_isOk hnote ?_
    have hnoted := noteDispute_ok hnote
    by_cases hactive : (w.vault.positions
        (w.vault.disputes disputeId).positionId).active = true
    · rw [if_pos hactive]
      obtain ⟨hcovered, hregistered⟩ := h.exit_counters hactive
      rw [← hnoted.isRegistered] at hregistered
      refine bind_isOk (VaultBook.endPosition_ok.mpr ⟨hcovered, rfl⟩) ?_
      refine bind_isOk (updateCopiers_drop
        (hnoted.vault.trans h.vault).symm hregistered) ?_
      exact bind_isOk (VaultBook.safeTransfer_ok.mpr ⟨hpays, rfl⟩) ⟨_, rfl⟩
    · rw [if_neg hactive]
      exact bind_isOk (VaultBook.safeTransfer_ok.mpr ⟨hpays, rfl⟩) ⟨_, rfl⟩

theorem Accounted.exitsOpen (h : Accounted env w) : ExitsOpen env w where
  close _ _ := h.close_iff
  resolve _ _ _ := h.resolve_iff
  withdraw _ _ := h.withdraw_iff

end Exits

-- ==== openings

/-- The agent's active positions respect both limits of its tier. -/
def World.WithinLimits (w : World) (timestamp : Nat) (agent : Address) :
    Prop :=
  ∃ limits tier t, w.limits w.vault.reputationLimits = some limits
    ∧ limits.getEffectiveTier timestamp agent = .ok tier
    ∧ limits.tiers[tier]? = some t
    ∧ w.vault.total (activeCopy agent) ≤ t.maxCopiers
    ∧ w.vault.total (copyDeposit agent) ≤ t.maxCopyLimit

theorem canAcceptDeposit_ok {l : ReputationLimits} {timestamp aum copiers
    deposit : Nat} {agent : Address}
    (h : l.canAcceptDeposit timestamp agent aum copiers deposit = .ok true) :
    ∃ tier t, l.getEffectiveTier timestamp agent = .ok tier
      ∧ l.tiers[tier]? = some t ∧ aum + deposit ≤ t.maxCopyLimit
      ∧ copiers + 1 ≤ t.maxCopiers := by
  obtain ⟨tier, htier, t, ht, sum, hsum, h⟩ := bind_ok₃.mp h
  obtain ⟨-, rfl⟩ := checked_ok.mp hsum
  by_cases hlimit : t.maxCopyLimit < aum + deposit
  · rw [if_pos hlimit] at h
    cases h
  · rw [if_neg hlimit] at h
    obtain ⟨count, hcount, h⟩ := bind_ok.mp h
    obtain ⟨-, rfl⟩ := checked_ok.mp hcount
    by_cases hcopiers : t.maxCopiers < copiers + 1
    · rw [if_pos hcopiers] at h
      cases h
    · exact ⟨tier, t, htier, okOr_ok.mp ht, by omega, by omega⟩

theorem Counted.withinLimits (h : Counted env w)
    (hset : w.vault.reputationLimits ≠ zeroAddress) {agent : Address}
    {minReturnBps : Int} {lockPeriod : Nat}
    (hopen : w.openPosition env tx agent minReturnBps lockPeriod = .ok w') :
    w'.WithinLimits tx.timestamp agent := by
  have heffect := openPosition_effect hopen
  cases heffect with
  | opened hdeposit htier hagent hnoted hlimits hbooks =>
    unfold World.withinTier at htier
    rw [if_neg hset] at htier
    obtain ⟨limits, hsome, allowed, hallowed, htier⟩ := bind_ok₂.mp htier
    have hallowed : limits.canAcceptDeposit tx.timestamp agent
        (w.vault.getAgentAUM agent) (w.registry.agents agent).copiers
        tx.value = .ok true := by
      rw [hallowed, require_ok.mp htier]
    obtain ⟨tier, t, heffective, ht, haum, hcopiers⟩ :=
      canAcceptDeposit_ok hallowed
    have htotal : ∀ f, w'.vault.total f = w.vault.total f
        + f (World.newPosition tx agent minReturnBps lockPeriod) := by
      intro f
      rw [hbooks.book]
      exact VaultBook.total_push w.vault.toVaultBook _ f
    refine ⟨limits, tier, t, ?_, heffective, ht, ?_, ?_⟩
    · rw [hlimits, hbooks.reputationLimits]
      exact okOr_ok.mp hsome
    · rw [htotal, ← h.copiers agent]
      show (w.registry.agents agent).copiers + activeCopy agent _ ≤ _
      have hone : activeCopy agent
          (World.newPosition tx agent minReturnBps lockPeriod) = 1 := by
        unfold activeCopy
        exact if_pos ⟨rfl, rfl⟩
      rw [hone]
      exact hcopiers
    · rw [htotal, ← getAgentAUM_eq h.listed h.valued agent]
      have hvalue : copyDeposit agent
          (World.newPosition tx agent minReturnBps lockPeriod)
          = tx.value := by
        unfold copyDeposit
        exact if_pos ⟨rfl, rfl⟩
      rw [hvalue]
      exact haum
  | exited hexits => cases hexits
  | kept hconfigure => cases hconfigure

-- ==== runs

/-- What the vault and the registry agree on. -/
structure AgreesOnExposure (env : Env) (w : World) : Prop where
  copiers : ∀ agent,
    (w.registry.agents agent).copiers = w.vault.total (activeCopy agent)
  deposits : w.vault.totalDeposits = w.vault.activeDeposits
  exits : ExitsOpen env w
  opens : ∀ tx agent minReturnBps lockPeriod w',
    w.openPosition env tx agent minReturnBps lockPeriod = .ok w' →
      w'.WithinLimits tx.timestamp agent

theorem accounted_fresh (hfresh : w.vault.Fresh)
    (hstanding : w.registry.Standing) (hvault : w.registry.vault = env.this) :
    Accounted env w := by
  refine ⟨fun id _ => hfresh.positions id, ?_, ?_, ?_, ?_, hstanding, hvault⟩
  · unfold VaultBook.activeDeposits VaultBook.total
    rw [hfresh.positionCount]
    exact hfresh.totalDeposits
  · intro agent
    rw [hfresh.agentPositions, hfresh.positionCount]
    rfl
  · intro id hid
    rw [hfresh.positionCount] at hid
    exact absurd hid (Nat.not_lt_zero id)
  · intro id
    rw [hfresh.positions]
    rfl

theorem World.Deployed.counted (h : w.Deployed env) : Counted env w := by
  refine ⟨accounted_fresh h.fresh ?_ h.vault, ?_⟩
  · intro agent _
    rw [h.agents]
    exact ⟨rfl, rfl⟩
  · intro agent
    unfold AgentRegistry.copiersOf VaultBook.total
    rw [h.agents, h.fresh.positionCount]
    rfl

/-- The vault and the registry agree on what agents are exposed to. -/
theorem exposure_agrees {w₀ : World} {tr : List WorldAction}
    (h₀ : w₀.Deployed env) (hcalm : ∀ a ∈ tr, a.calm = true)
    (hrun : run (World.step env) w₀ tr = .ok w) : AgreesOnExposure env w := by
  have h := run_induct_meets (I := fun w : World => Counted env w
    ∧ w.vault.reputationLimits ≠ zeroAddress) ?_ ⟨h₀.counted, h₀.limits⟩
    (meets_of_forall hcalm) hrun
  · obtain ⟨h, hset⟩ := h
    exact ⟨h.copiers, h.deposits, h.exitsOpen,
      fun _ _ _ _ _ hopen => h.withinLimits hset hopen⟩
  · rintro a w w' ⟨hw, hset⟩ ha hstep
    refine ⟨counted_step hw ha hstep, ?_⟩
    rw [limits_step ha hstep]
    exact hset

-- ==== examples

theorem Concrete.start_deployed :
    Concrete.start.Deployed Concrete.chain where
  fresh := Concrete.start_fresh
  agents _ := rfl
  isRegistered _ := rfl
  vault := rfl
  limits := by decide

theorem exposure_agrees_disputed :
    ∃ w, run (World.step Concrete.chain) Concrete.start Concrete.disputedRun
        = .ok w
      ∧ w.vault.positionCount = 2 ∧ AgreesOnExposure Concrete.chain w := by
  obtain ⟨w, hrun, hcount⟩ := check_ok (show Exec.check
      (fun w : World => decide (w.vault.positionCount = 2))
      (run (World.step Concrete.chain) Concrete.start Concrete.disputedRun)
        = true
    by decide)
  exact ⟨w, hrun, of_decide_eq_true hcount,
    exposure_agrees Concrete.start_deployed (by decide) hrun⟩

end KamiyoProtocol.Hyperliquid
