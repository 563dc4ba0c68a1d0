/-
The stake behind the agents of the registry.

What the contract holds covers the stakes it counts, and it counts those
of the registered agents. The minimum is checked when a withdrawal is
requested and not when it is executed: in between an agent that was
inactive may become active again, and one that was active may be slashed.
-/
import KamiyoProtocol.Hyperliquid.AgentRegistry

namespace KamiyoProtocol.Hyperliquid

open Exec Evm Keyed Function

/-- A call of the registry, at any time. -/
abbrev RegistryAction := Tx × RegistryCall

def AgentRegistry.step (a : RegistryAction) (r : AgentRegistry) :
    Except String AgentRegistry :=
  r.call a.1 a.2

/-- The registry as it is deployed, whatever ether its address has. -/
structure AgentRegistry.Deployed (r : AgentRegistry) : Prop where
  agents : ∀ a, r.agents a = Agent.empty
  isRegistered : ∀ a, r.isRegistered a = false
  requests : ∀ a, r.withdrawalRequestAmount a = 0
  totalStaked : r.totalStaked = 0

/-- The agents with their stakes, and the ether behind them. -/
structure AgentRegistry.Books (r : AgentRegistry) : Prop where
  /-- For the list of all registered agents. -/
  stakes : ∃ agentList : List Address, agentList.Nodup
    ∧ (∀ a, a ∈ agentList ↔ r.isRegistered a = true)
    ∧ r.totalStaked = (agentList.map fun a => (r.agents a).stake).sum
  funded : r.totalStaked ≤ r.balance

/-- An active agent whose stake is below the minimum. -/
def AgentRegistry.Below (r : AgentRegistry) (a : Address) : Prop :=
  (r.agents a).active = true ∧ (r.agents a).stake < minStake
  deriving Decidable

/-- A withdrawal leaves its agent above the minimum if it is active, and
nothing but a slash brings an active agent below it. -/
def KeepsFloor (a : RegistryAction) (r : AgentRegistry) : Prop :=
  ∀ r', AgentRegistry.step a r = .ok r' →
    (a.2 = .executeWithdrawal → ¬ r'.Below a.1.sender)
      ∧ ∀ agent, r'.Below agent → (∃ b, a.2 = .slash b) ∨ r.Below agent

/-- The agent whose withdrawal is executed is inactive, or has the minimum
besides what it withdraws. -/
def StillCovered (a : RegistryAction) (r : AgentRegistry) : Prop :=
  a.2 = .executeWithdrawal → (r.agents a.1.sender).active = false
    ∨ minStake + r.withdrawalRequestAmount a.1.sender
      ≤ (r.agents a.1.sender).stake
  deriving Decidable

/-- No agent becomes active again, or is slashed, while a withdrawal of it
is pending. -/
def Unshaken (a : RegistryAction) (r : AgentRegistry) : Prop :=
  match a.2 with
  | .reactivate => r.withdrawalRequestAmount a.1.sender = 0
  | .slash agent => r.withdrawalRequestAmount agent = 0
  | _ => True

-- ==== effects

/-- A call writes the entry of one registered agent, and its request. -/
structure Entry (r r' : AgentRegistry) (a : Address) (x : Agent)
    (amount : Nat) : Prop where
  registered : r.isRegistered a = true
  isRegistered : r'.isRegistered = r.isRegistered
  agents : r'.agents = update r.agents a x
  requests : r'.withdrawalRequestAmount
    = update r.withdrawalRequestAmount a amount

/-- A call that is about no one's stake. -/
def RegistryCall.aside : RegistryCall → Bool
  | .recordTrade _ _ _ | .updateCopiers _ _ | .transferAdmin _ | .acceptAdmin
  | .setDisputeResolver _ | .setVault _ | .setPaused _ | .receive => true
  | _ => false

/-- What a call does to the stakes. -/
inductive StakeEffect (r : AgentRegistry) (tx : Tx) :
    RegistryCall → AgentRegistry → Prop
  | registered {name : List Nat} {r' : AgentRegistry} (x : Agent)
      (hnew : r.isRegistered tx.sender = false)
      (hvalue : minStake ≤ tx.value) (hstake : x.stake = tx.value)
      (hregistered : r'.isRegistered = update r.isRegistered tx.sender true)
      (hagents : r'.agents = update r.agents tx.sender x)
      (hrequests : r'.withdrawalRequestAmount = r.withdrawalRequestAmount)
      (htotal : r'.totalStaked = r.totalStaked + tx.value)
      (hbalance : r'.balance = r.balance + tx.value) :
      StakeEffect r tx (.register name) r'
  | added {r' : AgentRegistry}
      (hentry : Entry r r' tx.sender { r.agents tx.sender with
        stake := (r.agents tx.sender).stake + tx.value } 0)
      (htotal : r'.totalStaked = r.totalStaked + tx.value)
      (hbalance : r'.balance = r.balance + tx.value) :
      StakeEffect r tx .addStake r'
  | requested {amount : Nat} {r' : AgentRegistry}
      (hentry : Entry r r' tx.sender (r.agents tx.sender) amount)
      (hamount : amount ≤ (r.agents tx.sender).stake)
      (hfloor : (r.agents tx.sender).active = false
        ∨ minStake ≤ (r.agents tx.sender).stake - amount)
      (htotal : r'.totalStaked = r.totalStaked)
      (hbalance : r'.balance = r.balance) :
      StakeEffect r tx (.requestWithdrawal amount) r'
  | executed {r' : AgentRegistry} (amount : Nat)
      (hamount : amount = r.withdrawalRequestAmount tx.sender)
      (hle : amount ≤ (r.agents tx.sender).stake)
      (hentry : Entry r r' tx.sender { r.agents tx.sender with
        stake := (r.agents tx.sender).stake - amount } 0)
      (htotal : r'.totalStaked + amount = r.totalStaked)
      (hbalance : r'.balance + amount = r.balance) :
      StakeEffect r tx .executeWithdrawal r'
  | cancelled {r' : AgentRegistry}
      (hentry : Entry r r' tx.sender (r.agents tx.sender) 0)
      (htotal : r'.totalStaked = r.totalStaked)
      (hbalance : r'.balance = r.balance) :
      StakeEffect r tx .cancelWithdrawal r'
  | deactivated {r' : AgentRegistry}
      (hentry : Entry r r' tx.sender
        { r.agents tx.sender with active := false }
        (r.withdrawalRequestAmount tx.sender))
      (htotal : r'.totalStaked = r.totalStaked)
      (hbalance : r'.balance = r.balance) :
      StakeEffect r tx .deactivate r'
  | reactivated {r' : AgentRegistry}
      (hentry : Entry r r' tx.sender
        { r.agents tx.sender with active := true }
        (r.withdrawalRequestAmount tx.sender))
      (hfloor : minStake ≤ (r.agents tx.sender).stake)
      (htotal : r'.totalStaked = r.totalStaked)
      (hbalance : r'.balance = r.balance) :
      StakeEffect r tx .reactivate r'
  | slashed {a : Address} {r' : AgentRegistry} (amount : Nat)
      (hle : amount ≤ (r.agents a).stake)
      (hentry : Entry r r' a
        { r.agents a with stake := (r.agents a).stake - amount }
        (r.withdrawalRequestAmount a))
      (htotal : r'.totalStaked + amount = r.totalStaked)
      (hbalance : r'.balance + amount = r.balance) :
      StakeEffect r tx (.slash a) r'
  /-- An agent's trades or copiers. -/
  | noted {c : RegistryCall} {a : Address} {r' : AgentRegistry} (x : Agent)
      (hc : c.aside = true) (hstake : x.stake = (r.agents a).stake)
      (hactive : x.active = (r.agents a).active)
      (hentry : Entry r r' a x (r.withdrawalRequestAmount a))
      (htotal : r'.totalStaked = r.totalStaked)
      (hbalance : r'.balance = r.balance) : StakeEffect r tx c r'
  | kept {c : RegistryCall} {r' : AgentRegistry} (hc : c.aside = true)
      (hregistered : r'.isRegistered = r.isRegistered)
      (hagents : r'.agents = r.agents)
      (hrequests : r'.withdrawalRequestAmount = r.withdrawalRequestAmount)
      (htotal : r'.totalStaked = r.totalStaked)
      (hbalance : r.balance ≤ r'.balance) : StakeEffect r tx c r'

section Effects

variable {r r' : AgentRegistry} {tx : Tx} {c : RegistryCall}

theorem register_effect {name : List Nat} (h : r.register tx name = .ok r') :
    StakeEffect r tx (.register name) r' := by
  obtain ⟨_, -, _, hnew, _, hvalue, _, -, h⟩ := bind_ok₄.mp h
  cases h
  exact .registered _ (require_ok.mp hnew) (require_ok.mp hvalue) rfl rfl rfl
    rfl rfl rfl

theorem addStake_effect (h : r.addStake tx = .ok r') :
    StakeEffect r tx .addStake r' := by
  obtain ⟨_, -, _, hregistered, _, -, h⟩ := bind_ok₃.mp h
  have hregistered := require_ok.mp hregistered
  by_cases hpending : 0 < r.withdrawalRequestAmount tx.sender
  · rw [if_pos hpending] at h
    cases h
    exact .added ⟨hregistered, rfl, rfl, rfl⟩ rfl rfl
  · rw [if_neg hpending] at h
    cases h
    refine .added ⟨hregistered, rfl, rfl, ?_⟩ rfl rfl
    have hnone : r.withdrawalRequestAmount tx.sender = 0 := by omega
    show r.withdrawalRequestAmount = _
    rw [← hnone, update_eq_self]

theorem requestWithdrawal_effect {amount : Nat}
    (h : r.requestWithdrawal tx amount = .ok r') :
    StakeEffect r tx (.requestWithdrawal amount) r' := by
  obtain ⟨_, hregistered, _, -, _, hamount, _, hfloor, h⟩ := bind_ok₄.mp h
  obtain ⟨_, -, _, -, h⟩ := bind_ok₂.mp h
  cases h
  refine .requested ⟨require_ok.mp hregistered, rfl, ?_, rfl⟩
    (require_ok.mp hamount).2 (require_ok.mp hfloor) rfl rfl
  exact (update_eq_self ..).symm

theorem executeWithdrawal_effect (h : r.executeWithdrawal tx = .ok r') :
    StakeEffect r tx .executeWithdrawal r' := by
  obtain ⟨_, hregistered, h⟩ := bind_ok.mp h
  iterate 4 obtain ⟨_, -, h⟩ := bind_ok.mp h
  obtain ⟨_, hstake, _, htotal, left, hsent, h⟩ := bind_ok₃.mp h
  obtain ⟨hbalance, -, rfl⟩ := sendEther_ok.mp hsent
  cases h
  exact .executed _ rfl (require_ok.mp hstake)
    ⟨require_ok.mp hregistered, rfl, rfl, rfl⟩
    (Nat.sub_add_cancel (require_ok.mp htotal)) (Nat.sub_add_cancel hbalance)

theorem slash_effect {sender a : Address} (h : r.slash tx sender a = .ok r') :
    StakeEffect r tx (.slash a) r' := by
  obtain ⟨_, -, _, hregistered, _, htotal, left, hsent, h⟩ := bind_ok₄.mp h
  obtain ⟨hbalance, -, rfl⟩ := sendEther_ok.mp hsent
  cases h
  exact .slashed _ (Nat.min_le_right _ _)
    ⟨require_ok.mp hregistered, rfl, rfl, (update_eq_self ..).symm⟩
    (Nat.sub_add_cancel (require_ok.mp htotal)) (Nat.sub_add_cancel hbalance)

theorem noted_setAgent {a : Address} {x : Agent} (hc : c.aside = true)
    (hregistered : r.isRegistered a = true)
    (hstake : x.stake = (r.agents a).stake)
    (hactive : x.active = (r.agents a).active) :
    StakeEffect r tx c (r.setAgent a x) :=
  .noted x hc hstake hactive ⟨hregistered, rfl, rfl, (update_eq_self ..).symm⟩
    rfl rfl

theorem recordTrade_effect {sender a : Address} {pnl : Int}
    {successful : Bool} (h : r.recordTrade sender a pnl successful = .ok r') :
    StakeEffect r tx (.recordTrade a pnl successful) r' := by
  obtain ⟨_, -, _, hregistered, h⟩ := bind_ok₂.mp h
  iterate 3 obtain ⟨_, -, h⟩ := bind_ok.mp h
  cases h
  exact noted_setAgent rfl (require_ok.mp hregistered) rfl rfl

theorem updateCopiers_effect {sender a : Address} {increment : Bool}
    (h : r.updateCopiers sender a increment = .ok r') :
    StakeEffect r tx (.updateCopiers a increment) r' := by
  obtain ⟨_, -, _, hregistered, h⟩ := bind_ok₂.mp h
  have hregistered := require_ok.mp hregistered
  cases increment with
  | true =>
    obtain ⟨_, -, h⟩ := bind_ok.mp h
    cases h
    exact noted_setAgent rfl hregistered rfl rfl
  | false =>
    dsimp only at h
    by_cases hsome : 0 < (r.agents a).copiers
    · rw [if_neg (by decide), if_pos hsome] at h
      cases h
      exact noted_setAgent rfl hregistered rfl rfl
    · rw [if_neg (by decide), if_neg hsome] at h
      cases h
      exact .kept rfl rfl rfl rfl rfl (Nat.le_refl _)

theorem stake_effect (h : r.call tx c = .ok r') : StakeEffect r tx c r' := by
  obtain ⟨_, -, h⟩ := bind_ok.mp h
  cases c with
  | register name => exact register_effect h
  | addStake => exact addStake_effect h
  | requestWithdrawal amount => exact requestWithdrawal_effect h
  | executeWithdrawal => exact executeWithdrawal_effect h
  | cancelWithdrawal =>
    obtain ⟨_, hregistered, _, -, h⟩ := bind_ok₂.mp h
    cases h
    exact .cancelled ⟨require_ok.mp hregistered, rfl, (update_eq_self ..).symm,
      rfl⟩ rfl rfl
  | deactivate =>
    obtain ⟨_, hregistered, _, -, h⟩ := bind_ok₂.mp h
    cases h
    exact .deactivated ⟨require_ok.mp hregistered, rfl, rfl,
      (update_eq_self ..).symm⟩ rfl rfl
  | reactivate =>
    obtain ⟨_, hregistered, _, -, _, hfloor, h⟩ := bind_ok₃.mp h
    cases h
    exact .reactivated ⟨require_ok.mp hregistered, rfl, rfl,
      (update_eq_self ..).symm⟩ (require_ok.mp hfloor) rfl rfl
  | recordTrade agent pnl successful => exact recordTrade_effect h
  | slash agent => exact slash_effect h
  | updateCopiers agent increment => exact updateCopiers_effect h
  | transferAdmin newAdmin =>
    obtain ⟨_, -, _, -, h⟩ := bind_ok₂.mp h
    cases h
    exact .kept rfl rfl rfl rfl rfl (Nat.le_refl _)
  | acceptAdmin =>
    obtain ⟨_, -, h⟩ := bind_ok.mp h
    cases h
    exact .kept rfl rfl rfl rfl rfl (Nat.le_refl _)
  | setDisputeResolver resolver =>
    obtain ⟨_, -, _, -, h⟩ := bind_ok₂.mp h
    cases h
    exact .kept rfl rfl rfl rfl rfl (Nat.le_refl _)
  | setVault vault =>
    obtain ⟨_, -, _, -, h⟩ := bind_ok₂.mp h
    cases h
    exact .kept rfl rfl rfl rfl rfl (Nat.le_refl _)
  | setPaused paused =>
    obtain ⟨_, -, _, -, h⟩ := bind_ok₂.mp h
    cases h
    exact .kept rfl rfl rfl rfl rfl (Nat.le_refl _)
  | receive =>
    cases h
    exact .kept rfl rfl rfl rfl rfl (Nat.le_add_right _ _)

end Effects

-- ==== the books

section Books

variable {r r' : AgentRegistry} {tx : Tx} {c : RegistryCall} {a : Address}
  {x : Agent} {amount : Nat}

theorem AgentRegistry.Books.entry (h : r.Books) (hentry : Entry r r' a x amount)
    (htotal : r'.totalStaked + (r.agents a).stake = r.totalStaked + x.stake)
    (hfunded : r'.totalStaked ≤ r'.balance) : r'.Books := by
  obtain ⟨agentList, hnodup, hmem, hsum⟩ := h.stakes
  refine ⟨⟨agentList, hnodup, ?_, ?_⟩, hfunded⟩
  · rw [hentry.isRegistered]
    exact hmem
  · have hput := sum_update (fun agent : Agent => agent.stake) r.agents x hnodup
      ((hmem a).mpr hentry.registered)
    rw [hentry.agents]
    omega

theorem AgentRegistry.Books.unmoved (h : r.Books)
    (hentry : Entry r r' a x amount) (hstake : x.stake = (r.agents a).stake)
    (htotal : r'.totalStaked = r.totalStaked)
    (hbalance : r'.balance = r.balance) : r'.Books := by
  refine h.entry hentry (by omega) ?_
  rw [htotal, hbalance]
  exact h.funded

theorem AgentRegistry.Books.register (h : r.Books)
    (hnew : r.isRegistered a = false)
    (hregistered : r'.isRegistered = update r.isRegistered a true)
    (hagents : r'.agents = update r.agents a x)
    (htotal : r'.totalStaked = r.totalStaked + x.stake)
    (hfunded : r'.totalStaked ≤ r'.balance) : r'.Books := by
  obtain ⟨agentList, hnodup, hmem, hsum⟩ := h.stakes
  have hfresh : a ∉ agentList := by
    intro ha
    rw [(hmem a).mp ha] at hnew
    cases hnew
  refine ⟨⟨agentList ++ [a], ?_, ?_, ?_⟩, hfunded⟩
  · exact List.nodup_append.mpr ⟨hnodup, List.nodup_singleton _, by
      intro b hb b' hb' heq
      rw [List.mem_singleton.mp hb'] at heq
      exact hfresh (heq ▸ hb)⟩
  · intro b
    rw [hregistered, List.mem_append, List.mem_singleton, hmem]
    by_cases hb : b = a
    · subst hb
      simp
    · rw [update_of_ne hb]
      simp [hb]
  · rw [sum_append_single, hagents, update_self]
    have hold := sum_update_of_not_mem (fun agent : Agent => agent.stake)
      r.agents x hfresh
    omega

theorem AgentRegistry.Books.step (h : r.Books)
    (heffect : StakeEffect r tx c r') : r'.Books := by
  have hfunded := h.funded
  cases heffect with
  | registered x hnew hvalue hstake hregistered hagents hrequests htotal
      hbalance =>
    exact h.register hnew hregistered hagents (by omega) (by omega)
  | added hentry htotal hbalance =>
    refine h.entry hentry ?_ (by omega)
    show r'.totalStaked + _ = r.totalStaked + (_ + tx.value)
    omega
  | requested hentry hamount hfloor htotal hbalance =>
    exact h.unmoved hentry rfl htotal hbalance
  | executed amount hamount hle hentry htotal hbalance =>
    refine h.entry hentry ?_ (by omega)
    show r'.totalStaked + _ = r.totalStaked + (_ - amount)
    omega
  | cancelled hentry htotal hbalance =>
    exact h.unmoved hentry rfl htotal hbalance
  | deactivated hentry htotal hbalance =>
    exact h.unmoved hentry rfl htotal hbalance
  | reactivated hentry hfloor htotal hbalance =>
    exact h.unmoved hentry rfl htotal hbalance
  | slashed amount hle hentry htotal hbalance =>
    refine h.entry hentry ?_ (by omega)
    show r'.totalStaked + _ = r.totalStaked + (_ - amount)
    omega
  | noted x hc hstake hactive hentry htotal hbalance =>
    exact h.unmoved hentry hstake htotal hbalance
  | kept hc hregistered hagents hrequests htotal hbalance =>
    obtain ⟨agentList, hnodup, hmem, hsum⟩ := h.stakes
    refine ⟨⟨agentList, hnodup, ?_, ?_⟩, by omega⟩
    · rw [hregistered]
      exact hmem
    · rw [htotal, hagents]
      exact hsum

-- ==== the floor

variable {b : Address}

theorem Entry.below (hentry : Entry r r' a x amount)
    (h : r'.Below b) : (b = a ∧ x.active = true ∧ x.stake < minStake)
      ∨ (b ≠ a ∧ r.Below b) := by
  unfold AgentRegistry.Below at h ⊢
  rw [hentry.agents] at h
  by_cases hb : b = a
  · subst hb
    rw [update_self] at h
    exact Or.inl ⟨rfl, h⟩
  · rw [update_of_ne hb] at h
    exact Or.inr ⟨hb, h⟩

theorem Entry.keeps (hentry : Entry r r' a x amount)
    (hactive : x.active = true → (r.agents a).active = true)
    (hstake : (r.agents a).stake ≤ x.stake)
    (h : r'.Below b) : r.Below b := by
  rcases hentry.below h with ⟨rfl, hact, hlow⟩ | ⟨-, hbelow⟩
  · exact ⟨hactive hact, by omega⟩
  · exact hbelow

theorem StakeEffect.keeps (heffect : StakeEffect r tx c r')
    (hc : c ≠ .executeWithdrawal) (h : r'.Below b) :
    (∃ a, c = .slash a) ∨ r.Below b := by
  cases heffect with
  | executed => exact absurd rfl hc
  | slashed => exact Or.inl ⟨_, rfl⟩
  | registered x hnew hvalue hstake hregistered hagents =>
    obtain ⟨hactive, hlow⟩ := h
    rw [hagents] at hactive hlow
    by_cases hb : b = tx.sender
    · rw [hb, update_self] at hlow
      omega
    · rw [update_of_ne hb] at hactive hlow
      exact Or.inr ⟨hactive, hlow⟩
  | added hentry => exact Or.inr (hentry.keeps id (Nat.le_add_right _ _) h)
  | requested hentry => exact Or.inr (hentry.keeps id (Nat.le_refl _) h)
  | cancelled hentry => exact Or.inr (hentry.keeps id (Nat.le_refl _) h)
  | deactivated hentry =>
    exact Or.inr (hentry.keeps (fun h => by cases h) (Nat.le_refl _) h)
  | reactivated hentry hfloor =>
    rcases hentry.below h with ⟨-, -, hlow⟩ | ⟨-, hold⟩
    · change (r.agents tx.sender).stake < minStake at hlow
      omega
    · exact Or.inr hold
  | noted x hc hstake hactive hentry =>
    exact Or.inr (hentry.keeps (fun h => hactive ▸ h)
      (Nat.le_of_eq hstake.symm) h)
  | kept hc hregistered hagents =>
    unfold AgentRegistry.Below at h ⊢
    rw [hagents] at h
    exact Or.inr h

theorem executed_below (heffect : StakeEffect r tx .executeWithdrawal r') :
    ¬ r'.Below tx.sender
      ↔ (r.agents tx.sender).active = false
        ∨ minStake + r.withdrawalRequestAmount tx.sender
          ≤ (r.agents tx.sender).stake := by
  cases heffect with
  | noted x hc => cases hc
  | kept hc => cases hc
  | executed amount hamount hle hentry htotal hbalance =>
    subst hamount
    unfold AgentRegistry.Below
    rw [hentry.agents, update_self]
    dsimp only
    cases (r.agents tx.sender).active with
    | false => simp
    | true =>
      simp only [true_and, Nat.not_lt, Bool.true_eq_false, false_or]
      omega

theorem executed_keeps (heffect : StakeEffect r tx .executeWithdrawal r')
    (hself : ¬ r'.Below tx.sender) (h : r'.Below b) :
    r.Below b := by
  cases heffect with
  | noted x hc => cases hc
  | kept hc => cases hc
  | executed amount hamount hle hentry htotal hbalance =>
    rcases hentry.below h with ⟨rfl, -⟩ | ⟨-, hold⟩
    · exact absurd h hself
    · exact hold

theorem keepsFloor_iff {a : RegistryAction}
    (hstep : AgentRegistry.step a r = .ok r') :
    KeepsFloor a r ↔ StillCovered a r := by
  obtain ⟨tx, c⟩ := a
  have heffect : StakeEffect r tx c r' := stake_effect hstep
  constructor
  · intro h hc
    dsimp only at hc
    subst hc
    exact (executed_below heffect).mp ((h r' hstep).1 rfl)
  · intro h r'' hstep'
    rw [hstep] at hstep'
    cases hstep'
    by_cases hc : c = .executeWithdrawal
    · subst hc
      have hself := (executed_below heffect).mpr (h rfl)
      exact ⟨fun _ => hself, fun b hbelow =>
        Or.inr (executed_keeps heffect hself hbelow)⟩
    · exact ⟨fun h => absurd h hc, fun b hbelow => heffect.keeps hc hbelow⟩

-- ==== pending requests

/-- What is pending could still be requested. -/
def AgentRegistry.Pending (r : AgentRegistry) : Prop :=
  ∀ a, r.withdrawalRequestAmount a ≠ 0 → r.isRegistered a = true
    ∧ ((r.agents a).active = false
      ∨ minStake + r.withdrawalRequestAmount a ≤ (r.agents a).stake)

theorem AgentRegistry.Pending.entry (h : r.Pending)
    (hentry : Entry r r' a x amount)
    (hpending : amount ≠ 0 → x.active = false ∨ minStake + amount ≤ x.stake) :
    r'.Pending := by
  intro b hb
  rw [hentry.requests] at hb ⊢
  rw [hentry.isRegistered, hentry.agents]
  by_cases hba : b = a
  · subst hba
    rw [update_self] at hb ⊢
    rw [update_self]
    exact ⟨hentry.registered, hpending hb⟩
  · rw [update_of_ne hba] at hb ⊢
    rw [update_of_ne hba]
    exact h b hb

theorem AgentRegistry.Pending.step {a : RegistryAction} (h : r.Pending)
    (hcond : Unshaken a r) (hstep : AgentRegistry.step a r = .ok r') :
    r'.Pending := by
  obtain ⟨tx, c⟩ := a
  have heffect : StakeEffect r tx c r' := stake_effect hstep
  cases heffect with
  | registered x hnew hvalue hstake hregistered hagents hrequests =>
    intro b hb
    rw [hrequests] at hb ⊢
    obtain ⟨hb', hpending⟩ := h b hb
    have hne : b ≠ tx.sender := by
      rintro rfl
      rw [hnew] at hb'
      cases hb'
    rw [hregistered, hagents, update_of_ne hne, update_of_ne hne]
    exact ⟨hb', hpending⟩
  | added hentry => exact h.entry hentry fun h => absurd rfl h
  | requested hentry hamount hfloor =>
    refine h.entry hentry fun hsome => ?_
    rcases hfloor with hinactive | hfloor
    · exact Or.inl hinactive
    · right
      unfold minStake at hfloor ⊢
      omega
  | executed amount hamount hle hentry =>
    exact h.entry hentry fun h => absurd rfl h
  | cancelled hentry => exact h.entry hentry fun h => absurd rfl h
  | deactivated hentry => exact h.entry hentry fun _ => Or.inl rfl
  | reactivated hentry hfloor =>
    exact h.entry hentry fun hsome => absurd hcond hsome
  | slashed amount hle hentry =>
    exact h.entry hentry fun hsome => absurd hcond hsome
  | noted x hc hstake hactive hentry =>
    refine h.entry hentry fun hsome => ?_
    rw [hactive, hstake]
    exact (h _ hsome).2
  | kept hc hregistered hagents hrequests =>
    intro b hb
    rw [hrequests] at hb ⊢
    rw [hregistered, hagents]
    exact h b hb

end Books

-- ==== runs

theorem stillCovered_of_pending {a : RegistryAction} {r r' : AgentRegistry}
    (h : r.Pending) (hstep : AgentRegistry.step a r = .ok r') :
    StillCovered a r := by
  obtain ⟨tx, c⟩ := a
  rintro hc
  dsimp only at hc
  subst hc
  obtain ⟨_, -, _, -, _, hsome, -⟩ := bind_ok₃.mp hstep
  exact (h _ (require_ok.mp hsome)).2

/-- The stakes are covered and counted in every state; and the minimum is
kept in a run exactly if every withdrawal is covered when it is executed,
as it is where no agent becomes active again or is slashed while its
withdrawal is pending. -/
theorem stake_kept {r₀ r : AgentRegistry} {tr : List RegistryAction}
    (h₀ : r₀.Deployed) (hrun : run AgentRegistry.step r₀ tr = .ok r) :
    r.Books
      ∧ (Meets AgentRegistry.step KeepsFloor r₀ tr
        ↔ Meets AgentRegistry.step StillCovered r₀ tr)
      ∧ (Meets AgentRegistry.step Unshaken r₀ tr →
        Meets AgentRegistry.step StillCovered r₀ tr) := by
  have hbooks₀ : r₀.Books := by
    refine ⟨⟨[], List.nodup_nil, ?_, ?_⟩, ?_⟩
    · intro a
      rw [h₀.isRegistered a]
      simp
    · rw [h₀.totalStaked]
      rfl
    · rw [h₀.totalStaked]
      exact Nat.zero_le _
  have hpending₀ : r₀.Pending := fun a ha => absurd (h₀.requests a) ha
  refine ⟨?_, meets_congr (fun a r r' => keepsFloor_iff) hrun, ?_⟩
  · exact run_induct (fun a r r' h hstep => h.step (stake_effect hstep))
      hbooks₀ hrun
  · exact meets_of_induct (I := AgentRegistry.Pending)
      (fun a r r' h hcond hstep =>
        ⟨stillCovered_of_pending h hstep, h.step hcond hstep⟩) hpending₀ hrun

-- ==== examples

namespace Concrete

/-- The registry of an admin, with its vault. -/
def registry : AgentRegistry where
  agents := fun _ => Agent.empty
  isRegistered := fun _ => false
  withdrawalRequestTime := fun _ => 0
  withdrawalRequestAmount := fun _ => 0
  admin := 1
  pendingAdmin := 0
  disputeResolver := 2
  vault := 3
  totalStaked := 0
  totalSlashed := 0
  paused := false
  balance := 0

theorem registry_deployed : registry.Deployed :=
  ⟨fun _ => rfl, fun _ => rfl, fun _ => rfl, rfl⟩

def call (sender value timestamp : Nat) (c : RegistryCall) :
    RegistryAction :=
  (⟨⟨sender, value, timestamp⟩, []⟩, c)

/-- `abc`. -/
def agentName : List Nat := [97, 98, 99]

/-- An agent that is inactive takes back half of its stake, and a slash
follows. -/
def coveredRun : List RegistryAction :=
  [call 7 (2 * minStake) 0 (.register agentName), call 7 0 10 .deactivate,
    call 7 0 20 (.requestWithdrawal minStake),
    call 7 0 604820 .executeWithdrawal, call 7 0 604830 .reactivate,
    call 3 0 604840 (.slash 7)]

/-- It asks for all of its stake while it is inactive, and is active again
when it gets it. -/
def emptiedRun : List RegistryAction :=
  [call 7 minStake 0 (.register agentName), call 7 0 10 .deactivate,
    call 7 0 20 (.requestWithdrawal minStake), call 7 0 30 .reactivate,
    call 7 0 604820 .executeWithdrawal]

/-- An active agent leaves the minimum, and is slashed in between. -/
def slashedRun : List RegistryAction :=
  [call 7 (2 * minStake) 0 (.register agentName),
    call 7 0 20 (.requestWithdrawal minStake), call 3 0 30 (.slash 7),
    call 7 0 604820 .executeWithdrawal]

end Concrete

theorem stake_kept_covered :
    ∃ r, run AgentRegistry.step Concrete.registry Concrete.coveredRun = .ok r
      ∧ r.Books
      ∧ Meets AgentRegistry.step KeepsFloor Concrete.registry
        Concrete.coveredRun := by
  obtain ⟨r, hrun, -⟩ := check_ok (show Exec.check
      (fun r : AgentRegistry => decide (r.totalStaked = 90000000000000000))
      (run AgentRegistry.step Concrete.registry Concrete.coveredRun) = true
    by decide)
  have hcovered : Meets AgentRegistry.step StillCovered Concrete.registry
      Concrete.coveredRun := by
    apply meets_of_check fun a r h => of_decide_eq_true (p := StillCovered a r) h
    decide
  obtain ⟨hbooks, hiff, -⟩ := stake_kept Concrete.registry_deployed hrun
  exact ⟨r, hrun, hbooks, hiff.mpr hcovered⟩

theorem floor_broken {r₀ r : AgentRegistry} {tr : List RegistryAction} {tx : Tx}
    (hrun : run AgentRegistry.step r₀ (tr ++ [(tx, .executeWithdrawal)])
      = .ok r) (hbelow : r.Below tx.sender) :
    ¬ Meets AgentRegistry.step KeepsFloor r₀
      (tr ++ [(tx, .executeWithdrawal)]) := by
  intro hmeets
  obtain ⟨m, hprefix, hlast⟩ := run_append.mp hrun
  obtain ⟨r', hstep, hend⟩ := run_cons.mp hlast
  cases hend
  have hkeeps := meets_iff_cut.mp hmeets tr _ [] m rfl hprefix
  exact (hkeeps r hstep).1 rfl hbelow

/-- A withdrawal leaves an active agent with nothing, another one with
less than the minimum. -/
theorem stake_below :
    Concrete.registry.Deployed
      ∧ (∃ r, run AgentRegistry.step Concrete.registry Concrete.emptiedRun
          = .ok r ∧ (r.agents 7).active = true ∧ (r.agents 7).stake = 0)
      ∧ ¬ Meets AgentRegistry.step KeepsFloor Concrete.registry
        Concrete.emptiedRun
      ∧ ¬ Meets AgentRegistry.step KeepsFloor Concrete.registry
        Concrete.slashedRun := by
  obtain ⟨r, hrun, hempty⟩ := check_ok (show Exec.check
      (fun r : AgentRegistry => decide (((r.agents 7).active = true
        ∧ (r.agents 7).stake = 0) ∧ r.Below 7))
      (run AgentRegistry.step Concrete.registry Concrete.emptiedRun) = true
    by decide)
  obtain ⟨r', hrun', hlow⟩ := check_ok (show Exec.check
      (fun r : AgentRegistry => decide (r.Below 7))
      (run AgentRegistry.step Concrete.registry Concrete.slashedRun) = true
    by decide)
  obtain ⟨hnothing, hbelow⟩ := of_decide_eq_true hempty
  refine ⟨Concrete.registry_deployed, ⟨r, hrun, hnothing⟩, ?_, ?_⟩
  · exact @floor_broken _ r (Concrete.emptiedRun.take 4)
      ⟨⟨7, 0, 604820⟩, []⟩ hrun hbelow
  · exact @floor_broken _ r' (Concrete.slashedRun.take 3)
      ⟨⟨7, 0, 604820⟩, []⟩ hrun' (of_decide_eq_true hlow)

end KamiyoProtocol.Hyperliquid
