/-
The modular vault beside `KamiyoVault`.

Both get the same calls at the same times, each with a registry of its
own. They agree as long as the modules need no ether of their own: the
position module sends what a close pays from its own balance, though every
deposit went to the core, and the dispute module is no vault to the
registry.
-/
import KamiyoProtocol.Hyperliquid.ModularVault
import KamiyoProtocol.Hyperliquid.CopierCounts

namespace KamiyoProtocol.Hyperliquid

open Exec Evm Function

-- ==== two registries

/-- The registry with another vault. -/
def AgentRegistry.under (r : AgentRegistry) (vault : Address) :
    AgentRegistry :=
  { r with vault := vault }

theorem map_bind {E α β γ : Type} (x : Except E α) (f : α → Except E β)
    (g : β → γ) : (x >>= f).map g = x >>= fun a => (f a).map g := by
  cases x with
  | error => rfl
  | ok => rfl

section Registry

variable {r : AgentRegistry} {v sender sender' agent : Address} {tx : Tx}

theorem addStake_under :
    (r.under v).addStake tx = (r.addStake tx).map fun r => r.under v := by
  have hsame : (r.under v).withdrawalRequestAmount
      = r.withdrawalRequestAmount := rfl
  unfold AgentRegistry.addStake
  simp only [map_bind, hsame]
  by_cases hpending : 0 < r.withdrawalRequestAmount tx.sender
  · simp only [if_pos hpending]
    rfl
  · simp only [if_neg hpending]
    rfl

/-- Two callers that the registries know alike. -/
def Alike (r : AgentRegistry) (v sender sender' : Address) : Prop :=
  (r.under v).onlyVaultOrAdmin sender' = r.onlyVaultOrAdmin sender

theorem alike_vault : Alike r v r.vault v := by
  have hv : v = (r.under v).vault ∨ v = (r.under v).admin := Or.inl rfl
  unfold Alike AgentRegistry.onlyVaultOrAdmin require
  rw [if_pos hv, if_pos (Or.inl rfl)]

theorem alike_outside (hvault : sender ≠ r.vault) (hv : sender ≠ v) :
    Alike r v sender sender := by
  unfold Alike AgentRegistry.onlyVaultOrAdmin require
  have hiff : (sender = (r.under v).vault ∨ sender = (r.under v).admin)
      ↔ (sender = r.vault ∨ sender = r.admin) := by
    show (sender = v ∨ sender = r.admin) ↔ _
    rw [or_iff_right hv, or_iff_right hvault]
  by_cases hadmin : sender = r.vault ∨ sender = r.admin
  · rw [if_pos hadmin, if_pos (hiff.mpr hadmin)]
  · rw [if_neg hadmin, if_neg (fun h => hadmin (hiff.mp h))]

theorem recordTrade_under {pnl : Int} {successful : Bool}
    (h : Alike r v sender sender') :
    (r.under v).recordTrade sender' agent pnl successful
      = (r.recordTrade sender agent pnl successful).map
        fun r => r.under v := by
  unfold AgentRegistry.recordTrade
  rw [h]
  simp only [map_bind]
  rfl

theorem slash_under (h : Alike r v sender sender') :
    (r.under v).slash tx sender' agent
      = (r.slash tx sender agent).map fun r => r.under v := by
  unfold AgentRegistry.slash
  rw [h]
  simp only [map_bind]
  rfl

theorem updateCopiers_under {increment : Bool} (h : Alike r v sender sender') :
    (r.under v).updateCopiers sender' agent increment
      = (r.updateCopiers sender agent increment).map fun r => r.under v := by
  have hsame : (r.under v).agents = r.agents := rfl
  unfold AgentRegistry.updateCopiers
  rw [h]
  simp only [map_bind, hsame]
  cases increment with
  | true =>
    simp only [if_true, map_bind]
    rfl
  | false =>
    simp only [Bool.false_eq_true, if_false]
    by_cases hpos : 0 < (r.agents agent).copiers
    · simp only [if_pos hpos]
      rfl
    · simp only [if_neg hpos]
      rfl

theorem call_under {c : RegistryCall} (hvault : tx.sender ≠ r.vault)
    (hv : tx.sender ≠ v) (hc : ∀ a, c ≠ .setVault a) :
    (r.under v).call tx c = (r.call tx c).map fun r => r.under v := by
  have halike := alike_outside hvault hv
  unfold AgentRegistry.call
  rw [map_bind]
  congr 1
  funext _
  cases c with
  | register name =>
    show (r.under v).register tx name = _
    simp only [AgentRegistry.register, map_bind]
    rfl
  | addStake => exact addStake_under
  | requestWithdrawal amount =>
    show (r.under v).requestWithdrawal tx amount = _
    simp only [AgentRegistry.requestWithdrawal, map_bind]
    rfl
  | executeWithdrawal =>
    show (r.under v).executeWithdrawal tx = _
    simp only [AgentRegistry.executeWithdrawal, map_bind]
    rfl
  | cancelWithdrawal =>
    show (r.under v).cancelWithdrawal tx = _
    simp only [AgentRegistry.cancelWithdrawal, map_bind]
    rfl
  | deactivate =>
    show (r.under v).deactivate tx = _
    simp only [AgentRegistry.deactivate, map_bind]
    rfl
  | reactivate =>
    show (r.under v).reactivate tx = _
    simp only [AgentRegistry.reactivate, map_bind]
    rfl
  | recordTrade => exact recordTrade_under halike
  | slash => exact slash_under halike
  | updateCopiers => exact updateCopiers_under halike
  | transferAdmin =>
    simp only [map_bind]
    rfl
  | acceptAdmin =>
    simp only [map_bind]
    rfl
  | setDisputeResolver =>
    simp only [map_bind]
    rfl
  | setVault a => exact absurd rfl (hc a)
  | setPaused =>
    simp only [map_bind]
    rfl
  | receive => rfl

end Registry

-- ==== side by side

/-- Both vaults, at their addresses. -/
structure BothEnv where
  chain : Env
  modules : Modules

/-- The modular vault with the storage and the registry of another, but for
its own ether and the registry's vault. -/
def ModularVault.beside (modules : Modules) (m : ModularVault) (w : World)
    (balance : Nat) : ModularVault :=
  { m with
    core := { m.core with
      toKamiyoVault := { w.vault with
        toVaultBook := { w.vault.toVaultBook with balance := balance } } }
    registry := w.registry.under modules.position }

/-- The modular vault is in the state of the other, and has no less ether
in its core. -/
structure Beside (env : BothEnv) (w : World) (m : ModularVault) : Prop where
  same : m = m.beside env.modules w m.core.balance
  balance : w.vault.balance ≤ m.core.balance
  position : m.core.positionModule = env.modules.position
  dispute : m.core.disputeModule = env.modules.dispute

/-- Both calls fail, or both succeed and leave the vaults side by side. -/
def Matches (env : BothEnv) (x : Except String World)
    (y : Except String ModularVault) : Prop :=
  (∃ e, x = .error e ∧ y = .error e)
    ∨ ∃ w m, x = .ok w ∧ y = .ok m ∧ Beside env w m

/-- What `KamiyoVault` relies on beside its counters: it can pay every
position, which has some value, and asks no limits contract. -/
structure Paying (env : BothEnv) (w : World) : Prop where
  kept : Kept w.vault.toVaultBook
  accounted : Accounted env.chain w
  full : ∀ id, (w.vault.positions id).active = true →
    0 < (w.vault.positions id).currentValue
  unpaused : w.vault.paused = false
  unlimited : w.vault.reputationLimits = zeroAddress

variable {c : VaultCall}

section Calls

variable {env : BothEnv} {w : World} {m : ModularVault} {tx : Tx}

theorem Matches.of_map {x : Except String World}
    {y : Except String ModularVault} (g : World → ModularVault)
    (hmap : y = x.map g) (hg : ∀ w', x = .ok w' → Beside env w' (g w')) :
    Matches env x y := by
  cases hx : x with
  | error e =>
    left
    rw [hx] at hmap
    exact ⟨e, rfl, hmap⟩
  | ok w' =>
    right
    rw [hx] at hmap
    exact ⟨w', g w', rfl, hmap, hg w' hx⟩

theorem require_true {c : Prop} [Decidable c] {e : String} (h : c) :
    require c e = .ok () :=
  if_pos h

theorem require_false {c : Prop} [Decidable c] {e : String} (h : ¬ c) :
    require c e = .error e :=
  if_neg h

theorem ok_bind {α β : Type} (a : α) (f : α → Except String β) :
    (Except.ok a >>= f) = f a :=
  rfl

theorem map_then {α β γ : Type} (x : Except String α) (g : α → β)
    (f : β → Except String γ) : (x.map g >>= f) = x >>= fun a => f (g a) := by
  cases x with
  | error => rfl
  | ok => rfl

theorem bind_congr {α β : Type} {x : Except String α}
    {f g : α → Except String β} (h : ∀ a, x = .ok a → f a = g a) :
    (x >>= f) = (x >>= g) := by
  cases hx : x with
  | error => rfl
  | ok a => exact h a hx

theorem updateCopiers_beside (hw : Paying env w) {agent : Address}
    {increment : Bool} {balance : Nat} :
    (m.beside env.modules w balance).registry.updateCopiers
        env.modules.position agent increment
      = (w.registry.updateCopiers env.chain.this agent increment).map
        fun r => r.under env.modules.position := by
  rw [← hw.accounted.vault]
  exact updateCopiers_under alike_vault

theorem onlyModule_position (h : Beside env w m) :
    m.core.onlyModule env.modules.position = .ok () :=
  require_true (Or.inl h.position.symm)

theorem open_matches {agent : Address} {minReturnBps : Int}
    {lockPeriod : Nat} (hw : Paying env w) (h : Beside env w m) :
    Matches env
      (w.openPosition env.chain tx agent minReturnBps lockPeriod)
      (m.openPosition env.modules tx agent minReturnBps lockPeriod) := by
  refine Matches.of_map
    (fun w' => m.beside env.modules w' (m.core.balance + tx.value)) ?_ ?_
  · have htier : w.withinTier tx agent = .ok () := if_pos hw.unlimited
    have hmodule := onlyModule_position h
    rw [h.same] at hmodule
    conv_lhs => rw [h.same]
    unfold World.openPosition ModularVault.openPosition
    rw [require_true hw.unpaused, ok_bind, hmodule, htier]
    simp only [map_bind, ok_bind, updateCopiers_beside hw, map_then]
    rfl
  · intro w' hopen
    refine ⟨rfl, ?_, h.position, h.dispute⟩
    have heffect := openPosition_effect hopen
    cases heffect with
    | opened hdeposit htier hagent hnoted hlimits hbooks =>
      rw [hbooks.book]
      exact Nat.add_le_add_right h.balance _
    | exited hexits => cases hexits
    | kept hconfigure => cases hconfigure

theorem file_matches {id : Nat} (h : Beside env w m) :
    Matches env (w.fileDispute tx id)
      (m.fileDispute env.modules tx id) := by
  refine Matches.of_map
    (fun w' => m.beside env.modules w' (m.core.balance + tx.value)) ?_ ?_
  · have hmodule : m.core.onlyModule env.modules.dispute = .ok () :=
      require_true (Or.inr h.dispute.symm)
    rw [h.same] at hmodule
    conv_lhs => rw [h.same]
    unfold World.fileDispute ModularVault.fileDispute
    rw [hmodule]
    simp only [map_bind, ok_bind]
    rfl
  · intro w' hfile
    refine ⟨rfl, ?_, h.position, h.dispute⟩
    have heffect := fileDispute_effect hfile
    cases heffect with
    | filed huser hfresh hregistry hbooks =>
      rw [hbooks.book]
      exact Nat.add_le_add_right h.balance _
    | exited hexits => cases hexits
    | kept hconfigure => cases hconfigure

/-- The ether a setting takes in. -/
def VaultCall.gets (tx : Tx) : VaultCall → Nat
  | .receive => tx.value
  | _ => 0

theorem configure_balance (tx : Tx) (v : KamiyoVault) (c : VaultCall)
    (balance : Nat) :
    KamiyoVault.configure { v with
        toVaultBook := { v.toVaultBook with balance := balance } } tx c
      = (v.configure tx c).map fun v' => { v' with
        toVaultBook := { v'.toVaultBook with
          balance := balance + c.gets tx } } := by
  cases c with
  | transferAdmin =>
    simp only [KamiyoVault.configure, map_bind]
    rfl
  | acceptAdmin =>
    simp only [KamiyoVault.configure, map_bind]
    rfl
  | setDisputeFee =>
    simp only [KamiyoVault.configure, map_bind]
    rfl
  | setDisputeResolver =>
    simp only [KamiyoVault.configure, map_bind]
    rfl
  | setFeeRecipient =>
    simp only [KamiyoVault.configure, map_bind]
    rfl
  | setReputationLimits =>
    simp only [KamiyoVault.configure, map_bind]
    rfl
  | setPaused =>
    simp only [KamiyoVault.configure, map_bind]
    rfl
  | _ => rfl

theorem configure_gets {v v' : KamiyoVault} (h : v.configure tx c = .ok v') :
    v'.balance = v.balance + c.gets tx := by
  have hsame := configure_balance tx v c v.balance
  rw [h] at hsame
  exact congrArg (fun x : KamiyoVault => x.balance)
    (Except.ok.inj hsame)

theorem configure_matches (h : Beside env w m) :
    Matches env
      (do
        let vault ← w.vault.configure tx c
        return { w with vault := vault })
      (do
        let vault ← m.core.configure tx c
        return { m with core := { m.core with toKamiyoVault := vault } }) := by
  refine Matches.of_map
    (fun w' => m.beside env.modules w' (m.core.balance + c.gets tx)) ?_ ?_
  · conv_lhs => rw [h.same]
    have hcore : (m.beside env.modules w m.core.balance).core.configure tx c
        = (w.vault.configure tx c).map fun v' => { v' with
          toVaultBook := { v'.toVaultBook with
            balance := m.core.balance + c.gets tx } } :=
      configure_balance tx w.vault c m.core.balance
    rw [hcore, map_then, map_bind]
    rfl
  · intro w' hok
    refine ⟨rfl, ?_, h.position, h.dispute⟩
    obtain ⟨v, hv, hok⟩ := bind_ok.mp hok
    cases hok
    show v.balance ≤ m.core.balance + c.gets tx
    rw [configure_gets hv]
    exact Nat.add_le_add_right h.balance _

theorem withdrawFees_matches (hw : Paying env w) (h : Beside env w m) :
    Matches env (w.withdrawFees tx) (m.withdrawFees tx) := by
  have hfees : w.vault.totalFees ≤ w.vault.balance := by
    have hsolvent := hw.kept.solvent
    unfold VaultBook.Solvent at hsolvent
    omega
  refine Matches.of_map (fun w' =>
    m.beside env.modules w' (m.core.balance - w.vault.totalFees)) ?_ ?_
  · conv_lhs => rw [h.same]
    unfold World.withdrawFees ModularVault.withdrawFees
    rw [map_bind]
    congr 1
    funext _
    have hsame : (m.beside env.modules w m.core.balance).core.totalFees
        = w.vault.totalFees := rfl
    simp only [hsame]
    by_cases hzero : w.vault.totalFees = 0
    · rw [if_pos hzero, if_pos hzero, hzero]
      rfl
    · rw [if_neg hzero, if_neg hzero, map_bind]
      have hcore : w.vault.totalFees
          ≤ (m.beside env.modules w m.core.balance).core.balance :=
        Nat.le_trans hfees h.balance
      rw [sendEther_funded hcore, sendEther_funded hfees, map_then, map_then]
      rfl
  · intro w' hok
    refine ⟨rfl, ?_, h.position, h.dispute⟩
    have heffect := withdrawFees_effect hok
    cases heffect with
    | withdrew hfunded hregistry hbooks =>
      rw [hbooks.book]
      exact Nat.sub_le_sub_right h.balance _
    | exited hexits => cases hexits
    | kept hconfigure => cases hconfigure

/-- The position is the caller's, active, and its lock has elapsed. -/
def CopyPosition.Closable (pos : CopyPosition) (tx : Tx) : Prop :=
  pos.active = true ∧ tx.sender = pos.user ∧ pos.Unlocked tx.timestamp 0

instance (pos : CopyPosition) (tx : Tx) : Decidable (pos.Closable tx) :=
  inferInstanceAs (Decidable (_ ∧ _ ∧ _ ∧ _ ∧ _))

theorem safeTransfer_funded {b : VaultBook} {id amount : Nat}
    {payee : Address} (hpositive : 0 < amount) (h : amount ≤ b.balance) :
    b.safeTransfer tx id payee amount
      = (require (payee ∉ tx.refusing) "TransferFailed").map fun _ =>
        { b with
          balance := b.balance - amount
          payments := b.payments ++ VaultBook.payment id payee amount } := by
  have hzero : amount ≠ 0 := Nat.pos_iff_ne_zero.mp hpositive
  unfold VaultBook.safeTransfer VaultBook.payment
  rw [if_neg hzero, if_neg hzero, sendEther_funded h, map_then]
  rfl

theorem endPosition_balance (b : VaultBook) (id balance : Nat) :
    VaultBook.endPosition { b with balance := balance } tx id
      = (b.endPosition tx id).map fun b' => { b' with balance := balance } := by
  unfold VaultBook.endPosition
  rw [map_bind]
  rfl

theorem Paying.funded (hw : Paying env w) {id : Nat}
    (hactive : (w.vault.positions id).active = true) :
    (w.vault.positions id).currentValue ≤ w.vault.balance := by
  have hid := hw.kept.numbered.lt_of_active hactive
  have hle := VaultBook.le_total VaultBook.activeDeposit hid
  have hdeposit : VaultBook.activeDeposit (w.vault.positions id)
      = (w.vault.positions id).deposit := by
    unfold VaultBook.activeDeposit
    rw [if_pos hactive]
  have hvalued := hw.kept.valued id hactive
  have hsolvent := hw.kept.solvent
  unfold VaultBook.Solvent VaultBook.activeDeposits at hsolvent
  omega

/-- The position module closes what `KamiyoVault` closes, and pays the
same, where it has the ether itself. -/
theorem close_matches {id : Nat} (hw : Paying env w) (h : Beside env w m)
    (hcovered : (w.vault.positions id).Closable tx →
      (w.vault.positions id).currentValue ≤ m.positionEther) :
    Matches env (w.closePosition env.chain tx id)
      (m.closePosition env.modules tx id) := by
  refine Matches.of_map (fun w' =>
    { m.beside env.modules w' m.core.balance with
      positionEther :=
        m.positionEther - (w.vault.positions id).currentValue }) ?_ ?_
  · have hmodule := onlyModule_position h
    rw [h.same] at hmodule
    conv_lhs => rw [h.same]
    unfold World.closePosition ModularVault.closePosition
    have hsame : (m.beside env.modules w m.core.balance).core.positions
        = w.vault.positions := rfl
    simp only [hsame, map_bind]
    by_cases hactive : (w.vault.positions id).active = true
    · by_cases hsender : tx.sender = (w.vault.positions id).user
      · simp only [require_true hactive, require_true hsender, ok_bind]
        by_cases hlt : (w.vault.positions id).startTime
            + (w.vault.positions id).lockPeriod < 2 ^ 64
        · simp only [checked_ok.mpr ⟨hlt, rfl⟩, ok_bind]
          by_cases hlater : (w.vault.positions id).startTime
              + (w.vault.positions id).lockPeriod ≤ tx.timestamp
          · have hether := hcovered ⟨hactive, hsender, hlt, hlt, hlater⟩
            simp only [require_true hlater, ok_bind]
            have hfunded := hw.funded hactive
            have hpositive := hw.full id hactive
            simp only [closingFee_le (hw.kept.valued id hactive), ok_bind,
              hmodule, true_or, require_true trivial, Nat.sub_zero]
            refine bind_congr fun returnBps _ => ?_
            have hend : ((m.beside env.modules w
                m.core.balance).core.addFees 0).endPosition tx id
              = ((w.vault.addFees 0).endPosition tx id).map fun b' =>
                { b' with balance := m.core.balance } :=
              endPosition_balance (w.vault.addFees 0) id m.core.balance
            rw [hend, map_then]
            refine bind_congr fun book hbook => ?_
            rw [updateCopiers_beside hw, map_then]
            refine bind_congr fun registry hcopiers => ?_
            have halike : Alike registry env.modules.position
                env.chain.this env.modules.position := by
              rw [← hw.accounted.vault, ← (updateCopiers_ok hcopiers).2.vault]
              exact alike_vault
            rw [recordTrade_under halike, map_then]
            refine bind_congr fun registry' _ => ?_
            have hbalance : book.balance = w.vault.balance := by
              rw [(VaultBook.endPosition_ok.mp hbook).2]
              rfl
            have hmodular : (w.vault.positions id).currentValue
                ≤ (m.beside env.modules w m.core.balance).positionEther :=
              hether
            rw [safeTransfer_funded hpositive (hbalance ▸ hfunded),
              sendEther_funded hmodular, map_then, map_then]
            rfl
          · simp only [require_false hlater]
            rfl
        · simp only [checked_error hlt]
          rfl
      · simp only [require_true hactive, require_false hsender, ok_bind]
        rfl
    · simp only [require_false hactive]
      rfl
  · intro w' hok
    refine ⟨rfl, ?_, h.position, h.dispute⟩
    have heffect := closePosition_effect hok
    cases heffect with
    | exited hexits hactive hcovered hfunded hnoted hbooks =>
      rw [hbooks.book]
      exact Nat.le_trans (Nat.sub_le ..) h.balance
    | kept hconfigure => cases hconfigure

/-- To the registry the dispute module is neither vault nor admin, so it
resolves no dispute. -/
theorem resolve_refused {disputeId : Nat} {userWins : Bool}
    {m' : ModularVault} (h : Beside env w m)
    (hdistinct : env.modules.dispute ≠ env.modules.position)
    (hadmin : w.registry.admin ≠ env.modules.dispute) :
    m.resolveDispute env.modules tx disputeId userWins ≠ .ok m' := by
  intro hok
  iterate 3 obtain ⟨_, -, hok⟩ := bind_ok.mp hok
  obtain ⟨_, hnote, -⟩ := bind_ok.mp hok
  have hcaller : ∀ u, m.registry.onlyVaultOrAdmin env.modules.dispute
      ≠ .ok u := by
    intro u hu
    have hwho := require_ok.mp hu
    rw [h.same] at hwho
    rcases hwho with hvault | hwho
    · exact hdistinct hvault
    · exact hadmin hwho.symm
  cases userWins with
  | true =>
    obtain ⟨_, hslash, -⟩ := bind_ok.mp hnote
    obtain ⟨u, hu, -⟩ := bind_ok.mp hslash
    exact hcaller u hu
  | false =>
    obtain ⟨u, hu, -⟩ := bind_ok.mp hnote
    exact hcaller u hu

end Calls

-- ==== pairs

/-- What became of a call of both vaults: whether it succeeded, and what
was paid by then. -/
structure Outcome where
  mono : Option (List Payment)
  mod : Option (List Payment)

/-- Both vaults, and the outcomes of the openings and closes so far. -/
structure Pair where
  mono : World
  mod : ModularVault
  outcomes : List Outcome

inductive PairAction
  | vault (tx : Tx) (c : VaultCall)
  | registry (tx : Tx) (c : RegistryCall)
  /-- Ether is forced on the position module. -/
  | force (amount : Nat)

/-- What both vaults have a function for. Neither is paused, limits stay
unset, and the registries keep their vaults. -/
def PairAction.common : PairAction → Bool
  | .vault _ (.updatePositionValue _ _)
  | .vault _ (.batchUpdatePositionValues _ _) | .vault _ (.emergencyWithdraw _)
  | .vault _ (.setReputationLimits _) | .vault _ (.setPaused _)
  | .registry _ (.setVault _) => false
  | _ => true

/-- The state a call leaves: the one before, if it reverts. -/
def attempt {S : Type} (x : Except String S) (s : S) : S :=
  match x with
  | .ok s' => s'
  | .error _ => s

/-- Whether the outcome of a call is noted. -/
def VaultCall.noted : VaultCall → Bool
  | .openPosition _ _ _ => true
  | .closePosition _ => true
  | _ => false

/-- The caller is none of the contracts. -/
def BothEnv.Outside (env : BothEnv) (sender : Address) : Prop :=
  sender ≠ zeroAddress ∧ sender ≠ env.chain.this
    ∧ sender ≠ env.modules.position ∧ sender ≠ env.modules.dispute
  deriving Decidable

/-- The outcome of a call, if it is one to note. -/
def outcomeOf (c : VaultCall) (x : Except String World)
    (y : Except String ModularVault) : List Outcome :=
  if c.noted then [{
    mono := x.toOption.map fun w => w.vault.payments
    mod := y.toOption.map fun m => m.core.payments }]
  else []

/-- Both vaults, or both registries, get the same call. -/
def Pair.step (env : BothEnv) (a : PairAction) (p : Pair) :
    Except String Pair :=
  match a with
  | .vault tx c => do
      require (env.Outside tx.sender) "no caller"
      let x := p.mono.call env.chain tx c
      let y := p.mod.call env.modules tx c
      return {
        mono := attempt x p.mono
        mod := attempt y p.mod
        outcomes := p.outcomes ++ outcomeOf c x y }
  | .registry tx c => do
      require (env.Outside tx.sender) "no caller"
      return { p with
        mono := { p.mono with
          registry := attempt (p.mono.registry.call tx c) p.mono.registry }
        mod := { p.mod with
          registry := attempt (p.mod.registry.call tx c) p.mod.registry } }
  | .force amount =>
    return { p with
      mod := { p.mod with positionEther := p.mod.positionEther + amount } }

def PairAction.closes : PairAction → Option (Tx × Nat)
  | .vault tx (.closePosition id) => some (tx, id)
  | _ => none

def PairAction.resolves : PairAction → Option (Tx × Nat)
  | .vault tx (.resolveDispute disputeId _) => some (tx, disputeId)
  | _ => none

/-- The position module holds what a close is to pay, and no dispute is
resolved. -/
def Covered (a : PairAction) (p : Pair) : Prop :=
  (∀ c ∈ a.closes, (p.mono.vault.positions c.2).Closable c.1 →
    (p.mono.vault.positions c.2).currentValue ≤ p.mod.positionEther)
    ∧ ∀ d ∈ a.resolves, d.1.sender = p.mono.vault.disputeResolver →
      (p.mono.vault.disputes d.2).resolved = true
  deriving Decidable

/-- Every position that is due can be closed by its user, if he takes the
ether, the registry has room for the trade and the module has the value. -/
def Pair.Closes (env : BothEnv) (p : Pair) : Prop :=
  ∀ tx id, (p.mod.core.positions id).Closable tx →
    (p.mod.core.positions id).currentValue ≤ p.mod.positionEther →
    (p.mod.core.positions id).user ∉ tx.refusing →
    p.mod.registry.Records env.modules.position
      (p.mod.core.positions id).agent 0
      ((p.mod.core.positions id).minReturnBps ≤ 0) →
    ∃ m, p.mod.closePosition env.modules tx id = .ok m

/-- Both vaults as they are deployed, the modules installed in the core and
the position module the vault of its registry. -/
structure Pair.Deployed (env : BothEnv) (p : Pair) : Prop where
  distinct : env.modules.dispute ≠ env.modules.position
  fresh : p.mono.vault.Fresh
  registry : p.mono.registry.vault = env.chain.this
  standing : p.mono.registry.Standing
  admin : p.mono.registry.admin ≠ env.modules.dispute
  unpaused : p.mono.vault.paused = false
  unlimited : p.mono.vault.reputationLimits = zeroAddress
  beside : Beside env p.mono p.mod
  outcomes : p.outcomes = []

-- ==== invariant

structure Agrees (env : BothEnv) (p : Pair) : Prop where
  distinct : env.modules.dispute ≠ env.modules.position
  paying : Paying env p.mono
  admin : p.mono.registry.admin ≠ env.modules.dispute
  beside : Beside env p.mono p.mod
  outcomes : ∀ o ∈ p.outcomes, o.mono = o.mod

section Steps

variable {env : BothEnv} {w w' : World} {m m' : ModularVault} {tx : Tx}
  {p p' : Pair} {a : PairAction}

theorem registry_admin {r r' : AgentRegistry} {c : RegistryCall}
    (h : r.call tx c = .ok r') :
    r'.admin = r.admin ∨ r'.admin = tx.sender := by
  obtain ⟨_, -, h⟩ := bind_ok.mp h
  cases c with
  | register =>
    iterate 4 obtain ⟨_, -, h⟩ := bind_ok.mp h
    cases h
    exact Or.inl rfl
  | addStake =>
    iterate 3 obtain ⟨_, -, h⟩ := bind_ok.mp h
    by_cases hpending : 0 < r.withdrawalRequestAmount tx.sender
    · rw [if_pos hpending] at h
      cases h
      exact Or.inl rfl
    · rw [if_neg hpending] at h
      cases h
      exact Or.inl rfl
  | requestWithdrawal =>
    iterate 6 obtain ⟨_, -, h⟩ := bind_ok.mp h
    cases h
    exact Or.inl rfl
  | executeWithdrawal =>
    iterate 8 obtain ⟨_, -, h⟩ := bind_ok.mp h
    cases h
    exact Or.inl rfl
  | cancelWithdrawal =>
    obtain ⟨_, -, _, -, h⟩ := bind_ok₂.mp h
    cases h
    exact Or.inl rfl
  | deactivate =>
    obtain ⟨_, -, _, -, h⟩ := bind_ok₂.mp h
    cases h
    exact Or.inl rfl
  | reactivate =>
    iterate 3 obtain ⟨_, -, h⟩ := bind_ok.mp h
    cases h
    exact Or.inl rfl
  | recordTrade => exact Or.inl (recordTrade_ok h).admin
  | slash => exact Or.inl (slash_ok h).admin
  | updateCopiers => exact Or.inl (updateCopiers_ok h).2.admin
  | transferAdmin =>
    obtain ⟨_, -, _, -, h⟩ := bind_ok₂.mp h
    cases h
    exact Or.inl rfl
  | acceptAdmin =>
    obtain ⟨_, -, h⟩ := bind_ok.mp h
    cases h
    exact Or.inr rfl
  | setDisputeResolver =>
    obtain ⟨_, -, _, -, h⟩ := bind_ok₂.mp h
    cases h
    exact Or.inl rfl
  | setVault =>
    obtain ⟨_, -, _, -, h⟩ := bind_ok₂.mp h
    cases h
    exact Or.inl rfl
  | setPaused =>
    obtain ⟨_, -, _, -, h⟩ := bind_ok₂.mp h
    cases h
    exact Or.inl rfl
  | receive =>
    cases h
    exact Or.inl rfl

/-- A step that writes one position, or none, and values none anew. -/
theorem Paying.keep (hw : Paying env w) (hkept : Kept w'.vault.toVaultBook)
    (haccounted : Accounted env.chain w')
    (hsame : ∀ id, (w'.vault.positions id).active = true →
      (w.vault.positions id).active = true
        ∧ (w'.vault.positions id).currentValue
          = (w.vault.positions id).currentValue)
    (hpaused : w'.vault.paused = w.vault.paused)
    (hlimits : w'.vault.reputationLimits = w.vault.reputationLimits) :
    Paying env w' where
  kept := hkept
  accounted := haccounted
  full := by
    intro id hactive
    obtain ⟨hwas, hvalue⟩ := hsame id hactive
    rw [hvalue]
    exact hw.full id hwas
  unpaused := hpaused.trans hw.unpaused
  unlimited := hlimits.trans hw.unlimited

theorem Paying.call (hw : Paying env w) (hsender : env.Outside tx.sender)
    (hcommon : (PairAction.vault tx c).common = true)
    (hresolve : ∀ d wins, c ≠ .resolveDispute d wins)
    (hcall : w.call env.chain tx c = .ok w') :
    Paying env w' ∧ w'.registry.admin = w.registry.admin := by
  have hstep : World.step env.chain (.vault tx c) w = .ok w' :=
    bind_ok.mpr ⟨(), require_ok.mpr ⟨hsender.1, hsender.2.1⟩, hcall⟩
  have hvalues : (WorldAction.vault tx c).values = [] := by
    cases c with
    | updatePositionValue => cases hcommon
    | batchUpdatePositionValues => cases hcommon
    | _ => rfl
  have hresolves : (WorldAction.vault tx c).resolves = none := by
    cases c with
    | resolveDispute d wins => exact absurd rfl (hresolve d wins)
    | _ => rfl
  have hkept : Kept w'.vault.toVaultBook := by
    apply kept_step hw.kept ?_ ?_ hstep
    · refine ⟨?_, ?_⟩
      · rw [hvalues]
        exact fun p hp => (List.not_mem_nil hp).elim
      · rw [hresolves]
        exact fun d hd => by cases hd
    · unfold ResolvesActive
      rw [hresolves]
      exact fun d hd => by cases hd
  have hsteady : (WorldAction.vault tx c).steady = true := by
    cases c with
    | updatePositionValue => cases hcommon
    | batchUpdatePositionValues => cases hcommon
    | _ => rfl
  have haccounted := accounted_step hw.accounted hsteady hstep
  have heffect := call_effect hcall
  cases heffect with
  | opened hdeposit htier hagent hnoted hlimits hbooks =>
    rename_i agent minReturnBps lockPeriod
    refine ⟨⟨hkept, haccounted, ?_, hbooks.paused.trans hw.unpaused,
      hbooks.reputationLimits.trans hw.unlimited⟩, hnoted.admin⟩
    intro id hactive
    rw [hbooks.book] at hactive ⊢
    change (update w.vault.positions w.vault.positionCount _ id).active = true
      at hactive
    show 0 < (update w.vault.positions w.vault.positionCount
      (World.newPosition tx agent minReturnBps lockPeriod) id).currentValue
    by_cases hid : id = w.vault.positionCount
    · rw [hid, update_self]
      exact Nat.lt_of_lt_of_le (by decide) hdeposit.1
    · rw [update_of_ne hid] at hactive ⊢
      exact hw.full id hactive
  | exited hexits hactive hcovered hfunded hnoted hbooks =>
    rename_i id payout fee payee disputes
    refine ⟨hw.keep hkept haccounted ?_ hbooks.paused
      hbooks.reputationLimits, hnoted.admin⟩
    intro j hj
    rw [hbooks.book] at hj ⊢
    change (update w.vault.positions id _ j).active = true at hj
    show _ ∧ (update w.vault.positions id _ j).currentValue = _
    by_cases hjid : j = id
    · rw [hjid, update_self] at hj
      cases hj
    · rw [update_of_ne hjid] at hj ⊢
      exact ⟨hj, rfl⟩
  | repaid => exact absurd rfl (hresolve _ _)
  | filed huser hfresh hregistry hbooks =>
    rename_i id actualReturnBps
    refine ⟨hw.keep hkept haccounted ?_ hbooks.paused
      hbooks.reputationLimits, by rw [hregistry]⟩
    intro j hj
    rw [hbooks.book] at hj ⊢
    change (update w.vault.positions id { w.vault.positions id with
      disputed := true } j).active = true at hj
    show _ ∧ (update w.vault.positions id { w.vault.positions id with
      disputed := true } j).currentValue = _
    by_cases hjid : j = id
    · rw [hjid, update_self] at hj ⊢
      exact ⟨hj, rfl⟩
    · rw [update_of_ne hjid] at hj ⊢
      exact ⟨hj, rfl⟩
  | revalued => cases hcommon
  | revaluedEach => cases hcommon
  | withdrew hfunded hregistry hbooks =>
    refine ⟨hw.keep hkept haccounted ?_ hbooks.paused
      hbooks.reputationLimits, by rw [hregistry]⟩
    rw [hbooks.book]
    exact fun id hactive => ⟨hactive, rfl⟩
  | kept hconfigure hregistry hbook =>
    have hconfigured := configure_ok hconfigure
    refine ⟨hw.keep hkept haccounted ?_ ?_ ?_, by rw [hregistry]⟩
    · rw [hbook]
      exact fun id hactive => ⟨hactive, rfl⟩
    · apply hconfigured.paused
      rintro paused rfl
      cases hcommon
    · apply hconfigured.limits
      rintro limits rfl
      cases hcommon

theorem Matches.guard {c : Prop} [Decidable c] {e : String}
    {x : Unit → Except String World} {y : Unit → Except String ModularVault}
    (h : Matches env (x ()) (y ())) :
    Matches env (require c e >>= x) (require c e >>= y) := by
  by_cases hc : c
  · rw [require_true hc]
    exact h
  · rw [require_false hc]
    exact Or.inl ⟨e, rfl, rfl⟩

/-- Both vaults answer a call alike. -/
theorem call_matches (hw : Paying env w) (h : Beside env w m)
    (hcommon : (PairAction.vault tx c).common = true)
    (hresolve : ∀ d wins, c ≠ .resolveDispute d wins)
    (hcovered : ∀ id, c = .closePosition id →
      (w.vault.positions id).Closable tx →
      (w.vault.positions id).currentValue ≤ m.positionEther) :
    Matches env (w.call env.chain tx c) (m.call env.modules tx c) := by
  apply Matches.guard
  cases c with
  | openPosition => exact open_matches hw h
  | closePosition id => exact close_matches hw h (hcovered id rfl)
  | fileDispute => exact file_matches h
  | resolveDispute d wins => exact absurd rfl (hresolve d wins)
  | updatePositionValue => cases hcommon
  | batchUpdatePositionValues => cases hcommon
  | withdrawFees => exact withdrawFees_matches hw h
  | emergencyWithdraw => cases hcommon
  | _ => exact configure_matches h

theorem Beside.core (h : Beside env w m) :
    m.core = (m.beside env.modules w m.core.balance).core :=
  congrArg ModularVault.core h.same

theorem Beside.payments (h : Beside env w m) :
    m.core.payments = w.vault.payments := by
  rw [h.core]
  rfl

theorem Beside.registry (h : Beside env w m) (r : AgentRegistry) :
    Beside env { w with registry := r }
      { m with registry := r.under env.modules.position } := by
  refine ⟨?_, h.balance, h.position, h.dispute⟩
  show ({ m with registry := r.under env.modules.position } : ModularVault)
    = { m with
      core := (m.beside env.modules w m.core.balance).core
      registry := r.under env.modules.position }
  rw [← h.core]

theorem Beside.force (h : Beside env w m) (amount : Nat) :
    Beside env w { m with positionEther := amount } := by
  refine ⟨?_, h.balance, h.position, h.dispute⟩
  have hregistry := congrArg ModularVault.registry h.same
  show ({ m with positionEther := amount } : ModularVault)
    = { m with
      core := (m.beside env.modules w m.core.balance).core
      registry := (m.beside env.modules w m.core.balance).registry
      positionEther := amount }
  rw [← h.core, ← hregistry]

theorem Agrees.both_fail (h : Agrees env p)
    {x : Except String World} {y : Except String ModularVault}
    (hx : x.toOption = none) (hy : y.toOption = none) :
    Agrees env {
      mono := attempt x p.mono
      mod := attempt y p.mod
      outcomes := p.outcomes ++ outcomeOf c x y } := by
  cases x with
  | ok => cases hx
  | error e =>
    cases y with
    | ok => cases hy
    | error e' =>
      refine ⟨h.distinct, h.paying, h.admin, h.beside, ?_⟩
      intro o ho
      rcases List.mem_append.mp ho with ho | ho
      · exact h.outcomes o ho
      · unfold outcomeOf at ho
        split at ho
        · rw [List.mem_singleton] at ho
          rw [ho]
          rfl
        · cases ho

theorem agrees_vault (h : Agrees env p) (hsender : env.Outside tx.sender)
    (hcommon : (PairAction.vault tx c).common = true)
    (hcovered : Covered (.vault tx c) p) :
    Agrees env {
      mono := attempt (p.mono.call env.chain tx c) p.mono
      mod := attempt (p.mod.call env.modules tx c) p.mod
      outcomes := p.outcomes ++ outcomeOf c (p.mono.call env.chain tx c)
        (p.mod.call env.modules tx c) } := by
  by_cases hresolve : ∃ d wins, c = .resolveDispute d wins
  · obtain ⟨d, wins, rfl⟩ := hresolve
    apply h.both_fail
    · cases hx : p.mono.call env.chain tx (.resolveDispute d wins) with
      | error => rfl
      | ok w' =>
        obtain ⟨_, -, _, hresolver, _, hopen, -⟩ := bind_ok₃.mp hx
        have hresolved := hcovered.2 (tx, d) rfl (require_ok.mp hresolver)
        rw [require_ok.mp hopen] at hresolved
        cases hresolved
    · cases hy : p.mod.call env.modules tx (.resolveDispute d wins) with
      | error => rfl
      | ok m' =>
        obtain ⟨_, -, hy⟩ := bind_ok.mp hy
        exact absurd hy (resolve_refused h.beside h.distinct h.admin)
  · have hresolve : ∀ d wins, c ≠ .resolveDispute d wins :=
      fun d wins heq => hresolve ⟨d, wins, heq⟩
    have hclose : ∀ id, c = .closePosition id →
        (p.mono.vault.positions id).Closable tx →
        (p.mono.vault.positions id).currentValue ≤ p.mod.positionEther := by
      rintro id rfl
      exact hcovered.1 (tx, id) rfl
    rcases call_matches h.paying h.beside hcommon hresolve hclose with
      ⟨e, hx, hy⟩ | ⟨w', m', hx, hy, hbeside⟩
    · apply h.both_fail
      · rw [hx]
        rfl
      · rw [hy]
        rfl
    · obtain ⟨hpaying, hadmin⟩ := h.paying.call hsender hcommon hresolve hx
      rw [hx, hy]
      refine ⟨h.distinct, hpaying, ?_, hbeside, ?_⟩
      · rw [show (attempt (.ok w') p.mono).registry.admin
          = p.mono.registry.admin from hadmin]
        exact h.admin
      · intro o ho
        rcases List.mem_append.mp ho with ho | ho
        · exact h.outcomes o ho
        · unfold outcomeOf at ho
          split at ho
          · rw [List.mem_singleton] at ho
            rw [ho]
            show some w'.vault.payments = some m'.core.payments
            rw [hbeside.payments]
          · cases ho

theorem agrees_registry {c : RegistryCall} (h : Agrees env p)
    (hsender : env.Outside tx.sender)
    (hcommon : (PairAction.registry tx c).common = true) :
    Agrees env { p with
      mono := { p.mono with
        registry := attempt (p.mono.registry.call tx c) p.mono.registry }
      mod := { p.mod with
        registry := attempt (p.mod.registry.call tx c) p.mod.registry } } := by
  have hc : ∀ vault, c ≠ .setVault vault := by
    rintro vault rfl
    cases hcommon
  have hregistry := congrArg ModularVault.registry h.beside.same
  have hunder : p.mod.registry.call tx c
      = (p.mono.registry.call tx c).map
        fun r => r.under env.modules.position := by
    rw [hregistry]
    refine call_under ?_ hsender.2.2.1 hc
    rw [h.paying.accounted.vault]
    exact hsender.2.1
  rw [hunder]
  cases hr : p.mono.registry.call tx c with
  | error => exact ⟨h.distinct, h.paying, h.admin, h.beside, h.outcomes⟩
  | ok r =>
    have hadmin := registry_admin hr
    have hsteady : (WorldAction.registry tx c).steady = true := by
      cases c with
      | setVault vault => cases hcommon
      | _ => rfl
    have hstep : World.step env.chain (.registry tx c) p.mono
        = .ok { p.mono with registry := r } := by
      refine bind_ok.mpr ⟨(), require_ok.mpr ⟨hsender.1, hsender.2.1⟩, ?_⟩
      exact bind_ok.mpr ⟨r, hr, rfl⟩
    refine ⟨h.distinct, ?_, ?_, h.beside.registry r, h.outcomes⟩
    · exact ⟨h.paying.kept, accounted_step h.paying.accounted hsteady hstep,
        h.paying.full, h.paying.unpaused, h.paying.unlimited⟩
    · show r.admin ≠ env.modules.dispute
      rcases hadmin with hadmin | hadmin
      · rw [hadmin]
        exact h.admin
      · rw [hadmin]
        exact hsender.2.2.2

theorem agrees_step (h : Agrees env p) (hcommon : a.common = true)
    (hcovered : Covered a p) (hstep : Pair.step env a p = .ok p') :
    Agrees env p' := by
  cases a with
  | vault tx c =>
    obtain ⟨_, hsender, hstep⟩ := bind_ok.mp hstep
    cases hstep
    exact agrees_vault h (require_ok.mp hsender) hcommon hcovered
  | registry tx c =>
    obtain ⟨_, hsender, hstep⟩ := bind_ok.mp hstep
    cases hstep
    exact agrees_registry h (require_ok.mp hsender) hcommon
  | force amount =>
    cases hstep
    exact ⟨h.distinct, h.paying, h.admin, h.beside.force _, h.outcomes⟩

theorem Pair.Deployed.agrees (h : p.Deployed env) : Agrees env p := by
  have haccounted := accounted_fresh h.fresh h.standing h.registry
  refine ⟨h.distinct, ⟨h.fresh.kept, haccounted, ?_, h.unpaused, h.unlimited⟩,
    h.admin, h.beside, ?_⟩
  · intro id hactive
    rw [h.fresh.positions] at hactive
    cases hactive
  · rw [h.outcomes]
    exact fun o ho => (List.not_mem_nil ho).elim

end Steps

-- ==== runs

theorem records_under {r : AgentRegistry} {v agent : Address} {pnl : Int}
    {successful : Bool} (h : (r.under v).Records v agent pnl successful) :
    r.Records r.vault agent pnl successful := by
  obtain ⟨r', h⟩ := h
  rw [recordTrade_under alike_vault] at h
  cases hr : r.recordTrade r.vault agent pnl successful with
  | ok r'' => exact ⟨r'', hr⟩
  | error e =>
    rw [hr] at h
    cases h

theorem Agrees.closes {env : BothEnv} {p : Pair} (h : Agrees env p) :
    p.Closes env := by
  intro tx id hclosable hether htakes hrecords
  have hpositions : p.mod.core.positions = p.mono.vault.positions := by
    rw [h.beside.core]
    rfl
  have hregistry := congrArg ModularVault.registry h.beside.same
  rw [hpositions] at hclosable hether htakes hrecords
  rw [hregistry] at hrecords
  obtain ⟨hactive, hsender, hunlocked⟩ := hclosable
  have hpays : p.mono.vault.Pays tx (p.mono.vault.positions id).user
      (p.mono.vault.positions id).deposit := by
    rw [← h.paying.accounted.valued]
    exact Or.inr ⟨h.paying.funded hactive, htakes⟩
  have hmono := h.paying.accounted.close_iff.mpr ⟨hactive, hsender, hunlocked,
    h.paying.accounted.vault ▸ records_under hrecords, hpays⟩
  obtain ⟨w', hmono⟩ := hmono
  rcases close_matches h.paying h.beside (fun _ => hether) with
    ⟨e, hx, -⟩ | ⟨w'', m', -, hy, -⟩
  · rw [hmono] at hx
    cases hx
  · exact ⟨m', hy⟩

/-- Where the position module holds what it is to pay, and no dispute is
resolved, it opens and closes what `KamiyoVault` does and pays the same,
and a position that is due can be closed. -/
theorem modular_agrees {env : BothEnv} {p₀ p : Pair} {tr : List PairAction}
    (h₀ : p₀.Deployed env) (hcommon : ∀ a ∈ tr, a.common = true)
    (hcovered : Meets (Pair.step env) Covered p₀ tr)
    (hrun : run (Pair.step env) p₀ tr = .ok p) :
    (∀ o ∈ p.outcomes, o.mono = o.mod) ∧ p.Closes env := by
  have h := run_induct_meets (I := Agrees env) ?_ h₀.agrees
    (meets_both (meets_of_forall hcommon) hcovered) hrun
  · exact ⟨h.outcomes, h.closes⟩
  · rintro a p p' hp ⟨ha, hc⟩ hstep
    exact agrees_step hp ha hc hstep

-- ==== a pair of them

namespace Concrete

/-- The modules at 101 and 102. -/
def both : BothEnv where
  chain := chain
  modules := ⟨101, 102⟩

/-- The vault of `start` without limits, and its like in modules. -/
def pair : Pair where
  mono := { start with
    vault := { start.vault with reputationLimits := zeroAddress } }
  mod := {
    core := { start.vault with
      reputationLimits := zeroAddress
      positionModule := 101
      disputeModule := 102 }
    registry := { emptyRegistry with vault := 101 }
    positionEther := 0
    disputeEther := 0 }
  outcomes := []

theorem pair_deployed : pair.Deployed both where
  distinct := by decide
  fresh := ⟨rfl, rfl, rfl, rfl, fun _ => rfl, fun _ => rfl, fun _ => rfl, rfl⟩
  registry := rfl
  standing := fun _ _ => ⟨rfl, rfl⟩
  admin := by decide
  unpaused := rfl
  unlimited := rfl
  beside := ⟨rfl, Nat.le_refl 0, rfl, rfl⟩
  outcomes := rfl

/-- 7 and 8 copy agent 5. -/
def copied : List PairAction :=
  [.registry (msg 5 minStake 0) (.register [97, 97, 97]),
    .vault (msg 7 ether 0) (.openPosition 5 0 minLockPeriod),
    .vault (msg 8 ether 0) (.openPosition 5 0 minLockPeriod)]

/-- Their locks elapse, and 7 closes its position. -/
def closing : PairAction :=
  .vault (msg 7 0 minLockPeriod) (.closePosition 0)

end Concrete

/-- With ether forced on the module the close goes through. -/
theorem modular_agrees_forced :
    ∃ p, run (Pair.step Concrete.both) Concrete.pair
        (Concrete.copied ++ [.force ether, Concrete.closing]) = .ok p
      ∧ p.mod.core.payments = [⟨0, 7, ether⟩]
      ∧ (∀ o ∈ p.outcomes, o.mono = o.mod) ∧ p.Closes Concrete.both := by
  obtain ⟨p, hrun, hpaid⟩ := check_ok (show Exec.check
      (fun p : Pair => decide (p.mod.core.payments = [⟨0, 7, ether⟩]))
      (run (Pair.step Concrete.both) Concrete.pair
        (Concrete.copied ++ [.force ether, Concrete.closing])) = true
    by decide)
  have hcovered : Meets (Pair.step Concrete.both) Covered Concrete.pair
      (Concrete.copied ++ [.force ether, Concrete.closing]) := by
    apply meets_of_check fun a p h =>
      of_decide_eq_true (p := Covered a p) h
    decide
  have hcommon : ∀ a ∈ Concrete.copied ++ [.force ether, Concrete.closing],
      a.common = true := by decide
  exact ⟨p, hrun, of_decide_eq_true hpaid,
    modular_agrees Concrete.pair_deployed hcommon hcovered hrun⟩

/-- Without it the core has the deposits and the close fails, which in
`KamiyoVault` succeeds. -/
theorem modular_close_fails :
    ∃ p, Concrete.pair.Deployed Concrete.both
      ∧ (∀ a ∈ Concrete.copied ++ [Concrete.closing], a.common = true)
      ∧ run (Pair.step Concrete.both) Concrete.pair
        (Concrete.copied ++ [Concrete.closing]) = .ok p
      ∧ (p.mod.core.positions 0).Closable (Concrete.msg 7 0 minLockPeriod)
      ∧ (p.mod.core.positions 0).currentValue ≤ (p.mod.core.positions 0).deposit
      ∧ p.mod.core.totalDeposits ≤ p.mod.core.balance
      ∧ (p.mod.closePosition Concrete.both.modules
        (Concrete.msg 7 0 minLockPeriod) 0).toOption.isNone = true
      ∧ ∃ o ∈ p.outcomes, o.mono = some [⟨0, 7, ether⟩] ∧ o.mod = none := by
  obtain ⟨p, hrun, hp⟩ := check_ok (show Exec.check
      (fun p : Pair => decide (
        (p.mod.core.positions 0).Closable (Concrete.msg 7 0 minLockPeriod)
          ∧ (p.mod.core.positions 0).currentValue
            ≤ (p.mod.core.positions 0).deposit
          ∧ p.mod.core.totalDeposits ≤ p.mod.core.balance
          ∧ (p.mod.closePosition Concrete.both.modules
            (Concrete.msg 7 0 minLockPeriod) 0).toOption.isNone = true
          ∧ ∃ o ∈ p.outcomes, o.mono = some [⟨0, 7, ether⟩] ∧ o.mod = none))
      (run (Pair.step Concrete.both) Concrete.pair
        (Concrete.copied ++ [Concrete.closing])) = true
    by decide)
  exact ⟨p, Concrete.pair_deployed, by decide, hrun, of_decide_eq_true hp⟩

end KamiyoProtocol.Hyperliquid
