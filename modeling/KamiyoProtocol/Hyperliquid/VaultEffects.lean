/-
What one step does to the vault's books.

A position leaves by one of three functions, and they do the same to the
books (`exit`); all else a function may do is a case of `Effect`. What the
vault tells the registry changes an agent's count of copiers and nothing
else that matters here (`Noted`).
-/
import KamiyoProtocol.Hyperliquid.KamiyoVault

namespace KamiyoProtocol.Hyperliquid

open Exec Evm Function

variable {env : Env} {w w' : World} {tx : Tx} {a : WorldAction}

-- ==== the registry

/-- The registry knows the same agents, active or not, and has these counts
of copiers. -/
structure Noted (r r' : AgentRegistry) (copiers : Address → Nat) : Prop where
  vault : r'.vault = r.vault
  admin : r'.admin = r.admin
  isRegistered : r'.isRegistered = r.isRegistered
  active : ∀ a, (r'.agents a).active = (r.agents a).active
  copiers : ∀ a, (r'.agents a).copiers = copiers a

/-- Its counts of copiers. -/
def AgentRegistry.copiersOf (r : AgentRegistry) (a : Address) : Nat :=
  (r.agents a).copiers

theorem Noted.trans {r r₁ r₂ : AgentRegistry} {f g : Address → Nat}
    (h : Noted r r₁ f) (h₁ : Noted r₁ r₂ g) : Noted r r₂ g where
  vault := h₁.vault.trans h.vault
  admin := h₁.admin.trans h.admin
  isRegistered := h₁.isRegistered.trans h.isRegistered
  active := fun a => (h₁.active a).trans (h.active a)
  copiers := h₁.copiers

theorem Noted.setAgent (r : AgentRegistry) {a : Address} {agent : Agent}
    (hactive : agent.active = (r.agents a).active) :
    Noted r (r.setAgent a agent) (update r.copiersOf a agent.copiers) := by
  refine ⟨rfl, rfl, rfl, ?_, ?_⟩
  · intro b
    show (update r.agents a agent b).active = (r.agents b).active
    by_cases hb : b = a
    · subst hb
      rw [update_self]
      exact hactive
    · rw [update_of_ne hb]
  · intro b
    show (update r.agents a agent b).copiers = update r.copiersOf a agent.copiers b
    by_cases hb : b = a
    · subst hb
      rw [update_self, update_self]
    · rw [update_of_ne hb, update_of_ne hb]
      rfl

theorem Noted.keep (r : AgentRegistry) {a : Address} {agent : Agent}
    (hactive : agent.active = (r.agents a).active)
    (hcopiers : agent.copiers = (r.agents a).copiers) :
    Noted r (r.setAgent a agent) r.copiersOf := by
  have h := Noted.setAgent r hactive
  refine ⟨h.vault, h.admin, h.isRegistered, h.active, ?_⟩
  intro b
  rw [h.copiers b]
  by_cases hb : b = a
  · subst hb
    rw [update_self, hcopiers]
    rfl
  · rw [update_of_ne hb]

section Registry

variable {r r' : AgentRegistry} {sender agent : Address}

theorem updateCopiers_ok {increment : Bool}
    (h : r.updateCopiers sender agent increment = .ok r') :
    r.isRegistered agent = true ∧ Noted r r' (update r.copiersOf agent
      (if increment then r.copiersOf agent + 1
        else r.copiersOf agent - 1)) := by
  obtain ⟨_, -, _, hregistered, h⟩ := bind_ok₂.mp h
  refine ⟨require_ok.mp hregistered, ?_⟩
  cases increment with
  | true =>
    obtain ⟨_, -, h⟩ := bind_ok.mp h
    cases h
    exact Noted.setAgent r rfl
  | false =>
    change (if 0 < (r.agents agent).copiers then pure (r.setAgent agent
        { r.agents agent with copiers := (r.agents agent).copiers - 1 })
      else pure r) = Except.ok r' at h
    by_cases hpos : 0 < (r.agents agent).copiers
    · rw [if_pos hpos] at h
      cases h
      exact Noted.setAgent r rfl
    · rw [if_neg hpos] at h
      cases h
      refine ⟨rfl, rfl, rfl, fun _ => rfl, ?_⟩
      intro b
      by_cases hb : b = agent
      · subst hb
        rw [update_self]
        show (r.agents b).copiers = (r.agents b).copiers - 1
        omega
      · rw [update_of_ne hb]
        rfl

theorem recordTrade_ok {pnl : Int} {successful : Bool}
    (h : r.recordTrade sender agent pnl successful = .ok r') :
    Noted r r' r.copiersOf := by
  iterate 5 obtain ⟨_, -, h⟩ := bind_ok.mp h
  cases h
  exact Noted.keep r rfl rfl

theorem slash_ok (h : r.slash tx sender agent = .ok r') :
    Noted r r' r.copiersOf := by
  iterate 4 obtain ⟨_, -, h⟩ := bind_ok.mp h
  cases h
  have hkeep : Noted r (r.setAgent agent { r.agents agent with
      stake := (r.agents agent).stake
        - AgentRegistry.slashAmount (r.agents agent).stake }) r.copiersOf :=
    Noted.keep r rfl rfl
  exact ⟨hkeep.vault, hkeep.admin, hkeep.isRegistered, hkeep.active,
    hkeep.copiers⟩

theorem noteDispute_ok {pnl : Int} {userWins : Bool}
    (h : World.noteDispute sender r tx agent pnl userWins = .ok r') :
    Noted r r' r.copiersOf := by
  cases userWins with
  | true =>
    obtain ⟨r₁, hslash, h⟩ := bind_ok.mp h
    have hslash := slash_ok hslash
    have htrade := recordTrade_ok h
    have h := hslash.trans htrade
    refine ⟨h.vault, h.admin, h.isRegistered, h.active, ?_⟩
    intro b
    rw [h.copiers b]
    exact hslash.copiers b
  | false => exact recordTrade_ok h

end Registry

-- ==== the books

namespace VaultBook

/-- A position leaves: what it is paid and the fee it leaves behind. The
disputes are as they are then. -/
def exit (b : VaultBook) (timestamp id : Nat) (payee : Address)
    (payout fee : Nat) (disputes : Nat → DisputeInfo) : VaultBook :=
  { b with
    totalDeposits := b.totalDeposits - (b.positions id).deposit
    totalFees := b.totalFees + fee
    positions := update b.positions id { b.positions id with
      active := false
      endTime := uint 64 timestamp }
    disputes := disputes
    balance := b.balance - payout
    payments := b.payments ++ payment id payee payout }

variable {b b' : VaultBook}

theorem safeTransfer_ok {id amount : Nat} {payee : Address} :
    b.safeTransfer tx id payee amount = .ok b' ↔
      (amount = 0 ∨ amount ≤ b.balance ∧ payee ∉ tx.refusing)
        ∧ b' = { b with
          balance := b.balance - amount
          payments := b.payments ++ payment id payee amount } := by
  unfold safeTransfer payment
  by_cases hzero : amount = 0
  · subst hzero
    simp only [if_pos, List.append_nil, Nat.sub_zero, true_or, true_and]
    exact pure_ok.trans eq_comm
  · simp only [hzero, false_or]
    constructor
    · intro h
      obtain ⟨left, hleft, h⟩ := bind_ok.mp h
      obtain ⟨hle, hpayee, rfl⟩ := sendEther_ok.mp hleft
      exact ⟨⟨hle, hpayee⟩, (pure_ok.mp h).symm⟩
    · rintro ⟨⟨hle, hpayee⟩, rfl⟩
      exact bind_ok.mpr ⟨_, sendEther_ok.mpr ⟨hle, hpayee, rfl⟩, rfl⟩

theorem endPosition_ok {id : Nat} :
    b.endPosition tx id = .ok b' ↔
      (b.positions id).deposit ≤ b.totalDeposits
        ∧ b' = { b with
          totalDeposits := b.totalDeposits - (b.positions id).deposit
          positions := update b.positions id { b.positions id with
            active := false
            endTime := uint 64 tx.timestamp } } := by
  constructor
  · intro h
    obtain ⟨_, hle, h⟩ := bind_ok.mp h
    exact ⟨require_ok.mp hle, (pure_ok.mp h).symm⟩
  · rintro ⟨hle, rfl⟩
    exact bind_ok.mpr ⟨(), require_ok.mpr hle, rfl⟩

end VaultBook

-- ==== one step

/-- Which position a call lets go, whom it pays and how much, the fee it
keeps, and the disputes it leaves. -/
inductive Exits (w : World) : WorldAction → Nat → Address → Nat → Nat →
    (Nat → DisputeInfo) → Prop
  | closed {tx : Tx} {id fee : Nat}
      (hfee : closingFee (w.vault.positions id).deposit
        (w.vault.positions id).currentValue = .ok fee) :
      Exits w (.vault tx (.closePosition id)) id (w.vault.positions id).user
        ((w.vault.positions id).currentValue - fee) fee w.vault.disputes
  | withdrawn {tx : Tx} {id : Nat} :
      Exits w (.vault tx (.emergencyWithdraw id)) id
        (w.vault.positions id).user (w.vault.positions id).currentValue 0
        w.vault.disputes
  | resolved {tx : Tx} {disputeId : Nat} {userWins : Bool}
      (hopen : (w.vault.disputes disputeId).resolved = false) :
      Exits w (.vault tx (.resolveDispute disputeId userWins))
        (w.vault.disputes disputeId).positionId
        (w.vault.disputes disputeId).user
        (if userWins then
          (w.vault.positions (w.vault.disputes disputeId).positionId).deposit
        else (w.vault.positions
          (w.vault.disputes disputeId).positionId).currentValue) 0
        (update w.vault.disputes disputeId { w.vault.disputes disputeId with
          resolved := true
          userWon := userWins })

/-- The books become these, and no setting changes. -/
def World.Books (w w' : World) (b : VaultBook) : Prop :=
  w'.vault = { w.vault with toVaultBook := b }

theorem World.Books.book {b : VaultBook} (h : w.Books w' b) :
    w'.vault.toVaultBook = b := by
  rw [h]

theorem World.Books.reputationLimits {b : VaultBook} (h : w.Books w' b) :
    w'.vault.reputationLimits = w.vault.reputationLimits := by
  rw [h]

theorem World.Books.paused {b : VaultBook} (h : w.Books w' b) :
    w'.vault.paused = w.vault.paused := by
  rw [h]

/-- What a step does to the books. -/
inductive Effect (w w' : World) : WorldAction → Prop
  /-- A position is opened. -/
  | opened {tx : Tx} {agent : Address} {minReturnBps : Int}
      {lockPeriod : Nat}
      (hdeposit : minDeposit ≤ tx.value ∧ tx.value ≤ maxDeposit)
      (htier : w.withinTier tx agent = .ok ())
      (hagent : (w.registry.agents agent).active = true)
      (hnoted : Noted w.registry w'.registry (update w.registry.copiersOf agent
        (w.registry.copiersOf agent + 1)))
      (hlimits : w'.limits = w.limits)
      (hbooks : w.Books w' ((w.vault.push (World.newPosition tx agent
        minReturnBps lockPeriod)).receive tx.value)) :
      Effect w w' (.vault tx (.openPosition agent minReturnBps lockPeriod))
  /-- A position that is active leaves. -/
  | exited {a : WorldAction} {id payout fee : Nat} {payee : Address}
      {disputes : Nat → DisputeInfo}
      (hexits : Exits w a id payee payout fee disputes)
      (hactive : (w.vault.positions id).active = true)
      (hcovered : (w.vault.positions id).deposit ≤ w.vault.totalDeposits)
      (hfunded : payout ≤ w.vault.balance)
      (hnoted : Noted w.registry w'.registry
        (update w.registry.copiersOf (w.vault.positions id).agent
          (w.registry.copiersOf (w.vault.positions id).agent - 1)))
      (hbooks : w.Books w' (w.vault.exit a.tx.timestamp id payee payout fee
        disputes)) :
      Effect w w' a
  /-- A dispute about a position that has left is resolved. -/
  | repaid {tx : Tx} {disputeId id payout : Nat} {userWins : Bool}
      {payee : Address} {disputes : Nat → DisputeInfo}
      (hexits : Exits w (.vault tx (.resolveDispute disputeId userWins)) id
        payee payout 0 disputes)
      (hactive : (w.vault.positions id).active = false)
      (hfunded : payout ≤ w.vault.balance)
      (hnoted : Noted w.registry w'.registry w.registry.copiersOf)
      (hbooks : w.Books w' { w.vault.toVaultBook with
        disputes := disputes
        balance := w.vault.balance - payout
        payments :=
          w.vault.payments ++ VaultBook.payment id payee payout }) :
      Effect w w' (.vault tx (.resolveDispute disputeId userWins))
  /-- A dispute is filed. -/
  | filed {tx : Tx} {id : Nat} {actualReturnBps : Int}
      (huser : tx.sender = (w.vault.positions id).user)
      (hfresh : (w.vault.positions id).disputed = false)
      (hregistry : w'.registry = w.registry)
      (hbooks : w.Books w' (((w.vault.file id {
        positionId := id
        user := (w.vault.positions id).user
        agent := (w.vault.positions id).agent
        filedAt := uint 64 tx.timestamp
        actualReturnBps := actualReturnBps
        expectedReturnBps := (w.vault.positions id).minReturnBps
        resolved := false
        userWon := false }).addFees tx.value).receive tx.value)) :
      Effect w w' (.vault tx (.fileDispute id))
  /-- A position is valued anew. -/
  | revalued {tx : Tx} {id newValue : Nat}
      (hactive : (w.vault.positions id).active = true)
      (hchange : validateValueChange (w.vault.positions id).currentValue
        newValue = .ok ())
      (hregistry : w'.registry = w.registry)
      (hbooks : w.Books w' (w.vault.setPosition id
        { w.vault.positions id with currentValue := newValue })) :
      Effect w w' (.vault tx (.updatePositionValue id newValue))
  | revaluedEach {tx : Tx} {positionIds newValues : List Nat}
      {book : VaultBook}
      (hregistry : w'.registry = w.registry)
      (hbooks : w.Books w' book)
      (heach : World.updateEach w.vault.toVaultBook
        (positionIds.zip newValues) = .ok book) :
      Effect w w' (.vault tx (.batchUpdatePositionValues positionIds
        newValues))
  /-- The fees are paid out. -/
  | withdrew {tx : Tx} (hfunded : w.vault.totalFees ≤ w.vault.balance)
      (hregistry : w'.registry = w.registry)
      (hbooks : w.Books w' { w.vault.toVaultBook with
        totalFees := 0
        balance := w.vault.balance - w.vault.totalFees }) :
      Effect w w' (.vault tx .withdrawFees)
  /-- A setting changes, or ether arrives. -/
  | kept {tx : Tx} {c : VaultCall} {amount : Nat}
      (hconfigure : w.vault.configure tx c = .ok w'.vault)
      (hregistry : w'.registry = w.registry)
      (hbook : w'.vault.toVaultBook = w.vault.receive amount) :
      Effect w w' (.vault tx c)
  /-- The registry is called. -/
  | registered {tx : Tx} {c : RegistryCall}
      (hvault : w'.vault = w.vault)
      (hcall : w.registry.call tx c = .ok w'.registry) :
      Effect w w' (.registry tx c)
  /-- A limits contract is called. -/
  | limited {tx : Tx} {contract : Address} {c : LimitsCall}
      (hvault : w'.vault = w.vault) (hregistry : w'.registry = w.registry) :
      Effect w w' (.limits tx contract c)

theorem openPosition_effect {agent : Address} {minReturnBps : Int}
    {lockPeriod : Nat}
    (h : w.openPosition env tx agent minReturnBps lockPeriod = .ok w') :
    Effect w w' (.vault tx (.openPosition agent minReturnBps lockPeriod)) := by
  obtain ⟨_, -, _, hmin, _, hmax, _, -, h⟩ := bind_ok₄.mp h
  obtain ⟨_, -, _, hactive, _, htier, registry, hregistry, h⟩ := bind_ok₄.mp h
  cases h
  exact .opened ⟨require_ok.mp hmin, require_ok.mp hmax⟩ htier
    (require_ok.mp hactive) (updateCopiers_ok hregistry).2 rfl rfl

theorem VaultBook.safeTransfer_funded {b b' : VaultBook} {id amount : Nat}
    {payee : Address} (h : b.safeTransfer tx id payee amount = .ok b') :
    amount ≤ b.balance := by
  rcases (safeTransfer_ok.mp h).1 with rfl | ⟨hle, -⟩
  · exact Nat.zero_le _
  · exact hle

theorem closePosition_effect {id : Nat} (h : w.closePosition env tx id = .ok w') :
    Effect w w' (.vault tx (.closePosition id)) := by
  obtain ⟨_, hactive, h⟩ := bind_ok.mp h
  iterate 4 obtain ⟨_, -, h⟩ := bind_ok.mp h
  obtain ⟨fee, hfee, _, -, book, hbook, registry, hcopiers, h⟩ := bind_ok₄.mp h
  obtain ⟨registry', htrade, book', hsend, h⟩ := bind_ok₂.mp h
  cases h
  obtain ⟨hcovered, rfl⟩ := VaultBook.endPosition_ok.mp hbook
  have hfunded := VaultBook.safeTransfer_funded hsend
  obtain ⟨-, rfl⟩ := VaultBook.safeTransfer_ok.mp hsend
  have hcopiers := (updateCopiers_ok hcopiers).2
  refine .exited (.closed hfee) (require_ok.mp hactive) hcovered hfunded
    ?_ rfl
  have htrade := hcopiers.trans (recordTrade_ok htrade)
  exact ⟨htrade.vault, htrade.admin, htrade.isRegistered, htrade.active,
    fun b => (htrade.copiers b).trans (hcopiers.copiers b)⟩

theorem emergencyWithdraw_effect {id : Nat}
    (h : w.emergencyWithdraw env tx id = .ok w') :
    Effect w w' (.vault tx (.emergencyWithdraw id)) := by
  obtain ⟨_, -, _, hactive, h⟩ := bind_ok₂.mp h
  iterate 3 obtain ⟨_, -, h⟩ := bind_ok.mp h
  obtain ⟨book, hbook, registry, hcopiers, book', hsend, h⟩ := bind_ok₃.mp h
  cases h
  obtain ⟨hcovered, rfl⟩ := VaultBook.endPosition_ok.mp hbook
  have hfunded := VaultBook.safeTransfer_funded hsend
  obtain ⟨-, rfl⟩ := VaultBook.safeTransfer_ok.mp hsend
  exact .exited .withdrawn (require_ok.mp hactive) hcovered hfunded
    (updateCopiers_ok hcopiers).2 rfl

theorem resolveDispute_effect {disputeId : Nat} {userWins : Bool}
    (h : w.resolveDispute env tx disputeId userWins = .ok w') :
    Effect w w' (.vault tx (.resolveDispute disputeId userWins)) := by
  obtain ⟨_, -, _, hopen, registry, hnote, h⟩ := bind_ok₃.mp h
  have hopen := require_ok.mp hopen
  have hnote := noteDispute_ok hnote
  split at h
  · rename_i hactive
    obtain ⟨book, hbook, registry', hcopiers, book', hsend, h⟩ := bind_ok₃.mp h
    cases h
    obtain ⟨hcovered, rfl⟩ := VaultBook.endPosition_ok.mp hbook
    have hfunded := VaultBook.safeTransfer_funded hsend
    obtain ⟨-, rfl⟩ := VaultBook.safeTransfer_ok.mp hsend
    refine .exited (.resolved hopen) hactive hcovered hfunded ?_ rfl
    have hcopiers := (updateCopiers_ok hcopiers).2
    have hcount : registry.copiersOf = w.registry.copiersOf := by
      funext b
      exact hnote.copiers b
    have hboth := hnote.trans hcopiers
    rw [hcount] at hboth
    exact hboth
  · rename_i hactive
    obtain ⟨book, hsend, h⟩ := bind_ok.mp h
    cases h
    have hfunded := VaultBook.safeTransfer_funded hsend
    obtain ⟨-, rfl⟩ := VaultBook.safeTransfer_ok.mp hsend
    exact .repaid (.resolved hopen) (by simpa using hactive) hfunded hnote rfl

theorem fileDispute_effect {id : Nat} (h : w.fileDispute tx id = .ok w') :
    Effect w w' (.vault tx (.fileDispute id)) := by
  obtain ⟨_, huser, _, hfresh, _, -, h⟩ := bind_ok₃.mp h
  obtain ⟨_, -, actualReturnBps, -, h⟩ := bind_ok₂.mp h
  cases h
  exact .filed (require_ok.mp huser) (require_ok.mp hfresh) rfl rfl

theorem updatePositionValue_effect {id newValue : Nat}
    (h : w.updatePositionValue tx id newValue = .ok w') :
    Effect w w' (.vault tx (.updatePositionValue id newValue)) := by
  obtain ⟨_, -, _, hactive, _, hchange, h⟩ := bind_ok₃.mp h
  cases h
  exact .revalued (require_ok.mp hactive) hchange rfl rfl

theorem batchUpdatePositionValues_effect {positionIds newValues : List Nat}
    (h : w.batchUpdatePositionValues tx positionIds newValues = .ok w') :
    Effect w w'
      (.vault tx (.batchUpdatePositionValues positionIds newValues)) := by
  obtain ⟨_, -, _, -, book, hbook, h⟩ := bind_ok₃.mp h
  cases h
  exact .revaluedEach rfl rfl hbook

theorem withdrawFees_effect (h : w.withdrawFees tx = .ok w') :
    Effect w w' (.vault tx .withdrawFees) := by
  obtain ⟨_, -, h⟩ := bind_ok.mp h
  by_cases hzero : w.vault.totalFees = 0
  · rw [if_pos hzero] at h
    cases h
    refine .withdrew (by omega) rfl ?_
    show w.vault = { w.vault with
      totalFees := 0
      balance := w.vault.balance - w.vault.totalFees }
    rw [hzero, Nat.sub_zero, ← hzero]
  · rw [if_neg hzero] at h
    obtain ⟨left, hsend, h⟩ := bind_ok.mp h
    cases h
    obtain ⟨hle, -, rfl⟩ := sendEther_ok.mp hsend
    exact .withdrew hle rfl rfl

/-- A setting leaves the books alone, but for ether that comes in, and the
settings it is not about. -/
structure Configured (c : VaultCall) (v v' : KamiyoVault) : Prop where
  book : ∃ amount, v'.toVaultBook = v.toVaultBook.receive amount
  paused : (∀ paused, c ≠ .setPaused paused) → v'.paused = v.paused
  limits : (∀ limits, c ≠ .setReputationLimits limits) →
    v'.reputationLimits = v.reputationLimits

theorem configure_ok {v v' : KamiyoVault} {c : VaultCall}
    (h : v.configure tx c = .ok v') : Configured c v v' := by
  cases c with
  | transferAdmin =>
    obtain ⟨_, -, _, -, h⟩ := bind_ok₂.mp h
    cases h
    exact ⟨⟨0, rfl⟩, fun _ => rfl, fun _ => rfl⟩
  | acceptAdmin =>
    obtain ⟨_, -, h⟩ := bind_ok.mp h
    cases h
    exact ⟨⟨0, rfl⟩, fun _ => rfl, fun _ => rfl⟩
  | setDisputeFee =>
    obtain ⟨_, -, h⟩ := bind_ok.mp h
    cases h
    exact ⟨⟨0, rfl⟩, fun _ => rfl, fun _ => rfl⟩
  | setDisputeResolver =>
    obtain ⟨_, -, _, -, h⟩ := bind_ok₂.mp h
    cases h
    exact ⟨⟨0, rfl⟩, fun _ => rfl, fun _ => rfl⟩
  | setFeeRecipient =>
    obtain ⟨_, -, _, -, h⟩ := bind_ok₂.mp h
    cases h
    exact ⟨⟨0, rfl⟩, fun _ => rfl, fun _ => rfl⟩
  | setReputationLimits limits =>
    obtain ⟨_, -, h⟩ := bind_ok.mp h
    cases h
    exact ⟨⟨0, rfl⟩, fun _ => rfl, fun hne => absurd rfl (hne limits)⟩
  | setPaused paused =>
    obtain ⟨_, -, _, -, h⟩ := bind_ok₂.mp h
    cases h
    exact ⟨⟨0, rfl⟩, fun hne => absurd rfl (hne paused), fun _ => rfl⟩
  | receive =>
    cases h
    exact ⟨⟨tx.value, rfl⟩, fun _ => rfl, fun _ => rfl⟩
  | _ => cases h

theorem configure_effect {c : VaultCall}
    (h : (do
      let vault ← w.vault.configure tx c
      return { w with vault := vault }) = Except.ok w') :
    Effect w w' (.vault tx c) := by
  obtain ⟨vault, hvault, h⟩ := bind_ok.mp h
  cases h
  obtain ⟨amount, hbook⟩ := (configure_ok hvault).book
  exact .kept hvault rfl hbook

theorem call_effect {c : VaultCall} (h : w.call env tx c = .ok w') :
    Effect w w' (.vault tx c) := by
  obtain ⟨_, -, h⟩ := bind_ok.mp h
  cases c with
  | openPosition => exact openPosition_effect h
  | closePosition => exact closePosition_effect h
  | fileDispute => exact fileDispute_effect h
  | resolveDispute => exact resolveDispute_effect h
  | updatePositionValue => exact updatePositionValue_effect h
  | batchUpdatePositionValues => exact batchUpdatePositionValues_effect h
  | withdrawFees => exact withdrawFees_effect h
  | emergencyWithdraw => exact emergencyWithdraw_effect h
  | _ => exact configure_effect h

theorem step_effect (h : World.step env a w = .ok w') :
    Effect w w' a := by
  obtain ⟨_, -, h⟩ := bind_ok.mp h
  cases a with
  | vault tx c => exact call_effect h
  | registry tx c =>
    obtain ⟨registry, hregistry, h⟩ := bind_ok.mp h
    cases h
    exact .registered rfl hregistry
  | limits tx contract c =>
    obtain ⟨_, -, _, -, h⟩ := bind_ok₂.mp h
    cases h
    exact .limited rfl rfl

theorem step_sender (h : World.step env a w = .ok w') :
    a.tx.sender ≠ zeroAddress ∧ a.tx.sender ≠ env.this := by
  obtain ⟨_, hsender, -⟩ := bind_ok.mp h
  exact require_ok.mp hsender

end KamiyoProtocol.Hyperliquid
