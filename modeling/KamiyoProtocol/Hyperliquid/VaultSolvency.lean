/-
One payment for each position.

A dispute can be resolved after its position has left, and then pays for
it again. Where disputes are resolved only while their positions are
active, a position is paid when it leaves and never else, so the vault
holds the deposits of all that are still in it.
-/
import KamiyoProtocol.Hyperliquid.Positions

namespace KamiyoProtocol.Hyperliquid

open Exec Evm Function

variable {env : Env} {w w' : World} {tx : Tx} {a : WorldAction}

-- ==== the property

namespace VaultBook

/-- The payments for a position. -/
def paid (b : VaultBook) (id : Nat) : List Payment :=
  b.payments.filter fun p => p.positionId = id

/-- Every position is paid for once at most, to its user, and with at most
its deposit. -/
def PaysOnce (b : VaultBook) : Prop :=
  ∀ id, (b.paid id).length ≤ 1
    ∧ ((b.paid id).map Payment.amount).sum ≤ (b.positions id).deposit
    ∧ ∀ p ∈ b.paid id, p.payee = (b.positions id).user

/-- The vault has the fees and the deposits of all active positions. -/
def Solvent (b : VaultBook) : Prop :=
  b.totalFees + b.activeDeposits ≤ b.balance

end VaultBook

/-- A vault as its constructor leaves it. -/
structure VaultBook.Fresh (b : VaultBook) : Prop where
  positionCount : b.positionCount = 0
  disputeCount : b.disputeCount = 0
  totalDeposits : b.totalDeposits = 0
  totalFees : b.totalFees = 0
  positions : ∀ id, b.positions id = CopyPosition.empty
  disputes : ∀ id, b.disputes id = DisputeInfo.empty
  agentPositions : ∀ agent, b.agentPositions agent = []
  payments : b.payments = []

/-- The values a call sets. -/
def WorldAction.values : WorldAction → List (Nat × Nat)
  | .vault _ (.updatePositionValue id newValue) => [(id, newValue)]
  | .vault _ (.batchUpdatePositionValues positionIds newValues) =>
    positionIds.zip newValues
  | _ => []

/-- The dispute a call resolves. -/
def WorldAction.resolves : WorldAction → Option Nat
  | .vault _ (.resolveDispute disputeId _) => some disputeId
  | _ => none

/-- The resolver sets no value above its deposit, and resolves only
disputes that were filed. -/
def Honest (a : WorldAction) (w : World) : Prop :=
  (∀ p ∈ a.values, (w.vault.positions p.1).active = true →
    p.2 ≤ (w.vault.positions p.1).deposit)
  ∧ ∀ d ∈ a.resolves, d < w.vault.disputeCount
  deriving Decidable

/-- A dispute is resolved while its position is active. -/
def ResolvesActive (a : WorldAction) (w : World) : Prop :=
  ∀ d ∈ a.resolves,
    (w.vault.positions (w.vault.disputes d).positionId).active = true
  deriving Decidable

-- ==== invariant

/-- What the books keep. -/
structure Kept (b : VaultBook) : Prop where
  numbered : b.Numbered
  filed : ∀ d < b.disputeCount, (b.disputes d).positionId < b.positionCount
    ∧ (b.disputes d).user = (b.positions (b.disputes d).positionId).user
  valued : ∀ id, (b.positions id).active = true →
    (b.positions id).currentValue ≤ (b.positions id).deposit
  paid : ∀ id, b.paid id = [] ∨ (b.positions id).active = false
    ∧ id < b.positionCount ∧ ∃ amount ≤ (b.positions id).deposit,
      b.paid id = [⟨id, (b.positions id).user, amount⟩]
  solvent : b.Solvent

theorem Kept.paysOnce {b : VaultBook} (h : Kept b) : b.PaysOnce := by
  intro id
  rcases h.paid id with hnone | ⟨-, -, amount, hamount, hone⟩
  · rw [hnone]
    exact ⟨by simp, by simp, fun p hp => (List.not_mem_nil hp).elim⟩
  · rw [hone]
    refine ⟨by simp, by simpa using hamount, ?_⟩
    intro p hp
    rw [List.mem_singleton] at hp
    rw [hp]

theorem Kept.unpaid {b : VaultBook} (h : Kept b) {id : Nat}
    (hactive : (b.positions id).active = true) : b.paid id = [] := by
  rcases h.paid id with hnone | ⟨hinactive, -⟩
  · exact hnone
  · rw [hactive] at hinactive
    cases hinactive

/-- A position that leaves is paid, and leaves as a fee, no more than its
deposit. -/
theorem Exits.bounded {id payout fee : Nat} {payee : Address}
    {disputes : Nat → DisputeInfo} (h : Exits w a id payee payout fee disputes)
    (hvalue : (w.vault.positions id).currentValue
      ≤ (w.vault.positions id).deposit) :
    fee = 0 ∧ payout ≤ (w.vault.positions id).deposit := by
  cases h with
  | closed hfee =>
    unfold closingFee at hfee
    rw [if_neg (by omega)] at hfee
    cases hfee
    exact ⟨rfl, by omega⟩
  | withdrawn => exact ⟨rfl, hvalue⟩
  | resolved =>
    refine ⟨rfl, ?_⟩
    split
    · exact Nat.le_refl _
    · exact hvalue

theorem Exits.payee {id payout fee : Nat} {payee : Address}
    {disputes : Nat → DisputeInfo} (h : Exits w a id payee payout fee disputes)
    (hw : Kept w.vault.toVaultBook) (hhonest : Honest a w) :
    payee = (w.vault.positions id).user := by
  cases h with
  | closed => rfl
  | withdrawn => rfl
  | resolved => exact (hw.filed _ (hhonest.2 _ rfl)).2

theorem Exits.disputes {id payout fee : Nat} {payee : Address}
    {disputes : Nat → DisputeInfo} (h : Exits w a id payee payout fee disputes)
    (d : Nat) : (disputes d).positionId = (w.vault.disputes d).positionId
      ∧ (disputes d).user = (w.vault.disputes d).user := by
  cases h with
  | closed => exact ⟨rfl, rfl⟩
  | withdrawn => exact ⟨rfl, rfl⟩
  | resolved =>
    rename_i disputeId userWins hopen
    by_cases hd : d = disputeId
    · subst hd
      rw [update_self]
      exact ⟨rfl, rfl⟩
    · rw [update_of_ne hd]
      exact ⟨rfl, rfl⟩

-- ==== each step

section Steps

variable {b b' : VaultBook}

/-- Where positions keep their users and deposits, nothing is paid for one,
and ether rises with the fees. -/
theorem Kept.amend (h : Kept b) (hnumbered : b'.Numbered)
    (hcount : b'.positionCount = b.positionCount)
    (hsame : ∀ id, (b'.positions id).user = (b.positions id).user
      ∧ (b'.positions id).deposit = (b.positions id).deposit
      ∧ (b'.positions id).active = (b.positions id).active)
    (hvalued : ∀ id, (b'.positions id).active = true →
      (b'.positions id).currentValue ≤ (b'.positions id).deposit)
    (hfiled : ∀ d < b'.disputeCount,
      (b'.disputes d).positionId < b.positionCount
        ∧ (b'.disputes d).user = (b.positions (b'.disputes d).positionId).user)
    (hpayments : b'.payments = b.payments)
    (hether : b'.totalFees + b.balance ≤ b.totalFees + b'.balance) :
    Kept b' where
  numbered := hnumbered
  filed := by
    intro d hd
    rw [hcount, (hsame _).1]
    exact hfiled d hd
  valued := hvalued
  paid := by
    intro id
    have hpaid : b'.paid id = b.paid id := by
      unfold VaultBook.paid
      rw [hpayments]
    obtain ⟨huser, hdeposit, hactive⟩ := hsame id
    rw [hpaid, huser, hdeposit, hactive, hcount]
    exact h.paid id
  solvent := by
    have htotal : b'.activeDeposits = b.activeDeposits := by
      apply VaultBook.total_congr hcount
      intro id
      obtain ⟨-, hdeposit, hactive⟩ := hsame id
      unfold VaultBook.activeDeposit
      rw [hdeposit, hactive]
    have hsolvent := h.solvent
    unfold VaultBook.Solvent at hsolvent ⊢
    omega

theorem Kept.receive (h : Kept b) (amount : Nat) : Kept (b.receive amount) :=
  h.amend h.numbered rfl (fun _ => ⟨rfl, rfl, rfl⟩) h.valued h.filed rfl
    (by
      show b.totalFees + b.balance ≤ b.totalFees + (b.balance + amount)
      omega)

theorem Kept.withdraw (h : Kept b) (hfunded : b.totalFees ≤ b.balance) :
    Kept { b with totalFees := 0, balance := b.balance - b.totalFees } :=
  h.amend h.numbered rfl (fun _ => ⟨rfl, rfl, rfl⟩) h.valued h.filed rfl
    (by
      show 0 + b.balance ≤ b.totalFees + (b.balance - b.totalFees)
      omega)

theorem Kept.push (h : Kept b) {pos : CopyPosition}
    (hvalue : pos.currentValue ≤ pos.deposit) :
    Kept ((b.push pos).receive pos.deposit) where
  numbered := h.numbered.push pos
  filed := by
    intro d hd
    obtain ⟨hlt, huser⟩ := h.filed d hd
    show (b.disputes d).positionId < b.positionCount + 1
      ∧ (b.disputes d).user = (update b.positions b.positionCount pos
        (b.disputes d).positionId).user
    rw [update_of_ne (by omega)]
    exact ⟨Nat.lt_succ_of_lt hlt, huser⟩
  valued := by
    intro id hactive
    change (update b.positions b.positionCount pos id).active = true at hactive
    show (update b.positions b.positionCount pos id).currentValue
      ≤ (update b.positions b.positionCount pos id).deposit
    by_cases hid : id = b.positionCount
    · rw [hid, update_self]
      exact hvalue
    · rw [update_of_ne hid] at hactive ⊢
      exact h.valued id hactive
  paid := by
    intro id
    rcases h.paid id with hnone | ⟨hinactive, hlt, hone⟩
    · exact Or.inl hnone
    · refine Or.inr ?_
      show (update b.positions b.positionCount pos id).active = false
        ∧ id < b.positionCount + 1 ∧ ∃ amount
          ≤ (update b.positions b.positionCount pos id).deposit,
          b.paid id
            = [⟨id, (update b.positions b.positionCount pos id).user, amount⟩]
      rw [update_of_ne (by omega)]
      exact ⟨hinactive, Nat.lt_succ_of_lt hlt, hone⟩
  solvent := by
    have htotal := VaultBook.total_push b pos VaultBook.activeDeposit
    have hsolvent := h.solvent
    have hle : VaultBook.activeDeposit pos ≤ pos.deposit := by
      unfold VaultBook.activeDeposit
      split
      · exact Nat.le_refl _
      · exact Nat.zero_le _
    unfold VaultBook.Solvent VaultBook.activeDeposits at hsolvent ⊢
    show b.totalFees + (b.push pos).total VaultBook.activeDeposit
      ≤ b.balance + pos.deposit
    omega

theorem filter_payment (id j : Nat) (payee : Address) (amount : Nat) :
    (VaultBook.payment id payee amount).filter (fun p => p.positionId = j)
      = if j = id then VaultBook.payment id payee amount else [] := by
  unfold VaultBook.payment
  by_cases hj : j = id
  · subst hj
    split
    · simp
    · simp
  · split
    · simp
    · simp [Ne.symm hj]

theorem Kept.exit (h : Kept b) {timestamp id payout fee : Nat}
    {payee : Address} {disputes : Nat → DisputeInfo}
    (hactive : (b.positions id).active = true)
    (hfunded : payout ≤ b.balance)
    (hfee : fee = 0) (hpayout : payout ≤ (b.positions id).deposit)
    (hpayee : payee = (b.positions id).user)
    (hdisputes : ∀ d, (disputes d).positionId = (b.disputes d).positionId
      ∧ (disputes d).user = (b.disputes d).user) :
    Kept (b.exit timestamp id payee payout fee disputes) := by
  have hid := h.numbered.lt_of_active hactive
  have hwrites : b.Writes (b.exit timestamp id payee payout fee disputes) id
      { b.positions id with active := false, endTime := uint 64 timestamp } :=
    exit_writes
  refine ⟨hwrites.numbered h.numbered hid, ?_, ?_, ?_, ?_⟩
  · intro d hd
    obtain ⟨hposition, huser⟩ := hdisputes d
    obtain ⟨hlt, hwhose⟩ := h.filed d hd
    show (disputes d).positionId < b.positionCount
      ∧ (disputes d).user = (update b.positions id _ (disputes d).positionId).user
    rw [hposition, huser]
    refine ⟨hlt, hwhose.trans ?_⟩
    by_cases hd : (b.disputes d).positionId = id
    · rw [hd, update_self]
    · rw [update_of_ne hd]
  · intro j hj
    rw [hwrites.positions] at hj ⊢
    by_cases hjid : j = id
    · rw [hjid, update_self] at hj
      cases hj
    · rw [update_of_ne hjid] at hj ⊢
      exact h.valued j hj
  · intro j
    have hpaid : (b.exit timestamp id payee payout fee disputes).paid j
        = b.paid j
          ++ if j = id then VaultBook.payment id payee payout else [] := by
      show (b.payments ++ VaultBook.payment id payee payout).filter _ = _
      rw [List.filter_append, filter_payment]
      rfl
    rw [hpaid, hwrites.positions]
    show _ ∨ _ ∧ j < b.positionCount ∧ _
    by_cases hjid : j = id
    · subst hjid
      rw [h.unpaid hactive, if_pos rfl, List.nil_append, update_self]
      unfold VaultBook.payment
      by_cases hzero : payout = 0
      · rw [if_pos hzero]
        exact Or.inl rfl
      · rw [if_neg hzero, hpayee]
        exact Or.inr ⟨rfl, hid, payout, hpayout, rfl⟩
    · rw [if_neg hjid, List.append_nil, update_of_ne hjid]
      exact h.paid j
  · have htotal := hwrites.total hid VaultBook.activeDeposit
    have hsolvent := h.solvent
    have hbefore : VaultBook.activeDeposit (b.positions id)
        = (b.positions id).deposit := by
      unfold VaultBook.activeDeposit
      rw [if_pos hactive]
    rw [hbefore] at htotal
    have hafter : VaultBook.activeDeposit { b.positions id with
        active := false, endTime := uint 64 timestamp } = 0 := rfl
    rw [hafter] at htotal
    unfold VaultBook.Solvent VaultBook.activeDeposits at hsolvent ⊢
    show b.totalFees + fee
      + (b.exit timestamp id payee payout fee disputes).total
        VaultBook.activeDeposit ≤ b.balance - payout
    omega

theorem Kept.file (h : Kept b) {id : Nat} {dispute : DisputeInfo}
    (hid : id < b.positionCount) (hposition : dispute.positionId = id)
    (huser : dispute.user = (b.positions id).user) (amount : Nat) :
    Kept (((b.file id dispute).addFees amount).receive amount) := by
  have hsame : ∀ j,
      (update b.positions id { b.positions id with disputed := true } j).user
        = (b.positions j).user
      ∧ (update b.positions id { b.positions id with disputed := true } j).deposit
        = (b.positions j).deposit
      ∧ (update b.positions id { b.positions id with disputed := true } j).active
        = (b.positions j).active
      ∧ (update b.positions id { b.positions id with disputed := true }
          j).currentValue = (b.positions j).currentValue := by
    intro j
    by_cases hj : j = id
    · subst hj
      rw [update_self]
      exact ⟨rfl, rfl, rfl, rfl⟩
    · rw [update_of_ne hj]
      exact ⟨rfl, rfl, rfl, rfl⟩
  refine h.amend (file_writes.numbered h.numbered hid) rfl
    (fun j => ⟨(hsame j).1, (hsame j).2.1, (hsame j).2.2.1⟩) ?_ ?_ rfl ?_
  · intro j hj
    obtain ⟨-, hdeposit, hactive, hvalue⟩ := hsame j
    show (update b.positions id _ j).currentValue
      ≤ (update b.positions id _ j).deposit
    rw [hvalue, hdeposit]
    exact h.valued j (hactive.symm.trans hj)
  · intro d hd
    change d < b.disputeCount + 1 at hd
    show (update b.disputes b.disputeCount dispute d).positionId < b.positionCount
      ∧ (update b.disputes b.disputeCount dispute d).user
        = (b.positions (update b.disputes b.disputeCount dispute
          d).positionId).user
    by_cases hnew : d = b.disputeCount
    · rw [hnew, update_self, hposition]
      exact ⟨hid, huser⟩
    · rw [update_of_ne hnew]
      exact h.filed d (by omega)
  · show b.totalFees + amount + b.balance ≤ b.totalFees + (b.balance + amount)
    omega

theorem Kept.revalue (h : Kept b) {values : List (Nat × Nat)}
    (hrevalued : Revalued b b' values)
    (hhonest : ∀ p ∈ values, (b.positions p.1).active = true →
      p.2 ≤ (b.positions p.1).deposit) : Kept b' := by
  obtain ⟨hpositions, hothers⟩ := hrevalued
  have hcount : b'.positionCount = b.positionCount := by
    rw [hothers]
  refine h.amend ?_ hcount ?_ ?_ ?_ (by rw [hothers]) (by rw [hothers])
  · intro id hid
    rcases hpositions id with hsame | ⟨hactive, -⟩
    · rw [hsame]
      exact h.numbered id (by omega)
    · have hlt := h.numbered.lt_of_active hactive
      omega
  · intro id
    rcases hpositions id with hsame | ⟨-, x, -, hsame⟩
    · rw [hsame]
      exact ⟨rfl, rfl, rfl⟩
    · rw [hsame]
      exact ⟨rfl, rfl, rfl⟩
  · intro id hactive
    rcases hpositions id with hsame | ⟨hwas, x, hx, hsame⟩
    · rw [hsame] at hactive ⊢
      exact h.valued id hactive
    · rw [hsame]
      exact hhonest (id, x) hx hwas
  · rw [hothers]
    exact h.filed

end Steps

theorem kept_step (h : Kept w.vault.toVaultBook) (hhonest : Honest a w)
    (hresolves : ResolvesActive a w) (hstep : World.step env a w = .ok w') :
    Kept w'.vault.toVaultBook := by
  have heffect := step_effect hstep
  cases heffect with
  | opened hdeposit htier hagent hnoted hlimits hbooks =>
    rw [hbooks.book]
    exact h.push (Nat.le_refl _)
  | exited hexits hactive hcovered hfunded hnoted hbooks =>
    rw [hbooks.book]
    obtain ⟨hfee, hpayout⟩ := hexits.bounded (h.valued _ hactive)
    exact h.exit hactive hfunded hfee hpayout (hexits.payee h hhonest)
      hexits.disputes
  | repaid hexits hactive hfunded hnoted hbooks =>
    cases hexits
    rw [hresolves _ rfl] at hactive
    cases hactive
  | filed huser hfresh hregistry hbooks =>
    rw [hbooks.book]
    have hid := h.numbered.lt_of_user (huser ▸ (step_sender hstep).1)
    exact h.file hid rfl rfl _
  | revalued hactive hchange hregistry hbooks =>
    rw [hbooks.book]
    exact h.revalue (setPosition_revalued hactive) hhonest.1
  | revaluedEach hregistry hbooks heach =>
    rw [hbooks.book]
    exact h.revalue (updateEach_revalued heach) hhonest.1
  | withdrew hfunded hregistry hbooks =>
    rw [hbooks.book]
    exact h.withdraw hfunded
  | kept hconfigure hregistry hbook =>
    rw [hbook]
    exact h.receive _
  | registered hvault hcall =>
    rw [hvault]
    exact h
  | limited hvault hregistry =>
    rw [hvault]
    exact h

theorem VaultBook.Fresh.kept {b : VaultBook} (h : b.Fresh) : Kept b := by
  have hpaid : ∀ id, b.paid id = [] := by
    intro id
    unfold VaultBook.paid
    rw [h.payments]
    rfl
  refine ⟨fun id _ => h.positions id, ?_, ?_, fun id => Or.inl (hpaid id), ?_⟩
  · intro d hd
    rw [h.disputeCount] at hd
    exact absurd hd (Nat.not_lt_zero d)
  · intro id hactive
    rw [h.positions] at hactive
    cases hactive
  · unfold VaultBook.Solvent VaultBook.activeDeposits VaultBook.total
    rw [h.totalFees, h.positionCount]
    exact Nat.zero_le _

-- ==== runs

/-- Where disputes are resolved only while their positions are active, each
position is paid once and the vault stays solvent. -/
theorem pays_once {w₀ : World} {tr : List WorldAction}
    (h₀ : w₀.vault.Fresh) (hhonest : Meets (World.step env) Honest w₀ tr)
    (hresolves : Meets (World.step env) ResolvesActive w₀ tr)
    (hrun : run (World.step env) w₀ tr = .ok w) :
    w.vault.PaysOnce ∧ w.vault.Solvent := by
  have h := run_induct_meets (I := fun w : World => Kept w.vault.toVaultBook)
    ?_ h₀.kept (meets_both hhonest hresolves) hrun
  · exact ⟨h.paysOnce, h.solvent⟩
  · intro a w w' hw hcond hstep
    exact kept_step hw hcond.1 hcond.2 hstep

-- ==== examples

namespace Concrete

/-- The vault at address 100; no proof is ever valid. -/
def chain : Env where
  this := 100
  curve := ⟨fun _ _ _ => .ok false⟩

def emptyBook : VaultBook where
  positionCount := 0
  disputeCount := 0
  totalDeposits := 0
  totalFees := 0
  positions := fun _ => CopyPosition.empty
  disputes := fun _ => DisputeInfo.empty
  agentPositions := fun _ => []
  balance := 0
  payments := []

def emptyRegistry : AgentRegistry where
  agents := fun _ => Agent.empty
  isRegistered := fun _ => false
  withdrawalRequestTime := fun _ => 0
  withdrawalRequestAmount := fun _ => 0
  admin := 1
  pendingAdmin := zeroAddress
  disputeResolver := 2
  vault := 100
  totalStaked := 0
  totalSlashed := 0
  paused := false
  balance := 0

/-- Admin 1, resolver 2, and a limits contract at address 200. -/
def start : World where
  vault := { emptyBook with
    reputationLimits := 200
    admin := 1
    pendingAdmin := zeroAddress
    disputeResolver := 2
    feeRecipient := 1
    disputeFee := minDeposit
    paused := false }
  registry := emptyRegistry
  limits := fun contract =>
    if contract = 200 then some {
      vk := ⟨(0, 0), ((0, 0), 0, 0), ((0, 0), 0, 0), ((0, 0), 0, 0), []⟩
      tiers := defaultTiers
      agentTiers := fun _ => ⟨0, 0, 0⟩
      admin := 1
      pendingAdmin := zeroAddress
      paused := false }
    else none

theorem start_fresh : start.vault.Fresh :=
  ⟨rfl, rfl, rfl, rfl, fun _ => rfl, fun _ => rfl, fun _ => rfl, rfl⟩

/-- A call with ether at a time, which no one refuses. -/
def msg (sender value timestamp : Nat) : Tx := ⟨⟨sender, value, timestamp⟩, []⟩

/-- Agent 5 registers, and 7 and 8 copy it. -/
def opened : List WorldAction :=
  [.registry (msg 5 minStake 0) (.register [97, 97, 97]),
    .vault (msg 7 ether 0) (.openPosition 5 0 minLockPeriod),
    .vault (msg 8 ether 0) (.openPosition 5 0 minLockPeriod)]

/-- 7 disputes its position and wins; 8 closes its own. -/
def disputedRun : List WorldAction := opened
  ++ [.vault (msg 7 minDeposit 10) (.fileDispute 0),
    .vault (msg 2 0 20) (.resolveDispute 0 true),
    .vault (msg 8 0 minLockPeriod) (.closePosition 1)]

/-- 7 closes its position, disputes it and wins. -/
def repaidRun : List WorldAction := opened
  ++ [.vault (msg 7 0 minLockPeriod) (.closePosition 0),
    .vault (msg 7 minDeposit minLockPeriod) (.fileDispute 0),
    .vault (msg 2 0 minLockPeriod) (.resolveDispute 0 true)]

end Concrete

theorem pays_once_disputed :
    ∃ w, run (World.step Concrete.chain) Concrete.start Concrete.disputedRun
        = .ok w
      ∧ w.vault.payments.length = 2 ∧ w.vault.PaysOnce ∧ w.vault.Solvent := by
  obtain ⟨w, hrun, hlength⟩ := check_ok (show Exec.check
      (fun w : World => decide (w.vault.payments.length = 2))
      (run (World.step Concrete.chain) Concrete.start Concrete.disputedRun)
        = true
    by decide)
  have hhonest : Meets (World.step Concrete.chain) Honest Concrete.start
      Concrete.disputedRun := by
    apply meets_of_check fun a w h =>
      of_decide_eq_true (p := Honest a w) h
    decide
  have hresolves : Meets (World.step Concrete.chain) ResolvesActive
      Concrete.start Concrete.disputedRun := by
    apply meets_of_check fun a w h =>
      of_decide_eq_true (p := ResolvesActive a w) h
    decide
  exact ⟨w, hrun, of_decide_eq_true hlength,
    pays_once Concrete.start_fresh hhonest hresolves hrun⟩

/-- A position that was closed is paid for again, with the deposit of
another. -/
theorem closed_position_repaid :
    ∃ w, Concrete.start.vault.Fresh
      ∧ Meets (World.step Concrete.chain) Honest Concrete.start
        Concrete.repaidRun
      ∧ run (World.step Concrete.chain) Concrete.start Concrete.repaidRun
        = .ok w
      ∧ ¬ w.vault.PaysOnce ∧ ¬ w.vault.Solvent := by
  obtain ⟨w, hrun, hw⟩ := check_ok (show Exec.check
      (fun w : World => decide ((w.vault.paid 0).length = 2
        ∧ w.vault.balance < w.vault.totalFees + w.vault.activeDeposits))
      (run (World.step Concrete.chain) Concrete.start Concrete.repaidRun) = true
    by decide)
  obtain ⟨htwice, hshort⟩ := of_decide_eq_true hw
  have hhonest : Meets (World.step Concrete.chain) Honest Concrete.start
      Concrete.repaidRun := by
    apply meets_of_check fun a w h =>
      of_decide_eq_true (p := Honest a w) h
    decide
  refine ⟨w, Concrete.start_fresh, hhonest, hrun, ?_, ?_⟩
  · intro h
    have hone := (h 0).1
    omega
  · intro h
    exact absurd hshort (Nat.not_lt.mpr h)

end KamiyoProtocol.Hyperliquid
