/-
Two of three.

A proposal counts its approvals and never asks again who gave them, and
`updateSigner` takes any address for a new signer. So the rule holds as
long as no rotation makes two signers one, or removes a signer whose
approval an open proposal counts.
-/
import KamiyoProtocol.Hyperliquid.AdminTimelock

namespace KamiyoProtocol.Hyperliquid

open Exec Evm Keyed Function

variable {env : TimelockEnv} {s s' : Timelock} {m m' : Machine}

-- ==== the rule

/-- Two different signers had approved, and nobody had cancelled. -/
def Execution.Approved (e : Execution) : Prop :=
  e.cancelled = false ∧ ∃ i j : Fin 3, e.signers i ≠ e.signers j
    ∧ e.approvedBy (e.signers i) = true ∧ e.approvedBy (e.signers j) = true

instance (e : Execution) : Decidable e.Approved :=
  inferInstanceAs (Decidable (_ ∧ ∃ _i _j : Fin 3, _ ∧ _ ∧ _))

/-- There are three signers, every execution was approved by two of them,
and no proposal is executed twice. -/
structure TwoOfThree (s : Timelock) : Prop where
  distinct : Function.Injective s.signers
  once : (s.executions.map Execution.id).Nodup
  approved : ∀ e ∈ s.executions, e.Approved

-- ==== rotations

/-- The signer is replaced by no other signer, and no open proposal counts
its approval, unless it replaces itself. -/
def Timelock.Rotates (s : Timelock) (index : Fin 3) (newSigner : Address) :
    Prop :=
  (∀ j, j ≠ index → s.signers j ≠ newSigner)
    ∧ (s.signers index = newSigner ∨ ∀ id < s.nonce,
      s.hasApproved id (s.signers index) = true →
      (s.proposals id).executed = true ∨ (s.proposals id).cancelled = true)

instance (s : Timelock) (index : Fin 3) (newSigner : Address) :
    Decidable (s.Rotates index newSigner) :=
  inferInstanceAs (Decidable ((∀ _j : Fin 3, _) ∧ (_ ∨ ∀ id < s.nonce, _)))

/-- The rotation the contract is about to make. -/
def Machine.rotation (m : Machine) : Option (Nat × Address) :=
  match m.stack with
  | ⟨_, some (.fn (.updateSigner index newSigner), _)⟩ :: _ =>
    some (index, newSigner)
  | _ => none

/-- Signers are rotated so. -/
def KeepsKeys (a : TimelockAction) (m : Machine) : Prop :=
  match a with
  | .selfCall _ _ => ∀ r ∈ m.rotation, ∀ h : r.1 < 3, m.now.Rotates ⟨r.1, h⟩ r.2
  | _ => True

instance : ∀ a m, Decidable (KeepsKeys a m)
  | .selfCall _ _, m => inferInstanceAs (Decidable (∀ r ∈ m.rotation,
      ∀ h : r.1 < 3, m.now.Rotates ⟨r.1, h⟩ r.2))
  | .call _ _ _, _ => isTrue trivial
  | .back _, _ => isTrue trivial

-- ==== invariant

/-- A proposal's count is that of different addresses that approved it. -/
def Timelock.Counts (s : Timelock) (id : Nat) : Prop :=
  ∃ l : List Address, l.Nodup ∧ l.length = (s.proposals id).approvals
    ∧ ∀ a ∈ l, s.hasApproved id a = true

/-- What every state keeps, one to go back to as well. -/
structure Sound (s : Timelock) : Prop extends TwoOfThree s where
  counts : ∀ id, s.Counts id
  signed : ∀ id a, s.hasApproved id a = true →
    (s.proposals id).executed = true ∨ (s.proposals id).cancelled = true
      ∨ s.isSigner a
  unused : ∀ id, s.nonce ≤ id → s.proposals id = Proposal.empty
    ∧ ∀ a, s.hasApproved id a = false
  executed : ∀ e ∈ s.executions, (s.proposals e.id).executed = true

variable {sender : Address}

variable {id : Nat} {p : Proposal}

theorem openProposal_ok
    (h : s.openProposal sender id = .ok p) : s.isSigner sender
      ∧ p = s.proposals id ∧ p.target ≠ zeroAddress
      ∧ p.executed = false ∧ p.cancelled = false := by
  obtain ⟨_, hsigner, _, htarget, _, hexecuted, _, hcancelled, h⟩ :=
    bind_ok₄.mp h
  cases h
  exact ⟨require_ok.mp hsigner, rfl, require_ok.mp htarget,
    require_ok.mp hexecuted, require_ok.mp hcancelled⟩

theorem Sound.lt_nonce (h : Sound s)
    (htarget : (s.proposals id).target ≠ zeroAddress) : id < s.nonce := by
  by_contra hge
  rw [(h.unused id (by omega)).1] at htarget
  exact htarget rfl

theorem Sound.propose (h : Sound s) {sender target : Address}
    {timestamp value : Nat} {data : Bytes}
    (hok : s.propose sender timestamp target data value = .ok s') :
    Sound s' := by
  obtain ⟨_, hsigner, hok⟩ := bind_ok.mp hok
  have hsigner := require_ok.mp hsigner
  cases hok
  obtain ⟨-, hnone⟩ := h.unused s.nonce (Nat.le_refl _)
  have hlt : ∀ e ∈ s.executions, e.id ≠ s.nonce := by
    intro e he heq
    have hexecuted := h.executed e he
    rw [heq, (h.unused s.nonce (Nat.le_refl _)).1] at hexecuted
    cases hexecuted
  refine ⟨⟨h.distinct, h.once, h.approved⟩, ?_, ?_, ?_, ?_⟩
  · intro id
    by_cases hid : id = s.nonce
    · subst hid
      refine ⟨[sender], by simp, ?_, ?_⟩
      · show 1 = (update s.proposals s.nonce _ s.nonce).approvals
        rw [update_self]
      · intro a ha
        rw [List.mem_singleton] at ha
        subst ha
        show update s.hasApproved s.nonce _ s.nonce a = true
        rw [update_self, update_self]
    · obtain ⟨l, hnodup, hlength, hl⟩ := h.counts id
      refine ⟨l, hnodup, ?_, ?_⟩
      · show l.length = (update s.proposals s.nonce _ id).approvals
        rw [update_of_ne hid]
        exact hlength
      · intro a ha
        show update s.hasApproved s.nonce _ id a = true
        rw [update_of_ne hid]
        exact hl a ha
  · intro id a ha
    change update s.hasApproved s.nonce
      (update (s.hasApproved s.nonce) sender true) id a = true at ha
    show (update s.proposals s.nonce _ id).executed = true
      ∨ (update s.proposals s.nonce _ id).cancelled = true ∨ s.isSigner a
    by_cases hid : id = s.nonce
    · subst hid
      rw [update_self] at ha
      by_cases hsender : a = sender
      · subst hsender
        exact Or.inr (Or.inr hsigner)
      · rw [update_of_ne hsender, hnone a] at ha
        cases ha
    · rw [update_of_ne hid] at ha ⊢
      exact h.signed id a ha
  · intro id hid
    change s.nonce + 1 ≤ id at hid
    show update s.proposals s.nonce _ id = _
      ∧ ∀ a, update s.hasApproved s.nonce _ id a = false
    rw [update_of_ne (by omega), update_of_ne (by omega)]
    exact h.unused id (by omega)
  · intro e he
    show (update s.proposals s.nonce _ e.id).executed = true
    rw [update_of_ne (hlt e he)]
    exact h.executed e he

/-- A change to one open proposal, and to who approved it, that leaves it
open or ends it. -/
theorem Sound.amend (h : Sound s)
    {approved : Address → Bool} (hid : id < s.nonce)
    (hopen : (s.proposals id).executed = false)
    (hcounts : ∃ l : List Address, l.Nodup ∧ l.length = p.approvals
      ∧ ∀ a ∈ l, approved a = true)
    (hsigned : ∀ a, approved a = true →
      p.executed = true ∨ p.cancelled = true ∨ s.isSigner a) :
    Sound { s with
      proposals := update s.proposals id p
      hasApproved := update s.hasApproved id approved } := by
  refine ⟨⟨h.distinct, h.once, h.approved⟩, ?_, ?_, ?_, ?_⟩
  · intro j
    by_cases hj : j = id
    · subst hj
      show ∃ l : List Address, l.Nodup
        ∧ l.length = (update s.proposals j p j).approvals
        ∧ ∀ a ∈ l, update s.hasApproved j approved j a = true
      rw [update_self, update_self]
      exact hcounts
    · show ∃ l : List Address, l.Nodup
        ∧ l.length = (update s.proposals id p j).approvals
        ∧ ∀ a ∈ l, update s.hasApproved id approved j a = true
      rw [update_of_ne hj, update_of_ne hj]
      exact h.counts j
  · intro j a ha
    change update s.hasApproved id approved j a = true at ha
    show (update s.proposals id p j).executed = true
      ∨ (update s.proposals id p j).cancelled = true ∨ s.isSigner a
    by_cases hj : j = id
    · subst hj
      rw [update_self] at ha ⊢
      exact hsigned a ha
    · rw [update_of_ne hj] at ha ⊢
      exact h.signed j a ha
  · intro j hj
    have hne : j ≠ id := by
      rintro rfl
      exact absurd hj (by simpa using hid)
    show update s.proposals id p j = _ ∧ ∀ a, update s.hasApproved id approved j a
      = false
    rw [update_of_ne hne, update_of_ne hne]
    exact h.unused j hj
  · intro e he
    show (update s.proposals id p e.id).executed = true
    have hne : e.id ≠ id := by
      rintro rfl
      rw [h.executed e he] at hopen
      cases hopen
    rw [update_of_ne hne]
    exact h.executed e he

theorem Sound.finish (h : Sound s)
    (hid : id < s.nonce) (hopen : (s.proposals id).executed = false)
    (happrovals : p.approvals = (s.proposals id).approvals)
    (hdone : p.executed = true ∨ p.cancelled = true) :
    Sound (s.setProposal id p) := by
  have hamend : Sound { s with
      proposals := update s.proposals id p
      hasApproved := update s.hasApproved id (s.hasApproved id) } := by
    apply h.amend hid hopen
    · rw [happrovals]
      exact h.counts id
    · intro a _
      rcases hdone with hdone | hdone
      · exact Or.inl hdone
      · exact Or.inr (Or.inl hdone)
  rw [update_eq_self] at hamend
  exact hamend

theorem Sound.approve (h : Sound s)
    (hok : s.approve sender id = .ok s') : Sound s' := by
  obtain ⟨p, hp, hok⟩ := bind_ok.mp hok
  obtain ⟨hsigner, rfl, htarget, hexecuted, -⟩ := openProposal_ok hp
  obtain ⟨_, hfresh, hok⟩ := bind_ok.mp hok
  have hfresh := require_ok.mp hfresh
  cases hok
  refine h.amend (h.lt_nonce htarget) hexecuted ?_ ?_
  · obtain ⟨l, hnodup, hlength, hl⟩ := h.counts id
    refine ⟨sender :: l, List.nodup_cons.mpr ⟨?_, hnodup⟩, ?_, ?_⟩
    · intro hmem
      rw [hl sender hmem] at hfresh
      cases hfresh
    · simp only [List.length_cons, hlength]
    · intro a ha
      rcases List.mem_cons.mp ha with rfl | ha
      · exact update_self ..
      · by_cases hsender : a = sender
        · rw [hsender]
          exact update_self ..
        · rw [update_of_ne hsender]
          exact hl a ha
  · intro a ha
    by_cases hsender : a = sender
    · rw [hsender]
      exact Or.inr (Or.inr hsigner)
    · rw [update_of_ne hsender] at ha
      exact h.signed id a ha

theorem Sound.cancel (h : Sound s)
    (hok : s.cancel sender id = .ok s') : Sound s' := by
  obtain ⟨p, hp, hok⟩ := bind_ok.mp hok
  obtain ⟨-, rfl, htarget, hexecuted, -⟩ := openProposal_ok hp
  cases hok
  have hamend := h.finish (p := { s.proposals id with cancelled := true })
    (h.lt_nonce htarget) hexecuted rfl (Or.inr rfl)
  exact hamend

theorem two_of_nodup {l : List Address} (hnodup : l.Nodup)
    (hlength : 2 ≤ l.length) : ∃ a ∈ l, ∃ b ∈ l, a ≠ b := by
  match l, hnodup, hlength with
  | a :: b :: l, hnodup, _ =>
    refine ⟨a, by simp, b, by simp, ?_⟩
    rintro rfl
    simp at hnodup

theorem Sound.two_signers (h : Sound s)
    (hexecuted : (s.proposals id).executed = false)
    (hcancelled : (s.proposals id).cancelled = false)
    (henough : requiredSignatures ≤ (s.proposals id).approvals) :
    ∃ i j, s.signers i ≠ s.signers j ∧ s.hasApproved id (s.signers i) = true
      ∧ s.hasApproved id (s.signers j) = true := by
  obtain ⟨l, hnodup, hlength, hl⟩ := h.counts id
  obtain ⟨a, ha, b, hb, hne⟩ := two_of_nodup hnodup (hlength ▸ henough)
  have hsigner : ∀ c ∈ l, s.isSigner c := by
    intro c hc
    rcases h.signed id c (hl c hc) with hdone | hdone | hsigner
    · rw [hexecuted] at hdone
      cases hdone
    · rw [hcancelled] at hdone
      cases hdone
    · exact hsigner
  obtain ⟨i, rfl⟩ := hsigner a ha
  obtain ⟨j, rfl⟩ := hsigner b hb
  exact ⟨i, j, hne, hl _ ha, hl _ hb⟩

theorem Sound.execute (h : Sound s) {timestamp id : Nat}
    (hok : s.execute sender timestamp id = .ok (s', p)) :
    Sound s' := by
  obtain ⟨q, hq, hok⟩ := bind_ok.mp hok
  obtain ⟨-, rfl, htarget, hexecuted, hcancelled⟩ := openProposal_ok hq
  obtain ⟨_, henough, _, -, hok⟩ := bind_ok₂.mp hok
  cases hok
  have hamend := h.finish (p := { s.proposals id with executed := true })
    (h.lt_nonce htarget) hexecuted rfl (Or.inl rfl)
  obtain ⟨i, j, hij, hi, hj⟩ :=
    h.two_signers hexecuted hcancelled (require_ok.mp henough)
  have hnew : id ∉ s.executions.map Execution.id := by
    intro hmem
    obtain ⟨e, he, rfl⟩ := List.mem_map.mp hmem
    rw [h.executed e he] at hexecuted
    cases hexecuted
  refine ⟨⟨h.distinct, ?_, ?_⟩, hamend.counts, hamend.signed, hamend.unused, ?_⟩
  · show ((s.executions ++ [_]).map Execution.id).Nodup
    rw [List.map_append]
    exact List.nodup_append.mpr ⟨h.once, by simp, by
      rintro a ha b hb rfl
      rw [List.map_singleton, List.mem_singleton] at hb
      rw [hb] at ha
      exact hnew ha⟩
  · intro e he
    rcases List.mem_append.mp he with he | he
    · exact h.approved e he
    · rw [List.mem_singleton] at he
      rw [he]
      exact ⟨hcancelled, i, j, hij, hi, hj⟩
  · intro e he
    rcases List.mem_append.mp he with he | he
    · exact hamend.executed e he
    · rw [List.mem_singleton] at he
      rw [he]
      show (update s.proposals id _ id).executed = true
      rw [update_self]

theorem Sound.updateSigner (h : Sound s) {this sender : Address}
    {index : Nat} {newSigner : Address}
    (hok : s.updateSigner this sender index newSigner = .ok s')
    (hrotates : ∀ hlt : index < 3, s.Rotates ⟨index, hlt⟩ newSigner) :
    Sound s' := by
  obtain ⟨_, -, hok⟩ := bind_ok.mp hok
  split at hok
  · rename_i hlt
    obtain ⟨_, -, hok⟩ := bind_ok.mp hok
    cases hok
    obtain ⟨hother, hcounted⟩ := hrotates hlt
    refine ⟨⟨?_, h.once, h.approved⟩, h.counts, ?_, h.unused, h.executed⟩
    · intro i j hij
      change update s.signers _ _ i = update s.signers _ _ j at hij
      by_cases hi : i = ⟨index, hlt⟩ <;> by_cases hj : j = ⟨index, hlt⟩
      · rw [hi, hj]
      · rw [hi, update_self, update_of_ne hj] at hij
        exact absurd hij.symm (hother j hj)
      · rw [hj, update_self, update_of_ne hi] at hij
        exact absurd hij (hother i hi)
      · rw [update_of_ne hi, update_of_ne hj] at hij
        exact h.distinct hij
    · intro id a ha
      rcases h.signed id a ha with hdone | hdone | ⟨i, rfl⟩
      · exact Or.inl hdone
      · exact Or.inr (Or.inl hdone)
      · by_cases hi : i = ⟨index, hlt⟩
        · subst hi
          rcases hcounted with hsame | hdone
          · exact Or.inr (Or.inr ⟨⟨index, hlt⟩, (update_self ..).trans hsame.symm⟩)
          · by_cases hid : id < s.nonce
            · rcases hdone id hid ha with hdone | hdone
              · exact Or.inl hdone
              · exact Or.inr (Or.inl hdone)
            · rw [(h.unused id (by omega)).2] at ha
              cases ha
        · exact Or.inr (Or.inr ⟨i, update_of_ne hi ..⟩)
  · cases hok

theorem Sound.invoke (h : Sound s) {timestamp : Nat}
    {c : TimelockCall} {r : Timelock × Option Proposal}
    (hok : invoke env sender timestamp s c = .ok r)
    (hrotates : ∀ index newSigner, c = .updateSigner index newSigner →
      sender = env.this →
      ∀ hlt : index < 3, s.Rotates ⟨index, hlt⟩ newSigner) :
    Sound r.1 := by
  cases c with
  | propose target data value =>
    obtain ⟨s', hs', hok⟩ := bind_ok.mp hok
    cases hok
    exact h.propose hs'
  | approve id =>
    obtain ⟨s', hs', hok⟩ := bind_ok.mp hok
    cases hok
    exact h.approve hs'
  | execute id =>
    obtain ⟨⟨s', p⟩, hs', hok⟩ := bind_ok.mp hok
    cases hok
    exact h.execute hs'
  | cancel id =>
    obtain ⟨s', hs', hok⟩ := bind_ok.mp hok
    cases hok
    exact h.cancel hs'
  | updateSigner index newSigner =>
    obtain ⟨s', hs', hok⟩ := bind_ok.mp hok
    cases hok
    refine h.updateSigner hs' (hrotates index newSigner rfl ?_)
    obtain ⟨_, hself, -⟩ := bind_ok.mp hs'
    exact require_ok.mp hself

-- ==== the machine

/-- The state, and every state to go back to. -/
def Machine.Steady (m : Machine) : Prop :=
  Sound m.now ∧ ∀ f ∈ m.stack, Sound f.saved

theorem Machine.enter_steady {saved : Timelock} {rest : List Frame}
    {r : Timelock × Option Proposal} (hnow : Sound r.1)
    (hsaved : Sound saved) (hrest : ∀ f ∈ rest, Sound f.saved) :
    (Machine.enter env saved rest r).Steady := by
  obtain ⟨s, _ | p⟩ := r
  · exact ⟨hnow, hrest⟩
  · refine ⟨hnow, fun f hf => ?_⟩
    rcases List.mem_cons.mp hf with rfl | hf
    · exact hsaved
    · exact hrest f hf

theorem Machine.return_steady {saved : Timelock} {rest : List Frame}
    {b : Bool} (hnow : Sound s) (hsaved : Sound saved)
    (hrest : ∀ f ∈ rest, Sound f.saved) :
    (Machine.mk (if b then s else saved) rest).Steady := by
  refine ⟨?_, hrest⟩
  cases b with
  | true => exact hnow
  | false => exact hsaved

theorem Machine.step_steady {a : TimelockAction}
    (h : m.Steady) (hkeeps : KeepsKeys a m)
    (hok : Machine.step env a m = .ok m') : m'.Steady := by
  obtain ⟨now, stack⟩ := m
  obtain ⟨hnow, hstack⟩ := h
  have hnow : Sound now := hnow
  cases a with
  | call sender timestamp c =>
    obtain ⟨_, -, _, hsender, r, hr, hok⟩ := bind_ok₃.mp hok
    cases hok
    exact Machine.enter_steady (hnow.invoke hr
      fun _ _ _ hself => absurd hself (require_ok.mp hsender)) hnow hstack
  | selfCall timestamp funded =>
    obtain _ | ⟨⟨saved, _ | ⟨dispatch, value⟩⟩, rest⟩ := stack
    · cases hok
    · cases hok
    obtain ⟨hsaved, hrest⟩ := List.forall_mem_cons.mp hstack
    have hsaved : Sound saved := hsaved
    cases dispatch with
    | fn c =>
      simp only [Machine.step] at hok
      split at hok
      · cases hok
        exact ⟨hsaved, hrest⟩
      split at hok
      next r hr =>
        cases hok
        refine Machine.enter_steady (hnow.invoke hr ?_) hsaved hrest
        rintro index newSigner rfl -
        exact hkeeps (index, newSigner) rfl
      next =>
        cases hok
        exact ⟨hsaved, hrest⟩
    | view =>
      cases hok
      refine ⟨?_, hrest⟩
      show Sound (if value ≠ 0 then saved else now)
      split
      · exact hsaved
      · exact hnow
    | receive =>
      cases hok
      exact Machine.return_steady hnow hsaved hrest
    | unknown =>
      cases hok
      exact ⟨hsaved, hrest⟩
  | back ok =>
    obtain _ | ⟨⟨saved, _ | call⟩, rest⟩ := stack
    · cases hok
    · obtain ⟨hsaved, hrest⟩ := List.forall_mem_cons.mp hstack
      cases hok
      exact Machine.return_steady hnow hsaved hrest
    · cases hok

theorem Deployed.steady (h : Deployed m) : m.Steady := by
  refine ⟨⟨⟨h.distinct, ?_, ?_⟩, ?_, ?_, ?_, ?_⟩, ?_⟩
  · rw [h.executions]
    exact List.nodup_nil
  · rw [h.executions]
    exact fun e he => (List.not_mem_nil he).elim
  · intro id
    refine ⟨[], List.nodup_nil, ?_, fun a ha => (List.not_mem_nil ha).elim⟩
    rw [h.proposals]
    rfl
  · intro id a ha
    rw [h.hasApproved] at ha
    cases ha
  · exact fun id _ => ⟨h.proposals id, h.hasApproved id⟩
  · rw [h.executions]
    exact fun e he => (List.not_mem_nil he).elim
  · rw [h.stack]
    exact fun f hf => (List.not_mem_nil hf).elim

-- ==== runs

/-- Where rotations keep the keys of the approvals that count, two of three
different signers approve every execution. -/
theorem two_of_three {m₀ : Machine} {tr : List TimelockAction}
    (h₀ : Deployed m₀) (hm : Meets (Machine.step env) KeepsKeys m₀ tr)
    (hrun : run (Machine.step env) m₀ tr = .ok m) : TwoOfThree m.now := by
  have h := run_induct_meets (I := Machine.Steady) ?_ h₀.steady hm hrun
  · exact h.1.toTwoOfThree
  · intro a m m' hsteady hkeeps hstep
    exact Machine.step_steady hsteady hkeeps hstep

-- ==== examples

namespace Concrete

/-- The contract at address 100; calldata that starts with 0 names a signer
to rotate. -/
def timelock : TimelockEnv where
  this := 100
  decode
    | [0, index, newSigner] => .fn (.updateSigner index newSigner)
    | _ => .unknown

def deployed : Machine where
  now := {
    signers := fun i => i.val + 1
    nonce := 0
    proposals := fun _ => Proposal.empty
    hasApproved := fun _ _ => false
    executions := [] }
  stack := []

theorem deployed_deployed : Deployed deployed := by
  refine ⟨?_, rfl, fun _ => rfl, fun _ _ => rfl, rfl, rfl⟩
  intro i j hij
  exact Fin.ext (Nat.succ.inj hij)

/-- Signer 1 is replaced by 9, who then executes a call elsewhere. -/
def rotationRun : List TimelockAction :=
  [.call 1 0 (.propose 100 [0, 0, 9] 0), .call 2 0 (.approve 0),
    .call 2 0 (.execute 0), .selfCall 0 true,
    .call 9 0 (.propose 50 [] 0), .call 3 0 (.approve 1),
    .call 9 0 (.execute 1), .back true]

/-- Signer 1 proposes a call elsewhere and is then replaced. -/
def staleRun : List TimelockAction :=
  [.call 1 0 (.propose 50 [] 0), .call 1 0 (.propose 100 [0, 0, 9] 0),
    .call 2 0 (.approve 1), .call 2 0 (.execute 1), .selfCall 0 true,
    .call 2 0 (.approve 0), .call 2 0 (.execute 0), .back true]

end Concrete

theorem two_of_three_rotated :
    ∃ m, run (Machine.step Concrete.timelock) Concrete.deployed Concrete.rotationRun
        = .ok m
      ∧ m.now.executions.length = 2 ∧ TwoOfThree m.now := by
  obtain ⟨m, hrun, hlength⟩ := check_ok (show Exec.check
      (fun m : Machine => decide (m.now.executions.length = 2))
      (run (Machine.step Concrete.timelock) Concrete.deployed Concrete.rotationRun)
        = true
    by decide)
  have hm : Meets (Machine.step Concrete.timelock) KeepsKeys Concrete.deployed
      Concrete.rotationRun := by
    apply meets_of_check fun a m h =>
      of_decide_eq_true (p := KeepsKeys a m) h
    decide
  exact ⟨m, hrun, of_decide_eq_true hlength,
    two_of_three Concrete.deployed_deployed hm hrun⟩

/-- A proposal is executed with the approval of one signer and of one that
was replaced. -/
theorem stale_approval :
    ∃ m, Deployed Concrete.deployed
      ∧ run (Machine.step Concrete.timelock) Concrete.deployed Concrete.staleRun
        = .ok m
      ∧ ∃ e ∈ m.now.executions, ¬ e.Approved := by
  obtain ⟨m, hrun, hm⟩ := check_ok (show Exec.check
      (fun m : Machine => decide (∃ e ∈ m.now.executions, ¬ e.Approved))
      (run (Machine.step Concrete.timelock) Concrete.deployed Concrete.staleRun)
        = true
    by decide)
  exact ⟨m, Concrete.deployed_deployed, hrun, of_decide_eq_true hm⟩

end KamiyoProtocol.Hyperliquid
