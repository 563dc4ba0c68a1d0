/-
What stands behind a tier.

A tier is backed if a proof of it, or of a higher one that has decayed to
it since, was accepted after the agent's registration. The contract keeps
one tier and one block for each agent, and `verifyTier` moves them
separately: a proof of a lower tier leaves the tier and renews the block.
So tiers stay backed where no such proof is accepted.
-/
import KamiyoProtocol.ZkReputation.ReputationV2

namespace KamiyoProtocol.ZkReputation

open Exec Evm Function

variable {env : Env} {s s' : Reputation}

-- ==== backing

/-- The proof is good for the tier in the block it is now: what decay has
left of its own tier since. -/
def Accepted.Backs (x : Accepted) (s : Reputation) (tier : Tier) : Prop :=
  tier.toNat + (s.number - x.block) / s.decayPeriod
    ≤ (thresholdToTier x.threshold).toNat
  deriving Decidable

/-- Every agent's tier above `Unverified` is backed by a proof that was
accepted for it since it registered, in this block or before. -/
def Backed (s : Reputation) : Prop :=
  ∀ a, s.getAgentTier a ≠ .unverified →
    ∃ x ∈ s.accepted a, x.block ≤ s.number ∧ x.Backs s (s.getAgentTier a)

/-- A proof accepted for an agent does not stand below its tier, unless it
renews nothing: the last one is of this block. -/
def Reputation.Renews (s : Reputation) (a : Address) (threshold : Nat) :
    Prop :=
  (s.agents a).verifiedTier.toNat ≤ (thresholdToTier threshold).toNat
    ∨ (s.agents a).lastProofBlock = s.number

instance (s : Reputation) (a : Address) (threshold : Nat) :
    Decidable (s.Renews a threshold) :=
  inferInstanceAs (Decidable (_ ∨ _))

/-- So do all of a batch, each when it is its turn. -/
def RenewsEach (env : Env) : Reputation → List (Address × Proof × Nat) → Prop
  | _, [] => True
  | s, (a, proof, threshold) :: rest =>
    ((s.verifySingle env a proof threshold).2 = true → s.Renews a threshold)
      ∧ RenewsEach env (s.verifySingle env a proof threshold).1 rest

instance decidableRenewsEach (env : Env) :
    ∀ s l, Decidable (RenewsEach env s l)
  | _, [] => isTrue trivial
  | s, (a, proof, threshold) :: rest =>
    have := decidableRenewsEach env
      (s.verifySingle env a proof threshold).1 rest
    inferInstanceAs (Decidable (((s.verifySingle env a proof threshold).2
      = true → s.Renews a threshold) ∧ RenewsEach env _ rest))

/-- The proofs a call asks to verify at thresholds of the caller's
choice. -/
def Call.proofs (sender : Address) : Call → List (Address × Proof × Nat)
  | .verifyTier proof threshold => [(sender, proof, threshold)]
  | .batchVerify agentAddrs pAs pBs pCs thresholds =>
    agentAddrs.zip ((List.zipWith (fun pA (pBC : _ × _) =>
      Proof.mk pA pBC.1 pBC.2) pAs (pBs.zip pCs)).zip thresholds)
  | _ => []

/-- No proof accepted in the step is of a tier below the agent's stored
one, unless the agent's last proof is of the same block. -/
def NoLower (env : Env) (a : Action) (s : Reputation) : Prop :=
  match a with
  | .call sender c => RenewsEach env s (c.proofs sender)
  | .mine _ => True

instance (env : Env) : ∀ a s, Decidable (NoLower env a s)
  | .call sender c, s => inferInstanceAs
      (Decidable (RenewsEach env s (c.proofs sender)))
  | .mine _, _ => isTrue trivial

-- ==== invariant

/-- The stored tier is that of an accepted proof of the stored block, or a
lower one. -/
def StoredBacked (s : Reputation) : Prop :=
  ∀ a, (s.agents a).verifiedTier ≠ .unverified →
    ∃ x ∈ s.accepted a, x.block = (s.agents a).lastProofBlock
      ∧ x.block ≤ s.number
      ∧ (s.agents a).verifiedTier.toNat ≤ (thresholdToTier x.threshold).toNat

theorem decayed_toNat (tier : Tier) (n : Nat) :
    (Reputation.decayed tier n).toNat = tier.toNat - n := by
  unfold Reputation.decayed
  have hle := tier.toNat_le
  split
  · exact Tier.toNat_cast (by omega)
  · rw [Tier.toNat_cast (by omega)]
    omega

theorem getAgentTier_toNat (a : Address) (hd : 0 < s.decayPeriod) :
    (s.getAgentTier a).toNat = if (s.agents a).registered = false then 0
      else (s.agents a).verifiedTier.toNat
        - (s.number - (s.agents a).lastProofBlock) / s.decayPeriod := by
  unfold Reputation.getAgentTier
  dsimp only
  by_cases hr : (s.agents a).registered = false
  · rw [if_pos hr, if_pos hr]
    rfl
  · rw [if_neg hr, if_neg hr, if_neg (by omega)]
    split
    · next hzero => rw [hzero, Nat.sub_zero]
    · exact decayed_toNat _ _

theorem StoredBacked.backed (h : StoredBacked s) (hd : 0 < s.decayPeriod) :
    Backed s := by
  intro a ha
  have hshown := getAgentTier_toNat a hd
  have hpos : (s.getAgentTier a).toNat ≠ 0 := mt Tier.toNat_eq_zero.mp ha
  have hstored : (s.agents a).verifiedTier ≠ .unverified := by
    intro hzero
    rw [hzero] at hshown
    simp [Tier.toNat] at hshown
    exact hpos hshown
  obtain ⟨x, hx, hblock, hle, htier⟩ := h a hstored
  refine ⟨x, hx, hle, ?_⟩
  unfold Accepted.Backs
  rw [hblock]
  split at hshown
  · exact (hpos hshown).elim
  · omega

-- ==== steps

variable {a : Address}

/-- A change of one agent that leaves its tier backed. -/
theorem StoredBacked.of_agent (h : StoredBacked s)
    (hnumber : s'.number = s.number)
    (hagents : ∀ b, b ≠ a → s'.agents b = s.agents b)
    (haccepted : ∀ b, b ≠ a → s'.accepted b = s.accepted b)
    (ha : (s'.agents a).verifiedTier ≠ .unverified →
      ∃ x ∈ s'.accepted a, x.block = (s'.agents a).lastProofBlock
        ∧ x.block ≤ s'.number ∧ (s'.agents a).verifiedTier.toNat
          ≤ (thresholdToTier x.threshold).toNat) : StoredBacked s' := by
  intro b hb
  by_cases hab : b = a
  · subst hab
    exact ha hb
  · rw [hagents b hab] at hb ⊢
    rw [haccepted b hab, hnumber]
    exact h b hb

theorem StoredBacked.prove {threshold : Nat}
    (h : StoredBacked s) (hrenews : s.Renews a threshold) :
    StoredBacked (s.prove a threshold) := by
  refine h.of_agent (a := a) rfl ?_ ?_ ?_
  · exact fun b hb => update_of_ne hb ..
  · exact fun b hb => update_of_ne hb ..
  · intro htier
    have hagent : (s.prove a threshold).agents a
        = { s.agents a with
            verifiedTier := if (s.agents a).verifiedTier.toNat
                < (thresholdToTier threshold).toNat
              then thresholdToTier threshold else (s.agents a).verifiedTier
            lastProofBlock := s.number } := update_self ..
    have haccepted : (s.prove a threshold).accepted a
        = ⟨threshold, s.number⟩ :: s.accepted a := update_self ..
    rw [hagent] at htier ⊢
    rw [haccepted]
    dsimp only at htier ⊢
    rcases hrenews with hle | hblock
    · refine ⟨⟨threshold, s.number⟩, List.mem_cons_self .., rfl,
        Nat.le_refl _, ?_⟩
      dsimp only
      split
      · exact Nat.le_refl _
      · exact hle
    · -- the last proof is of this block: it still stands, or this one is
      -- higher
      split at htier
      · next hlt =>
          rw [if_pos hlt]
          exact ⟨⟨threshold, s.number⟩, List.mem_cons_self .., rfl,
            Nat.le_refl _, Nat.le_refl _⟩
      · next hlt =>
          rw [if_neg hlt]
          obtain ⟨x, hx, hx', hle, htier'⟩ := h a htier
          exact ⟨x, List.mem_cons_of_mem _ hx, hx'.trans hblock, hle, htier'⟩

theorem StoredBacked.renew {agent : Agent}
    (h : StoredBacked s) (hagent : s'.agents = update s.agents a agent)
    (haccepted : s'.accepted = update s.accepted a
      (⟨tierToThreshold (s.agents a).verifiedTier, s.number⟩ :: s.accepted a))
    (hnumber : s'.number = s.number)
    (htier : agent.verifiedTier = (s.agents a).verifiedTier)
    (hblock : agent.lastProofBlock = s.number) : StoredBacked s' := by
  refine h.of_agent (a := a) hnumber ?_ ?_ ?_
  · intro b hb
    rw [hagent]
    exact update_of_ne hb ..
  · intro b hb
    rw [haccepted]
    exact update_of_ne hb ..
  · intro _
    rw [haccepted, hagent, update_self, update_self, htier, hblock, hnumber]
    refine ⟨_, List.mem_cons_self .., rfl, Nat.le_refl _, ?_⟩
    rw [thresholdToTier_tierToThreshold]

theorem verifySingle_cases (s : Reputation) (a : Address) (proof : Proof)
    (threshold : Nat) : s.verifySingle env a proof threshold = (s, false)
      ∨ s.verifySingle env a proof threshold = (s.prove a threshold, true) := by
  unfold Reputation.verifySingle
  split
  · exact Or.inl rfl
  · split
    · exact Or.inl rfl
    · exact Or.inr rfl

theorem StoredBacked.verifyEach {l : List (Address × Proof × Nat)} :
    ∀ {s : Reputation}, StoredBacked s → RenewsEach env s l →
      StoredBacked (Reputation.verifyEach env s l).1 := by
  induction l with
  | nil =>
    intro s h _
    exact h
  | cons x rest ih =>
    obtain ⟨a, proof, threshold⟩ := x
    intro s h hrenews
    have hfirst : StoredBacked (s.verifySingle env a proof threshold).1 := by
      have hrenew := hrenews.1
      rcases verifySingle_cases s a proof threshold with heq | heq
      · rw [heq]
        exact h
      · rw [heq] at hrenew ⊢
        exact h.prove (hrenew rfl)
    exact ih hfirst hrenews.2

theorem verifyEach_decayPeriod (l : List (Address × Proof × Nat)) :
    ∀ s : Reputation,
      (Reputation.verifyEach env s l).1.decayPeriod = s.decayPeriod := by
  induction l with
  | nil =>
    intro s
    rfl
  | cons x rest ih =>
    obtain ⟨a, proof, threshold⟩ := x
    intro s
    have hfirst : (s.verifySingle env a proof threshold).1.decayPeriod
        = s.decayPeriod := by
      rcases verifySingle_cases s a proof threshold with heq | heq
      · rw [heq]
      · rw [heq]
        rfl
    exact (ih _).trans hfirst

theorem StoredBacked.applyDecay (h : StoredBacked s) :
    StoredBacked (s.applyDecay a) := by
  unfold Reputation.applyDecay
  dsimp only
  split
  · exact h
  · split
    · exact h
    · split
      · exact h
      · refine h.of_agent (a := a) rfl ?_ ?_ ?_
        · exact fun b hb => update_of_ne hb ..
        · exact fun b _ => rfl
        · intro htier
          have hagent : (s.setAgent a { s.agents a with
              verifiedTier := Reputation.decayed (s.agents a).verifiedTier
                ((s.number - (s.agents a).lastProofBlock)
                  / s.decayPeriod) }).agents a = _ := update_self ..
          rw [hagent] at htier ⊢
          have hdecayed := decayed_toNat (s.agents a).verifiedTier
            ((s.number - (s.agents a).lastProofBlock) / s.decayPeriod)
          have hstored : (s.agents a).verifiedTier ≠ .unverified := by
            intro hzero
            have hnat := mt Tier.toNat_eq_zero.mp htier
            dsimp only at hnat
            rw [hdecayed, hzero] at hnat
            simp [Tier.toNat] at hnat
          obtain ⟨x, hx, hblock, hle, hx'⟩ := h a hstored
          exact ⟨x, hx, hblock, hle,
            (hdecayed.le.trans (Nat.sub_le ..)).trans hx'⟩

/-- A step that renews no tier by a lower proof keeps the stored tiers
backed. -/
theorem storedBacked_step {a : Action} (h : StoredBacked s)
    (hcond : NoLower env a s) (hstep : step env a s = .ok s') :
    StoredBacked s' := by
  cases a with
  | mine blocks =>
    cases hstep
    intro a ha
    obtain ⟨x, hx, hblock, hle, htier⟩ := h a ha
    exact ⟨x, hx, hblock, hle.trans (Nat.le_add_right ..), htier⟩
  | call sender c =>
    cases c with
    | register commitment =>
      iterate 4 obtain ⟨_, -, hstep⟩ := bind_ok.mp hstep
      cases hstep
      refine h.of_agent (a := sender) rfl ?_ ?_ ?_
      · exact fun b hb => update_of_ne hb ..
      · exact fun b hb => update_of_ne hb ..
      · intro htier
        have hagent : update s.agents sender ⟨commitment, .unverified, 0, true⟩
            sender = _ := update_self ..
        exact (htier (congrArg Agent.verifiedTier hagent)).elim
    | unregister =>
      obtain ⟨_, -, hstep⟩ := bind_ok.mp hstep
      cases hstep
      refine h.of_agent (a := sender) rfl ?_ ?_ ?_
      · exact fun b hb => update_of_ne hb ..
      · exact fun b hb => update_of_ne hb ..
      · intro htier
        have hagent : update s.agents sender Agent.empty sender = _ :=
          update_self ..
        exact (htier (congrArg Agent.verifiedTier hagent)).elim
    | updateCommitment newCommitment proof =>
      iterate 5 obtain ⟨_, -, hstep⟩ := bind_ok.mp hstep
      cases hstep
      exact h.renew rfl rfl rfl rfl rfl
    | verifyTier proof threshold =>
      obtain ⟨_, -, _, hregistered, _, hverifies, hstep⟩ := bind_ok₃.mp hstep
      cases hstep
      apply h.prove
      apply hcond.1
      unfold Reputation.verifySingle
      rw [require_ok.mp hregistered, require_ok.mp hverifies]
      rfl
    | batchVerify agentAddrs pAs pBs pCs thresholds =>
      change (Except.map _ _) = _ at hstep
      cases hbatch : s.batchVerify env agentAddrs pAs pBs pCs thresholds with
      | error e =>
        rw [hbatch] at hstep
        cases hstep
      | ok r =>
        rw [hbatch] at hstep
        cases hstep
        obtain ⟨_, -, _, -, hbatch⟩ := bind_ok₂.mp hbatch
        cases hbatch
        exact h.verifyEach hcond
    | applyDecay a =>
      cases hstep
      exact h.applyDecay
    | refreshTier proof =>
      iterate 3 obtain ⟨_, -, hstep⟩ := bind_ok.mp hstep
      cases hstep
      exact h.renew rfl rfl rfl rfl rfl
    | setVerifier verifier =>
      obtain ⟨_, -, _, -, hstep⟩ := bind_ok₂.mp hstep
      cases hstep
      exact h
    | setPaused paused =>
      obtain ⟨_, -, _, -, hstep⟩ := bind_ok₂.mp hstep
      cases hstep
      exact h

theorem decayPeriod_step {a : Action} (hstep : step env a s = .ok s') :
    s'.decayPeriod = s.decayPeriod := by
  cases a with
  | mine blocks =>
    cases hstep
    rfl
  | call sender c =>
    cases c with
    | register commitment =>
      iterate 4 obtain ⟨_, -, hstep⟩ := bind_ok.mp hstep
      cases hstep
      rfl
    | unregister =>
      obtain ⟨_, -, hstep⟩ := bind_ok.mp hstep
      cases hstep
      rfl
    | updateCommitment newCommitment proof =>
      iterate 5 obtain ⟨_, -, hstep⟩ := bind_ok.mp hstep
      cases hstep
      rfl
    | verifyTier proof threshold =>
      iterate 3 obtain ⟨_, -, hstep⟩ := bind_ok.mp hstep
      cases hstep
      rfl
    | batchVerify agentAddrs pAs pBs pCs thresholds =>
      change (Except.map _ _) = _ at hstep
      cases hbatch : s.batchVerify env agentAddrs pAs pBs pCs thresholds with
      | error e =>
        rw [hbatch] at hstep
        cases hstep
      | ok r =>
        rw [hbatch] at hstep
        cases hstep
        obtain ⟨_, -, _, -, hbatch⟩ := bind_ok₂.mp hbatch
        cases hbatch
        exact verifyEach_decayPeriod _ s
    | applyDecay a =>
      cases hstep
      unfold Reputation.applyDecay
      dsimp only
      split
      · rfl
      · split
        · rfl
        · split
          · rfl
          · rfl
    | refreshTier proof =>
      iterate 3 obtain ⟨_, -, hstep⟩ := bind_ok.mp hstep
      cases hstep
      rfl
    | setVerifier verifier =>
      obtain ⟨_, -, _, -, hstep⟩ := bind_ok₂.mp hstep
      cases hstep
      rfl
    | setPaused paused =>
      obtain ⟨_, -, _, -, hstep⟩ := bind_ok₂.mp hstep
      cases hstep
      rfl

-- ==== runs

/-- Where no proof of a lower tier renews a higher one, every tier shown
is backed. -/
theorem tier_backed {s₀ : Reputation} {tr : List Action} (h₀ : Started s₀)
    (hm : Meets (step env) (NoLower env) s₀ tr)
    (hrun : run (step env) s₀ tr = .ok s) : Backed s := by
  have hstored₀ : StoredBacked s₀ := by
    intro a ha
    rw [h₀.agents a] at ha
    exact (ha rfl).elim
  have h := run_induct_meets (I := fun s : Reputation =>
    StoredBacked s ∧ 0 < s.decayPeriod) ?_ ⟨hstored₀, h₀.decays⟩ hm hrun
  · exact h.1.backed h.2
  · rintro a s s' ⟨hstored, hdecays⟩ hcond hstep
    refine ⟨storedBacked_step hstored hcond hstep, ?_⟩
    rw [decayPeriod_step hstep]
    exact hdecays

-- ==== examples

namespace Concrete

/-- A verifier that takes every proof. -/
def lenient : Env := ⟨fun _ _ _ _ => true⟩

def proof : Proof := ⟨(1, 2), ((3, 4), (5, 6)), (7, 8)⟩

def start : Reputation where
  owner := 1
  verifier := 2
  decayPeriod := 10
  paused := false
  agents := fun _ => Agent.empty
  commitmentUsed := fun _ => false
  number := 100
  accepted := fun _ => []

theorem start_started : Started start :=
  ⟨fun _ => rfl, fun _ => rfl, by decide⟩

/-- An agent that proves itself upwards. -/
def risingRun : List Action :=
  [.call 7 (.register 5), .call 7 (.verifyTier proof 50), .mine 15,
    .call 7 (.verifyTier proof 75), .mine 5]

/-- A tier that has decayed in full, and a proof of the lowest. -/
def restoringRun : List Action :=
  [.call 7 (.register 5), .call 7 (.verifyTier proof 90), .mine 50,
    .call 7 (.verifyTier proof 25)]

end Concrete

theorem tier_backed_rising :
    ∃ s, run (step Concrete.lenient) Concrete.start Concrete.risingRun = .ok s
      ∧ s.getAgentTier 7 = .gold ∧ Backed s := by
  obtain ⟨s, hrun, htier⟩ := check_ok (show Exec.check
      (fun s : Reputation => decide (s.getAgentTier 7 = .gold))
      (run (step Concrete.lenient) Concrete.start Concrete.risingRun) = true
    by decide)
  have hm : Meets (step Concrete.lenient) (NoLower Concrete.lenient) Concrete.start
      Concrete.risingRun := by
    apply meets_of_check fun a s h =>
      of_decide_eq_true (p := NoLower Concrete.lenient a s) h
    decide
  exact ⟨s, hrun, of_decide_eq_true htier,
    tier_backed Concrete.start_started hm hrun⟩

/-- A Bronze proof restores a Platinum tier that has decayed away. -/
theorem tier_restored :
    ∃ s, Started Concrete.start
      ∧ run (step Concrete.lenient) Concrete.start Concrete.restoringRun = .ok s
      ∧ s.getAgentTier 7 = .platinum
      ∧ s.accepted 7 = [⟨25, 150⟩, ⟨90, 100⟩] ∧ ¬ Backed s := by
  obtain ⟨s, hrun, hs⟩ := check_ok (show Exec.check
      (fun s : Reputation => decide (s.getAgentTier 7 = .platinum
        ∧ s.accepted 7 = [⟨25, 150⟩, ⟨90, 100⟩]
        ∧ s.number = 150 ∧ s.decayPeriod = 10))
      (run (step Concrete.lenient) Concrete.start Concrete.restoringRun) = true
    by decide)
  obtain ⟨htier, haccepted, hnumber, hperiod⟩ := of_decide_eq_true hs
  refine ⟨s, Concrete.start_started, hrun, htier, haccepted, ?_⟩
  intro h
  obtain ⟨x, hx, -, hbacks⟩ := h 7 (by rw [htier]; decide)
  unfold Accepted.Backs at hbacks
  rw [htier, hnumber, hperiod] at hbacks
  rw [haccepted] at hx
  rcases List.mem_cons.mp hx with rfl | hx
  · exact absurd hbacks (by decide)
  · rw [List.mem_singleton] at hx
    subst hx
    exact absurd hbacks (by decide)

end KamiyoProtocol.ZkReputation
