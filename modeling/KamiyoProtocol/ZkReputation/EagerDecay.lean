/-
Decay that is written, and decay that is shown.

`applyDecay` writes the decayed tier and leaves the block of the last
proof, so what it has taken off is taken off once more when the tier is
shown. It is harmless where it writes nothing, and where nothing of the
tier is left to take: then the agent shows no tier either way, until it
proves one again.
-/
import KamiyoProtocol.ZkReputation.TierBacking

namespace KamiyoProtocol.ZkReputation

open Exec Evm Function

-- ==== two runs

/-- The steps of decay since the agent's last proof. -/
def Reputation.decaySteps (s : Reputation) (a : Address) : Nat :=
  (s.number - (s.agents a).lastProofBlock) / s.decayPeriod

/-- Blocks pass. -/
def Reputation.mine (s : Reputation) (blocks : Nat) : Reputation :=
  { s with number := s.number + blocks }

/-- Tiers do not decay, or the agent is not registered, or its last proof
is of this period, or its tier has decayed away. -/
def Harmless (a : Address) (s : Reputation) : Prop :=
  s.decayPeriod = 0 ∨ (s.agents a).registered = false
    ∨ s.number - (s.agents a).lastProofBlock < s.decayPeriod
    ∨ (s.agents a).verifiedTier.toNat ≤ s.decaySteps a
  deriving Decidable

/-- A step of a run, or a call of `applyDecay` that is put into it. -/
inductive Item
  | own (a : Action)
  | extra (sender a : Address)

/-- A transaction that fails leaves the state. -/
def settle (env : Env) (a : Action) (s : Reputation) : Reputation :=
  (step env a s).toOption.getD s

/-- The run without the extra calls, and beside it the one with them. -/
def pairStep (env : Env) (item : Item) (x : Reputation × Reputation) :
    Except String (Reputation × Reputation) :=
  match item with
  | .own a => .ok (settle env a x.1, settle env a x.2)
  | .extra sender a => .ok (x.1, settle env (.call sender (.applyDecay a)) x.2)

/-- The two show the same tiers, in this block and in every later one. -/
def SameTiers (x : Reputation × Reputation) : Prop :=
  ∀ (a : Address) (blocks : Nat),
    (x.2.mine blocks).getAgentTier a = (x.1.mine blocks).getAgentTier a

/-- A proof at the caller's threshold is for an agent that both have the
same, or fails, or is of a tier that stands no lower than the one kept
without the extra calls. -/
def KeepsTier (env : Env) (s s' : Reputation) (a : Address) (proof : Proof)
    (threshold : Nat) : Prop :=
  s'.agents a = s.agents a ∨ s.verifies env a proof threshold = false
    ∨ (s.agents a).verifiedTier.toNat ≤ (thresholdToTier threshold).toNat
  deriving Decidable

def KeepsEach (env : Env) :
    Reputation → Reputation → List (Address × Proof × Nat) → Prop
  | _, _, [] => True
  | s, s', (a, proof, threshold) :: rest =>
    KeepsTier env s s' a proof threshold
      ∧ KeepsEach env (s.verifySingle env a proof threshold).1
        (s'.verifySingle env a proof threshold).1 rest

instance decidableKeepsEach (env : Env) :
    ∀ s s' l, Decidable (KeepsEach env s s' l)
  | _, _, [] => isTrue trivial
  | s, s', (a, proof, threshold) :: rest =>
    have := decidableKeepsEach env (s.verifySingle env a proof threshold).1
      (s'.verifySingle env a proof threshold).1 rest
    inferInstanceAs (Decidable (KeepsTier env s s' a proof threshold
      ∧ KeepsEach env _ _ rest))

/-- A proof at the agent's own tier is for an agent that both have the
same, or fails for both. -/
def KeepsOwn (env : Env) (s s' : Reputation) (a : Address) (proof : Proof) :
    Prop :=
  s'.agents a = s.agents a
    ∨ (s.verifies env a proof (tierToThreshold (s.agents a).verifiedTier)
        = false
      ∧ s'.verifies env a proof (tierToThreshold (s'.agents a).verifiedTier)
        = false)

instance (env : Env) (s s' : Reputation) (a : Address) (proof : Proof) :
    Decidable (KeepsOwn env s s' a proof) :=
  inferInstanceAs (Decidable (_ ∨ _ ∧ _))

/-- The proof that a call verifies at the sender's own tier. -/
def Call.ownProof : Call → Option Proof
  | .updateCommitment _ proof => some proof
  | .refreshTier proof => some proof
  | _ => none

/-- An extra call is harmless, and no proof renews a tier that an extra
call has written off. -/
def NoneRevived (env : Env) (item : Item) (x : Reputation × Reputation) :
    Prop :=
  match item with
  | .extra _ a => Harmless a x.2
  | .own (.mine _) => True
  | .own (.call sender c) => KeepsEach env x.1 x.2 (c.proofs sender)
      ∧ ∀ proof ∈ c.ownProof, KeepsOwn env x.1 x.2 sender proof

instance (env : Env) : ∀ item x, Decidable (NoneRevived env item x)
  | .extra _ a, x => inferInstanceAs (Decidable (Harmless a x.2))
  | .own (.mine _), _ => isTrue trivial
  | .own (.call sender c), x => inferInstanceAs (Decidable
      (KeepsEach env x.1 x.2 (c.proofs sender)
        ∧ ∀ proof ∈ c.ownProof, KeepsOwn env x.1 x.2 sender proof))

-- ==== one extra call

/-- The call writes nothing. -/
def Idle (a : Address) (s : Reputation) : Prop :=
  s.decayPeriod = 0 ∨ (s.agents a).registered = false
    ∨ (s.agents a).verifiedTier = .unverified
    ∨ s.number - (s.agents a).lastProofBlock < s.decayPeriod

/-- The call writes what decay has left of the tier. -/
structure Written (s : Reputation) (a : Address) (t : Reputation) : Prop where
  period : 0 < s.decayPeriod
  registered : (s.agents a).registered = true
  tier : (s.agents a).verifiedTier ≠ .unverified
  late : s.decayPeriod ≤ s.number - (s.agents a).lastProofBlock
  eq : t = s.setAgent a { s.agents a with
    verifiedTier := Reputation.decayed (s.agents a).verifiedTier
      (s.decaySteps a) }

section Extra

variable {s t : Reputation} {a : Address}

theorem applyDecay_cases (s : Reputation) (a : Address) :
    (s.applyDecay a = s ∧ Idle a s) ∨ Written s a (s.applyDecay a) := by
  unfold Reputation.applyDecay
  dsimp only
  by_cases hperiod : s.decayPeriod = 0
  · rw [if_pos hperiod]
    exact Or.inl ⟨rfl, Or.inl hperiod⟩
  rw [if_neg hperiod]
  by_cases hnone : (s.agents a).registered = false
      ∨ (s.agents a).verifiedTier = .unverified
  · rw [if_pos hnone]
    refine Or.inl ⟨rfl, ?_⟩
    rcases hnone with hregistered | htier
    · exact Or.inr (Or.inl hregistered)
    · exact Or.inr (Or.inr (Or.inl htier))
  rw [if_neg hnone]
  by_cases hearly : s.number - (s.agents a).lastProofBlock < s.decayPeriod
  · rw [if_pos hearly]
    exact Or.inl ⟨rfl, Or.inr (Or.inr (Or.inr hearly))⟩
  · rw [if_neg hearly]
    obtain ⟨hregistered, htier⟩ := not_or.mp hnone
    exact Or.inr ⟨by omega, by simpa using hregistered, htier, by omega, rfl⟩

theorem Idle.harmless (h : Idle a s) : Harmless a s := by
  rcases h with hperiod | hregistered | htier | hearly
  · exact Or.inl hperiod
  · exact Or.inr (Or.inl hregistered)
  · right; right; right
    rw [htier]
    exact Nat.zero_le _
  · exact Or.inr (Or.inr (Or.inl hearly))

theorem Tier.toNat_inj {t u : Tier} (h : t.toNat = u.toNat) : t = u := by
  cases t <;> cases u <;> first | rfl | (revert h; decide)

theorem shown_toNat (hperiod : 0 < s.decayPeriod)
    (hregistered : (s.agents a).registered = true) (blocks : Nat) :
    ((s.mine blocks).getAgentTier a).toNat
      = (s.agents a).verifiedTier.toNat
        - (s.number + blocks - (s.agents a).lastProofBlock)
          / s.decayPeriod := by
  have hshown := getAgentTier_toNat (s := s.mine blocks) a hperiod
  have hagent : (s.mine blocks).agents a = s.agents a := rfl
  rw [hagent, if_neg (by simp [hregistered])] at hshown
  exact hshown

namespace Written

theorem steps_pos (h : Written s a t) : 0 < s.decaySteps a :=
  Nat.div_pos h.late h.period

theorem agent (h : Written s a t) : t.agents a = { s.agents a with
    verifiedTier := Reputation.decayed (s.agents a).verifiedTier
      (s.decaySteps a) } := by
  rw [h.eq]
  exact update_self ..

theorem tier_toNat (h : Written s a t) : (t.agents a).verifiedTier.toNat
    = (s.agents a).verifiedTier.toNat - s.decaySteps a := by
  rw [h.agent]
  exact decayed_toNat _ _

theorem decaySteps (h : Written s a t) : t.decaySteps a = s.decaySteps a := by
  unfold Reputation.decaySteps
  rw [h.agent, h.eq]
  rfl

theorem shown (h : Written s a t) (blocks : Nat) :
    ((t.mine blocks).getAgentTier a).toNat
      = (s.agents a).verifiedTier.toNat - s.decaySteps a
        - (s.number + blocks - (s.agents a).lastProofBlock)
          / s.decayPeriod := by
  have hperiod : 0 < t.decayPeriod := by
    rw [h.eq]
    exact h.period
  have hregistered : (t.agents a).registered = true := by
    rw [h.agent]
    exact h.registered
  rw [shown_toNat hperiod hregistered, h.tier_toNat, h.agent, h.eq]
  rfl

theorem harmless_iff (h : Written s a t) :
    Harmless a s ↔ (s.agents a).verifiedTier.toNat ≤ s.decaySteps a := by
  constructor
  · rintro (hperiod | hregistered | hearly | hspent)
    · exact absurd hperiod (Nat.ne_of_gt h.period)
    · rw [h.registered] at hregistered
      cases hregistered
    · exact absurd hearly (Nat.not_lt.mpr h.late)
    · exact hspent
  · exact fun hspent => Or.inr (Or.inr (Or.inr hspent))

end Written

/-- A call lowers the tier shown in the same block, unless it is
harmless. -/
theorem shown_iff_harmless (s : Reputation) (a : Address) :
    (s.applyDecay a).getAgentTier a = s.getAgentTier a ↔ Harmless a s := by
  rcases applyDecay_cases s a with ⟨hsame, hidle⟩ | h
  · rw [hsame]
    exact ⟨fun _ => hidle.harmless, fun _ => rfl⟩
  · have hnew := h.shown 0
    have hold := shown_toNat h.period h.registered 0
    have hsteps := h.steps_pos
    change ((s.applyDecay a).getAgentTier a).toNat
      = _ - s.decaySteps a - s.decaySteps a at hnew
    change (s.getAgentTier a).toNat = _ - s.decaySteps a at hold
    rw [h.harmless_iff]
    constructor
    · intro heq
      rw [heq, hold] at hnew
      omega
    · intro hspent
      apply Tier.toNat_inj
      rw [hnew, hold]
      omega

theorem mined_iff_harmless (s : Reputation) (a : Address) :
    (∀ blocks, ((s.applyDecay a).mine blocks).getAgentTier a
      = (s.mine blocks).getAgentTier a) ↔ Harmless a s := by
  constructor
  · exact fun h => (shown_iff_harmless s a).mp (h 0)
  · intro hharmless blocks
    rcases applyDecay_cases s a with ⟨hsame, -⟩ | h
    · rw [hsame]
    · have hspent := h.harmless_iff.mp hharmless
      have hle : s.decaySteps a ≤ (s.number + blocks
          - (s.agents a).lastProofBlock) / s.decayPeriod :=
        Nat.div_le_div_right (by omega)
      apply Tier.toNat_inj
      rw [h.shown, shown_toNat h.period h.registered]
      omega

theorem idempotent_iff_harmless (s : Reputation) (a : Address) :
    (s.applyDecay a).applyDecay a = s.applyDecay a ↔ Harmless a s := by
  rcases applyDecay_cases s a with ⟨hsame, hidle⟩ | h
  · rw [hsame, hsame]
    exact ⟨fun _ => hidle.harmless, fun _ => rfl⟩
  rw [h.harmless_iff]
  have hsteps := h.steps_pos
  have htier := h.tier_toNat
  rcases applyDecay_cases (s.applyDecay a) a with ⟨hsame, hidle⟩ | h'
  · refine ⟨fun _ => ?_, fun _ => hsame⟩
    rcases hidle with hperiod | hregistered | hnone | hearly
    · rw [h.eq] at hperiod
      exact absurd hperiod (Nat.ne_of_gt h.period)
    · rw [h.agent, h.registered] at hregistered
      cases hregistered
    · rw [hnone] at htier
      change 0 = _ at htier
      omega
    · rw [h.agent, h.eq] at hearly
      exact absurd hearly (Nat.not_lt.mpr h.late)
  · have hagain := h'.tier_toNat
    have hpos : ((s.applyDecay a).agents a).verifiedTier.toNat ≠ 0 :=
      mt Tier.toNat_eq_zero.mp h'.tier
    rw [h.decaySteps] at hagain
    constructor
    · intro heq
      rw [heq] at hagain
      omega
    · intro hspent
      omega

end Extra

-- ==== coupling

/-- An agent whose tier has decayed away, as an extra call leaves it. -/
structure WrittenOff (s : Reputation) (a : Address) (agent : Agent) :
    Prop where
  period : 0 < s.decayPeriod
  registered : (s.agents a).registered = true
  eq : agent = { s.agents a with verifiedTier := .unverified }
  spent : (s.agents a).verifiedTier.toNat ≤ s.decaySteps a

/-- The two differ only in agents that were written off. -/
def Coupled (s s' : Reputation) : Prop :=
  ∃ agents : Address → Agent, s' = { s with agents := agents }
    ∧ ∀ a, agents a = s.agents a ∨ WrittenOff s a (agents a)

section Coupling

variable {env : Env} {s s' t : Reputation} {a : Address}
  {agents : Address → Agent}

theorem Coupled.refl (s : Reputation) : Coupled s s :=
  ⟨s.agents, rfl, fun _ => Or.inl rfl⟩

theorem WrittenOff.mine {agent : Agent} (h : WrittenOff s a agent)
    (blocks : Nat) : WrittenOff (s.mine blocks) a agent := by
  refine ⟨h.period, h.registered, h.eq, h.spent.trans ?_⟩
  exact Nat.div_le_div_right (Nat.sub_le_sub_right (Nat.le_add_right _ _) _)

theorem Coupled.mine (h : Coupled s s') (blocks : Nat) :
    Coupled (s.mine blocks) (s'.mine blocks) := by
  obtain ⟨agents, rfl, hagents⟩ := h
  refine ⟨agents, rfl, fun a => ?_⟩
  rcases hagents a with hsame | hoff
  · exact Or.inl hsame
  · exact Or.inr (hoff.mine blocks)

theorem Coupled.shown (h : Coupled s s') (a : Address) :
    s'.getAgentTier a = s.getAgentTier a := by
  obtain ⟨agents, rfl, hagents⟩ := h
  rcases hagents a with hsame | hoff
  · unfold Reputation.getAgentTier
    dsimp only
    rw [hsame]
  · have hnew := getAgentTier_toNat (s := { s with agents := agents }) a
      hoff.period
    have hold := getAgentTier_toNat a hoff.period
    have hspent := hoff.spent
    unfold Reputation.decaySteps at hspent
    simp only [hoff.eq, hoff.registered, Bool.true_eq_false, if_false]
      at hnew hold
    change _ = 0 - _ at hnew
    apply Tier.toNat_inj
    omega

theorem Coupled.sameTiers (h : Coupled s s') : SameTiers (s, s') :=
  fun a blocks => (h.mine blocks).shown a

theorem WrittenOff.congr {agent : Agent} (h : WrittenOff s a agent)
    (hagent : t.agents a = s.agents a) (hnumber : t.number = s.number)
    (hperiod : t.decayPeriod = s.decayPeriod) : WrittenOff t a agent := by
  have hspent := h.spent
  unfold Reputation.decaySteps at hspent
  refine ⟨hperiod ▸ h.period, hagent ▸ h.registered, hagent ▸ h.eq, ?_⟩
  unfold Reputation.decaySteps
  rw [hagent, hnumber, hperiod]
  exact hspent

theorem coupled_same (h : ∀ b, agents b = s.agents b ∨ WrittenOff s b (agents b))
    (hagents : t.agents = s.agents) (hnumber : t.number = s.number)
    (hperiod : t.decayPeriod = s.decayPeriod) :
    Coupled t { t with agents := agents } := by
  refine ⟨agents, rfl, fun b => ?_⟩
  rw [hagents]
  rcases h b with hsame | hoff
  · exact Or.inl hsame
  · exact Or.inr (hoff.congr (congrFun hagents b) hnumber hperiod)

theorem coupled_put (h : ∀ b, agents b = s.agents b ∨ WrittenOff s b (agents b))
    (x : Agent) (hnumber : t.number = s.number)
    (hperiod : t.decayPeriod = s.decayPeriod)
    (hagents : t.agents = update s.agents a x) :
    Coupled t { t with agents := update agents a x } := by
  refine ⟨update agents a x, rfl, fun b => ?_⟩
  rw [hagents]
  by_cases hb : b = a
  · left
    rw [hb, update_self, update_self]
  · rw [update_of_ne hb, update_of_ne hb]
    rcases h b with hsame | hoff
    · exact Or.inl hsame
    · right
      exact hoff.congr (by rw [hagents, update_of_ne hb]) hnumber hperiod

theorem registered_eq (h : agents a = s.agents a ∨ WrittenOff s a (agents a)) :
    (agents a).registered = (s.agents a).registered := by
  rcases h with hsame | hoff
  · rw [hsame]
  · rw [hoff.eq]

theorem commitment_eq (h : agents a = s.agents a ∨ WrittenOff s a (agents a)) :
    (agents a).commitment = (s.agents a).commitment := by
  rcases h with hsame | hoff
  · rw [hsame]
  · rw [hoff.eq]

theorem verifies_eq
    (h : agents a = s.agents a ∨ WrittenOff s a (agents a)) (proof : Proof)
    (threshold : Nat) :
    Reputation.verifies env { s with agents := agents } a proof threshold
      = s.verifies env a proof threshold := by
  unfold Reputation.verifies
  rw [← commitment_eq h]

-- ==== the agents' calls

theorem Coupled.register (h : Coupled s s') (sender : Address)
    (commitment : Nat) : Alike Coupled (s.register sender commitment)
      (s'.register sender commitment) := by
  obtain ⟨agents, rfl, hagents⟩ := h
  refine Alike.require Iff.rfl fun _ => ?_
  refine Alike.require ?_ fun _ => ?_
  · show _ ↔ (agents sender).registered = false
    rw [registered_eq (hagents sender)]
  refine Alike.require Iff.rfl fun _ => ?_
  refine Alike.require Iff.rfl fun _ => ?_
  exact .ok (coupled_put hagents _ rfl rfl rfl)

theorem Coupled.unregister (h : Coupled s s') (sender : Address) :
    Alike Coupled (s.unregister sender) (s'.unregister sender) := by
  obtain ⟨agents, rfl, hagents⟩ := h
  refine Alike.require ?_ fun _ => ?_
  · show _ ↔ (agents sender).registered = true
    rw [registered_eq (hagents sender)]
  · have hcommitment := commitment_eq (hagents sender)
    refine .ok ?_
    dsimp only
    rw [hcommitment]
    exact coupled_put hagents _ rfl rfl rfl

/-- A proof at the own tier that both take is for an agent both have the
same. -/
theorem KeepsOwn.same {proof : Proof}
    (hagents : ∀ b, agents b = s.agents b ∨ WrittenOff s b (agents b))
    (h : KeepsOwn env s { s with agents := agents } a proof) :
    (s.verifies env a proof (tierToThreshold (s.agents a).verifiedTier) = true
      ↔ Reputation.verifies env { s with agents := agents } a proof
          (tierToThreshold (agents a).verifiedTier) = true)
    ∧ (s.verifies env a proof (tierToThreshold (s.agents a).verifiedTier)
        = true → agents a = s.agents a) := by
  rcases h with hsame | ⟨hfails, hfails'⟩
  · change agents a = s.agents a at hsame
    rw [verifies_eq (hagents a), hsame]
    exact ⟨Iff.rfl, fun _ => rfl⟩
  · change Reputation.verifies env { s with agents := agents } a proof
      (tierToThreshold (agents a).verifiedTier) = false at hfails'
    rw [hfails, hfails']
    exact ⟨Iff.rfl, fun h => by cases h⟩

theorem Coupled.updateCommitment (h : Coupled s s') (sender : Address)
    (newCommitment : Nat) (proof : Proof)
    (hkeeps : KeepsOwn env s s' sender proof) :
    Alike Coupled (s.updateCommitment env sender newCommitment proof)
      (s'.updateCommitment env sender newCommitment proof) := by
  obtain ⟨agents, rfl, hagents⟩ := h
  obtain ⟨hiff, hsame⟩ := hkeeps.same hagents
  refine Alike.require Iff.rfl fun _ => ?_
  refine Alike.require ?_ fun _ => ?_
  · show _ ↔ (agents sender).registered = true
    rw [registered_eq (hagents sender)]
  refine Alike.require Iff.rfl fun _ => ?_
  refine Alike.require Iff.rfl fun _ => ?_
  refine Alike.require hiff fun hverifies => ?_
  refine .ok ?_
  dsimp only [Reputation.accept, Reputation.setAgent]
  rw [hsame hverifies]
  exact coupled_put hagents _ rfl rfl rfl

theorem Coupled.refreshTier (h : Coupled s s') (sender : Address)
    (proof : Proof) (hkeeps : KeepsOwn env s s' sender proof) :
    Alike Coupled (s.refreshTier env sender proof)
      (s'.refreshTier env sender proof) := by
  obtain ⟨agents, rfl, hagents⟩ := h
  obtain ⟨hiff, hsame⟩ := hkeeps.same hagents
  refine Alike.require Iff.rfl fun _ => ?_
  refine Alike.require ?_ fun _ => ?_
  · show _ ↔ (agents sender).registered = true
    rw [registered_eq (hagents sender)]
  refine Alike.require hiff fun hverifies => ?_
  refine .ok ?_
  dsimp only [Reputation.accept, Reputation.setAgent]
  rw [hsame hverifies]
  exact coupled_put hagents _ rfl rfl rfl

theorem Coupled.prove (h : Coupled s s') {proof : Proof} {threshold : Nat}
    (hkeeps : KeepsTier env s s' a proof threshold)
    (hverifies : s.verifies env a proof threshold = true) :
    Coupled (s.prove a threshold) (s'.prove a threshold) := by
  obtain ⟨agents, rfl, hagents⟩ := h
  have hproved : { agents a with
      verifiedTier := if (agents a).verifiedTier.toNat
          < (thresholdToTier threshold).toNat then thresholdToTier threshold
        else (agents a).verifiedTier
      lastProofBlock := s.number }
      = { s.agents a with
        verifiedTier := if (s.agents a).verifiedTier.toNat
            < (thresholdToTier threshold).toNat then thresholdToTier threshold
          else (s.agents a).verifiedTier
        lastProofBlock := s.number } := by
    rcases hagents a with hsame | hoff
    · rw [hsame]
    · rcases hkeeps with hsame | hfails | hle
      · change agents a = s.agents a at hsame
        rw [hsame]
      · rw [hverifies] at hfails
        cases hfails
      · have htier : (if (agents a).verifiedTier.toNat
              < (thresholdToTier threshold).toNat
            then thresholdToTier threshold else (agents a).verifiedTier)
            = if (s.agents a).verifiedTier.toNat
                < (thresholdToTier threshold).toNat
              then thresholdToTier threshold
              else (s.agents a).verifiedTier := by
          have hzero : (agents a).verifiedTier.toNat = 0 := by
            rw [hoff.eq]
            rfl
          apply Tier.toNat_inj
          split <;> split <;> omega
        rw [htier, hoff.eq]
  unfold Reputation.prove
  dsimp only [Reputation.accept, Reputation.setAgent]
  rw [hproved]
  exact coupled_put hagents _ rfl rfl rfl

theorem Coupled.verifyTier (h : Coupled s s') (sender : Address)
    (proof : Proof) (threshold : Nat)
    (hkeeps : KeepsTier env s s' sender proof threshold) :
    Alike Coupled (s.verifyTier env sender proof threshold)
      (s'.verifyTier env sender proof threshold) := by
  have hcoupled := h
  obtain ⟨agents, rfl, hagents⟩ := h
  refine Alike.require Iff.rfl fun _ => ?_
  refine Alike.require ?_ fun _ => ?_
  · show _ ↔ (agents sender).registered = true
    rw [registered_eq (hagents sender)]
  refine Alike.require ?_ fun hverifies => ?_
  · rw [verifies_eq (hagents sender)]
  · exact .ok (hcoupled.prove hkeeps hverifies)

theorem Coupled.verifySingle (h : Coupled s s') (proof : Proof)
    (threshold : Nat) (hkeeps : KeepsTier env s s' a proof threshold) :
    Coupled (s.verifySingle env a proof threshold).1
      (s'.verifySingle env a proof threshold).1 := by
  have hcoupled := h
  obtain ⟨agents, rfl, hagents⟩ := h
  unfold Reputation.verifySingle
  rw [verifies_eq (hagents a)]
  dsimp only
  rw [registered_eq (hagents a)]
  by_cases hregistered : (s.agents a).registered = false
  · rw [if_pos hregistered, if_pos hregistered]
    exact hcoupled
  rw [if_neg hregistered, if_neg hregistered]
  by_cases hfails : s.verifies env a proof threshold = false
  · rw [if_pos hfails, if_pos hfails]
    exact hcoupled
  rw [if_neg hfails, if_neg hfails]
  exact hcoupled.prove hkeeps (by simpa using hfails)

theorem Coupled.verifyEach {l : List (Address × Proof × Nat)} :
    ∀ {s s' : Reputation}, Coupled s s' → KeepsEach env s s' l →
      Coupled (Reputation.verifyEach env s l).1
        (Reputation.verifyEach env s' l).1 := by
  induction l with
  | nil => exact fun h _ => h
  | cons x rest ih =>
    obtain ⟨a, proof, threshold⟩ := x
    intro s s' h hkeeps
    exact ih (h.verifySingle proof threshold hkeeps.1) hkeeps.2

theorem Coupled.batchVerify {sender : Address} (h : Coupled s s')
    (agentAddrs : List Address)
    (pAs : List (Nat × Nat)) (pBs : List ((Nat × Nat) × (Nat × Nat)))
    (pCs : List (Nat × Nat)) (thresholds : List Nat)
    (hkeeps : KeepsEach env s s'
      (Call.proofs sender (.batchVerify agentAddrs pAs pBs pCs thresholds))) :
    Alike Coupled
      ((s.batchVerify env agentAddrs pAs pBs pCs thresholds).map Prod.fst)
      ((s'.batchVerify env agentAddrs pAs pBs pCs thresholds).map
        Prod.fst) := by
  have hpaused : s'.paused = s.paused := by
    obtain ⟨agents, rfl, -⟩ := h
    rfl
  have hbatch : Alike (fun r r' : Reputation × List Bool => Coupled r.1 r'.1)
      (s.batchVerify env agentAddrs pAs pBs pCs thresholds)
      (s'.batchVerify env agentAddrs pAs pBs pCs thresholds) := by
    refine Alike.require (by rw [hpaused]) fun _ => ?_
    refine Alike.require Iff.rfl fun _ => ?_
    exact .ok (h.verifyEach hkeeps)
  exact hbatch.map fun _ _ h => h

-- ==== each step

theorem WrittenOff.decays (hperiod : 0 < s.decayPeriod)
    (hregistered : (s.agents a).registered = true)
    (hspent : (s.agents a).verifiedTier.toNat ≤ s.decaySteps a) :
    WrittenOff s a { s.agents a with
      verifiedTier := Reputation.decayed (s.agents a).verifiedTier
        (s.decaySteps a) } := by
  refine ⟨hperiod, hregistered, ?_, hspent⟩
  have hnone : Reputation.decayed (s.agents a).verifiedTier (s.decaySteps a)
      = .unverified := by
    apply Tier.toNat_inj
    rw [decayed_toNat]
    exact Nat.sub_eq_zero_of_le hspent
  rw [hnone]

theorem Coupled.extra (h : Coupled s s') (hharmless : Harmless a s') :
    Coupled s (s'.applyDecay a) := by
  rcases applyDecay_cases s' a with ⟨hsame, -⟩ | hwritten
  · rw [hsame]
    exact h
  have hspent := hwritten.harmless_iff.mp hharmless
  have heq := hwritten.eq
  have htier := hwritten.tier
  have hregistered := hwritten.registered
  have hperiod := hwritten.period
  obtain ⟨agents, rfl, hagents⟩ := h
  rw [heq]
  refine ⟨_, rfl, fun b => ?_⟩
  by_cases hb : b = a
  · rw [hb, update_self]
    rcases hagents a with hsame | hoff
    · right
      change (agents a).verifiedTier.toNat
        ≤ (s.number - (agents a).lastProofBlock) / s.decayPeriod at hspent
      change (agents a).registered = true at hregistered
      dsimp only [Reputation.decaySteps]
      rw [hsame] at hspent hregistered ⊢
      exact WrittenOff.decays hperiod hregistered hspent
    · exfalso
      apply htier
      show (agents a).verifiedTier = _
      rw [hoff.eq]
  · rw [update_of_ne hb]
    exact hagents b

/-- A call of the run itself takes from an agent that was written off what
the extra call has taken. -/
theorem Coupled.applyDecay (h : Coupled s s') (a : Address) :
    Coupled (s.applyDecay a) (s'.applyDecay a) := by
  have hcoupled := h
  obtain ⟨agents, rfl, hagents⟩ := h
  rcases hagents a with hsame | hoff
  · unfold Reputation.applyDecay
    dsimp only
    rw [hsame]
    split_ifs
    · exact hcoupled
    · exact hcoupled
    · exact hcoupled
    · exact coupled_put hagents _ rfl rfl rfl
  · have hidle : Reputation.applyDecay { s with agents := agents } a
        = { s with agents := agents } := by
      unfold Reputation.applyDecay
      dsimp only
      rw [hoff.eq]
      simp
    rw [hidle]
    rcases applyDecay_cases s a with ⟨hsame, -⟩ | hwritten
    · rw [hsame]
      exact hcoupled
    · have hgone := WrittenOff.decays hoff.period hoff.registered hoff.spent
      rw [hwritten.eq, hgone.eq]
      have hput := coupled_put (t := s.setAgent a (agents a)) hagents
        (agents a) rfl rfl rfl
      rw [update_eq_self, hoff.eq] at hput
      exact hput

theorem alike_step (h : Coupled s s') {a : Action}
    (hcond : NoneRevived env (.own a) (s, s')) :
    Alike Coupled (step env a s) (step env a s') := by
  cases a with
  | mine blocks => exact .ok (h.mine blocks)
  | call sender c =>
    cases c with
    | register commitment => exact h.register sender commitment
    | unregister => exact h.unregister sender
    | updateCommitment newCommitment proof =>
      exact h.updateCommitment sender newCommitment proof
        (hcond.2 proof rfl)
    | verifyTier proof threshold =>
      exact h.verifyTier sender proof threshold hcond.1.1
    | batchVerify agentAddrs pAs pBs pCs thresholds =>
      exact h.batchVerify agentAddrs pAs pBs pCs thresholds hcond.1
    | applyDecay a => exact .ok (h.applyDecay a)
    | refreshTier proof => exact h.refreshTier sender proof (hcond.2 proof rfl)
    | setVerifier verifier =>
      obtain ⟨agents, rfl, hagents⟩ := h
      refine Alike.require Iff.rfl fun _ => ?_
      refine Alike.require Iff.rfl fun _ => ?_
      exact .ok (coupled_same hagents rfl rfl rfl)
    | setPaused paused =>
      obtain ⟨agents, rfl, hagents⟩ := h
      refine Alike.require Iff.rfl fun _ => ?_
      refine Alike.require Iff.rfl fun _ => ?_
      exact .ok (coupled_same hagents rfl rfl rfl)

end Coupling

-- ==== runs

theorem pairStep_coupled {env : Env} {item : Item}
    {x y : Reputation × Reputation} (h : Coupled x.1 x.2)
    (hcond : NoneRevived env item x) (hstep : pairStep env item x = .ok y) :
    Coupled y.1 y.2 := by
  cases item with
  | own a =>
    cases hstep
    exact (alike_step h hcond).getD h
  | extra sender a =>
    cases hstep
    exact h.extra hcond

/-- Written and shown decay agree where the extra calls are harmless and no
proof revives what they have written off; and a call that is not harmless
shows a lower tier at once. -/
theorem eager_agrees (s : Reputation) (a : Address) :
    (((∀ blocks, ((s.applyDecay a).mine blocks).getAgentTier a
          = (s.mine blocks).getAgentTier a) ↔ Harmless a s)
        ∧ ((s.applyDecay a).getAgentTier a = s.getAgentTier a ↔ Harmless a s)
        ∧ ((s.applyDecay a).applyDecay a = s.applyDecay a ↔ Harmless a s))
    ∧ ∀ (env : Env) (s₀ : Reputation) (items : List Item)
        (x : Reputation × Reputation),
      Meets (pairStep env) (NoneRevived env) (s₀, s₀) items →
      run (pairStep env) (s₀, s₀) items = .ok x →
      SameTiers x
        ∧ ∀ a, SameTiers (x.1, x.2.applyDecay a) ↔ Harmless a x.2 := by
  constructor
  · exact ⟨mined_iff_harmless s a, shown_iff_harmless s a,
      idempotent_iff_harmless s a⟩
  · intro env s₀ items x hmeets hrun
    have h := run_induct_meets
      (I := fun x : Reputation × Reputation => Coupled x.1 x.2)
      (fun item x y h hcond hstep => pairStep_coupled h hcond hstep)
      (Coupled.refl s₀) hmeets hrun
    have hsame := h.sameTiers
    refine ⟨hsame, fun a => ⟨fun hextra => ?_, fun hharmless => ?_⟩⟩
    · refine (mined_iff_harmless x.2 a).mp fun blocks => ?_
      exact (hextra a blocks).trans (hsame a blocks).symm
    · exact (h.extra hharmless).sameTiers

namespace Concrete

/-- A Platinum agent, one period after its proof, whom someone has
decayed. -/
def decayedTwice : List Item :=
  [.own (.call 7 (.register 5)), .own (.call 7 (.verifyTier proof 90)),
    .own (.mine 10), .extra 9 7]

/-- Calls before the first period is over, and when nothing is left, and a
proof of the tier after that. -/
def decayedOnce : List Item :=
  [.own (.call 7 (.register 5)), .own (.call 7 (.verifyTier proof 75)),
    .own (.mine 9), .extra 9 7, .own (.mine 40), .extra 9 7, .extra 8 7,
    .own (.call 7 (.verifyTier proof 90)), .own (.mine 10)]

end Concrete

theorem eager_agrees_once :
    ∃ x, run (pairStep Concrete.lenient) (Concrete.start, Concrete.start)
        Concrete.decayedOnce = .ok x
      ∧ x.1.getAgentTier 7 = .gold ∧ SameTiers x := by
  obtain ⟨x, hrun, htier⟩ := check_ok (show Exec.check
      (fun x : Reputation × Reputation => decide (x.1.getAgentTier 7 = .gold))
      (run (pairStep Concrete.lenient) (Concrete.start, Concrete.start)
        Concrete.decayedOnce) = true
    by decide)
  have hmeets : Meets (pairStep Concrete.lenient) (NoneRevived Concrete.lenient)
      (Concrete.start, Concrete.start) Concrete.decayedOnce := by
    apply meets_of_check fun item x h =>
      of_decide_eq_true (p := NoneRevived Concrete.lenient item x) h
    decide
  exact ⟨x, hrun, of_decide_eq_true htier,
    ((eager_agrees Concrete.start 7).2 Concrete.lenient Concrete.start
      Concrete.decayedOnce x hmeets hrun).1⟩

/-- A third party lowers the tier of another agent by one. -/
theorem eager_differs :
    ∃ x, Started Concrete.start
      ∧ run (pairStep Concrete.lenient) (Concrete.start, Concrete.start)
        Concrete.decayedTwice = .ok x
      ∧ x.1.getAgentTier 7 = .gold ∧ x.2.getAgentTier 7 = .silver
      ∧ (x.2.applyDecay 7).getAgentTier 7 = .bronze := by
  obtain ⟨x, hrun, htiers⟩ := check_ok (show Exec.check
      (fun x : Reputation × Reputation =>
        decide (x.1.getAgentTier 7 = .gold ∧ x.2.getAgentTier 7 = .silver
          ∧ (x.2.applyDecay 7).getAgentTier 7 = .bronze))
      (run (pairStep Concrete.lenient) (Concrete.start, Concrete.start)
        Concrete.decayedTwice) = true
    by decide)
  exact ⟨x, Concrete.start_started, hrun, of_decide_eq_true htiers⟩

end KamiyoProtocol.ZkReputation
