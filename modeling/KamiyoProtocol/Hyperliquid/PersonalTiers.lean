/-
Whose a tier is, and how long.

A proof is about a commitment, and nothing ties the commitment to the
agent: whoever submits a proof first or after others gets its tier. The
tier that counts expires, and the one that is stored does not, and a new
proof is held against the stored one.
-/
import KamiyoProtocol.Hyperliquid.ReputationLimits

namespace KamiyoProtocol.Hyperliquid

open Exec Evm Function

/-- The contract and the time. -/
abbrev TimedLimits := ReputationLimits × Nat

/-- A submission, with what the registry says of its sender, or time that
passes. -/
inductive TierAction
  | prove (sender : Address) (registered : Bool) (tier commitment : Nat)
      (proof : Proof) (pubInputs : List Nat)
  | wait (seconds : Nat)

/-- `proveReputation` at some time. -/
def ReputationLimits.prove (l : ReputationLimits) (curve : Curve) (now : Nat)
    (sender : Address) (registered : Bool) (tier commitment : Nat)
    (proof : Proof) (pubInputs : List Nat) : Except String ReputationLimits :=
  l.proveReputation curve ⟨⟨sender, 0, now⟩, []⟩ registered tier commitment
    proof pubInputs

/-- The sender has the tier, from now on. -/
def ReputationLimits.proved (l : ReputationLimits) (now : Nat)
    (sender : Address) (tier commitment : Nat) : ReputationLimits :=
  { l with
    agentTiers := update l.agentTiers sender ⟨tier, uint 64 now, commitment⟩ }

def tierStep (curve : Curve) (a : TierAction) (x : TimedLimits) :
    Except String TimedLimits :=
  match a with
  | .prove sender registered tier commitment proof pubInputs =>
    (x.1.prove curve x.2 sender registered tier commitment proof
      pubInputs).map fun l => (l, x.2)
  | .wait seconds => .ok (x.1, x.2 + seconds)

/-- No agent has proved a tier yet. -/
def ReputationLimits.Unproved (l : ReputationLimits) : Prop :=
  ∀ a, (l.agentTiers a).tier = 0

/-- The agent's tier counts. -/
def Unexpired (x : TimedLimits) (a : Address) : Prop :=
  ∃ e, x.1.getEffectiveTier x.2 a = .ok e ∧ e ≠ 0

/-- No two agents have tiers that count for one commitment. -/
def Personal (x : TimedLimits) : Prop :=
  ∀ a b, a ≠ b → Unexpired x a → Unexpired x b →
    (x.1.agentTiers a).commitment ≠ (x.1.agentTiers b).commitment

/-- No other agent has a tier that counts for the commitment, if the new
tier will count at all. -/
def Unshared (a : TierAction) (x : TimedLimits) : Prop :=
  match a with
  | .prove sender _ _ commitment _ _ =>
    x.2 + tierValidityPeriod < 2 ^ 64 → ∀ b, b ≠ sender → Unexpired x b →
      (x.1.agentTiers b).commitment ≠ commitment
  | .wait _ => True

-- ==== expiry

section Expiry

variable {curve : Curve} {l l' : ReputationLimits} {now : Nat}
  {sender : Address} {registered : Bool} {tier commitment e : Nat}
  {proof : Proof} {pubInputs : List Nat} {x y : TimedLimits}

theorem getEffectiveTier_ok {a : Address} :
    l.getEffectiveTier now a = .ok e
      ↔ ((l.agentTiers a).tier = 0 ∧ e = 0)
        ∨ ((l.agentTiers a).tier ≠ 0
          ∧ (l.agentTiers a).verifiedAt + tierValidityPeriod < 2 ^ 64
          ∧ e = if (l.agentTiers a).verifiedAt + tierValidityPeriod < now
            then 0 else (l.agentTiers a).tier) := by
  unfold ReputationLimits.getEffectiveTier
  dsimp only
  by_cases hzero : (l.agentTiers a).tier = 0
  · rw [if_pos hzero]
    constructor
    · intro h
      exact Or.inl ⟨hzero, (pure_ok.mp h).symm⟩
    · rintro (⟨-, rfl⟩ | ⟨hsome, -⟩)
      · rfl
      · exact absurd hzero hsome
  · rw [if_neg hzero]
    constructor
    · intro h
      obtain ⟨validUntil, hchecked, h⟩ := bind_ok.mp h
      obtain ⟨hlt, rfl⟩ := checked_ok.mp hchecked
      exact Or.inr ⟨hzero, hlt, (pure_ok.mp h).symm⟩
    · rintro (⟨hnone, -⟩ | ⟨-, hlt, rfl⟩)
      · exact absurd hnone hzero
      · exact bind_ok.mpr ⟨_, checked_ok.mpr ⟨hlt, rfl⟩, rfl⟩

theorem unexpired_iff {a : Address} : Unexpired x a
    ↔ (x.1.agentTiers a).tier ≠ 0
      ∧ (x.1.agentTiers a).verifiedAt + tierValidityPeriod < 2 ^ 64
      ∧ x.2 ≤ (x.1.agentTiers a).verifiedAt + tierValidityPeriod := by
  constructor
  · rintro ⟨e, heffective, hsome⟩
    rcases getEffectiveTier_ok.mp heffective with ⟨-, hzero⟩ | ⟨htier, hlt, he⟩
    · exact absurd hzero hsome
    · refine ⟨htier, hlt, ?_⟩
      by_contra hlate
      rw [if_pos (by omega)] at he
      exact hsome he
  · rintro ⟨htier, hlt, htime⟩
    refine ⟨(x.1.agentTiers a).tier, ?_, htier⟩
    refine getEffectiveTier_ok.mpr (Or.inr ⟨htier, hlt, ?_⟩)
    rw [if_neg (by omega)]

theorem Unexpired.before {seconds : Nat} {a : Address}
    (h : Unexpired (x.1, x.2 + seconds) a) : Unexpired x a := by
  obtain ⟨htier, hlt, htime⟩ := unexpired_iff.mp h
  exact unexpired_iff.mpr ⟨htier, hlt, Nat.le_trans (Nat.le_add_right _ _) htime⟩

-- ==== a submission

/-- What a submission is checked for, and what it writes. -/
theorem prove_ok :
    l.prove curve now sender registered tier commitment proof pubInputs = .ok l'
      ↔ l.paused = false ∧ registered = true
        ∧ (tier ≠ 0 ∧ tier < l.tiers.length)
        ∧ (l.agentTiers sender).tier < tier
        ∧ l.verifyProof curve proof pubInputs = .ok true
        ∧ (∃ t, l.tiers[tier]? = some t ∧ pubInputs = [t.threshold, commitment])
        ∧ l' = l.proved now sender tier commitment := by
  constructor
  · intro h
    obtain ⟨_, hpaused, _, hregistered, _, htier, _, hlower, h⟩ := bind_ok₄.mp h
    obtain ⟨verified, hverified, _, htrue, t, ht, _, hinputs, h⟩ :=
      bind_ok₄.mp h
    rw [require_ok.mp htrue] at hverified
    exact ⟨require_ok.mp hpaused, require_ok.mp hregistered,
      require_ok.mp htier, require_ok.mp hlower, hverified,
      ⟨t, okOr_ok.mp ht, require_ok.mp hinputs⟩, (pure_ok.mp h).symm⟩
  · rintro ⟨hpaused, hregistered, htier, hlower, hverified, ⟨t, ht, hinputs⟩,
      rfl⟩
    refine bind_ok.mpr ⟨(), require_ok.mpr hpaused, ?_⟩
    refine bind_ok.mpr ⟨(), require_ok.mpr hregistered, ?_⟩
    refine bind_ok.mpr ⟨(), require_ok.mpr htier, ?_⟩
    refine bind_ok.mpr ⟨(), require_ok.mpr hlower, ?_⟩
    refine bind_ok.mpr ⟨true, hverified, ?_⟩
    refine bind_ok.mpr ⟨(), require_ok.mpr rfl, ?_⟩
    refine bind_ok.mpr ⟨t, okOr_ok.mpr ht, ?_⟩
    exact bind_ok.mpr ⟨(), require_ok.mpr hinputs, rfl⟩

theorem uint_counts (now : Nat) :
    (uint 64 now + tierValidityPeriod < 2 ^ 64
        ∧ now ≤ uint 64 now + tierValidityPeriod)
      ↔ now + tierValidityPeriod < 2 ^ 64 := by
  unfold uint tierValidityPeriod
  omega

theorem proved_self :
    (l.proved now sender tier commitment).agentTiers sender
      = ⟨tier, uint 64 now, commitment⟩ :=
  update_self ..

theorem proved_unexpired (htier : tier ≠ 0) :
    Unexpired (l.proved now sender tier commitment, now) sender
      ↔ now + tierValidityPeriod < 2 ^ 64 := by
  rw [unexpired_iff, ← uint_counts now]
  dsimp only
  rw [proved_self]
  constructor
  · exact fun h => h.2
  · exact fun h => ⟨htier, h⟩

theorem proved_other {b : Address} (hb : b ≠ sender) :
    (l.proved now sender tier commitment).agentTiers b = l.agentTiers b :=
  update_of_ne hb ..

theorem unexpired_congr {b : Address} (h : l'.agentTiers b = l.agentTiers b) :
    Unexpired (l', now) b ↔ Unexpired (l, now) b := by
  rw [unexpired_iff, unexpired_iff, h]

/-- After a submission the tiers are personal exactly if its commitment was
no other's. -/
theorem personal_proved (hpersonal : Personal (l, now)) (htier : tier ≠ 0) :
    Personal (l.proved now sender tier commitment, now)
      ↔ (now + tierValidityPeriod < 2 ^ 64 →
        ∀ b, b ≠ sender → Unexpired (l, now) b →
          (l.agentTiers b).commitment ≠ commitment) := by
  have hself : Unexpired (l.proved now sender tier commitment, now) sender
      ↔ now + tierValidityPeriod < 2 ^ 64 := proved_unexpired htier
  have hcommitment : ((l.proved now sender tier commitment).agentTiers
      sender).commitment = commitment :=
    congrArg AgentTier.commitment proved_self
  have hother : ∀ b, b ≠ sender →
      (l.proved now sender tier commitment).agentTiers b = l.agentTiers b :=
    fun b hb => proved_other hb
  generalize l.proved now sender tier commitment = l'
    at hself hcommitment hother ⊢
  constructor
  · intro h hcounts b hb hunexpired
    have hne := h b sender hb ((unexpired_congr (hother b hb)).mpr hunexpired)
      (hself.mpr hcounts)
    rw [hcommitment, hother b hb] at hne
    exact hne
  · intro h a b hab ha hb
    show (l'.agentTiers a).commitment ≠ (l'.agentTiers b).commitment
    by_cases hsender : a = sender
    · subst hsender
      have hb' := hother b (Ne.symm hab)
      rw [hcommitment, hb']
      exact (h (hself.mp ha) b (Ne.symm hab)
        ((unexpired_congr hb').mp hb)).symm
    · have ha' := hother a hsender
      by_cases hsender' : b = sender
      · subst hsender'
        rw [hcommitment, ha']
        exact h (hself.mp hb) a hsender ((unexpired_congr ha').mp ha)
      · have hb' := hother b hsender'
        rw [ha', hb']
        exact hpersonal a b hab ((unexpired_congr ha').mp ha)
          ((unexpired_congr hb').mp hb)

theorem personal_step {a : TierAction} (h : Personal x)
    (hstep : tierStep curve a x = .ok y) : Personal y ↔ Unshared a x := by
  cases a with
  | wait seconds =>
    cases hstep
    refine ⟨fun _ => trivial, fun _ a b hab ha hb => ?_⟩
    exact h a b hab ha.before hb.before
  | prove sender registered tier commitment proof pubInputs =>
    unfold tierStep at hstep
    dsimp only at hstep
    cases hproved : x.1.prove curve x.2 sender registered tier commitment
        proof pubInputs with
    | error e =>
      rw [hproved] at hstep
      cases hstep
    | ok l =>
      rw [hproved] at hstep
      cases hstep
      obtain ⟨-, -, ⟨htier, -⟩, -, -, -, rfl⟩ := prove_ok.mp hproved
      exact personal_proved h htier

/-- A submission that is due is taken exactly if the stored tier is lower
too, and the new one counts. -/
theorem renewed_iff (hpaused : l.paused = false)
    (htier : tier ≠ 0 ∧ tier < l.tiers.length)
    (hverified : l.verifyProof curve proof pubInputs = .ok true)
    (hinputs : ∃ t, l.tiers[tier]? = some t
      ∧ pubInputs = [t.threshold, commitment]) :
    (∃ l', l.prove curve now sender true tier commitment proof pubInputs
        = .ok l' ∧ l'.getEffectiveTier now sender = .ok tier)
      ↔ (l.agentTiers sender).tier < tier
        ∧ now + tierValidityPeriod < 2 ^ 64 := by
  constructor
  · rintro ⟨l', hproved, heffective⟩
    obtain ⟨-, -, -, hlower, -, -, rfl⟩ := prove_ok.mp hproved
    exact ⟨hlower, (proved_unexpired htier.1).mp ⟨tier, heffective, htier.1⟩⟩
  · rintro ⟨hlower, hcounts⟩
    refine ⟨_, prove_ok.mpr ⟨hpaused, rfl, htier, hlower, hverified, hinputs,
      rfl⟩, ?_⟩
    obtain ⟨hlt, htime⟩ := (uint_counts now).mpr hcounts
    refine getEffectiveTier_ok.mpr (Or.inr ?_)
    rw [proved_self]
    exact ⟨htier.1, hlt, (if_neg (Nat.not_lt.mpr htime)).symm⟩

end Expiry

namespace Concrete

/-- There are proofs of some statements. -/
def proving (statements : List (List Nat)) : Curve :=
  ⟨fun _ _ pubInputs => .ok (decide (pubInputs ∈ statements))⟩

def tierProof : Proof := ⟨(1, 2), ((3, 4), (5, 6)), (7, 8)⟩

def limits : ReputationLimits where
  vk := ⟨(1, 2), ((3, 4), (5, 6)), ((7, 8), (9, 10)), ((11, 12), (13, 14)),
    [(1, 2), (1, 2), (1, 2)]⟩
  tiers := defaultTiers
  agentTiers := fun _ => ⟨0, 0, 0⟩
  admin := 1
  pendingAdmin := 0
  paused := false

theorem limits_unproved : limits.Unproved := fun _ => rfl

/-- One agent's proof, submitted by another one too. -/
def sharedRun : List TierAction :=
  [.prove 7 true 1 5 tierProof [25, 5], .prove 8 true 1 5 tierProof [25, 5]]

/-- A tier that expires. -/
def expiredRun : List TierAction :=
  [.prove 7 true 1 5 tierProof [25, 5], .wait 31536001]

/-- A tier that is still good. -/
def risingTierRun : List TierAction :=
  [.prove 7 true 1 5 tierProof [25, 5], .wait 86400]

end Concrete

end KamiyoProtocol.Hyperliquid
