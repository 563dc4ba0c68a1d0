/-
`reputation_threshold.circom`, and the tiers that `ZKReputationV2.sol` gives
for its proofs.

The circuit compares the score with the threshold in the field: what counts
is that their difference has few digits. So a threshold a little below the
field's order is a negative number there, which every score reaches. The
contract reads the same threshold as a natural number, and as one above all
tiers.
-/
import KamiyoProtocol.ZkReputation.ReputationV2
import KamiyoProtocol.Lib.Bn254
import KamiyoProtocol.Lib.Circom
import Mathlib.Data.ZMod.Basic

namespace KamiyoProtocol.ZkReputation

open Exec Evm Function

-- ==== circuit

instance : Fact Bn254.order.Prime := ⟨Bn254.order_prime⟩

abbrev Signal := ZMod Bn254.order

/-- The constraints of `ReputationThreshold`. -/
structure ReputationThreshold (poseidon : Signal → Signal → Signal)
    (threshold commitment score secret : Signal) : Prop where
  gte : Circom.GreaterEqThan 8 score threshold 1
  hasher : poseidon score secret = commitment

/-- A verifier of the circuit's proofs. -/
structure Groth16 (env : Env) (poseidon : Signal → Signal → Signal)
    (verifier : Address) : Prop where
  sound : ∀ proof threshold commitment,
    env.verifyProof verifier proof threshold commitment = true →
      threshold < Bn254.order ∧ commitment < Bn254.order
        ∧ ∃ score secret,
          ReputationThreshold poseidon threshold commitment score secret
  complete : ∀ (threshold commitment : Nat) score secret,
    threshold < Bn254.order → commitment < Bn254.order →
      ReputationThreshold poseidon threshold commitment score secret →
        ∃ proof, env.verifyProof verifier proof threshold commitment = true

/-- The commitment is to the score, with some secret, and to no other. -/
structure CommitsTo (poseidon : Signal → Signal → Signal)
    (commitment score : Nat) : Prop where
  opens : ∃ secret, (poseidon score secret).val = commitment
  only : ∀ other secret, (poseidon other secret).val = commitment →
    other = score

theorem gte_iff {score threshold : Nat} (hscore : score < Bn254.order) :
    Circom.GreaterEqThan 8 (score : Signal) threshold 1
      ↔ (threshold + 255 + (Bn254.order - score)) % Bn254.order < 256 := by
  have hcast : (threshold : Signal) + 2 ^ 8 - (score + 1)
      = ((threshold + 255 + (Bn254.order - score) : Nat) : Signal) := by
    rw [Nat.cast_add, Nat.cast_sub hscore.le, ZMod.natCast_self]
    push_cast
    ring
  rw [Circom.greaterEqThan_one, hcast]
  constructor
  · rintro ⟨v, hv, heq⟩
    rw [ZMod.natCast_eq_natCast_iff'] at heq
    rw [← heq]
    exact lt_of_le_of_lt (Nat.mod_le _ _) hv
  · intro hlt
    exact ⟨_, hlt, (ZMod.natCast_mod _ _).symm ▸ rfl⟩

/-- A score of few digits reaches what is no more than it, and the
negative numbers. -/
theorem gte_small {score threshold : Nat} (hscore : score ≤ 255)
    (hthreshold : threshold < Bn254.order) :
    Circom.GreaterEqThan 8 (score : Signal) threshold 1
      ↔ threshold ≤ score ∨ Bn254.order + score ≤ threshold + 255 := by
  have hlt : score < Bn254.order := lt_of_le_of_lt hscore (by decide)
  rw [gte_iff hlt]
  unfold Bn254.order at *
  omega

-- ==== contract

section Contract

variable {env : Env} {poseidon : Signal → Signal → Signal}
  {st st' : Reputation} {a : Address} {proof : Proof}
  {score threshold : Nat}

theorem thresholdToTier_mono {t u : Nat} (h : t ≤ u) :
    (thresholdToTier t).toNat ≤ (thresholdToTier u).toNat := by
  unfold thresholdToTier tierPlatinum tierGold tierSilver tierBronze
  split_ifs <;> first | omega | decide

theorem thresholdToTier_platinum {t : Nat} (h : tierPlatinum ≤ t) :
    thresholdToTier t = .platinum :=
  if_pos h

theorem Groth16.verified (hgroth : Groth16 env poseidon st.verifier)
    (hcommits : CommitsTo poseidon (st.agents a).commitment score)
    (hscore : score ≤ 100)
    (hverified : st.verifies env a proof threshold = true) :
    threshold < Bn254.order
      ∧ (threshold ≤ score ∨ Bn254.order + score ≤ threshold + 255) := by
  obtain ⟨hthreshold, -, other, secret, hgte, hhash⟩ :=
    hgroth.sound proof threshold _ hverified
  have hlt := ZMod.val_lt (poseidon other secret)
  rw [hhash, ZMod.val_natCast] at hlt
  obtain ⟨_, hopens⟩ := hcommits.opens
  have hcommitment : (st.agents a).commitment < Bn254.order := by
    rw [← hopens]
    exact ZMod.val_lt _
  have hother := hcommits.only other secret (by
    rw [hhash, ZMod.val_natCast, Nat.mod_eq_of_lt hcommitment])
  rw [hother] at hgte
  exact ⟨hthreshold, (gte_small (by omega) hthreshold).mp hgte⟩

theorem Groth16.provable (hgroth : Groth16 env poseidon st.verifier)
    (hcommits : CommitsTo poseidon (st.agents a).commitment score)
    (hscore : score ≤ 100) (hthreshold : threshold < Bn254.order)
    (hreached : threshold ≤ score ∨ Bn254.order + score ≤ threshold + 255) :
    ∃ proof, st.verifies env a proof threshold = true := by
  obtain ⟨secret, hopens⟩ := hcommits.opens
  refine hgroth.complete threshold _ score secret hthreshold ?_
    ⟨(gte_small (by omega) hthreshold).mpr hreached, ?_⟩
  · rw [← hopens]
    exact ZMod.val_lt _
  · rw [← hopens, ZMod.natCast_zmod_val]

-- ==== batches

theorem verifySingle_verifies (b : Address) (proof' : Proof) (t : Nat) :
    (st.verifySingle env b proof' t).1.verifies env a proof threshold
      = st.verifies env a proof threshold := by
  unfold Reputation.verifySingle
  by_cases hregistered : (st.agents b).registered = false
  · rw [if_pos hregistered]
  · rw [if_neg hregistered]
    by_cases hverified : st.verifies env b proof' t = false
    · rw [if_pos hverified]
    · rw [if_neg hverified]
      unfold Reputation.verifies Reputation.prove Reputation.setAgent
        Reputation.accept
      by_cases hab : a = b
      · rw [hab]
        simp
      · simp [update_of_ne hab ..]

theorem verifySingle_true
    (h : (st.verifySingle env a proof threshold).2 = true) :
    st.verifies env a proof threshold = true := by
  unfold Reputation.verifySingle at h
  by_cases hregistered : (st.agents a).registered = false
  · rw [if_pos hregistered] at h
    cases h
  · rw [if_neg hregistered] at h
    by_cases hverified : st.verifies env a proof threshold = false
    · rw [if_pos hverified] at h
      cases h
    · simpa using hverified

theorem verifyEach_true {l : List (Address × Proof × Nat)} :
    ∀ {st : Reputation} {i : Nat}, l[i]? = some (a, proof, threshold) →
      (Reputation.verifyEach env st l).2[i]? = some true →
        st.verifies env a proof threshold = true := by
  induction l with
  | nil =>
    intro st i hi
    cases hi
  | cons x rest ih =>
    obtain ⟨b, proof', t⟩ := x
    intro st i hi hresult
    cases i with
    | zero =>
      cases hi
      exact verifySingle_true (by simpa [Reputation.verifyEach] using hresult)
    | succ i =>
      rw [← verifySingle_verifies b proof' t]
      exact ih hi (by simpa [Reputation.verifyEach] using hresult)

/-- Whatever proof of the threshold is accepted for the agent, the tier of
the threshold is not above that of the score. -/
structure Earned (env : Env) (st : Reputation) (a : Address)
    (score threshold : Nat) : Prop where
  verifyTier : ∀ proof st',
    st.verifyTier env a proof threshold = .ok st' →
      (thresholdToTier threshold).toNat ≤ (thresholdToTier score).toNat
  batchVerify : ∀ agentAddrs pAs pBs pCs thresholds st' results,
    st.batchVerify env agentAddrs pAs pBs pCs thresholds = .ok (st', results) →
      ∀ i : Nat, agentAddrs[i]? = some a → thresholds[i]? = some threshold →
        results[i]? = some true →
          (thresholdToTier threshold).toNat ≤ (thresholdToTier score).toNat

/-- The threshold is not one of those below the field's order that stand
for a negative number, or no proof is taken for it, or the score has the
highest tier. -/
def NotNegative (score threshold : Nat) : Prop :=
  threshold + 255 < Bn254.order + score ∨ Bn254.order ≤ threshold
    ∨ tierPlatinum ≤ score

instance (score threshold : Nat) : Decidable (NotNegative score threshold) :=
  inferInstanceAs (Decidable (_ ∨ _ ∨ _))

theorem Groth16.earned (hgroth : Groth16 env poseidon st.verifier)
    (hcommits : CommitsTo poseidon (st.agents a).commitment score)
    (hscore : score ≤ 100) (hthreshold : NotNegative score threshold)
    (hverified : st.verifies env a proof threshold = true) :
    (thresholdToTier threshold).toNat ≤ (thresholdToTier score).toNat := by
  obtain ⟨hlt, hreached⟩ := hgroth.verified hcommits hscore hverified
  rcases hthreshold with hsmall | hlarge | hplatinum
  · rcases hreached with hle | hge
    · exact thresholdToTier_mono hle
    · omega
  · omega
  · rw [thresholdToTier_platinum hplatinum]
    exact Tier.toNat_le _

/-- The tiers that a registered agent's proofs give are earned, unless the
threshold is a negative number of the field. -/
theorem tier_earned_iff (hgroth : Groth16 env poseidon st.verifier)
    (hpaused : st.paused = false)
    (hregistered : (st.agents a).registered = true)
    (hcommits : CommitsTo poseidon (st.agents a).commitment score)
    (hscore : score ≤ 100) :
    Earned env st a score threshold ↔ NotNegative score threshold := by
  constructor
  · intro hearned
    by_contra hnot
    unfold NotNegative at hnot
    simp only [not_or, Nat.not_lt, Nat.not_le] at hnot
    obtain ⟨hnegative, hlt, htier⟩ := hnot
    obtain ⟨proof, hverified⟩ :=
      hgroth.provable hcommits hscore hlt (Or.inr hnegative)
    have haccepted : st.verifyTier env a proof threshold
        = .ok (st.prove a threshold) := by
      unfold Reputation.verifyTier
      exact bind_ok.mpr ⟨(), require_ok.mpr hpaused, bind_ok.mpr
        ⟨(), require_ok.mpr hregistered, bind_ok.mpr
          ⟨(), require_ok.mpr hverified, rfl⟩⟩⟩
    have hle := hearned.verifyTier proof _ haccepted
    have hplatinum : tierPlatinum ≤ threshold := by
      unfold tierPlatinum
      unfold Bn254.order at hnegative
      omega
    rw [thresholdToTier_platinum hplatinum] at hle
    unfold thresholdToTier at hle
    rw [if_neg (Nat.not_le.mpr htier)] at hle
    revert hle
    split_ifs <;> decide
  · intro hthreshold
    refine ⟨fun proof st' hok => ?_, ?_⟩
    · obtain ⟨_, -, _, -, _, hverified, -⟩ := bind_ok₃.mp hok
      exact hgroth.earned hcommits hscore hthreshold
        (require_ok.mp hverified)
    · intro agentAddrs pAs pBs pCs thresholds st' results hok i ha ht hresult
      obtain ⟨_, -, _, hlengths, hok⟩ := bind_ok₂.mp hok
      obtain ⟨hpAs, hpBs, hpCs, -⟩ := require_ok.mp hlengths
      have hi := (List.getElem?_eq_some_iff.mp ha).1
      generalize hproofs : List.zipWith (fun pA (pBC : _ × _) =>
        Proof.mk pA pBC.1 pBC.2) pAs (pBs.zip pCs) = proofs at hok
      have hlength : i < proofs.length := by
        rw [← hproofs, List.length_zipWith, List.length_zip]
        omega
      have hget : (agentAddrs.zip (proofs.zip thresholds))[i]?
          = some (a, proofs[i], threshold) := by
        rw [List.getElem?_zip_eq_some]
        refine ⟨ha, List.getElem?_zip_eq_some.mpr ⟨?_, ht⟩⟩
        exact List.getElem?_eq_getElem hlength
      have heq := Except.ok.inj hok
      rw [show results = (Reputation.verifyEach env st
        (agentAddrs.zip (proofs.zip thresholds))).2 by rw [heq]] at hresult
      exact hgroth.earned hcommits hscore hthreshold
        (verifyEach_true hget hresult)

end Contract

namespace Concrete

/-- A hash that keeps the score and drops the secret. -/
def scoreOnly (score _secret : Signal) : Signal := score

/-- What the circuit takes with that hash. -/
def circuitEnv : Env where
  verifyProof _ _ threshold commitment :=
    decide (threshold < Bn254.order ∧ commitment < Bn254.order
      ∧ (threshold + 255 + (Bn254.order - commitment)) % Bn254.order < 256)

/-- One agent is registered, with the commitment to a score of 40. -/
def committed : Reputation where
  owner := 1
  verifier := 2
  decayPeriod := 10
  paused := false
  agents := update (fun _ => Agent.empty) 7 ⟨40, .unverified, 0, true⟩
  commitmentUsed := update (fun _ => false) 40 true
  number := 5
  accepted := fun _ => []

def zeroProof : Proof := ⟨(0, 0), ((0, 0), (0, 0)), (0, 0)⟩

theorem circuitEnv_groth16 (a : Address) : Groth16 circuitEnv scoreOnly a where
  sound := by
    intro proof threshold commitment hverified
    obtain ⟨hthreshold, hcommitment, hreached⟩ := of_decide_eq_true hverified
    exact ⟨hthreshold, hcommitment, commitment, 0,
      (gte_iff hcommitment).mpr hreached, rfl⟩
  complete := by
    rintro threshold commitment score secret hthreshold hcommitment ⟨hgte, rfl⟩
    refine ⟨zeroProof, decide_eq_true ⟨hthreshold, hcommitment, ?_⟩⟩
    exact (gte_iff hcommitment).mp hgte

theorem committed_commits :
    CommitsTo scoreOnly (committed.agents 7).commitment 40 where
  opens := ⟨0, by decide⟩
  only := by
    intro other secret hother
    rw [← ZMod.natCast_zmod_val other]
    exact congrArg Nat.cast hother

end Concrete

theorem tier_earned_bronze :
    Earned Concrete.circuitEnv Concrete.committed 7 40 25
      ∧ ∃ st', Concrete.committed.verifyTier Concrete.circuitEnv 7
          Concrete.zeroProof 25 = .ok st' :=
  ⟨(tier_earned_iff (Concrete.circuitEnv_groth16 _) rfl rfl
    Concrete.committed_commits (by decide)).mpr (by decide),
    check_ok (p := fun _ => true) (by decide) |>.imp fun _ h => h.1⟩

/-- With the greatest number of the field for a threshold, a score of 40
gets the highest tier. -/
theorem platinum_unearned :
    Groth16 Concrete.circuitEnv Concrete.scoreOnly Concrete.committed.verifier
      ∧ CommitsTo Concrete.scoreOnly (Concrete.committed.agents 7).commitment 40
      ∧ ∃ st', Concrete.committed.verifyTier Concrete.circuitEnv 7
          Concrete.zeroProof (Bn254.order - 1) = .ok st'
        ∧ (st'.agents 7).verifiedTier = .platinum
        ∧ thresholdToTier 40 = .bronze := by
  obtain ⟨st', hok, htier⟩ := check_ok (show Exec.check
      (fun st' : Reputation => decide ((st'.agents 7).verifiedTier = .platinum))
      (Concrete.committed.verifyTier Concrete.circuitEnv 7 Concrete.zeroProof
        (Bn254.order - 1)) = true
    by decide)
  exact ⟨Concrete.circuitEnv_groth16 _, Concrete.committed_commits, st', hok,
    of_decide_eq_true htier, by decide⟩

end KamiyoProtocol.ZkReputation
