/-
What an accepted vote proof says of the commitment.

The score that is range checked is a cell of its own region, and the cells
of the private inputs are in no constraint. So the circuit has a satisfying
table for every public input, and `verify` compares that input with nothing:
what it accepts for one commitment it accepts for every other.

So no commitment is bound (`never_bound`). The hashes stay parameters; that
Blake2b has no collisions is asked of the one commitment at hand, as a hash
that is injective on all votes does not exist.
-/
import KamiyoProtocol.KamiyoZk.OracleVote

namespace KamiyoProtocol.KamiyoZk

open Exec Bytes

variable {hashes : Hashes} {halo2 : Halo2} {commitment : VoteCommitment}
  {inputs : List Base}

-- ==== circuit

theorem scoreTable_zero : ScoreTable 0 := ⟨0, Nat.zero_le _, by simp⟩

theorem satisfied_iff {advice : Advice} : Satisfied advice inputs
    ↔ ScoreTable (advice .score rangeRow)
      ∧ advice .commitment inputsRow = advice .commitment (inputsRow + 1)
      ∧ advice .commitment inputsRow = inputs.getD 0 0 := by
  have hrange := Plonkish.selector_lookup [rangeRow] (advice .score)
    scoreTable_zero
  have hgate := Plonkish.selector_mul [inputsRow] fun row =>
    advice .commitment row - advice .commitment (row + 1)
  simp only [List.forall_mem_singleton] at hrange hgate
  constructor
  · intro h
    exact ⟨hrange.mp h.range, sub_eq_zero.mp (hgate.mp h.commitment), h.exposed⟩
  · rintro ⟨hscore, hcommitment, hexposed⟩
    exact ⟨hrange.mpr hscore, hgate.mpr (sub_eq_zero.mpr hcommitment), hexposed⟩

/-- The table that has the public input for both commitments, and zeros. -/
def freeTable (inputs : List Base) : Advice
  | .commitment, _ => inputs.getD 0 0
  | _, _ => 0

theorem freeTable_satisfied (inputs : List Base) :
    Satisfied (freeTable inputs) inputs :=
  satisfied_iff.mpr ⟨scoreTable_zero, rfl, rfl⟩

-- ==== verify

theorem verify_true {proof : Halo2Proof} :
    verify halo2 proof commitment = .ok true
      ↔ proof.publicInputs ≠ []
        ∧ halo2.verifyProof proof.bytes proof.publicInputs = true := by
  unfold verify
  cases hinputs : proof.publicInputs with
  | nil => simp
  | cons x rest => simp

/-- The commitment's hash is made of the score and the blinding. -/
def Opens (hashes : Hashes) (commitment : VoteCommitment) (score : UInt8)
    (blinding : Bytes32) : Prop :=
  score.toNat ≤ maxScore ∧ commitment.hash = computeHash hashes score
    blinding commitment.escrowId commitment.oracle

/-- A score and a blinding of which both the commitment's hash and the
public input are made. -/
def Binds (hashes : Hashes) (inputs : List Base)
    (commitment : VoteCommitment) : Prop :=
  ∃ score blinding, Opens hashes commitment score blinding
    ∧ inputs[0]? = some (voteCommitmentWithDomain hashes
      (score.toNat : Base) (bytesToField blinding)
      (bytesToField commitment.escrowId) (bytesToField commitment.oracle))

/-- What `synthesize` assigns satisfies the circuit, if both commitments are
the hash of the inputs. -/
theorem synthesize_satisfied {score blinding escrowId oraclePk : Base}
    (hscore : ScoreTable score) {x : Base}
    (hx : x = voteCommitmentWithDomain hashes score blinding escrowId
      oraclePk) :
    Satisfied (synthesize hashes score blinding escrowId oraclePk x) [x] := by
  have hinputs : synthesize hashes score blinding escrowId oraclePk x
      .commitment inputsRow = x := by
    simp [synthesize, hx]
  have hexpected : synthesize hashes score blinding escrowId oraclePk x
      .commitment (inputsRow + 1) = x := by
    simp [synthesize]
  have hrange : synthesize hashes score blinding escrowId oraclePk x
      .score rangeRow = score := by
    simp [synthesize]
  refine satisfied_iff.mpr ⟨?_, ?_, ?_⟩
  · rw [hrange]
    exact hscore
  · rw [hinputs, hexpected]
  · rw [hinputs]
    rfl

/-- What is proved for one commitment verifies for every other. -/
theorem prove_verifies (h : halo2.Complete) {rng : Nat} {score : UInt8}
    {blinding : Bytes32} {other : VoteCommitment} {proof : Halo2Proof}
    (hprove : prove hashes halo2 rng score blinding other = .ok proof) :
    verify halo2 proof commitment = .ok true := by
  obtain ⟨_, -, _, hscore, hprove⟩ := bind_ok₂.mp hprove
  have hscore := require_ok.mp hscore
  have hproof := Except.ok.inj hprove
  rw [← hproof]
  refine verify_true.mpr ⟨List.cons_ne_nil _ _, h _ _ _ ?_⟩
  exact synthesize_satisfied ⟨score.toNat, hscore, rfl⟩ rfl

/-- Every field element can be proved, with no opening known. -/
theorem free_verifies (h : halo2.Complete) (x : Base) :
    verify halo2 ⟨halo2.createProof (freeTable [x]) [x] 0, [x]⟩ commitment
      = .ok true :=
  verify_true.mpr
    ⟨List.cons_ne_nil _ _, h _ _ _ (freeTable_satisfied [x])⟩

/-- A commitment opened in one way leaves a public input that it does not
bind. -/
theorem exists_unbound (hopens : ∀ s b s' b', Opens hashes commitment s b →
      Opens hashes commitment s' b' → s = s' ∧ b = b') :
    ∃ x, ¬ Binds hashes [x] commitment := by
  by_cases hone : Binds hashes [1] commitment
  · refine ⟨0, ?_⟩
    intro hzero
    obtain ⟨s, b, hs, hone⟩ := hone
    obtain ⟨s', b', hs', hzero⟩ := hzero
    obtain ⟨rfl, rfl⟩ := hopens s b s' b' hs hs'
    have heq : (1 : Base) = 0 :=
      (Option.some.inj hone).trans (Option.some.inj hzero).symm
    exact absurd heq (by decide)
  · exact ⟨1, hone⟩

/-- A commitment other than a given one, with its proof. -/
theorem exists_other (commitment : VoteCommitment) :
    ∃ score blinding escrowId oraclePk other proof,
      commit hashes score blinding escrowId oraclePk = .ok other
        ∧ other ≠ commitment
        ∧ prove hashes halo2 0 score blinding other = .ok proof := by
  have horacle : ∃ oraclePk : Bytes32, oraclePk ≠ commitment.oracle := by
    by_cases hzero : Vector.replicate 32 0 = commitment.oracle
    · exact ⟨Vector.replicate 32 1, by rw [← hzero]; decide⟩
    · exact ⟨_, hzero⟩
  obtain ⟨oraclePk, hne⟩ := horacle
  refine ⟨0, Vector.replicate 32 1, Vector.replicate 32 0, oraclePk, _, _,
    rfl, ?_, rfl⟩
  intro hsame
  exact hne (congrArg VoteCommitment.oracle hsame)

/-- No commitment is bound by the proofs accepted for it: where it opens in
one way only, a proof of another field element is accepted, and a proof
made for another commitment always is. -/
theorem never_bound (h : halo2.Complete) (commitment : VoteCommitment) :
    ((∀ s b s' b', Opens hashes commitment s b →
        Opens hashes commitment s' b' → s = s' ∧ b = b') →
      ∃ bytes x, verify halo2 ⟨bytes, [x]⟩ commitment = .ok true
        ∧ ¬ Binds hashes [x] commitment)
    ∧ ∃ score blinding escrowId oraclePk other proof,
      commit hashes score blinding escrowId oraclePk = .ok other
        ∧ other ≠ commitment
        ∧ prove hashes halo2 0 score blinding other = .ok proof
        ∧ verify halo2 proof commitment = .ok true := by
  constructor
  · intro hopens
    obtain ⟨x, hunbound⟩ := exists_unbound hopens
    exact ⟨_, x, free_verifies h x, hunbound⟩
  · obtain ⟨score, blinding, escrowId, oraclePk, other, proof, hcommit, hne,
      hprove⟩ := @exists_other hashes halo2 commitment
    exact ⟨score, blinding, escrowId, oraclePk, other, proof, hcommit, hne,
      hprove, prove_verifies h hprove⟩

namespace Concrete

/-- Poseidon adds; Blake2b keeps the blinding of a score of 75, and gives
zeros for any other. -/
def adding : Hashes where
  hashTwo a b := a + b
  blake2b512 data := Vector.ofFn fun i : Fin 64 =>
    if data.head? = some 75 then (data.drop 1)[i.1]?.getD 0 else 0

/-- A proof system that takes whatever can be satisfied. -/
def takesAll : Halo2 where
  createProof _ _ _ := []
  verifyProof _ _ := true

theorem takesAll_complete : takesAll.Complete := fun _ _ _ _ => rfl

def bytes32 (low high : UInt8) : Bytes32 :=
  (Vector.replicate 32 0).setIfInBounds 0 low |>.setIfInBounds 1 high

theorem adding_kept (blinding escrowId oracle : Bytes32) :
    computeHash adding 75 blinding escrowId oracle = blinding := by
  apply Vector.ext
  intro i hi
  have hdata : ((75 : UInt8) :: blinding.toList ++ escrowId.toList
      ++ oracle.toList).drop 1
      = blinding.toList ++ (escrowId.toList ++ oracle.toList) := by
    simp
  simp only [computeHash, adding, Vector.getElem_ofFn, hdata]
  simp [List.getElem?_append_left, hi]

theorem adding_zero {score : UInt8} (hne : score ≠ 75)
    (blinding escrowId oracle : Bytes32) :
    computeHash adding score blinding escrowId oracle
      = Vector.replicate 32 0 := by
  apply Vector.ext
  intro i hi
  simp [computeHash, adding, hne]

/-- A commitment to a score of 75. -/
def vote : VoteCommitment :=
  VoteCommitment.new adding 75 (bytes32 1 0) (bytes32 2 0) (bytes32 3 0)

theorem vote_opens {score : UInt8} {blinding : Bytes32}
    (h : Opens adding vote score blinding) :
    score = 75 ∧ blinding = bytes32 1 0 := by
  have hhash : bytes32 1 0 = computeHash adding score blinding
      (bytes32 2 0) (bytes32 3 0) := (adding_kept _ _ _).symm.trans h.2
  by_cases hscore : score = 75
  · subst hscore
    exact ⟨rfl, (adding_kept _ _ _).symm.trans hhash.symm⟩
  · rw [adding_zero hscore] at hhash
    exact absurd hhash (by decide)

/-- The public input of another vote, on the same escrow. -/
def otherInput : Base :=
  voteCommitmentWithDomain adding 75 (bytesToField (bytes32 1 1))
    (bytesToField (bytes32 2 0)) (bytesToField (bytes32 3 0))

end Concrete

theorem never_bound_vote :
    (∃ bytes x, verify Concrete.takesAll ⟨bytes, [x]⟩ Concrete.vote = .ok true
        ∧ ¬ Binds Concrete.adding [x] Concrete.vote)
      ∧ ∃ score blinding escrowId oraclePk other proof,
        commit Concrete.adding score blinding escrowId oraclePk = .ok other
          ∧ other ≠ Concrete.vote
          ∧ prove Concrete.adding Concrete.takesAll 0 score blinding other
            = .ok proof
          ∧ verify Concrete.takesAll proof Concrete.vote = .ok true := by
  obtain ⟨hfree, hother⟩ := @never_bound Concrete.adding _
    Concrete.takesAll_complete Concrete.vote
  refine ⟨hfree ?_, hother⟩
  intro s b s' b' h h'
  obtain ⟨rfl, rfl⟩ := Concrete.vote_opens h
  obtain ⟨rfl, rfl⟩ := Concrete.vote_opens h'
  exact ⟨rfl, rfl⟩

/-- A proof made with another blinding verifies against the commitment. -/
theorem other_vote_verifies :
    Concrete.takesAll.Complete
      ∧ commit Concrete.adding 75 (Concrete.bytes32 1 0)
        (Concrete.bytes32 2 0) (Concrete.bytes32 3 0) = .ok Concrete.vote
      ∧ prove Concrete.adding Concrete.takesAll 0 75 (Concrete.bytes32 1 1)
        Concrete.vote = .ok ⟨[], [Concrete.otherInput]⟩
      ∧ verify Concrete.takesAll ⟨[], [Concrete.otherInput]⟩ Concrete.vote
        = .ok true
      ∧ ¬ Binds Concrete.adding [Concrete.otherInput] Concrete.vote := by
  refine ⟨Concrete.takesAll_complete, rfl, rfl, rfl, ?_⟩
  rintro ⟨score, blinding, hopens, hinput⟩
  obtain ⟨rfl, rfl⟩ := Concrete.vote_opens hopens
  have hsum := Option.some.inj hinput
  change domainSeparator + (((75 : Base) + bytesToField (Concrete.bytes32 1 1))
    + (_ + _)) = domainSeparator + (((75 : Base)
      + bytesToField (Concrete.bytes32 1 0)) + (_ + _)) at hsum
  have hsum := add_left_cancel (add_right_cancel (add_left_cancel hsum))
  have hother : bytesToField (Concrete.bytes32 1 1) = 257 := by decide
  have hown : bytesToField (Concrete.bytes32 1 0) = 1 := by decide
  rw [hother, hown] at hsum
  exact absurd hsum (by decide)

end KamiyoProtocol.KamiyoZk
