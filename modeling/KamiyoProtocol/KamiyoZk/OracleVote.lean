/-
`oracle_vote.rs`, `commitment.rs` and `prover.rs` of `kamiyo-zk`: the circuit
of a committed vote, the commitment, and the prover.

The circuit is its constraint system. The hash of the inputs is computed
while the witness is assigned, and is no constraint of it, so the cells are
those of any table that meets the constraints. The proof system, Poseidon
and Blake2b are parameters.
-/
import KamiyoProtocol.Lib.Bytes
import KamiyoProtocol.Lib.Exec
import KamiyoProtocol.Lib.Plonkish
import Mathlib.Data.ZMod.Basic

namespace KamiyoProtocol.KamiyoZk

open Exec Bytes

-- ==== field

/-- The order of the base field of Pallas. -/
def pallasOrder : Nat :=
  28948022309329048855892746252171976963363056481941560715954676764349967630337

abbrev Base := ZMod pallasOrder

abbrev Bytes32 := Vector UInt8 32

def bytesToField (bytes : Bytes32) : Base :=
  if leNat bytes.toList < pallasOrder then (leNat bytes.toList : Base)
  else
    let low : Base := (leNat (bytes.toList.take 16) : Base)
    let high : Base := (leNat (bytes.toList.drop 16) : Base)
    low + high * ((2 ^ 64 : Nat) : Base) ^ 2

-- ==== hashes

/-- The hashes from outside. -/
structure Hashes where
  /-- Poseidon of two elements. -/
  hashTwo : Base → Base → Base
  blake2b512 : List UInt8 → Vector UInt8 64

/-- `kamiyo:vote`. -/
def voteDomain : List UInt8 :=
  [107, 97, 109, 105, 121, 111, 58, 118, 111, 116, 101]

def domainSeparator : Base := (leNat (voteDomain.take 31) : Base)

variable (hashes : Hashes)

def hashFour (a b c d : Base) : Base :=
  hashes.hashTwo (hashes.hashTwo a b) (hashes.hashTwo c d)

def voteCommitmentWithDomain (score blinding escrowId oraclePk : Base) :
    Base :=
  hashes.hashTwo domainSeparator
    (hashFour hashes score blinding escrowId oraclePk)

-- ==== commitments

/-- What an oracle publishes of its vote. -/
structure VoteCommitment where
  hash : Bytes32
  escrowId : Bytes32
  oracle : Bytes32
  committedAt : Int

/-- `compute_hash`: the first half of the digest. -/
def computeHash (score : UInt8) (blinding escrowId oracle : Bytes32) :
    Bytes32 :=
  let result := hashes.blake2b512
    (score :: blinding.toList ++ escrowId.toList ++ oracle.toList)
  Vector.ofFn fun i : Fin 32 => result[i]

def VoteCommitment.new (score : UInt8)
    (blinding escrowId oracle : Bytes32) : VoteCommitment where
  hash := computeHash hashes score blinding escrowId oracle
  escrowId := escrowId
  oracle := oracle
  committedAt := 0

-- ==== circuit

inductive Column
  | score
  | blinding
  | escrowId
  | oraclePk
  | commitment
  | sRange
  | sCommit
  deriving DecidableEq

def maxScore : Nat := 100

/-- The private inputs with the two commitments, and the range check. -/
def regions : List (Plonkish.Region Column) :=
  [⟨[.score, .blinding, .escrowId, .oraclePk, .sCommit, .commitment], 2⟩,
    ⟨[.sRange, .score], 1⟩]

/-- The row of the private inputs. -/
def inputsRow : Nat := (Plonkish.starts (fun _ => 0) regions)[0]!

/-- The row of the score that is range checked. -/
def rangeRow : Nat := (Plonkish.starts (fun _ => 0) regions)[1]!

abbrev Advice := Plonkish.Table Column Base

/-- The scores in the lookup table. -/
def ScoreTable (x : Base) : Prop := ∃ i : Nat, i ≤ maxScore ∧ x = (i : Base)

/-- The constraints of `OracleVoteCircuit`: the lookup, the gate, and the
copy of the commitment to the instance, which is padded with zeros. -/
structure Satisfied (advice : Advice) (inputs : List Base) : Prop where
  range : ∀ row, ScoreTable
    (Plonkish.selector [rangeRow] row * advice .score row)
  commitment : ∀ row, Plonkish.selector [inputsRow] row
    * (advice .commitment row - advice .commitment (row + 1)) = 0
  exposed : advice .commitment inputsRow = inputs.getD 0 0

/-- What `synthesize` assigns. -/
def synthesize (score blinding escrowId oraclePk commitment : Base) : Advice
  | .score, row =>
    if row = inputsRow ∨ row = rangeRow then score else 0
  | .blinding, row => if row = inputsRow then blinding else 0
  | .escrowId, row => if row = inputsRow then escrowId else 0
  | .oraclePk, row => if row = inputsRow then oraclePk else 0
  | .commitment, row =>
    if row = inputsRow then
      voteCommitmentWithDomain hashes score blinding escrowId oraclePk
    else if row = inputsRow + 1 then commitment else 0
  | _, _ => 0

-- ==== prover

structure Halo2Proof where
  bytes : List UInt8
  publicInputs : List Base

/-- The proof system, with its keys for the circuit. -/
structure Halo2 where
  createProof : Advice → List Base → (rng : Nat) → List UInt8
  verifyProof : List UInt8 → List Base → Bool

/-- Whoever knows a satisfying table for a public input can prove it. The
instance column holds one element, and `verify_proof` refuses more. -/
def Halo2.Complete (halo2 : Halo2) : Prop :=
  ∀ (advice : Advice) (x : Base) (rng : Nat), Satisfied advice [x] →
    halo2.verifyProof (halo2.createProof advice [x] rng) [x] = true

inductive ZkError
  | invalidScore (score : UInt8)
  | invalidProof (reason : String)

def validateBlinding (blinding : Bytes32) : Except ZkError Unit :=
  require (blinding.toList.all (· == 0) = false)
    (.invalidProof "Blinding factor cannot be all zeros")

def commit (score : UInt8) (blinding escrowId oraclePk : Bytes32) :
    Except ZkError VoteCommitment := do
  validateBlinding blinding
  require (score.toNat ≤ maxScore) (.invalidScore score)
  return VoteCommitment.new hashes score blinding escrowId oraclePk

variable (halo2 : Halo2)

def prove (rng : Nat) (score : UInt8) (blinding : Bytes32)
    (commitment : VoteCommitment) : Except ZkError Halo2Proof := do
  validateBlinding blinding
  require (score.toNat ≤ maxScore) (.invalidScore score)
  let score : Base := (score.toNat : Base)
  let blinding := bytesToField blinding
  let escrowId := bytesToField commitment.escrowId
  let oraclePk := bytesToField commitment.oracle
  let commitmentHash :=
    voteCommitmentWithDomain hashes score blinding escrowId oraclePk
  let advice :=
    synthesize hashes score blinding escrowId oraclePk commitmentHash
  let publicInputs := [commitmentHash]
  return ⟨halo2.createProof advice publicInputs rng, publicInputs⟩

/-- The commitment is converted and not compared. -/
def verify (proof : Halo2Proof) (commitment : VoteCommitment) :
    Except ZkError Bool :=
  if proof.publicInputs.isEmpty then
    .error (.invalidProof "No public inputs in proof")
  else
    let _expectedCommitmentField := bytesToField commitment.hash
    .ok (halo2.verifyProof proof.bytes proof.publicInputs)

end KamiyoProtocol.KamiyoZk
