/-
`pairing.c` of `dark-forest-core`: keys, and the pairing check of one proof,
over the curve library.

Every operation on a point goes through the library's byte format and back.
The library is a parameter; what it fails to read becomes the point at
infinity.
-/
import KamiyoProtocol.DarkForest.Verify
import KamiyoProtocol.Lib.Bytes

namespace KamiyoProtocol.DarkForest

open Bytes

/-- What is used of `mcl`. -/
structure Mcl where
  Pt1 : Type
  Pt2 : Type
  Gt : Type
  g1Deserialize : List UInt8 → Option Pt1
  g1Serialize : Pt1 → List UInt8
  g1Clear : Pt1
  g1IsZero : Pt1 → Bool
  g1IsValid : Pt1 → Bool
  g1IsValidOrder : Pt1 → Bool
  g1Add : Pt1 → Pt1 → Pt1
  g1Neg : Pt1 → Pt1
  /-- The scalar is read from its limbs. -/
  g1Mul : Pt1 → Nat → Pt1
  g2Deserialize : List UInt8 → Option Pt2
  g2Serialize : Pt2 → List UInt8
  g2Clear : Pt2
  g2IsZero : Pt2 → Bool
  g2IsValid : Pt2 → Bool
  g2IsValidOrder : Pt2 → Bool
  pairing : Pt1 → Pt2 → Gt
  millerLoopVec : List (Pt1 × Pt2) → Gt
  finalExp : Gt → Gt
  gtSerialize : Gt → List UInt8
  gtDeserialize : List UInt8 → Gt
  gtIsEqual : Gt → Gt → Bool

variable (mcl : Mcl) (pairingInitialized : Bool)

-- ==== conversions

/-- `g1_to_mcl`: what is not a point on the curve becomes infinity. -/
def g1ToMcl (p : G1) : mcl.Pt1 :=
  if p.isInfinity then mcl.g1Clear
  else
    (mcl.g1Deserialize (fieldToBytes (fieldFromMont p.x)
      ++ fieldToBytes (fieldFromMont p.y))).getD mcl.g1Clear

def g1FromMcl (p : mcl.Pt1) : G1 :=
  if mcl.g1IsZero p then ⟨0, 0, true⟩
  else
    let buf := mcl.g1Serialize p
    if buf.length = 0 then ⟨0, 0, true⟩
    else
      ⟨fieldToMont (fieldFromBytes buf),
        fieldToMont (fieldFromBytes (buf.drop 32)), false⟩

/-- `g2_to_mcl`: the imaginary parts go first. -/
def g2ToMcl (p : G2) : mcl.Pt2 :=
  if p.isInfinity then mcl.g2Clear
  else
    (mcl.g2Deserialize (fieldToBytes (fieldFromMont p.xIm)
      ++ fieldToBytes (fieldFromMont p.xRe)
      ++ fieldToBytes (fieldFromMont p.yIm)
      ++ fieldToBytes (fieldFromMont p.yRe))).getD mcl.g2Clear

def g2FromMcl (p : mcl.Pt2) : G2 :=
  if mcl.g2IsZero p then ⟨0, 0, 0, 0, true⟩
  else
    let buf := mcl.g2Serialize p
    if buf.length = 0 then ⟨0, 0, 0, 0, true⟩
    else
      let xIm := fieldToMont (fieldFromBytes buf)
      let xRe := fieldToMont (fieldFromBytes (buf.drop 32))
      let yIm := fieldToMont (fieldFromBytes (buf.drop 64))
      let yRe := fieldToMont (fieldFromBytes (buf.drop 96))
      ⟨xRe, xIm, yRe, yIm, false⟩

def g1FromBytes (data : List UInt8) : Option G1 :=
  (mcl.g1Deserialize data).map (g1FromMcl mcl)

def g2FromBytes (data : List UInt8) : Option G2 :=
  (mcl.g2Deserialize data).map (g2FromMcl mcl)

-- ==== operations

def g1IsOnCurve (p : G1) : Bool :=
  p.isInfinity || mcl.g1IsValid (g1ToMcl mcl p)

def g1IsInSubgroup (p : G1) : Bool :=
  p.isInfinity || mcl.g1IsValidOrder (g1ToMcl mcl p)

def g2IsOnCurve (p : G2) : Bool :=
  p.isInfinity || mcl.g2IsValid (g2ToMcl mcl p)

def g2IsInSubgroup (p : G2) : Bool :=
  p.isInfinity || mcl.g2IsValidOrder (g2ToMcl mcl p)

def g1Add (a b : G1) : G1 :=
  g1FromMcl mcl (mcl.g1Add (g1ToMcl mcl a) (g1ToMcl mcl b))

def g1ScalarMul (p : G1) (scalar : FieldT) : G1 :=
  g1FromMcl mcl (mcl.g1Mul (g1ToMcl mcl p) scalar)

def g1Neg (p : G1) : G1 := g1FromMcl mcl (mcl.g1Neg (g1ToMcl mcl p))

def pairingCompute (p : G1) (q : G2) : Option (List UInt8) :=
  if pairingInitialized then
    some (mcl.gtSerialize (mcl.pairing (g1ToMcl mcl p) (g2ToMcl mcl q)))
  else none

def pairingMulti (ps : List (G1 × G2)) : Option (List UInt8) :=
  if pairingInitialized ∧ ps ≠ [] then
    some (mcl.gtSerialize (mcl.finalExp (mcl.millerLoopVec
      (ps.map fun p => (g1ToMcl mcl p.1, g2ToMcl mcl p.2)))))
  else none

def gtEq (a b : List UInt8) : Bool :=
  mcl.gtIsEqual (mcl.gtDeserialize a) (mcl.gtDeserialize b)

-- ==== keys

/-- `groth16_vk_t`. -/
structure Groth16Vk where
  alpha : G1
  beta : G2
  gamma : G2
  delta : G2
  ic : List G1
  alphaBeta : List UInt8

/-- The points of the public inputs, 64 bytes each. -/
def loadIc : Nat → List UInt8 → Option (List G1)
  | 0, _ => some []
  | n + 1, data => do
      let p ← g1FromBytes mcl (data.take 64)
      let rest ← loadIc n (data.drop 64)
      return p :: rest

/-- `vk_load`. The length of the points is computed in 32 bits; without the
pairing, its value of the key is left as it is in memory. -/
def vkLoad (data : List UInt8) : Option Groth16Vk :=
  if data.length < 64 + 128 + 128 + 128 + 4 then none
  else do
    let alpha ← g1FromBytes mcl (data.take 64)
    let beta ← g2FromBytes mcl ((data.drop 64).take 128)
    let gamma ← g2FromBytes mcl ((data.drop 192).take 128)
    let delta ← g2FromBytes mcl ((data.drop 320).take 128)
    let icLen := leNat ((data.drop 448).take 4)
    if data.length < 452 + icLen * 64 % 2 ^ 32 then none
    else
      let ic ← loadIc mcl icLen (data.drop 452)
      return ⟨alpha, beta, gamma, delta, ic,
        (pairingCompute mcl pairingInitialized alpha beta).getD []⟩

-- ==== verification

/-- `IC[0] + Σ input[i] · IC[i+1]`. -/
def icAccumulate : G1 → List G1 → List FieldT → G1
  | acc, p :: ic, input :: inputs =>
    icAccumulate (g1Add mcl acc (g1ScalarMul mcl p input)) ic inputs
  | acc, _, _ => acc

/-- `groth16_verify`: `e(A,B) · e(-IC,γ) · e(-C,δ) = e(α,β)`. -/
def groth16Verify (vk : Groth16Vk) (proof : Groth16Proof)
    (publicInputs : List FieldT) : Bool :=
  if !pairingInitialized then false
  else if publicInputs.length + 1 ≠ vk.ic.length then false
  else if !g1IsOnCurve mcl proof.a || !g1IsInSubgroup mcl proof.a then false
  else if !g2IsOnCurve mcl proof.b || !g2IsInSubgroup mcl proof.b then false
  else if !g1IsOnCurve mcl proof.c || !g1IsInSubgroup mcl proof.c then false
  else
    match vk.ic with
    | [] => false
    | ic0 :: ic =>
      let icAcc := icAccumulate mcl ic0 ic publicInputs
      match pairingMulti mcl pairingInitialized
          [(proof.a, proof.b), (g1Neg mcl icAcc, vk.gamma),
            (g1Neg mcl proof.c, vk.delta)] with
      | none => false
      | some lhs => gtEq mcl lhs vk.alphaBeta

/-- The pairing checks over the library. Batches are verified one by one,
as they are where they are small. -/
def pairingLayer (poseidonHash : List FieldT → FieldT) : PairingLayer where
  Vk := Groth16Vk
  groth16Verify := groth16Verify mcl pairingInitialized
  groth16VerifyBatch vk proofs := pairingInitialized
    && proofs.all fun p => groth16Verify mcl pairingInitialized vk p.1 p.2
  poseidonHash := poseidonHash

theorem pairingLayer_batchSound (poseidonHash : List FieldT → FieldT) :
    (pairingLayer mcl pairingInitialized poseidonHash).BatchSound := by
  intro vk proofs h p hp
  have hall := (Bool.and_eq_true_iff.mp h).2
  exact List.all_eq_true.mp hall p hp

-- ==== an instance

namespace Concrete

/-- A point of G1 by its coordinates. -/
def enc1 (x y : Nat) : List UInt8 := fieldToBytes x ++ fieldToBytes y

def generator2 : List Nat :=
  [11559732032986387107991004021392285783925812861821192530917403151452391805634,
    10857046999023057135944570762232829481370756359578518086990519993285655852781,
    4082367875863433681332203403145435568316851327593401208105741076214120093531,
    8495653923123431417604973247489272438418190587263600148770280649306958101930]

/-- The generator of G2, imaginary parts first. -/
def encoded2 : List UInt8 := generator2.flatMap fieldToBytes

/-- The library as far as it knows points by their logarithms: infinity and
the generators, and the negation of that of G1. -/
def logarithms : Mcl where
  Pt1 := Int
  Pt2 := Int
  Gt := Int
  g1Deserialize data :=
    if data = enc1 1 2 then some 1
    else if data = enc1 1 (fieldModulus - 2) then some (-1)
    else if data = enc1 0 0 then some 0
    else none
  g1Serialize p :=
    if p = 1 then enc1 1 2
    else if p = -1 then enc1 1 (fieldModulus - 2)
    else []
  g1Clear := 0
  g1IsZero p := p == 0
  g1IsValid _ := true
  g1IsValidOrder _ := true
  g1Add p q := p + q
  g1Neg p := -p
  g1Mul p n := p * n
  g2Deserialize data := if data = encoded2 then some 1 else none
  g2Serialize p := if p = 1 then encoded2 else []
  g2Clear := 0
  g2IsZero p := p == 0
  g2IsValid _ := true
  g2IsValidOrder _ := true
  pairing p q := p * q
  millerLoopVec ps := (ps.map fun p => p.1 * p.2).sum
  finalExp e := e
  gtSerialize e := [if e < 0 then 1 else 0, UInt8.ofNat e.natAbs]
  gtDeserialize
    | [0, n] => n.toNat
    | [1, n] => -n.toNat
    | _ => 0
  gtIsEqual e f := e == f

/-- A key whose only input has no part in the equation. -/
def keyData : List UInt8 :=
  enc1 1 2 ++ encoded2 ++ encoded2 ++ encoded2 ++ le 4 2 ++ enc1 1 2 ++ enc1 0 0

/-- A proof for that key: `e(G,H) · e(-G,H) · e(G,H) = e(G,H)`. -/
def proofBytes : List UInt8 :=
  enc1 1 2
    ++ [generator2[1]!, generator2[0]!, generator2[3]!,
      generator2[2]!].flatMap fieldToBytes
    ++ enc1 1 (fieldModulus - 2)

theorem proofBytes_length : proofBytes.toArray.size = 256 := by decide +kernel

/-- The wire of the proof, with a threshold of 80. -/
def wire (version : UInt8) : ProofWire where
  type := 0
  version := version
  flags := 80
  timestamp := 1000
  agentPk := Vector.replicate 32 1
  commitment := Vector.replicate 32 2
  proofData := ⟨proofBytes.toArray, proofBytes_length⟩

/-- A hash that adds. -/
def adding (inputs : List FieldT) : FieldT := inputs.foldl fieldAdd 0

/-- The key as it is loaded. -/
def key : Option Groth16Vk := vkLoad logarithms true keyData

/-- A context that has the key. -/
def keyed : VerifyCtx Groth16Vk :=
  { verifyCtxCreate Groth16Vk with groth16Vk := key }

def logLayer : PairingLayer := pairingLayer logarithms true adding

end Concrete

end KamiyoProtocol.DarkForest
