/-
`field.c` and `verify.c` of `dark-forest-core`: the wire format of a proof,
its parsing, and the verification of one proof.

A field element is the number that its four limbs spell, in Montgomery form
where the code has it so. The pairing checks and the Poseidon hash are
parameters.
-/
import Mathlib.Data.Vector.Basic

namespace KamiyoProtocol.DarkForest

-- ==== field

abbrev FieldT := Nat

def fieldModulus : Nat :=
  0x30644E72E131A029B85045B68181585D97816A916871CA8D3C208C16D87CFD47

/-- `2^256`, reduced. -/
def fieldR : Nat :=
  0x0E0A77C19A07DF2F666EA36F7879462C0A78EB28F5C70B3DD35D438DC58F0D9D

/-- `2^512`, reduced. -/
def fieldR2 : Nat :=
  0x06D89F71CAB8351F47AB1EFF0A417FF6B5E71911D44501FBF32CFC5B538AFA89

def fieldInv : Nat := 0x87D20782E4866389

/-- Cancels the lowest limb, and drops it. -/
def montStep (t : Nat) : Nat :=
  (t + t * fieldInv % 2 ^ 64 * fieldModulus) / 2 ^ 64

def montReduce (t : Nat) : FieldT :=
  let r := montStep (montStep (montStep (montStep t))) % 2 ^ 256
  if fieldModulus ≤ r then r - fieldModulus else r

def fieldAdd (a b : FieldT) : FieldT :=
  if fieldModulus ≤ a + b then (a + b - fieldModulus) % 2 ^ 256 else a + b

def fieldMul (a b : FieldT) : FieldT := montReduce (a * b)

def fieldSqr (a : FieldT) : FieldT := montReduce (a * a)

def fieldToMont (a : FieldT) : FieldT := fieldMul a fieldR2

def fieldFromMont (a : FieldT) : FieldT := montReduce a

/-- `field_from_bytes`: most significant byte first. -/
def fieldFromBytes (bytes : List UInt8) : FieldT :=
  (bytes.take 32).foldl (fun n b => n * 256 + b.toNat) 0

def fieldToBytes (a : FieldT) : List UInt8 :=
  (List.range 32).map fun i => UInt8.ofNat (a / 256 ^ (31 - i))

-- ==== points

/-- `point_t`. -/
structure Point where
  x : FieldT
  y : FieldT
  z : FieldT
  deriving Inhabited

def curveBMont : FieldT :=
  0x2a1f6744ce179d8e334bea4e696bd2841f6ac17ae15521b97a17caa950ad28d7

def pointIsInfinity (p : Point) : Bool := p.z == 0

/-- `point_is_on_curve`: `Y²Z = X³ + 3Z³`. -/
def pointIsOnCurve (p : Point) : Bool :=
  pointIsInfinity p ||
    fieldMul (fieldSqr p.y) p.z
      == fieldAdd (fieldMul (fieldSqr p.x) p.x)
        (fieldMul curveBMont (fieldMul (fieldSqr p.z) p.z))

/-- The affine point of two coordinates of 32 bytes. -/
def pointFromBytes (bytes : List UInt8) : Point where
  x := fieldToMont (fieldFromBytes bytes)
  y := fieldToMont (fieldFromBytes (bytes.drop 32))
  z := fieldR

/-- `proof_g2_t`, and `g2_t`. -/
structure G2 where
  xRe : FieldT
  xIm : FieldT
  yRe : FieldT
  yIm : FieldT
  isInfinity : Bool
  deriving Inhabited

/-- `g1_t`. -/
structure G1 where
  x : FieldT
  y : FieldT
  isInfinity : Bool
  deriving Inhabited

/-- `groth16_proof_t`. -/
structure Groth16Proof where
  a : G1
  b : G2
  c : G1

-- ==== proofs

abbrev Bytes32 := Vector UInt8 32

/-- `proof_wire_t`. -/
structure ProofWire where
  type : UInt8
  version : UInt8
  flags : UInt16
  timestamp : UInt32
  agentPk : Bytes32
  commitment : Bytes32
  proofData : Vector UInt8 256

/-- `proof_t`. -/
structure Proof where
  type : UInt8
  timestamp : UInt32
  threshold : UInt8
  agentPk : FieldT
  commitment : FieldT
  proofPointA : Point
  proofPointB : G2
  proofPointC : Point
  deriving Inhabited

/-- The B point, from bytes 64 to 191. -/
def parsedB (data : List UInt8) : G2 :=
  let xRe := fieldToMont (fieldFromBytes (data.drop 64))
  let xIm := fieldToMont (fieldFromBytes (data.drop 96))
  let yRe := fieldToMont (fieldFromBytes (data.drop 128))
  let yIm := fieldToMont (fieldFromBytes (data.drop 160))
  ⟨xRe, xIm, yRe, yIm, xRe == 0 && xIm == 0 && yRe == 0 && yIm == 0⟩

/-- What `proof_parse` writes. -/
def parsed (wire : ProofWire) : Proof where
  type := wire.type
  timestamp := wire.timestamp
  threshold := (wire.flags &&& 0xFF).toUInt8
  agentPk := fieldToMont (fieldFromBytes wire.agentPk.toList)
  commitment := fieldToMont (fieldFromBytes wire.commitment.toList)
  proofPointA := pointFromBytes wire.proofData.toList
  proofPointB := parsedB wire.proofData.toList
  proofPointC := pointFromBytes (wire.proofData.toList.drop 192)

/-- `proof_parse`: whether the proof is accepted, and what is in `out` then.
A wrong version leaves `out` as it was. -/
def proofParse (out : Proof) (wire : ProofWire) : Bool × Proof :=
  if wire.version ≠ 1 then (false, out)
  else
    let out := parsed wire
    if !pointIsInfinity out.proofPointA && !pointIsOnCurve out.proofPointA
    then (false, out)
    else if !pointIsInfinity out.proofPointC
        && !pointIsOnCurve out.proofPointC
    then (false, out)
    else (true, out)

-- ==== verification

/-- `verify_result_t`. -/
inductive VerifyResult
  | ok
  | invalidProof
  | belowThreshold
  | expired
  | malformed
  | blacklisted
  deriving DecidableEq

/-- The pairing checks with their keys, and the Poseidon hash. -/
structure PairingLayer where
  Vk : Type
  groth16Verify : Vk → Groth16Proof → List FieldT → Bool
  groth16VerifyBatch : Vk → List (Groth16Proof × List FieldT) → Bool
  poseidonHash : List FieldT → FieldT

/-- A batch is accepted only if each of its proofs would be. -/
def PairingLayer.BatchSound (layer : PairingLayer) : Prop :=
  ∀ vk proofs, layer.groth16VerifyBatch vk proofs = true →
    ∀ p ∈ proofs, layer.groth16Verify vk p.1 p.2 = true

/-- `verify_ctx_t`. -/
structure VerifyCtx (Vk : Type) where
  currentTime : UInt64
  maxProofAge : UInt32
  minThreshold : UInt8
  blacklistRoot : Bytes32
  vkAlpha : Option Point
  vkBeta : Option Point
  vkGamma : Option Point
  vkDelta : Option Point
  groth16Vk : Option Vk

def maxVkSize : Nat := 1024 * 1024

def verifyCtxCreate (Vk : Type) : VerifyCtx Vk where
  currentTime := 0
  maxProofAge := 3600
  minThreshold := 0
  blacklistRoot := Vector.replicate 32 0
  vkAlpha := none
  vkBeta := none
  vkGamma := none
  vkDelta := none
  groth16Vk := none

/-- `verify_ctx_load_vk`: the points are written before they are checked. -/
def verifyCtxLoadVk {Vk : Type} (ctx : VerifyCtx Vk)
    (vkData : List UInt8) : Bool × VerifyCtx Vk :=
  if vkData.length < 256 then (false, ctx)
  else if maxVkSize < vkData.length then (false, ctx)
  else
    let alpha := pointFromBytes vkData
    let beta := pointFromBytes (vkData.drop 64)
    let gamma := pointFromBytes (vkData.drop 128)
    let delta := pointFromBytes (vkData.drop 192)
    (pointIsOnCurve alpha && pointIsOnCurve beta && pointIsOnCurve gamma
      && pointIsOnCurve delta,
      { ctx with
        vkAlpha := some alpha
        vkBeta := some beta
        vkGamma := some gamma
        vkDelta := some delta })

section Single

variable (layer : PairingLayer) (pairingIsInitialized : Bool)
  (ctx : VerifyCtx layer.Vk)

/-- The sum is one of 32 bits, the comparison one of 64. -/
def isExpired (proof : Proof) : Bool :=
  decide (0 < ctx.currentTime)
    && decide ((proof.timestamp + ctx.maxProofAge).toUInt64 < ctx.currentTime)

/-- The public input that the pairing check is about. -/
def pubInput (proof : Proof) : FieldT :=
  layer.poseidonHash [proof.agentPk, proof.commitment,
    fieldToMont proof.threshold.toNat]

/-- The coordinates of a point at infinity are not read. -/
def toG1 (p : Point) : G1 :=
  if pointIsInfinity p then ⟨0, 0, true⟩ else ⟨p.x, p.y, false⟩

def toGroth16 (proof : Proof) : Groth16Proof where
  a := toG1 proof.proofPointA
  b := proof.proofPointB
  c := toG1 proof.proofPointC

/-- The key, if pairings can be computed with it. -/
def availableVk : Option layer.Vk :=
  if pairingIsInitialized then ctx.groth16Vk else none

def verifyProofEx (proof : Proof) : VerifyResult :=
  if isExpired layer ctx proof then .expired
  else if proof.threshold < ctx.minThreshold then .belowThreshold
  else if pointIsInfinity proof.proofPointA then .invalidProof
  else if !pointIsOnCurve proof.proofPointA then .invalidProof
  else if pointIsInfinity proof.proofPointC then .invalidProof
  else if !pointIsOnCurve proof.proofPointC then .invalidProof
  else
    match availableVk layer pairingIsInitialized ctx with
    | none => .invalidProof
    | some vk =>
      if layer.groth16Verify vk (toGroth16 proof) [pubInput layer proof]
      then .ok else .invalidProof

def verifyProof (wire : ProofWire) : VerifyResult :=
  match proofParse default wire with
  | (false, _) => .malformed
  | (true, proof) => verifyProofEx layer pairingIsInitialized ctx proof

end Single

-- ==== parsing

/-- The wires that `proof_parse` accepts. -/
structure Parses (wire : ProofWire) : Prop where
  version : wire.version = 1
  onCurveA : pointIsOnCurve (parsed wire).proofPointA = true
  onCurveC : pointIsOnCurve (parsed wire).proofPointC = true

instance (wire : ProofWire) : Decidable (Parses wire) :=
  decidable_of_iff (wire.version = 1
      ∧ pointIsOnCurve (parsed wire).proofPointA = true
      ∧ pointIsOnCurve (parsed wire).proofPointC = true)
    ⟨fun h => ⟨h.1, h.2.1, h.2.2⟩, fun h => ⟨h.1, h.2, h.3⟩⟩

theorem pointFromBytes_finite (bytes : List UInt8) :
    pointIsInfinity (pointFromBytes bytes) = false := by
  simp only [pointIsInfinity, pointFromBytes]
  decide

@[simp] theorem parsed_a_finite (wire : ProofWire) :
    pointIsInfinity (parsed wire).proofPointA = false :=
  pointFromBytes_finite _

@[simp] theorem parsed_c_finite (wire : ProofWire) :
    pointIsInfinity (parsed wire).proofPointC = false :=
  pointFromBytes_finite _

theorem proofParse_parses {wire : ProofWire} (h : Parses wire)
    (out : Proof) : proofParse out wire = (true, parsed wire) := by
  unfold proofParse
  rw [if_neg (not_not.mpr h.version)]
  simp [h.onCurveA, h.onCurveC]

theorem proofParse_refused {wire : ProofWire} (h : ¬Parses wire)
    (out : Proof) : (proofParse out wire).1 = false := by
  unfold proofParse
  by_cases hversion : wire.version = 1
  · rw [if_neg (not_not.mpr hversion)]
    by_cases ha : pointIsOnCurve (parsed wire).proofPointA = true
    · have hc : pointIsOnCurve (parsed wire).proofPointC = false := by
        simpa using fun hc => h ⟨hversion, ha, hc⟩
      simp [ha, hc]
    · simp [ha]
  · rw [if_pos hversion]

variable {layer : PairingLayer} {pairingIsInitialized : Bool}
  {ctx : VerifyCtx layer.Vk} {wire : ProofWire}

theorem verifyProof_parses (h : Parses wire) :
    verifyProof layer pairingIsInitialized ctx wire
      = verifyProofEx layer pairingIsInitialized ctx (parsed wire) := by
  unfold verifyProof
  rw [proofParse_parses h]

theorem verifyProof_refused (h : ¬Parses wire) :
    verifyProof layer pairingIsInitialized ctx wire = .malformed := by
  have hparse := proofParse_refused h default
  unfold verifyProof
  cases hresult : proofParse default wire with
  | mk accepted proof =>
    rw [hresult] at hparse
    subst hparse
    rfl

theorem verifyProofEx_ne_malformed (proof : Proof) :
    verifyProofEx layer pairingIsInitialized ctx proof ≠ .malformed := by
  unfold verifyProofEx
  repeat' split
  all_goals simp

/-- What an accepted proof has passed. -/
structure Accepted (layer : PairingLayer) (pairingIsInitialized : Bool)
    (ctx : VerifyCtx layer.Vk) (proof : Proof) : Prop where
  fresh : isExpired layer ctx proof = false
  threshold : ctx.minThreshold ≤ proof.threshold
  verified : ∃ vk, availableVk layer pairingIsInitialized ctx = some vk
    ∧ layer.groth16Verify vk (toGroth16 proof) [pubInput layer proof] = true

theorem verifyProofEx_ok {proof : Proof}
    (h : verifyProofEx layer pairingIsInitialized ctx proof = .ok) :
    Accepted layer pairingIsInitialized ctx proof := by
  unfold verifyProofEx at h
  split at h
  · cases h
  split at h
  · cases h
  next hexpired hthreshold =>
  split at h
  · cases h
  split at h
  · cases h
  split at h
  · cases h
  split at h
  · cases h
  split at h
  · cases h
  next vk hvk =>
  split at h
  next hverified =>
    exact ⟨by simpa using hexpired, by simpa using hthreshold, vk, hvk,
      hverified⟩
  · cases h

theorem verifyProof_ok
    (h : verifyProof layer pairingIsInitialized ctx wire = .ok) :
    Parses wire ∧ Accepted layer pairingIsInitialized ctx (parsed wire) := by
  by_cases hparses : Parses wire
  · rw [verifyProof_parses hparses] at h
    exact ⟨hparses, verifyProofEx_ok h⟩
  · rw [verifyProof_refused hparses] at h
    cases h

end KamiyoProtocol.DarkForest
