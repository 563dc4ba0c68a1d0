/-
`agenc_zk.c` of `dark-forest-core`: reputation proofs against a commitment
and a threshold that the caller expects.

The threshold of the wire is read twice: as sixteen bits, high byte first,
where it is compared with what is asked for, and as the low byte of the flags
where it goes into the public input. What a batch stores of the expectations
is not looked at again.
-/
import KamiyoProtocol.DarkForest.Api
import KamiyoProtocol.DarkForest.Batch

namespace KamiyoProtocol.DarkForest

/-- `agenc_zk_result_t`. -/
inductive AgencZkResult
  | ok
  | errInvalidScore
  | errInvalidThreshold
  | errInvalidProof
  | errBelowThreshold
  | errCommitmentMismatch
  | errInvalidParam
  | errNotInitialized
  deriving DecidableEq

/-- Both switches over the results of `dark_forest`. -/
def fromDarkForest : DarkForestResult → AgencZkResult
  | .ok => .ok
  | .errInvalidProof => .errInvalidProof
  | .errBelowThreshold => .errBelowThreshold
  | _ => .errInvalidProof

/-- The threshold of the wire with its bytes exchanged. -/
def proofThreshold (proof : ProofWire) : UInt16 :=
  (proof.flags >>> 8) ||| (proof.flags <<< 8)

section Definitions

variable (layer : PairingLayer) (pairingIsInitialized : Bool)

/-- `agenc_zk_verify`, of pointers that are not null. -/
def agencZkVerify (ctx : VerifyCtx layer.Vk) (proof : ProofWire)
    (commitment : Bytes32) (threshold : UInt16) : AgencZkResult :=
  if threshold > 10000 then .errInvalidThreshold
  else if proof.commitment ≠ commitment then .errCommitmentMismatch
  else if proofThreshold proof < threshold then .errBelowThreshold
  else fromDarkForest
    (darkForestVerify layer pairingIsInitialized (some ctx) proof)

structure AgencZkBatch (Vk : Type) where
  batch : BatchCtx Vk
  commitments : Nat → Bytes32
  thresholds : Nat → UInt16
  count : Nat
  capacity : Nat

/-- A proof, and what is expected of it. -/
structure Entry where
  proof : ProofWire
  commitment : Bytes32
  threshold : UInt16

def agencZkBatchCreate {Vk : Type} (ctx : VerifyCtx Vk) (capacity : Nat)
    (proofs : Nat → Proof) (results : Nat → VerifyResult)
    (commitments : Nat → Bytes32) (thresholds : Nat → UInt16) :
    Option (AgencZkBatch Vk) :=
  if capacity = 0 then none
  else
    (batchCreate ctx capacity proofs results).map fun batch =>
      ⟨batch, commitments, thresholds, 0, capacity⟩

def agencZkBatchAdd {Vk : Type} (b : AgencZkBatch Vk) (e : Entry) :
    AgencZkResult × AgencZkBatch Vk :=
  if b.capacity ≤ b.count then (.errInvalidParam, b)
  else
    (.ok, {
      batch := (batchAdd b.batch e.proof).2
      commitments := store b.commitments b.count e.commitment
      thresholds := store b.thresholds b.count e.threshold
      count := b.count + 1
      capacity := b.capacity })

def agencZkBatchVerify (b : AgencZkBatch layer.Vk) :
    AgencZkBatch layer.Vk :=
  { b with batch := batchVerify layer pairingIsInitialized b.batch }

def agencZkBatchGetResults {Vk : Type} (b : AgencZkBatch Vk) :
    List AgencZkResult :=
  (batchGetResults b.batch).map fun r => fromDarkForest (convertResult r)

/-- What is called on a batch: entries are added, and it is verified. -/
inductive AgencZkCall
  | add (e : Entry)
  | verify

/-- A batch, and the entries that were added to it. -/
structure Expecting (Vk : Type) where
  b : AgencZkBatch Vk
  added : List Entry

def Expecting.call (s : Expecting layer.Vk) :
    AgencZkCall → Expecting layer.Vk
  | .add e =>
    match agencZkBatchAdd s.b e with
    | (.ok, b) => ⟨b, s.added ++ [e]⟩
    | (_, b) => ⟨b, s.added⟩
  | .verify => ⟨agencZkBatchVerify layer pairingIsInitialized s.b, s.added⟩

def Expecting.calls (s : Expecting layer.Vk) (calls : List AgencZkCall) :
    Expecting layer.Vk :=
  calls.foldl (Expecting.call layer pairingIsInitialized) s

/-- The public input of `t` is what the pairing check accepted the proof
for. -/
def BoundTo (ctx : VerifyCtx layer.Vk) (proof : ProofWire) (t : UInt8) :
    Prop :=
  t = (parsed proof).threshold
    ∧ ∃ vk, availableVk layer pairingIsInitialized ctx = some vk
      ∧ layer.groth16Verify vk (toGroth16 (parsed proof))
        [layer.poseidonHash [(parsed proof).agentPk,
          (parsed proof).commitment, fieldToMont t.toNat]] = true

end Definitions

/-- What an entry passes before its proof is looked at. -/
structure Screened (e : Entry) : Prop where
  threshold : e.threshold ≤ 10000
  commitment : e.proof.commitment = e.commitment
  proofThreshold : e.threshold ≤ proofThreshold e.proof

variable {layer : PairingLayer} {pairingIsInitialized : Bool}
  {ctx : VerifyCtx layer.Vk}

-- ==== single proofs

theorem fromDarkForest_ok (r : VerifyResult) :
    fromDarkForest (convertResult r) = .ok ↔ r = .ok := by
  cases r <;> simp [fromDarkForest, convertResult]

theorem agencZkVerify_ok (e : Entry) :
    agencZkVerify layer pairingIsInitialized ctx e.proof e.commitment
        e.threshold = .ok
      ↔ Screened e
        ∧ verifyProof layer pairingIsInitialized ctx e.proof = .ok := by
  unfold agencZkVerify
  split
  next hthreshold =>
    constructor
    · intro h
      cases h
    · rintro ⟨hscreened, -⟩
      exact absurd hthreshold (UInt16.not_lt.mpr hscreened.threshold)
  next hthreshold =>
  split
  next hcommitment =>
    constructor
    · intro h
      cases h
    · rintro ⟨hscreened, -⟩
      exact absurd hscreened.commitment hcommitment
  next hcommitment =>
  split
  next hproof =>
    constructor
    · intro h
      cases h
    · rintro ⟨hscreened, -⟩
      exact absurd hproof (UInt16.not_lt.mpr hscreened.proofThreshold)
  next hproof =>
    have hscreened : Screened e := ⟨UInt16.not_lt.mp hthreshold,
      not_not.mp hcommitment, UInt16.not_lt.mp hproof⟩
    rw [darkForestVerify, fromDarkForest_ok]
    exact ⟨fun h => ⟨hscreened, h⟩, fun h => h.2⟩

theorem parsed_threshold (proof : ProofWire) :
    (parsed proof).threshold.toNat = proof.flags.toNat % 256 := by
  have hmask : proof.flags.toNat % 256 &&& 255 = proof.flags.toNat % 256 :=
    (Nat.and_two_pow_sub_one_eq_mod _ 8).trans (Nat.mod_mod _ _)
  simpa [parsed] using hmask

/-- An accepted proof is bound to the low byte of its flags, and to nothing
else. -/
theorem boundTo_iff {proof : ProofWire}
    (h : verifyProof layer pairingIsInitialized ctx proof = .ok)
    (t : UInt8) : BoundTo layer pairingIsInitialized ctx proof t
      ↔ t = (parsed proof).threshold := by
  constructor
  · rintro ⟨ht, -⟩
    exact ht
  · intro ht
    subst ht
    exact ⟨rfl, (verifyProof_ok h).2.verified⟩

theorem sound_iff (e : Entry) :
    (agencZkVerify layer pairingIsInitialized ctx e.proof e.commitment
        e.threshold = .ok →
      ∃ t, BoundTo layer pairingIsInitialized ctx e.proof t
        ∧ e.threshold.toNat ≤ t.toNat)
      ↔ e.threshold.toNat ≤ e.proof.flags.toNat % 256 ∨ ¬Screened e
        ∨ verifyProof layer pairingIsInitialized ctx e.proof ≠ .ok := by
  rw [agencZkVerify_ok, ← parsed_threshold]
  constructor
  · intro h
    by_cases hscreened : Screened e
    · by_cases hverify :
          verifyProof layer pairingIsInitialized ctx e.proof = .ok
      · obtain ⟨t, ht, hle⟩ := h ⟨hscreened, hverify⟩
        rw [boundTo_iff hverify] at ht
        rw [ht] at hle
        exact Or.inl hle
      · exact Or.inr (Or.inr hverify)
    · exact Or.inr (Or.inl hscreened)
  · rintro hcond ⟨hscreened, hverify⟩
    rcases hcond with hle | hnot | hnot
    · exact ⟨_, (boundTo_iff hverify _).mpr rfl, hle⟩
    · exact absurd hscreened hnot
    · exact absurd hverify hnot

-- ==== batches

/-- The batch of `dark_forest` holds the proofs of the entries. -/
structure Expecting.Matched (ctx : VerifyCtx layer.Vk)
    (s : Expecting layer.Vk) : Prop where
  faithful : (Filled.mk s.b.batch (s.added.map (·.proof))).Faithful ctx
  count : s.b.count = s.b.batch.count
  capacity : s.b.capacity = s.b.batch.capacity
  small : s.b.capacity ≤ maxBatchSize

theorem batchAdd_room {Vk : Type} {batch : BatchCtx Vk}
    (h : batch.count < batch.capacity)
    (hsmall : batch.capacity ≤ maxBatchSize) (wire : ProofWire) :
    (batchAdd batch wire).1 = true := by
  unfold batchAdd
  rw [if_neg (by omega), if_neg (by omega)]
  cases proofParse (batch.proofs batch.count) wire with
  | mk accepted proof => cases accepted <;> rfl

theorem batchAdd_count {Vk : Type} {batch : BatchCtx Vk} {wire : ProofWire}
    (h : (batchAdd batch wire).1 = true) :
    (batchAdd batch wire).2.count = batch.count + 1
      ∧ (batchAdd batch wire).2.capacity = batch.capacity := by
  rcases batchAdd_cases batch wire with hfull | ⟨results, hadd⟩
  · rw [hfull] at h
    cases h
  · rw [hadd]
    exact ⟨rfl, rfl⟩

theorem matched_call {s : Expecting layer.Vk} (h : s.Matched ctx)
    (call : AgencZkCall) :
    (s.call layer pairingIsInitialized call).Matched ctx := by
  cases call with
  | add e =>
    dsimp only [Expecting.call, agencZkBatchAdd]
    by_cases hfull : s.b.capacity ≤ s.b.count
    · rw [if_pos hfull]
      exact ⟨h.faithful, h.count, h.capacity, h.small⟩
    · rw [if_neg hfull]
      have hadded : (batchAdd s.b.batch e.proof).1 = true :=
        batchAdd_room (by rw [← h.count, ← h.capacity]; omega)
          (by rw [← h.capacity]; exact h.small) e.proof
      obtain ⟨hcount, hcapacity⟩ := batchAdd_count hadded
      have hfaithful := faithful_add pairingIsInitialized h.faithful
        e.proof
      dsimp only [Filled.call] at hfaithful
      cases hresult : batchAdd s.b.batch e.proof with
      | mk done batch =>
        rw [hresult] at hadded hfaithful hcount hcapacity
        subst hadded
        refine ⟨?_, ?_, ?_, h.small⟩
        · simpa using hfaithful
        · rw [hcount, ← h.count]
        · rw [hcapacity]
          exact h.capacity
  | verify =>
    obtain ⟨hctx, hproofs, hcount, hcapacity⟩ :=
      batchVerify_frame pairingIsInitialized s.b.batch
    refine ⟨⟨hctx.trans h.faithful.ctx, hcount.trans h.faithful.count,
      fun i wire hi hp => (congrFun hproofs i).trans
        (h.faithful.proofs i wire hi hp)⟩,
      h.count.trans hcount.symm, h.capacity.trans hcapacity.symm, h.small⟩

theorem matched_calls (calls : List AgencZkCall) {s : Expecting layer.Vk}
    (h : s.Matched ctx) :
    (s.calls layer pairingIsInitialized calls).Matched ctx := by
  induction calls generalizing s with
  | nil => exact h
  | cons call rest ih => exact ih (matched_call h call)

theorem matched_create {proofs : Nat → Proof} {results : Nat → VerifyResult}
    {commitments : Nat → Bytes32} {thresholds : Nat → UInt16}
    {capacity : Nat} {b : AgencZkBatch layer.Vk}
    (h : agencZkBatchCreate ctx capacity proofs results commitments
      thresholds = some b) : (Expecting.mk b []).Matched ctx := by
  unfold agencZkBatchCreate at h
  split at h
  · cases h
  obtain ⟨batch, hbatch, hb⟩ := Option.map_eq_some_iff.mp h
  have hfaithful := faithful_create hbatch
  unfold batchCreate at hbatch
  split at hbatch
  · cases hbatch
  split at hbatch
  · cases hbatch
  next hsmall =>
    have hnew := Option.some.inj hbatch
    subst hnew hb
    exact ⟨hfaithful, rfl, rfl, Nat.not_lt.mp hsmall⟩

theorem agencZkBatchGetResults_ok {b : AgencZkBatch layer.Vk} {i : Nat}
    (hi : i < b.batch.count) :
    (agencZkBatchGetResults (agencZkBatchVerify layer pairingIsInitialized
        b))[i]? = some .ok
      ↔ Judged pairingIsInitialized b.batch i := by
  obtain ⟨-, -, hcount, -⟩ := batchVerify_frame pairingIsInitialized b.batch
  rw [← batchVerify_judged hi, ← fromDarkForest_ok]
  simp [agencZkBatchGetResults, agencZkBatchVerify, batchGetResults, hcount, hi]

/-- What a batch reports good of an entry is good by itself, exactly if the
entry's wire parses and is what is expected, or nothing accepts what lies in
its place. -/
theorem batch_reports_iff (hsound : layer.BatchSound)
    {s : Expecting layer.Vk} (h : s.Matched ctx) {i : Nat} {e : Entry}
    (he : s.added[i]? = some e) :
    ((agencZkBatchGetResults (agencZkBatchVerify layer pairingIsInitialized
          s.b))[i]? = some .ok →
        agencZkVerify layer pairingIsInitialized ctx e.proof e.commitment
          e.threshold = .ok)
      ↔ Parses e.proof ∧ Screened e
        ∨ ¬Judged pairingIsInitialized s.b.batch i := by
  have hwire : (s.added.map (·.proof))[i]? = some e.proof := by
    simp [he]
  have hi : i < s.b.batch.count := by
    rw [h.faithful.count]
    exact (List.getElem?_eq_some_iff.mp hwire).1
  rw [agencZkBatchGetResults_ok hi, agencZkVerify_ok]
  constructor
  · intro himp
    by_cases hjudged : Judged pairingIsInitialized s.b.batch i
    · obtain ⟨hscreened, hverify⟩ := himp hjudged
      exact Or.inl ⟨(verifyProof_ok hverify).1, hscreened⟩
    · exact Or.inr hjudged
  · rintro (⟨hparses, hscreened⟩ | hnot) hjudged
    · refine ⟨hscreened, ?_⟩
      rw [← h.faithful.ctx, ← batchVerify_parses hsound hi hparses
        (h.faithful.proofs i _ hwire hparses)]
      exact (batchVerify_judged hi).mpr hjudged
    · exact absurd hjudged hnot

/-- When a reputation proof is what it is accepted for, by itself and in a
batch. -/
theorem agenc_sound_iff (hsound : layer.BatchSound)
    {proofs : Nat → Proof} {results : Nat → VerifyResult}
    {commitments : Nat → Bytes32} {thresholds : Nat → UInt16}
    {capacity : Nat} {b : AgencZkBatch layer.Vk}
    (hcreate : agencZkBatchCreate ctx capacity proofs results commitments
      thresholds = some b) (calls : List AgencZkCall) {i : Nat} {e : Entry}
    (he : ((Expecting.mk b []).calls layer pairingIsInitialized
      calls).added[i]? = some e) :
    ((agencZkVerify layer pairingIsInitialized ctx e.proof e.commitment
          e.threshold = .ok →
        ∃ t, BoundTo layer pairingIsInitialized ctx e.proof t
          ∧ e.threshold.toNat ≤ t.toNat)
      ↔ e.threshold.toNat ≤ e.proof.flags.toNat % 256 ∨ ¬Screened e
        ∨ verifyProof layer pairingIsInitialized ctx e.proof ≠ .ok)
    ∧ (((agencZkBatchGetResults (((Expecting.mk b []).calls layer
          pairingIsInitialized (calls ++ [.verify])).b))[i]? = some .ok →
        agencZkVerify layer pairingIsInitialized ctx e.proof e.commitment
          e.threshold = .ok)
      ↔ Parses e.proof ∧ Screened e
        ∨ ¬Judged pairingIsInitialized ((Expecting.mk b []).calls layer
          pairingIsInitialized calls).b.batch i) := by
  have hlast : (Expecting.mk b []).calls layer pairingIsInitialized
      (calls ++ [.verify])
      = ⟨agencZkBatchVerify layer pairingIsInitialized ((Expecting.mk b
          []).calls layer pairingIsInitialized calls).b,
        ((Expecting.mk b []).calls layer pairingIsInitialized
          calls).added⟩ := by
    simp [Expecting.calls, Expecting.call]
  rw [hlast]
  exact ⟨sound_iff e,
    batch_reports_iff hsound (matched_calls calls (matched_create hcreate)) he⟩

namespace Concrete

/-- An empty batch for two entries. -/
def expecting : AgencZkBatch logLayer.Vk where
  batch := { emptyBatch with capacity := 2 }
  commitments := fun _ => Vector.replicate 32 0
  thresholds := fun _ => 0
  count := 0
  capacity := 2

theorem expecting_created :
    agencZkBatchCreate emptyBatch.ctx 2 (fun _ => default) (fun _ => .ok)
      (fun _ => Vector.replicate 32 0) (fun _ => 0) = some expecting :=
  rfl

/-- The good proof, and a threshold that is asked for. -/
def entry (flags threshold : UInt16) : Entry where
  proof := { wire 1 with flags }
  commitment := (wire 1).commitment
  threshold := threshold

/-- A proof of 80 is asked for 50. -/
theorem agenc_sound_fifty :
    agencZkVerify logLayer true emptyBatch.ctx (entry 80 50).proof
        (entry 80 50).commitment 50 = .ok
      ∧ ∃ t, BoundTo logLayer true emptyBatch.ctx (entry 80 50).proof t
        ∧ 50 ≤ t.toNat := by
  have hok : agencZkVerify logLayer true emptyBatch.ctx (entry 80 50).proof
      (entry 80 50).commitment 50 = .ok := by decide +kernel
  have he : ((Expecting.mk expecting []).calls logLayer true
      [.add (entry 80 50)]).added[0]? = some (entry 80 50) := rfl
  exact ⟨hok, (agenc_sound_iff (pairingLayer_batchSound _ _ _)
    expecting_created [.add (entry 80 50)] he).1.mpr (Or.inl (by decide)) hok⟩

/-- A proof that is bound to 80 is accepted for 10000, and a batch for 10000
reports one good that is bound to nothing. -/
theorem agenc_unsound :
    logLayer.BatchSound
      ∧ agencZkVerify logLayer true emptyBatch.ctx (entry 0xFF50 10000).proof
        (entry 0xFF50 10000).commitment 10000 = .ok
      ∧ ¬(∃ t, BoundTo logLayer true emptyBatch.ctx
          (entry 0xFF50 10000).proof t ∧ 10000 ≤ t.toNat)
      ∧ agencZkBatchGetResults (((Expecting.mk expecting []).calls logLayer
          true [.add (entry 0 10000), .verify]).b) = [.ok]
      ∧ agencZkVerify logLayer true emptyBatch.ctx (entry 0 10000).proof
        (entry 0 10000).commitment 10000 = .errBelowThreshold := by
  refine ⟨pairingLayer_batchSound _ _ _, by decide +kernel, ?_,
    by decide +kernel, by decide +kernel⟩
  rintro ⟨t, -, hle⟩
  have hlt := t.toNat_lt
  omega

end Concrete

end KamiyoProtocol.DarkForest
