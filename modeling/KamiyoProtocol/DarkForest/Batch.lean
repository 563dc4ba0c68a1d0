/-
The batches of `verify.c`: buffers that are filled, verified, read and
reused.

`batch_verify` starts by setting every result to `VERIFY_OK`. It so forgets
which proofs were malformed, and judges whatever is in the buffer where a
malformed proof was added: a proof off the curve, or the proof before it.
-/
import KamiyoProtocol.DarkForest.Pairing
import Mathlib.Data.List.Basic

namespace KamiyoProtocol.DarkForest

variable (layer : PairingLayer) (pairingIsInitialized : Bool)

def maxBatchSize : Nat := 1024

/-- `batch_ctx_t`. The buffers are memory, whatever is in it. -/
structure BatchCtx (Vk : Type) where
  ctx : VerifyCtx Vk
  proofs : Nat → Proof
  results : Nat → VerifyResult
  count : Nat
  capacity : Nat

def batchCreate {Vk : Type} (ctx : VerifyCtx Vk) (capacity : Nat)
    (proofs : Nat → Proof) (results : Nat → VerifyResult) :
    Option (BatchCtx Vk) :=
  if capacity = 0 then none
  else if maxBatchSize < capacity then none
  else some ⟨ctx, proofs, results, 0, capacity⟩

/-- `buffer[i] = value`. -/
def store {V : Type} (buffer : Nat → V) (i : Nat) (value : V) : Nat → V :=
  fun j => if j = i then value else buffer j

def batchAdd {Vk : Type} (batch : BatchCtx Vk) (wire : ProofWire) :
    Bool × BatchCtx Vk :=
  if batch.capacity ≤ batch.count then (false, batch)
  else if maxBatchSize ≤ batch.count then (false, batch)
  else
    let (accepted, proof) := proofParse (batch.proofs batch.count) wire
    let proofs := store batch.proofs batch.count proof
    if accepted then
      (true, { batch with proofs, count := batch.count + 1 })
    else
      (true, { batch with
        proofs
        results := store batch.results batch.count .malformed
        count := batch.count + 1 })

/-- What the timestamp and the threshold of a proof come to. -/
def prefilter (ctx : VerifyCtx layer.Vk) (proof : Proof) : VerifyResult :=
  if isExpired layer ctx proof then .expired
  else if proof.threshold < ctx.minThreshold then .belowThreshold
  else .ok

/-- The results, with those that are still good verified one by one. -/
def verifySequential (batch : BatchCtx layer.Vk)
    (results : Nat → VerifyResult) (i : Nat) : VerifyResult :=
  if i < batch.count ∧ results i = .ok then
    verifyProofEx layer pairingIsInitialized batch.ctx (batch.proofs i)
  else results i

def batchVerify (batch : BatchCtx layer.Vk) : BatchCtx layer.Vk :=
  if batch.count = 0 then batch
  else
    let results := fun i =>
      if i < batch.count then prefilter layer batch.ctx (batch.proofs i)
      else batch.results i
    let valid := (List.range batch.count).filter fun i => results i = .ok
    if valid.length = 0 then { batch with results }
    else
      match availableVk layer pairingIsInitialized batch.ctx with
      | none =>
        { batch with
          results :=
            verifySequential layer pairingIsInitialized batch results }
      | some vk =>
        if layer.groth16VerifyBatch vk (valid.map fun i =>
            (toGroth16 (batch.proofs i),
              [pubInput layer (batch.proofs i)])) then
          { batch with results }
        else
          { batch with
            results :=
              verifySequential layer pairingIsInitialized batch results }

def batchGetResults {Vk : Type} (batch : BatchCtx Vk) :
    List VerifyResult :=
  (List.range batch.count).map batch.results

def batchReset {Vk : Type} (batch : BatchCtx Vk) : BatchCtx Vk :=
  { batch with count := 0 }

-- ==== runs

/-- What is called on a batch. -/
inductive BatchCall
  | add (wire : ProofWire)
  | verify
  | getResults
  | reset

/-- A batch, and the wires that were added since it was last empty. -/
structure Filled (Vk : Type) where
  batch : BatchCtx Vk
  added : List ProofWire

def Filled.call (s : Filled layer.Vk) : BatchCall → Filled layer.Vk
  | .add wire =>
    match batchAdd s.batch wire with
    | (true, batch) => ⟨batch, s.added ++ [wire]⟩
    | (false, batch) => ⟨batch, s.added⟩
  | .verify => ⟨batchVerify layer pairingIsInitialized s.batch, s.added⟩
  | .getResults => s
  | .reset => ⟨batchReset s.batch, []⟩

def Filled.calls (s : Filled layer.Vk) (calls : List BatchCall) :
    Filled layer.Vk :=
  calls.foldl (Filled.call layer pairingIsInitialized) s

/-- What the buffers hold of the wires that were added: a proof that parses
lies in its place. -/
structure Filled.Faithful {Vk : Type} (ctx : VerifyCtx Vk)
    (s : Filled Vk) : Prop where
  ctx : s.batch.ctx = ctx
  count : s.batch.count = s.added.length
  proofs : ∀ i wire, s.added[i]? = some wire → Parses wire →
    s.batch.proofs i = parsed wire

variable {layer}

-- ==== filling the buffers

theorem batchVerify_frame (batch : BatchCtx layer.Vk) :
    (batchVerify layer pairingIsInitialized batch).ctx = batch.ctx
      ∧ (batchVerify layer pairingIsInitialized batch).proofs = batch.proofs
      ∧ (batchVerify layer pairingIsInitialized batch).count = batch.count
      ∧ (batchVerify layer pairingIsInitialized batch).capacity
        = batch.capacity := by
  unfold batchVerify
  split
  · exact ⟨rfl, rfl, rfl, rfl⟩
  · dsimp only
    split
    · exact ⟨rfl, rfl, rfl, rfl⟩
    · split
      · exact ⟨rfl, rfl, rfl, rfl⟩
      · split <;> exact ⟨rfl, rfl, rfl, rfl⟩

/-- What adding does: nothing if the batch is full, and otherwise the proof
goes into the next place as it was parsed. -/
theorem batchAdd_cases {Vk : Type} (batch : BatchCtx Vk) (wire : ProofWire) :
    batchAdd batch wire = (false, batch)
      ∨ ∃ results, batchAdd batch wire = (true, { batch with
          proofs := store batch.proofs batch.count
            (proofParse (batch.proofs batch.count) wire).2
          results
          count := batch.count + 1 }) := by
  unfold batchAdd
  split
  · exact Or.inl rfl
  split
  · exact Or.inl rfl
  right
  cases hparse : proofParse (batch.proofs batch.count) wire with
  | mk accepted proof =>
    cases accepted with
    | true => exact ⟨batch.results, rfl⟩
    | false =>
      exact ⟨store batch.results batch.count .malformed, rfl⟩

theorem store_self {V : Type} (buffer : Nat → V) (i : Nat) (value : V) :
    store buffer i value i = value :=
  if_pos rfl

theorem store_ne {V : Type} {i j : Nat} (h : j ≠ i) (buffer : Nat → V)
    (value : V) : store buffer i value j = buffer j :=
  if_neg h

theorem faithful_add {ctx : VerifyCtx layer.Vk} {s : Filled layer.Vk}
    (h : s.Faithful ctx) (wire : ProofWire) :
    (s.call layer pairingIsInitialized (.add wire)).Faithful ctx := by
  dsimp only [Filled.call]
  rcases batchAdd_cases s.batch wire with hfull | ⟨results, hadd⟩
  · rw [hfull]
    exact ⟨h.ctx, h.count, h.proofs⟩
  · rw [hadd]
    refine ⟨h.ctx, ?_, ?_⟩
    · simp [h.count]
    · intro i other hi hparses
      dsimp only at hi ⊢
      by_cases hlast : i = s.batch.count
      · subst hlast
        rw [h.count, List.getElem?_concat_length] at hi
        have heq : wire = other := Option.some.inj hi
        rw [store_self, heq, proofParse_parses hparses]
      · have hne : i ≠ s.added.length := by
          rw [← h.count]
          exact hlast
        have hlt : i < s.added.length := by
          obtain ⟨hlt, -⟩ := List.getElem?_eq_some_iff.mp hi
          rw [List.length_append, List.length_singleton] at hlt
          omega
        rw [store_ne hlast]
        rw [List.getElem?_append_left hlt] at hi
        exact h.proofs i other hi hparses

variable {pairingIsInitialized}

theorem faithful_calls {ctx : VerifyCtx layer.Vk} (calls : List BatchCall)
    {s : Filled layer.Vk} (h : s.Faithful ctx) :
    (s.calls layer pairingIsInitialized calls).Faithful ctx := by
  induction calls generalizing s with
  | nil => exact h
  | cons call rest ih =>
    refine ih ?_
    cases call with
    | add wire => exact faithful_add pairingIsInitialized h wire
    | verify =>
      obtain ⟨hctx, hproofs, hcount, -⟩ :=
        batchVerify_frame pairingIsInitialized s.batch
      exact ⟨hctx.trans h.ctx, hcount.trans h.count, fun i wire hi hp =>
        (congrFun hproofs i).trans (h.proofs i wire hi hp)⟩
    | getResults => exact h
    | reset =>
      exact ⟨h.ctx, rfl, fun i wire hi => absurd hi (by simp [Filled.call])⟩

-- ==== results

variable {ctx : VerifyCtx layer.Vk} {batch : BatchCtx layer.Vk}

theorem prefilter_ne_malformed (ctx : VerifyCtx layer.Vk) (proof : Proof) :
    prefilter layer ctx proof ≠ .malformed := by
  unfold prefilter
  split
  · simp
  · split <;> simp

theorem verifyProofEx_prefilter {proof : Proof}
    (h : prefilter layer ctx proof ≠ .ok) :
    verifyProofEx layer pairingIsInitialized ctx proof
      = prefilter layer ctx proof := by
  unfold prefilter at h ⊢
  unfold verifyProofEx
  split
  · rfl
  next hexpired =>
  rw [if_neg hexpired] at h
  split
  · rfl
  next hthreshold =>
  rw [if_neg hthreshold] at h
  exact absurd rfl h

theorem verifyProofEx_accepts {wire : ProofWire} (hparses : Parses wire)
    (hfilter : prefilter layer ctx (parsed wire) = .ok) {vk : layer.Vk}
    (hvk : availableVk layer pairingIsInitialized ctx = some vk)
    (hverified : layer.groth16Verify vk (toGroth16 (parsed wire))
      [pubInput layer (parsed wire)] = true) :
    verifyProofEx layer pairingIsInitialized ctx (parsed wire) = .ok := by
  unfold prefilter at hfilter
  unfold verifyProofEx
  split at hfilter
  · cases hfilter
  next hexpired =>
  split at hfilter
  · cases hfilter
  next hthreshold =>
  rw [if_neg hexpired, if_neg hthreshold, hvk]
  simp [hparses.onCurveA, hparses.onCurveC, hverified]

variable (pairingIsInitialized) in
/-- A result is what the filter gave, if a pairing check of all that passed
it stands behind it, and that of a single verification otherwise. -/
theorem batchVerify_cases (hsound : layer.BatchSound) {i : Nat}
    (hi : i < batch.count) :
    ((batchVerify layer pairingIsInitialized batch).results i
        = prefilter layer batch.ctx (batch.proofs i)
      ∧ (prefilter layer batch.ctx (batch.proofs i) = .ok →
        ∃ vk, availableVk layer pairingIsInitialized batch.ctx = some vk
          ∧ layer.groth16Verify vk (toGroth16 (batch.proofs i))
            [pubInput layer (batch.proofs i)] = true))
      ∨ (batchVerify layer pairingIsInitialized batch).results i
        = verifyProofEx layer pairingIsInitialized batch.ctx
          (batch.proofs i) := by
  have hne : batch.count ≠ 0 := by omega
  by_cases hfilter : prefilter layer batch.ctx (batch.proofs i) = .ok
  · have hvalid : i ∈ (List.range batch.count).filter fun i =>
        (if i < batch.count then prefilter layer batch.ctx (batch.proofs i)
          else batch.results i) = .ok := by
      rw [List.mem_filter]
      exact ⟨List.mem_range.mpr hi, by simp [hi, hfilter]⟩
    have hlength := (List.length_pos_of_mem hvalid).ne'
    unfold batchVerify
    rw [if_neg hne]
    dsimp only
    rw [if_neg hlength]
    split
    · right
      simp [verifySequential, hi, hfilter]
    next vk hvk =>
      split
      next hbatch =>
        left
        refine ⟨if_pos hi, fun _ => ⟨vk, hvk, ?_⟩⟩
        exact hsound vk _ hbatch _ (List.mem_map_of_mem hvalid)
      · right
        simp [verifySequential, hi, hfilter]
  · right
    rw [verifyProofEx_prefilter hfilter]
    unfold batchVerify
    rw [if_neg hne]
    dsimp only
    split
    · exact if_pos hi
    split
    · simp [verifySequential, hi, hfilter]
    split
    · exact if_pos hi
    · simp [verifySequential, hi, hfilter]

/-- Where a wire that parses was added, the result is that of a single
verification. -/
theorem batchVerify_parses (hsound : layer.BatchSound) {i : Nat}
    (hi : i < batch.count) {wire : ProofWire} (hparses : Parses wire)
    (hproof : batch.proofs i = parsed wire) :
    (batchVerify layer pairingIsInitialized batch).results i
      = verifyProof layer pairingIsInitialized batch.ctx wire := by
  rw [verifyProof_parses hparses]
  rcases batchVerify_cases pairingIsInitialized hsound hi with ⟨hresult, hverified⟩ | hresult
  · rw [hproof] at hresult hverified
    rw [hresult]
    by_cases hfilter : prefilter layer batch.ctx (parsed wire) = .ok
    · obtain ⟨vk, hvk, hverified⟩ := hverified hfilter
      rw [verifyProofEx_accepts hparses hfilter hvk hverified]
      exact hfilter
    · exact (verifyProofEx_prefilter hfilter).symm
  · rw [hresult, hproof]

theorem batchVerify_ne_malformed (hsound : layer.BatchSound) {i : Nat}
    (hi : i < batch.count) :
    (batchVerify layer pairingIsInitialized batch).results i ≠ .malformed := by
  rcases batchVerify_cases pairingIsInitialized hsound hi with ⟨hresult, -⟩ | hresult
  · rw [hresult]
    exact prefilter_ne_malformed _ _
  · rw [hresult]
    exact verifyProofEx_ne_malformed _

/-- What makes a result good: the filter, and a pairing check of all that
passed it or of the proof alone. -/
def Judged (pairingIsInitialized : Bool) (batch : BatchCtx layer.Vk)
    (i : Nat) : Prop :=
  prefilter layer batch.ctx (batch.proofs i) = .ok
    ∧ ∃ vk, availableVk layer pairingIsInitialized batch.ctx = some vk
      ∧ (layer.groth16VerifyBatch vk (((List.range batch.count).filter
            fun i => prefilter layer batch.ctx (batch.proofs i) = .ok).map
            fun i => (toGroth16 (batch.proofs i),
              [pubInput layer (batch.proofs i)])) = true
        ∨ verifyProofEx layer pairingIsInitialized batch.ctx
          (batch.proofs i) = .ok)

theorem batchVerify_judged {i : Nat} (hi : i < batch.count) :
    (batchVerify layer pairingIsInitialized batch).results i = .ok
      ↔ Judged pairingIsInitialized batch i := by
  have hne : batch.count ≠ 0 := by omega
  have hvalid : (List.range batch.count).filter (fun i =>
        (if i < batch.count then prefilter layer batch.ctx (batch.proofs i)
          else batch.results i) = .ok)
      = (List.range batch.count).filter fun i =>
        prefilter layer batch.ctx (batch.proofs i) = .ok := by
    refine List.filter_congr fun j hj => ?_
    rw [if_pos (List.mem_range.mp hj)]
  unfold batchVerify Judged
  rw [if_neg hne]
  dsimp only
  rw [hvalid]
  by_cases hfilter : prefilter layer batch.ctx (batch.proofs i) = .ok
  · have hmem : i ∈ (List.range batch.count).filter fun i =>
        prefilter layer batch.ctx (batch.proofs i) = .ok :=
      List.mem_filter.mpr ⟨List.mem_range.mpr hi, by simp [hfilter]⟩
    rw [if_neg (List.length_pos_of_mem hmem).ne']
    cases hvk : availableVk layer pairingIsInitialized batch.ctx with
    | none =>
      have hrefused : verifyProofEx layer pairingIsInitialized batch.ctx
          (batch.proofs i) ≠ .ok := by
        intro hok
        obtain ⟨vk, hsome, -⟩ := (verifyProofEx_ok hok).verified
        rw [hvk] at hsome
        cases hsome
      simp [verifySequential, hi, hfilter, hrefused]
    | some vk =>
      by_cases hbatch : layer.groth16VerifyBatch vk
          (((List.range batch.count).filter fun i =>
            prefilter layer batch.ctx (batch.proofs i) = .ok).map fun i =>
              (toGroth16 (batch.proofs i),
                [pubInput layer (batch.proofs i)])) = true
      · simp [hbatch, hi, hfilter]
      · simp [hbatch, verifySequential, hi, hfilter]
  · constructor
    · intro hok
      refine absurd ?_ hfilter
      split at hok
      · simpa [hi] using hok
      split at hok
      · simp [verifySequential, hi, hfilter] at hok
      split at hok
      · simpa [hi] using hok
      · simp [verifySequential, hi, hfilter] at hok
    · rintro ⟨hok, -⟩
      exact absurd hok hfilter

theorem batchGetResults_get {Vk : Type} {batch : BatchCtx Vk} {i : Nat}
    (hi : i < batch.count) :
    (batchGetResults batch)[i]? = some (batch.results i) := by
  simp [batchGetResults, hi]

theorem faithful_create {memory : Nat → Proof} {dirty : Nat → VerifyResult}
    {capacity : Nat} (h : batchCreate ctx capacity memory dirty
      = some batch) : (Filled.mk batch []).Faithful ctx := by
  unfold batchCreate at h
  split at h
  · cases h
  split at h
  · cases h
  have hbatch := Option.some.inj h
  subst hbatch
  exact ⟨rfl, rfl, fun i wire hi => absurd hi (by simp)⟩

/-- After any calls, the result that a batch verification has for a wire is
that of a single verification exactly if the wire parses. -/
theorem batch_agrees_iff (hsound : layer.BatchSound)
    {memory : Nat → Proof} {dirty : Nat → VerifyResult} {capacity : Nat}
    (hcreate : batchCreate ctx capacity memory dirty = some batch)
    (calls : List BatchCall) {i : Nat} {wire : ProofWire}
    (hwire : ((Filled.mk batch []).calls layer pairingIsInitialized
      calls).added[i]? = some wire) :
    (batchGetResults (((Filled.mk batch []).calls layer
        pairingIsInitialized (calls ++ [.verify])).batch))[i]?
          = some (verifyProof layer pairingIsInitialized ctx wire)
      ↔ Parses wire := by
  have hfaithful : ((Filled.mk batch []).calls layer pairingIsInitialized
      calls).Faithful ctx := faithful_calls calls (faithful_create hcreate)
  generalize hs : (Filled.mk batch []).calls layer pairingIsInitialized calls
    = s at hwire hfaithful
  have hverify : (Filled.mk batch []).calls layer pairingIsInitialized
      (calls ++ [.verify])
      = ⟨batchVerify layer pairingIsInitialized s.batch, s.added⟩ := by
    rw [← hs]
    simp [Filled.calls, Filled.call]
  have hi : i < s.batch.count := by
    rw [hfaithful.count]
    exact (List.getElem?_eq_some_iff.mp hwire).1
  obtain ⟨-, -, hcount, -⟩ := batchVerify_frame pairingIsInitialized s.batch
  rw [hverify, batchGetResults_get (by rw [hcount]; exact hi),
    Option.some.injEq]
  constructor
  · intro h
    by_contra hparses
    rw [verifyProof_refused hparses] at h
    exact batchVerify_ne_malformed hsound hi h
  · intro hparses
    rw [← hfaithful.ctx]
    exact batchVerify_parses hsound hi hparses
      (hfaithful.proofs i wire hwire hparses)

namespace Concrete

/-- A batch of one proof, before anything is added. -/
def emptyBatch : BatchCtx logLayer.Vk where
  ctx := keyed
  proofs := fun _ => default
  results := fun _ => .ok
  count := 0
  capacity := 1

theorem emptyBatch_created :
    batchCreate emptyBatch.ctx 1 (fun _ => default) (fun _ => .ok)
      = some emptyBatch :=
  rfl

/-- The result of a good proof is that of a single verification. -/
theorem batch_agrees_good :
    (batchGetResults (((Filled.mk emptyBatch []).calls logLayer true
      ([.add (wire 1)] ++ [.verify])).batch))[0]?
        = some (verifyProof logLayer true emptyBatch.ctx (wire 1)) := by
  have hwire : ((Filled.mk emptyBatch []).calls logLayer true
      [.add (wire 1)]).added[0]? = some (wire 1) := rfl
  have hparses : Parses (wire 1) := by decide
  exact (batch_agrees_iff (pairingLayer_batchSound _ _ _)
    emptyBatch_created [.add (wire 1)] hwire).mpr hparses

/-- A wire of an unknown version is accepted, if a good proof was in its
place before the batch was reset. -/
theorem reused_batch_accepts :
    logLayer.BatchSound
      ∧ batchCreate emptyBatch.ctx 1 (fun _ => default) (fun _ => .ok)
        = some emptyBatch
      ∧ batchGetResults (((Filled.mk emptyBatch []).calls logLayer true
        [.add (wire 1), .verify, .reset, .add (wire 2), .verify]).batch) = [.ok]
      ∧ verifyProof logLayer true emptyBatch.ctx (wire 2) = .malformed :=
  ⟨pairingLayer_batchSound _ _ _, rfl, by decide +kernel, by decide +kernel⟩

end Concrete

end KamiyoProtocol.DarkForest
