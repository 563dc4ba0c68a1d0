/-
`api.c` of `dark-forest-core`: the public calls, and the key loading that
`verify.c` has for them.

Nothing that is public initialises the pairing, and what a configuration
loads of a key is four points that no verification reads. So every context
that the calls make is one in which no proof is accepted.
-/
import KamiyoProtocol.DarkForest.Pairing

namespace KamiyoProtocol.DarkForest

-- ==== configuration

/-- `dark_forest_config_t`. -/
structure Config where
  maxProofAge : UInt32
  minThreshold : UInt8
  blacklistRoot : Bytes32
  vkData : Option (List UInt8)

/-- The context that `dark_forest_ctx_create` fills in. -/
def configured (Vk : Type) (config : Option Config) : VerifyCtx Vk :=
  let ctx := verifyCtxCreate Vk
  match config with
  | none => ctx
  | some config =>
    let ctx :=
      if config.maxProofAge > 0 then
        { ctx with maxProofAge := config.maxProofAge }
      else ctx
    let ctx := { ctx with minThreshold := config.minThreshold }
    let ctx :=
      if config.blacklistRoot[0] ≠ 0 ∨ config.blacklistRoot[1] ≠ 0 then
        { ctx with blacklistRoot := config.blacklistRoot }
      else ctx
    match config.vkData with
    | some vkData =>
      if vkData.length > 0 then (verifyCtxLoadVk ctx vkData).2 else ctx
    | none => ctx

-- ==== calls

/-- `dark_forest_result_t`. -/
inductive DarkForestResult
  | ok
  | errInvalidProof
  | errBelowThreshold
  | errExpired
  | errMalformed
  | errBlacklisted
  | errOutOfMemory
  | errInvalidParam

def convertResult : VerifyResult → DarkForestResult
  | .ok => .ok
  | .invalidProof => .errInvalidProof
  | .belowThreshold => .errBelowThreshold
  | .expired => .errExpired
  | .malformed => .errMalformed
  | .blacklisted => .errBlacklisted

/-- The two flags, and the contexts by their handles. -/
structure Library (Vk : Type) where
  initialized : Bool
  pairingInitialized : Bool
  contexts : List (Option (VerifyCtx Vk))

/-- The library as it is loaded. -/
def Library.fresh (Vk : Type) : Library Vk := ⟨false, false, []⟩

/-- The public calls on contexts. -/
inductive ApiCall
  | init
  | cleanup
  | ctxCreate (config : Option Config)
  | ctxDestroy (ctx : Nat)
  | ctxSetTime (ctx : Nat) (timestamp : UInt64)
  | ctxSetThreshold (ctx : Nat) (threshold : UInt8)
  | ctxSetBlacklist (ctx : Nat) (root : Bytes32)
  | verify (ctx : Nat) (proof : ProofWire)

section Calls

variable (layer : PairingLayer)

/-- The context of a handle that is not null. -/
def Library.context {Vk : Type} (lib : Library Vk) (ctx : Nat) :
    Option (VerifyCtx Vk) :=
  (lib.contexts[ctx]?).join

def Library.update {Vk : Type} (lib : Library Vk) (ctx : Nat)
    (f : VerifyCtx Vk → VerifyCtx Vk) : Library Vk :=
  { lib with contexts := lib.contexts.modify ctx (Option.map f) }

/-- `dark_forest_verify`, of a context that may be null. -/
def darkForestVerify (pairingIsInitialized : Bool)
    (ctx : Option (VerifyCtx layer.Vk)) (proof : ProofWire) :
    DarkForestResult :=
  match ctx with
  | none => .errInvalidParam
  | some ctx =>
    convertResult (verifyProof layer pairingIsInitialized ctx proof)

def Library.verify (lib : Library layer.Vk) (ctx : Nat)
    (proof : ProofWire) : DarkForestResult :=
  darkForestVerify layer lib.pairingInitialized (lib.context ctx) proof

def Library.call (lib : Library layer.Vk) : ApiCall → Library layer.Vk
  | .init => { lib with initialized := true }
  | .cleanup => { lib with initialized := false }
  | .ctxCreate config =>
    { lib with
      initialized := true
      contexts := lib.contexts ++ [some (configured layer.Vk config)] }
  | .ctxDestroy ctx => { lib with contexts := lib.contexts.set ctx none }
  | .ctxSetTime ctx timestamp =>
    lib.update ctx fun c => { c with currentTime := timestamp }
  | .ctxSetThreshold ctx threshold =>
    lib.update ctx fun c => { c with minThreshold := threshold }
  | .ctxSetBlacklist ctx root =>
    lib.update ctx fun c => { c with blacklistRoot := root }
  | .verify _ _ => lib

def Library.calls (lib : Library layer.Vk) (calls : List ApiCall) :
    Library layer.Vk :=
  calls.foldl (Library.call layer) lib

end Calls

-- ==== keys

variable {layer : PairingLayer}

/-- No pairing, and no key to compute it with. -/
structure Library.Keyless {Vk : Type} (lib : Library Vk) : Prop where
  pairing : lib.pairingInitialized = false
  keys : ∀ ctx, some ctx ∈ lib.contexts → ctx.groth16Vk = none

theorem verifyCtxLoadVk_groth16Vk {Vk : Type} (ctx : VerifyCtx Vk)
    (vkData : List UInt8) :
    (verifyCtxLoadVk ctx vkData).2.groth16Vk = ctx.groth16Vk := by
  unfold verifyCtxLoadVk
  split
  · rfl
  · split <;> rfl

theorem configured_groth16Vk (Vk : Type) (config : Option Config) :
    (configured Vk config).groth16Vk = none := by
  cases config with
  | none => rfl
  | some config =>
    simp only [configured]
    split
    · split
      · rw [verifyCtxLoadVk_groth16Vk]
        split <;> split <;> rfl
      · split <;> split <;> rfl
    · split <;> split <;> rfl

theorem keyless_update {Vk : Type} {lib : Library Vk} (h : lib.Keyless)
    (ctx : Nat) {f : VerifyCtx Vk → VerifyCtx Vk}
    (hf : ∀ c, (f c).groth16Vk = c.groth16Vk) :
    (lib.update ctx f).Keyless := by
  refine ⟨h.pairing, fun c hc => ?_⟩
  obtain ⟨i, hi⟩ := List.mem_iff_getElem?.mp hc
  rw [Library.update, List.getElem?_modify] at hi
  cases hold : lib.contexts[i]? with
  | none =>
    rw [hold] at hi
    cases hi
  | some old =>
    rw [hold] at hi
    by_cases hctx : ctx = i
    · cases old with
      | none => simp [hctx] at hi
      | some old =>
        have hnew : f old = c := by simpa [hctx] using hi
        rw [← hnew, hf]
        exact h.keys old (List.mem_of_getElem? hold)
    · have hsame : old = some c := by simpa [hctx] using hi
      rw [hsame] at hold
      exact h.keys c (List.mem_of_getElem? hold)

theorem keyless_call {lib : Library layer.Vk} (h : lib.Keyless)
    (call : ApiCall) : (lib.call layer call).Keyless := by
  cases call with
  | init => exact ⟨h.pairing, h.keys⟩
  | cleanup => exact ⟨h.pairing, h.keys⟩
  | ctxCreate config =>
    refine ⟨h.pairing, fun ctx hctx => ?_⟩
    rcases List.mem_append.mp hctx with hold | hnew
    · exact h.keys ctx hold
    · have heq : ctx = configured layer.Vk config := by
        simpa using hnew
      rw [heq]
      exact configured_groth16Vk _ _
  | ctxDestroy ctx =>
    refine ⟨h.pairing, fun c hc => ?_⟩
    rcases List.mem_or_eq_of_mem_set hc with hold | hnew
    · exact h.keys c hold
    · cases hnew
  | ctxSetTime ctx timestamp => exact keyless_update h ctx fun _ => rfl
  | ctxSetThreshold ctx threshold => exact keyless_update h ctx fun _ => rfl
  | ctxSetBlacklist ctx root => exact keyless_update h ctx fun _ => rfl
  | verify ctx proof => exact h

theorem keyless_calls (calls : List ApiCall) {lib : Library layer.Vk}
    (h : lib.Keyless) : (lib.calls layer calls).Keyless := by
  induction calls generalizing lib with
  | nil => exact h
  | cons call rest ih => exact ih (keyless_call h call)

theorem keyless_fresh (Vk : Type) : (Library.fresh Vk).Keyless :=
  ⟨rfl, fun _ hctx => absurd hctx (by simp [Library.fresh])⟩

theorem convertResult_ok {r : VerifyResult} (h : convertResult r = .ok) :
    r = .ok := by
  cases r <;> first | rfl | cases h

theorem keyless_refuses {lib : Library layer.Vk} (h : lib.Keyless)
    (ctx : Nat) (proof : ProofWire) :
    lib.verify layer ctx proof ≠ .ok := by
  intro hok
  unfold Library.verify darkForestVerify at hok
  split at hok
  · cases hok
  next c hc =>
    obtain ⟨-, haccepted⟩ := verifyProof_ok (convertResult_ok hok)
    obtain ⟨vk, hvk, -⟩ := haccepted.verified
    rw [availableVk, h.pairing] at hvk
    cases hvk

-- ==== completeness

/-- A key, and a proof for it that the context is to accept. -/
structure Satisfying (mcl : Mcl) (poseidonHash : List FieldT → FieldT)
    (config : Config) (now : UInt64) (wire : ProofWire) : Prop where
  parses : Parses wire
  verifies : ∃ data vk, config.vkData = some data
    ∧ vkLoad mcl true data = some vk
    ∧ groth16Verify mcl true vk (toGroth16 (parsed wire))
      [pubInput (pairingLayer mcl true poseidonHash) (parsed wire)] = true
  threshold : config.minThreshold ≤ (parsed wire).threshold
  fresh : now.toNat ≤ (parsed wire).timestamp.toNat + config.maxProofAge.toNat

/-- Some calls lead to a context that accepts the proof. -/
def Accepts (mcl : Mcl) (poseidonHash : List FieldT → FieldT)
    (wire : ProofWire) : Prop :=
  ∃ calls ctx, ((Library.fresh _).calls (pairingLayer mcl true poseidonHash)
    calls).verify (pairingLayer mcl true poseidonHash) ctx wire = .ok

/-- No calls lead to a context that accepts a proof, of whatever key. -/
theorem api_accepts_nothing (mcl : Mcl)
    (poseidonHash : List FieldT → FieldT) (wire : ProofWire) :
    ¬Accepts mcl poseidonHash wire := by
  rintro ⟨calls, ctx, hok⟩
  exact keyless_refuses (keyless_calls calls (keyless_fresh _)) ctx wire hok

namespace Concrete

def config : Config where
  maxProofAge := 3600
  minThreshold := 50
  blacklistRoot := Vector.replicate 32 0
  vkData := some keyData

theorem wire_satisfying :
    Satisfying logarithms adding config 0 (wire 1) := by
  have hverifies : ∃ vk ∈ vkLoad logarithms true keyData,
      groth16Verify logarithms true vk (toGroth16 (parsed (wire 1)))
        [pubInput logLayer (parsed (wire 1))] = true := by decide +kernel
  obtain ⟨vk, hvk, hverified⟩ := hverifies
  exact ⟨by decide +kernel, ⟨keyData, vk, rfl, hvk, hverified⟩,
    by decide +kernel, by decide +kernel⟩

/-- A proof that satisfies the equation of its key, of which no sequence of
calls makes an accepted one. -/
theorem satisfying_refused :
    ¬∀ (mcl : Mcl) (poseidonHash : List FieldT → FieldT) (config : Config)
      (now : UInt64) (wire : ProofWire),
      Satisfying mcl poseidonHash config now wire →
        Accepts mcl poseidonHash wire := by
  intro h
  obtain ⟨calls, ctx, hok⟩ := h _ _ _ _ _ wire_satisfying
  exact keyless_refuses (keyless_calls calls (keyless_fresh _)) ctx _ hok

end Concrete

end KamiyoProtocol.DarkForest
