/-
`ZKReputationBridge.sol`: agents linked to identities, and attestations of
their tiers.

The bridge stands among the three contracts it calls, and anyone may call
them too. The links made and not undone, and the attestations fulfilled,
run beside the state. Whatever is called, the two maps hold the links apart
from those to identity 0 (`paired_step`), so a state is `Bridged` as long as
nobody links identity 0 and every fulfilment is of an agent that is still
linked and of the tier that was asked for (`bridged_step`).

The functions that exchange the contracts are left out.
-/
import KamiyoProtocol.ZkReputation.IdentityRegistry
import KamiyoProtocol.ZkReputation.ReputationV2
import KamiyoProtocol.ZkReputation.ValidationRegistry

namespace KamiyoProtocol.ZkReputation

open Exec Evm Function

-- ==== storage

structure AttestationRequest where
  agentAddress : Address
  agentId : Nat
  requestedTier : Nat
  timestamp : Nat
  fulfilled : Bool
  deriving DecidableEq

/-- The bridge and the contracts it is connected to. -/
structure Bridge where
  owner : Address
  this : Address
  paused : Bool
  verifier : Address
  identities : Identities
  zkReputation : Reputation
  validations : Validations
  agentToIdentity : Address → Nat
  identityToAgent : Nat → Address
  attestationRequests : Hash → AttestationRequest

/-- What the contracts call on, and the tags and hashes of the bridge. -/
structure BridgeEnv where
  identity : IdentityEnv
  zk : Env
  kamiyoTierTag : Hash
  zkVerifiedTag : Hash
  requestHash : (agentAddress : Address) → (agentId requestedTier : Nat) →
    (timestamp : Nat) → Hash
  currentTierHash : (agentAddress : Address) → (agentId : Nat) →
    (timestamp : Nat) → Hash
  batchHash : (agentAddress : Address) → (agentId : Nat) →
    (timestamp i : Nat) → Hash

namespace Bridge

variable (env : BridgeEnv) (s : Bridge)

-- ==== linking

def linkAgent (sender : Address) (agentId : Nat) : Except String Bridge := do
  require (s.paused = false) "EnforcedPause"
  require (s.agentToIdentity sender = 0) "AgentAlreadyLinked"
  require (s.identityToAgent agentId = zeroAddress) "IdentityAlreadyLinked"
  let owner ← s.identities.requireOwned agentId
  require (owner = sender) "NotAgentOwner"
  require ((s.zkReputation.agents sender).registered = true)
    "AgentNotRegisteredInZK"
  return { s with
    agentToIdentity := update s.agentToIdentity sender agentId
    identityToAgent := update s.identityToAgent agentId sender }

def unlinkAgent (sender : Address) : Except String Bridge := do
  let agentId := s.agentToIdentity sender
  require (agentId ≠ 0) "AgentNotLinked"
  return { s with
    agentToIdentity := update s.agentToIdentity sender 0
    identityToAgent := update s.identityToAgent agentId zeroAddress }

-- ==== attestations

/-- `_thresholdToTier` of the bridge. -/
def thresholdToTier (threshold : Nat) : Tier :=
  if 90 ≤ threshold then .platinum
  else if 75 ≤ threshold then .gold
  else if 50 ≤ threshold then .silver
  else if 25 ≤ threshold then .bronze
  else .unverified

def tierToResponse : Tier → Nat
  | .platinum => 95
  | .gold => 80
  | .silver => 60
  | .bronze => 40
  | .unverified => 20

/-- The registry is asked for a validation by the bridge. -/
def validationRequest (timestamp agentId : Nat) (requestHash : Hash) :
    Except String Validations :=
  s.validations.validationRequest timestamp s.this agentId requestHash
    (decide (s.identities.owners agentId ≠ zeroAddress))

def requestAttestation (timestamp : Nat) (agentAddress : Address)
    (requestedTier : Nat) : Except String Bridge := do
  require (s.paused = false) "EnforcedPause"
  let agentId := s.agentToIdentity agentAddress
  require (agentId ≠ 0) "AgentNotLinked"
  let requestHash :=
    env.requestHash agentAddress agentId requestedTier timestamp
  let validations ← s.validationRequest timestamp agentId requestHash
  return { s with
    attestationRequests := update s.attestationRequests requestHash
      ⟨agentAddress, agentId, requestedTier, uint 64 timestamp, false⟩
    validations := validations }

/-- Whether the verifier takes a proof for an agent's commitment. -/
def verifies (agentAddress : Address) (proof : Proof) (threshold : Nat) :
    Bool :=
  env.zk.verifyProof s.verifier proof threshold
    (s.zkReputation.agents agentAddress).commitment

def fulfillAttestation (timestamp : Nat) (requestHash : Hash) (proof : Proof)
    (threshold : Nat) : Except String Bridge := do
  require (s.paused = false) "EnforcedPause"
  let request := s.attestationRequests requestHash
  require (request.timestamp ≠ 0) "RequestNotFound"
  require (request.fulfilled = false) "RequestAlreadyFulfilled"
  require (s.verifies env request.agentAddress proof threshold = true)
    "InvalidProof"
  let response := tierToResponse (thresholdToTier threshold)
  let validations ← s.validations.validationResponse s.this timestamp
    requestHash response 0 env.zkVerifiedTag
  return { s with
    attestationRequests := update s.attestationRequests requestHash
      { request with fulfilled := true }
    validations := validations }

/-- A request of the bridge to itself, and its answer by the tier that an
agent has now. -/
def attest (timestamp : Nat) (agentAddress : Address) (agentId : Nat)
    (requestHash : Hash) : Except String Bridge := do
  let response := tierToResponse (s.zkReputation.getAgentTier agentAddress)
  let validations ← s.validationRequest timestamp agentId requestHash
  let validations ← validations.validationResponse s.this timestamp
    requestHash response 0 env.kamiyoTierTag
  return { s with validations := validations }

def attestCurrentTier (timestamp : Nat) (agentAddress : Address) :
    Except String Bridge := do
  require (s.paused = false) "EnforcedPause"
  let agentId := s.agentToIdentity agentAddress
  require (agentId ≠ 0) "AgentNotLinked"
  s.attest env timestamp agentAddress agentId
    (env.currentTierHash agentAddress agentId timestamp)

/-- The loop of `batchAttestCurrentTier` from an index on. -/
def attestEach (timestamp : Nat) : Bridge → Nat → List Address →
    Except String Bridge
  | s, _, [] => .ok s
  | s, i, agentAddress :: rest => do
      let agentId := s.agentToIdentity agentAddress
      let requestHash := env.batchHash agentAddress agentId timestamp i
      let next ← (if agentId = 0 then .ok s
        else s.attest env timestamp agentAddress agentId requestHash)
      attestEach timestamp next (i + 1) rest

def batchAttestCurrentTier (timestamp : Nat)
    (agentAddresses : List Address) : Except String Bridge := do
  require (s.paused = false) "EnforcedPause"
  attestEach env timestamp s 0 agentAddresses

end Bridge

-- ==== calls

inductive BridgeCall
  | linkAgent (agentId : Nat)
  | unlinkAgent
  | requestAttestation (agentAddress : Address) (requestedTier : Nat)
  | fulfillAttestation (requestHash : Hash) (proof : Proof) (threshold : Nat)
  | attestCurrentTier (agentAddress : Address)
  | batchAttestCurrentTier (agentAddresses : List Address)
  | setPaused (paused : Bool)

/-- A call of the bridge, or of one of the contracts it calls. -/
inductive BridgeAction
  | bridge (sender : Address) (timestamp : Nat) (call : BridgeCall)
  | identities (a : IdentityAction)
  | zkReputation (a : Action)
  | validations (a : ValidationAction)

def bridgeStep (env : BridgeEnv) (a : BridgeAction) (s : Bridge) :
    Except String Bridge :=
  match a with
  | .identities a => do
      return { s with identities := ← identityStep env.identity a s.identities }
  | .zkReputation a => do
      return { s with zkReputation := ← step env.zk a s.zkReputation }
  | .validations a => do
      return { s with
        validations := ← validationStep env.kamiyoTierTag a s.validations }
  | .bridge sender timestamp call =>
    match call with
    | .linkAgent agentId => s.linkAgent sender agentId
    | .unlinkAgent => s.unlinkAgent sender
    | .requestAttestation agentAddress requestedTier =>
      s.requestAttestation env timestamp agentAddress requestedTier
    | .fulfillAttestation requestHash proof threshold =>
      s.fulfillAttestation env timestamp requestHash proof threshold
    | .attestCurrentTier agentAddress =>
      s.attestCurrentTier env timestamp agentAddress
    | .batchAttestCurrentTier agentAddresses =>
      s.batchAttestCurrentTier env timestamp agentAddresses
    | .setPaused paused => do
        require (sender = s.owner) "OwnableUnauthorizedAccount"
        require (s.paused ≠ paused)
          (if paused then "EnforcedPause" else "ExpectedPause")
        return { s with paused := paused }

/-- Nobody is linked yet and nothing requested. -/
structure Bridge.Blank (s : Bridge) : Prop where
  agents : ∀ a, s.agentToIdentity a = 0
  identities : ∀ i, s.identityToAgent i = zeroAddress
  requests : ∀ h, s.attestationRequests h = ⟨zeroAddress, 0, 0, 0, false⟩

-- ==== the log

/-- A fulfilled request, the threshold proved, whether the verifier took the
proof for the agent's commitment, and whether the agent was linked to the
identity at that moment. -/
structure Fulfilment where
  request : AttestationRequest
  threshold : Nat
  verified : Bool
  linked : Bool
  deriving DecidableEq

structure BridgeLog where
  links : List (Address × Nat)
  fulfilments : List Fulfilment

def BridgeLog.empty : BridgeLog := ⟨[], []⟩

def bridgeLog (env : BridgeEnv) (a : BridgeAction) (s : Bridge)
    (g : BridgeLog) : BridgeLog :=
  match a with
  | .bridge sender _ (.linkAgent agentId) =>
    { g with links := (sender, agentId) :: g.links }
  | .bridge sender _ .unlinkAgent =>
    { g with
      links := g.links.filter (· ≠ (sender, s.agentToIdentity sender)) }
  | .bridge _ _ (.fulfillAttestation requestHash proof threshold) =>
    let request := s.attestationRequests requestHash
    { g with fulfilments :=
      ⟨request, threshold, s.verifies env request.agentAddress proof threshold,
        decide ((request.agentAddress, request.agentId) ∈ g.links)⟩
        :: g.fulfilments }
  | _ => g

/-- The bridge, with what happened to it. -/
def loggedStep (env : BridgeEnv) : BridgeAction → Bridge × BridgeLog →
    Except String (Bridge × BridgeLog) :=
  tracked (bridgeStep env) (bridgeLog env)

/-- A proof of the tier asked for, or of a higher one, for the agent that is
linked to the identity. -/
structure Fulfilment.Sound (f : Fulfilment) : Prop where
  verified : f.verified = true
  tier : f.request.requestedTier ≤ (Bridge.thresholdToTier f.threshold).toNat
  linked : f.linked = true

/-- The maps hold the links, one for an agent, whoever is linked can unlink,
and the attestations fulfilled are sound. -/
structure Bridged (x : Bridge × BridgeLog) : Prop where
  links : ∀ i a, a ≠ zeroAddress → (x.1.identityToAgent i = a
    ↔ (a, i) ∈ x.2.links ∧ ∀ j, (a, j) ∈ x.2.links → j = i)
  unlinks : ∀ a i, (a, i) ∈ x.2.links → ∃ s', x.1.unlinkAgent a = .ok s'
  fulfilments : ∀ f ∈ x.2.fulfilments, f.Sound

/-- No one links identity 0, and a request is fulfilled for an agent that is
still the identity's and with a tier that was asked for. -/
def BridgeSafe (a : BridgeAction) (x : Bridge × BridgeLog) : Prop :=
  match a with
  | .bridge _ _ (.linkAgent agentId) => agentId ≠ 0
  | .bridge _ _ (.fulfillAttestation requestHash _ threshold) =>
    let request := x.1.attestationRequests requestHash
    x.1.identityToAgent request.agentId = request.agentAddress
      ∧ request.requestedTier ≤ (Bridge.thresholdToTier threshold).toNat
  | _ => True

instance (a : BridgeAction) (x : Bridge × BridgeLog) :
    Decidable (BridgeSafe a x) :=
  match a with
  | .bridge _ _ (.linkAgent agentId) =>
    inferInstanceAs (Decidable (agentId ≠ 0))
  | .bridge _ _ (.fulfillAttestation _ _ _) =>
    inferInstanceAs (Decidable (_ ∧ _))
  | .bridge _ _ .unlinkAgent | .bridge _ _ (.requestAttestation _ _)
  | .bridge _ _ (.attestCurrentTier _) | .bridge _ _ (.batchAttestCurrentTier _)
  | .bridge _ _ (.setPaused _) | .identities _ | .zkReputation _
  | .validations _ => isTrue trivial

-- ==== steps

variable {env : BridgeEnv} {a : BridgeAction} {s s' : Bridge} {g : BridgeLog}

/-- What a step does to the links and the requests. -/
inductive BridgeEffect (env : BridgeEnv) (a : BridgeAction) (s : Bridge) :
    Bridge → Prop
  | linked (sender : Address) (timestamp agentId : Nat)
      (hcall : a = .bridge sender timestamp (.linkAgent agentId))
      (hsender : sender ≠ zeroAddress) (hfree : s.agentToIdentity sender = 0)
      (hopen : s.identityToAgent agentId = zeroAddress) :
      BridgeEffect env a s { s with
        agentToIdentity := update s.agentToIdentity sender agentId
        identityToAgent := update s.identityToAgent agentId sender }
  | unlinked (sender : Address) (timestamp : Nat)
      (hcall : a = .bridge sender timestamp .unlinkAgent)
      (hlinked : s.agentToIdentity sender ≠ 0) :
      BridgeEffect env a s { s with
        agentToIdentity := update s.agentToIdentity sender 0
        identityToAgent :=
          update s.identityToAgent (s.agentToIdentity sender) zeroAddress }
  | requested (agentAddress : Address) (requestHash : Hash)
      (request : AttestationRequest) (validations : Validations)
      (hcall : ∃ sender timestamp requestedTier, a
        = .bridge sender timestamp
          (.requestAttestation agentAddress requestedTier))
      (hagent : request.agentAddress = agentAddress)
      (hid : request.agentId = s.agentToIdentity agentAddress)
      (hlinked : s.agentToIdentity agentAddress ≠ 0) :
      BridgeEffect env a s { s with
        attestationRequests := update s.attestationRequests requestHash request
        validations := validations }
  | fulfilled (requestHash : Hash) (proof : Proof) (threshold : Nat)
      (validations : Validations)
      (hcall : ∃ sender timestamp, a = .bridge sender timestamp
        (.fulfillAttestation requestHash proof threshold))
      (hfound : (s.attestationRequests requestHash).timestamp ≠ 0)
      (hverified : s.verifies env
        (s.attestationRequests requestHash).agentAddress proof threshold
          = true) :
      BridgeEffect env a s { s with
        attestationRequests := update s.attestationRequests requestHash
          { s.attestationRequests requestHash with fulfilled := true }
        validations := validations }
  | aside (paused : Bool) (identities : Identities)
      (zkReputation : Reputation) (validations : Validations)
      (hsafe : ∀ g, BridgeSafe a (s, g))
      (hlog : ∀ g, bridgeLog env a s g = g) :
      BridgeEffect env a s { s with
        paused := paused
        identities := identities
        zkReputation := zkReputation
        validations := validations }

theorem attest_ok {timestamp agentId : Nat} {agentAddress : Address}
    {requestHash : Hash}
    (h : s.attest env timestamp agentAddress agentId requestHash = .ok s') :
    ∃ validations, s' = { s with validations := validations } := by
  obtain ⟨_, -, validations, -, h⟩ := bind_ok₂.mp h
  cases h
  exact ⟨validations, rfl⟩

theorem attestEach_ok {timestamp : Nat} (agentAddresses : List Address) :
    ∀ {i : Nat} {s : Bridge},
      Bridge.attestEach env timestamp s i agentAddresses = .ok s' →
        ∃ validations, s' = { s with validations := validations } := by
  induction agentAddresses with
  | nil =>
    intro i s h
    cases h
    exact ⟨_, rfl⟩
  | cons agentAddress rest ih =>
    intro i s h
    obtain ⟨next, hnext, h⟩ := bind_ok.mp h
    obtain ⟨validations, hs'⟩ := ih h
    split at hnext
    · cases hnext
      exact ⟨validations, hs'⟩
    · obtain ⟨_, rfl⟩ := attest_ok hnext
      exact ⟨validations, hs'⟩

theorem bridgeStep_effect (h : bridgeStep env a s = .ok s') :
    BridgeEffect env a s s' := by
  cases a with
  | identities a =>
    obtain ⟨identities, -, h⟩ := bind_ok.mp h
    cases h
    exact .aside s.paused identities s.zkReputation s.validations
      (fun _ => trivial) fun _ => rfl
  | zkReputation a =>
    obtain ⟨zkReputation, -, h⟩ := bind_ok.mp h
    cases h
    exact .aside s.paused s.identities zkReputation s.validations
      (fun _ => trivial) fun _ => rfl
  | validations a =>
    obtain ⟨validations, -, h⟩ := bind_ok.mp h
    cases h
    exact .aside s.paused s.identities s.zkReputation validations
      (fun _ => trivial) fun _ => rfl
  | bridge sender timestamp call =>
    cases call with
    | linkAgent agentId =>
      obtain ⟨_, -, _, hfree, _, hopen, owner, howned, h⟩ := bind_ok₄.mp h
      obtain ⟨_, howner, _, -, h⟩ := bind_ok₂.mp h
      cases h
      obtain ⟨_, hne, howned⟩ := bind_ok.mp howned
      refine .linked sender timestamp agentId rfl ?_
        (require_ok.mp hfree) (require_ok.mp hopen)
      rw [← require_ok.mp howner, ← pure_ok.mp howned]
      exact require_ok.mp hne
    | unlinkAgent =>
      obtain ⟨_, hlinked, h⟩ := bind_ok.mp h
      cases h
      exact .unlinked sender timestamp rfl (require_ok.mp hlinked)
    | requestAttestation agentAddress requestedTier =>
      obtain ⟨_, -, _, hlinked, validations, -, h⟩ := bind_ok₃.mp h
      cases h
      exact .requested agentAddress _ _ validations
        ⟨sender, timestamp, requestedTier, rfl⟩ rfl rfl
        (require_ok.mp hlinked)
    | fulfillAttestation requestHash proof threshold =>
      obtain ⟨_, -, _, hfound, _, -, h⟩ := bind_ok₃.mp h
      obtain ⟨_, hverified, validations, -, h⟩ := bind_ok₂.mp h
      cases h
      exact .fulfilled requestHash proof threshold validations
        ⟨sender, timestamp, rfl⟩ (require_ok.mp hfound)
        (require_ok.mp hverified)
    | attestCurrentTier agentAddress =>
      obtain ⟨_, -, _, -, h⟩ := bind_ok₂.mp h
      obtain ⟨validations, rfl⟩ := attest_ok h
      exact .aside s.paused s.identities s.zkReputation validations
        (fun _ => trivial) fun _ => rfl
    | batchAttestCurrentTier agentAddresses =>
      obtain ⟨_, -, h⟩ := bind_ok.mp h
      obtain ⟨validations, rfl⟩ := attestEach_ok agentAddresses h
      exact .aside s.paused s.identities s.zkReputation validations
        (fun _ => trivial) fun _ => rfl
    | setPaused paused =>
      obtain ⟨_, -, _, -, h⟩ := bind_ok₂.mp h
      cases h
      exact .aside paused s.identities s.zkReputation s.validations
        (fun _ => trivial) fun _ => rfl

-- ==== links

/-- The maps hold the links: the identities' map all of them, the agents'
those to identities but 0. -/
structure Paired (x : Bridge × BridgeLog) : Prop where
  identities : ∀ a i, (a, i) ∈ x.2.links
    ↔ x.1.identityToAgent i = a ∧ a ≠ zeroAddress
  agents : ∀ a i, i ≠ 0 → (x.1.agentToIdentity a = i ↔ (a, i) ∈ x.2.links)
  requests : ∀ h, (x.1.attestationRequests h).timestamp ≠ 0 →
    (x.1.attestationRequests h).agentAddress ≠ zeroAddress

theorem Paired.carried {x y : Bridge × BridgeLog} (h : Paired x)
    (hidentities : y.1.identityToAgent = x.1.identityToAgent)
    (hagents : y.1.agentToIdentity = x.1.agentToIdentity)
    (hlinks : y.2.links = x.2.links)
    (hrequests : ∀ r, (y.1.attestationRequests r).timestamp ≠ 0 →
      (y.1.attestationRequests r).agentAddress ≠ zeroAddress) :
    Paired y := by
  refine ⟨?_, ?_, hrequests⟩
  · rw [hidentities, hlinks]
    exact h.identities
  · rw [hagents, hlinks]
    exact h.agents

/-- A free agent is linked to no identity but 0, an open identity to no
agent. -/
theorem Paired.linked {sender : Address} {agentId : Nat}
    (h : Paired (s, g)) (hsender : sender ≠ zeroAddress)
    (hfree : s.agentToIdentity sender = 0)
    (hopen : s.identityToAgent agentId = zeroAddress) :
    Paired ({ s with
      agentToIdentity := update s.agentToIdentity sender agentId
      identityToAgent := update s.identityToAgent agentId sender },
      { g with links := (sender, agentId) :: g.links }) := by
  have hold : ∀ {b i}, (b, i) ∈ g.links → i ≠ agentId := by
    intro b i hmem heq
    obtain ⟨hb, hne⟩ := (h.identities b i).mp hmem
    rw [heq] at hb
    exact hne (hb.symm.trans hopen)
  refine ⟨?_, ?_, h.requests⟩
  · intro b i
    dsimp only
    rw [List.mem_cons, Prod.mk.injEq, h.identities b i]
    by_cases hi : i = agentId
    · subst hi
      rw [update_self, hopen]
      constructor
      · rintro (⟨rfl, -⟩ | ⟨hb, hne⟩)
        · exact ⟨rfl, hsender⟩
        · exact absurd hb.symm hne
      · rintro ⟨rfl, -⟩
        exact Or.inl ⟨rfl, rfl⟩
    · rw [update_of_ne hi]
      simp [hi]
  · intro b i hi
    dsimp only
    rw [List.mem_cons, Prod.mk.injEq]
    by_cases hb : b = sender
    · subst hb
      have hnone : (b, i) ∉ g.links := by
        rw [← h.agents b i hi, hfree]
        exact Ne.symm hi
      rw [update_self]
      constructor
      · rintro rfl
        exact Or.inl ⟨rfl, rfl⟩
      · rintro (⟨-, rfl⟩ | hmem)
        · rfl
        · exact absurd hmem hnone
    · rw [update_of_ne hb, h.agents b i hi]
      simp [hb]

theorem Paired.unlinked {sender : Address} (h : Paired (s, g))
    (hlinked : s.agentToIdentity sender ≠ 0) :
    Paired ({ s with
      agentToIdentity := update s.agentToIdentity sender 0
      identityToAgent :=
        update s.identityToAgent (s.agentToIdentity sender) zeroAddress },
      { g with
        links := g.links.filter (· ≠ (sender, s.agentToIdentity sender)) })
    := by
  have hmem := (h.agents sender _ hlinked).mp rfl
  obtain ⟨hself, hsender⟩ := (h.identities _ _).mp hmem
  refine ⟨?_, ?_, h.requests⟩
  · intro b i
    dsimp only
    rw [List.mem_filter, h.identities b i, decide_eq_true_iff]
    by_cases hi : i = s.agentToIdentity sender
    · rw [hi, update_self, hself]
      constructor
      · rintro ⟨⟨rfl, -⟩, hne⟩
        exact absurd rfl hne
      · rintro ⟨hb, hne⟩
        exact absurd hb.symm hne
    · rw [update_of_ne hi]
      simp [hi]
  · intro b i hi
    dsimp only
    rw [List.mem_filter, decide_eq_true_iff, ← h.agents b i hi]
    by_cases hb : b = sender
    · subst hb
      rw [update_self]
      constructor
      · intro hzero
        exact absurd hzero.symm hi
      · rintro ⟨hid, hne⟩
        exact absurd (by rw [hid]) hne
    · rw [update_of_ne hb]
      simp [hb]

theorem put_requests {m : Hash → AttestationRequest} {r : Hash}
    {request : AttestationRequest}
    (hm : ∀ h, (m h).timestamp ≠ 0 → (m h).agentAddress ≠ zeroAddress)
    (hrequest : request.timestamp ≠ 0 → request.agentAddress ≠ zeroAddress) :
    ∀ h, (update m r request h).timestamp ≠ 0 →
      (update m r request h).agentAddress ≠ zeroAddress := by
  intro h
  by_cases hr : h = r
  · rw [hr, update_self]
    exact hrequest
  · rw [update_of_ne hr]
    exact hm h

theorem paired_step (h : Paired (s, g)) (hstep : bridgeStep env a s = .ok s') :
    Paired (s', bridgeLog env a s g) := by
  have heffect := bridgeStep_effect hstep
  cases heffect with
  | linked sender timestamp agentId hcall hsender hfree hopen =>
    subst hcall
    exact h.linked hsender hfree hopen
  | unlinked sender timestamp hcall hlinked =>
    subst hcall
    exact h.unlinked hlinked
  | requested agentAddress requestHash request _ hcall hagent hid hlinked =>
    obtain ⟨_, _, _, rfl⟩ := hcall
    refine h.carried rfl rfl rfl (put_requests h.requests fun _ => ?_)
    rw [hagent]
    exact ((h.identities _ _).mp ((h.agents _ _ hlinked).mp rfl)).2
  | fulfilled requestHash proof threshold _ hcall hfound _ =>
    obtain ⟨_, _, rfl⟩ := hcall
    exact h.carried rfl rfl rfl
      (put_requests h.requests fun _ => h.requests _ hfound)
  | aside _ _ _ _ _ hlog =>
    rw [hlog]
    exact h.carried rfl rfl rfl h.requests

/-- Whatever the two maps say of links, the state is bridged exactly if no
one is linked to identity 0 and what was fulfilled is sound. -/
theorem bridged_iff {x : Bridge × BridgeLog} (h : Paired x) :
    Bridged x ↔ (∀ a, (a, 0) ∉ x.2.links) ∧ ∀ f ∈ x.2.fulfilments, f.Sound := by
  constructor
  · intro hx
    refine ⟨fun a hzero => ?_, hx.fulfilments⟩
    obtain ⟨s', hok⟩ := hx.unlinks a 0 hzero
    obtain ⟨_, hlinked, -⟩ := bind_ok.mp hok
    have hne := require_ok.mp hlinked
    have hmem := (h.agents a _ hne).mp rfl
    obtain ⟨hself, ha⟩ := (h.identities _ _).mp hmem
    exact hne (((hx.links _ a ha).mp hself).2 0 hzero).symm
  · rintro ⟨hzero, hsound⟩
    have hat : ∀ {a i}, (a, i) ∈ x.2.links →
        i ≠ 0 ∧ x.1.agentToIdentity a = i := by
      intro a i hmem
      have hi : i ≠ 0 := by
        rintro rfl
        exact hzero a hmem
      exact ⟨hi, (h.agents a i hi).mpr hmem⟩
    refine ⟨?_, ?_, hsound⟩
    · intro i a ha
      rw [h.identities a i, and_iff_left ha]
      refine ⟨fun heq => ⟨heq, fun j hj => ?_⟩, fun hboth => hboth.1⟩
      have hi := hat ((h.identities a i).mpr ⟨heq, ha⟩)
      rw [← (hat hj).2]
      exact hi.2
    · intro a i hmem
      obtain ⟨hi, hagent⟩ := hat hmem
      refine ⟨_, bind_ok.mpr ⟨(), require_ok.mpr ?_, rfl⟩⟩
      rw [hagent]
      exact hi

theorem bridged_step (hp : Paired (s, g)) (h : Bridged (s, g))
    (hstep : bridgeStep env a s = .ok s') :
    Bridged (s', bridgeLog env a s g) ↔ BridgeSafe a (s, g) := by
  obtain ⟨hzero, hsound⟩ := (bridged_iff hp).mp h
  rw [bridged_iff (paired_step hp hstep)]
  have heffect := bridgeStep_effect hstep
  cases heffect with
  | linked sender timestamp agentId hcall _ _ _ =>
    subst hcall
    constructor
    · rintro ⟨hnone, -⟩ hid
      exact hnone sender (List.mem_cons.mpr (Or.inl (by rw [hid])))
    · intro hid
      refine ⟨fun b hmem => ?_, hsound⟩
      rcases List.mem_cons.mp hmem with heq | hmem
      · exact hid (congrArg Prod.snd heq).symm
      · exact hzero b hmem
  | unlinked sender timestamp hcall _ =>
    subst hcall
    refine iff_of_true ⟨fun b hmem => ?_, hsound⟩ trivial
    exact hzero b (List.mem_filter.mp hmem).1
  | requested agentAddress requestHash request _ hcall _ _ _ =>
    obtain ⟨_, _, _, rfl⟩ := hcall
    exact iff_of_true ⟨hzero, hsound⟩ trivial
  | fulfilled requestHash proof threshold _ hcall hfound hverified =>
    obtain ⟨_, _, rfl⟩ := hcall
    have hagent := hp.requests _ hfound
    have hlinked := (hp.identities
      (s.attestationRequests requestHash).agentAddress
      (s.attestationRequests requestHash).agentId).trans
        (and_iff_left hagent)
    constructor
    · rintro ⟨-, hall⟩
      have hf := hall _ List.mem_cons_self
      exact ⟨hlinked.mp (of_decide_eq_true hf.linked), hf.tier⟩
    · rintro ⟨hself, htier⟩
      refine ⟨hzero, fun f hf => ?_⟩
      rcases List.mem_cons.mp hf with rfl | hf
      · exact ⟨hverified, htier, decide_eq_true (hlinked.mpr hself)⟩
      · exact hsound f hf
  | aside _ _ _ _ hsafe hlog =>
    rw [hlog]
    exact iff_of_true ⟨hzero, hsound⟩ (hsafe g)

-- ==== runs

theorem blank_paired (h : s.Blank) : Paired (s, .empty) := by
  refine ⟨?_, ?_, ?_⟩
  · intro a i
    refine iff_of_false List.not_mem_nil ?_
    rintro ⟨ha, hne⟩
    exact hne (ha.symm.trans (h.identities i))
  · intro a i hi
    refine iff_of_false ?_ List.not_mem_nil
    intro ha
    exact hi (ha.symm.trans (h.agents a))
  · intro r hr
    rw [h.requests] at hr
    exact absurd rfl hr

/-- In a run from the start every state is bridged if and only if no one
links identity 0 and every attestation is fulfilled for an agent that is
still linked, and with a tier that was asked for. -/
theorem bridge_links_iff {tr : List BridgeAction} {y : Bridge × BridgeLog}
    (h : s.Blank) (hrun : run (loggedStep env) (s, .empty) tr = .ok y) :
    Throughout (loggedStep env) Bridged (s, .empty) tr
      ↔ Meets (loggedStep env) BridgeSafe (s, .empty) tr := by
  have hstart : Bridged (s, .empty) := by
    refine (bridged_iff (blank_paired h)).mpr ⟨?_, ?_⟩
    · exact fun _ => List.not_mem_nil
    · exact fun _ hf => absurd hf List.not_mem_nil
  refine throughout_iff_meets Paired ?_ ?_ (blank_paired h) hstart hrun
  · rintro a ⟨x, g⟩ ⟨x', g'⟩ hp hstep
    obtain ⟨hstep, hg⟩ := tracked_ok.mp hstep
    dsimp only at hg
    rw [hg]
    exact paired_step hp hstep
  · rintro a ⟨x, g⟩ ⟨x', g'⟩ hp hx hstep
    obtain ⟨hstep, hg⟩ := tracked_ok.mp hstep
    dsimp only at hg
    rw [hg]
    exact bridged_step hp hx hstep

-- ==== examples

namespace Concrete

/-- A verifier that takes proofs up to what the commitment is. -/
def bridgeEnv : BridgeEnv where
  identity := ⟨fun _ => 0, fun _ _ _ => 0, fun _ _ => .error "ECDSA"⟩
  zk := ⟨fun _ _ threshold commitment => decide (threshold ≤ commitment)⟩
  kamiyoTierTag := 1
  zkVerifiedTag := 2
  requestHash agentAddress agentId requestedTier timestamp :=
    ((agentAddress * 100 + agentId) * 10 + requestedTier) * 10000 + timestamp
  currentTierHash _ _ _ := 0
  batchHash _ _ _ _ := 0

def newBridge : Bridge where
  owner := 1
  this := 9
  paused := false
  verifier := 8
  identities := {
    owner := 1
    paused := false
    nextTokenId := 0
    owners := fun _ => 0
    tokenApprovals := fun _ => 0
    operatorApprovals := fun _ _ => false
    metadata := fun _ _ => []
    agentWallets := fun _ => 0
    entered := [] }
  zkReputation := {
    owner := 1
    verifier := 8
    decayPeriod := 0
    paused := false
    agents := fun _ => Agent.empty
    commitmentUsed := fun _ => false
    number := 100
    accepted := fun _ => [] }
  validations := {
    owner := 1
    paused := false
    validations := fun _ => ValidationRecord.empty
    agentValidations := fun _ => []
    validatorRequests := fun _ => [] }
  agentToIdentity := fun _ => 0
  identityToAgent := fun _ => zeroAddress
  attestationRequests := fun _ => ⟨zeroAddress, 0, 0, 0, false⟩

theorem newBridge_blank : newBridge.Blank :=
  ⟨fun _ => rfl, fun _ => rfl, fun _ => rfl⟩

/-- A call of account 5 at time 1000. -/
def ofFive (call : BridgeCall) : BridgeAction := .bridge 5 1000 call

/-- Account 5 has identities 0 and 1, and a commitment of 95. -/
def twoIdentities : List BridgeAction :=
  [.identities ⟨5, 1000, .register []⟩, .identities ⟨5, 1000, .registered⟩,
    .identities ⟨5, 1000, .register []⟩, .identities ⟨5, 1000, .registered⟩,
    .zkReputation (.call 5 (.register 95))]

/-- Linked to identity 1, account 5 asks to be attested Platinum. -/
def askedPlatinum : List BridgeAction :=
  twoIdentities ++ [ofFive (.linkAgent 1), ofFive (.requestAttestation 5 4)]

/-- The request is fulfilled with a proof of the threshold. -/
def fulfil (threshold : Nat) : BridgeAction :=
  ofFive (.fulfillAttestation 50141000 ⟨(0, 0), ((0, 0), (0, 0)), (0, 0)⟩
    threshold)

end Concrete

/-- A proof of 90 is Platinum, and the agent can unlink. -/
theorem bridge_links_of_platinum :
    ∃ y, Concrete.newBridge.Blank
      ∧ run (loggedStep Concrete.bridgeEnv) (Concrete.newBridge, .empty)
        (Concrete.askedPlatinum
          ++ [Concrete.fulfil 90, Concrete.ofFive .unlinkAgent]) = .ok y
      ∧ Throughout (loggedStep Concrete.bridgeEnv) Bridged
        (Concrete.newBridge, .empty) (Concrete.askedPlatinum
          ++ [Concrete.fulfil 90, Concrete.ofFive .unlinkAgent]) := by
  obtain ⟨y, hrun, -, hmeets⟩ := run_of_check
    (fun a x h => of_decide_eq_true (p := BridgeSafe a x) h)
    (show checkRun (loggedStep Concrete.bridgeEnv)
      (fun a x => decide (BridgeSafe a x)) (fun _ => true)
      (Concrete.newBridge, .empty) (Concrete.askedPlatinum
        ++ [Concrete.fulfil 90, Concrete.ofFive .unlinkAgent]) = true by decide)
  exact ⟨y, Concrete.newBridge_blank, hrun,
    (bridge_links_iff Concrete.newBridge_blank hrun).mpr hmeets⟩

/-- Linked to identity 0 an agent cannot unlink, and can link another
identity. A request for Platinum is fulfilled with a proof of nothing, and
after the agent has unlinked. -/
theorem bridge_links_broken :
    Concrete.newBridge.Blank
      ∧ (∃ y, run (loggedStep Concrete.bridgeEnv)
          (Concrete.newBridge, .empty) (Concrete.twoIdentities
            ++ [Concrete.ofFive (.linkAgent 0)]) = .ok y
        ∧ y.1.identityToAgent 0 = 5 ∧ (5, 0) ∈ y.2.links
        ∧ ∀ s', y.1.unlinkAgent 5 ≠ .ok s')
      ∧ (∃ y, run (loggedStep Concrete.bridgeEnv)
          (Concrete.newBridge, .empty) (Concrete.twoIdentities
            ++ [Concrete.ofFive (.linkAgent 0),
              Concrete.ofFive (.linkAgent 1)]) = .ok y
        ∧ y.1.identityToAgent 0 = 5 ∧ y.1.identityToAgent 1 = 5)
      ∧ (∃ y f, run (loggedStep Concrete.bridgeEnv)
          (Concrete.newBridge, .empty)
            (Concrete.askedPlatinum ++ [Concrete.fulfil 0]) = .ok y
        ∧ f ∈ y.2.fulfilments ∧ f.request.requestedTier = 4
        ∧ f.threshold = 0 ∧ ¬ f.Sound)
      ∧ ∃ y f, run (loggedStep Concrete.bridgeEnv)
          (Concrete.newBridge, .empty) (Concrete.askedPlatinum
            ++ [Concrete.ofFive .unlinkAgent, Concrete.fulfil 90]) = .ok y
        ∧ f ∈ y.2.fulfilments ∧ f.linked = false ∧ ¬ f.Sound := by
  refine ⟨Concrete.newBridge_blank, ?_, ?_, ?_, ?_⟩
  · obtain ⟨y, hrun, hy⟩ := check_ok (show check
        (fun y : Bridge × BridgeLog => decide (y.1.identityToAgent 0 = 5
          ∧ (5, 0) ∈ y.2.links ∧ y.1.agentToIdentity 5 = 0))
      (run (loggedStep Concrete.bridgeEnv) (Concrete.newBridge, .empty)
        (Concrete.twoIdentities ++ [Concrete.ofFive (.linkAgent 0)])) = true
      by decide)
    obtain ⟨hself, hlink, hzero⟩ := of_decide_eq_true hy
    refine ⟨y, hrun, hself, hlink, fun s' hok => ?_⟩
    obtain ⟨_, hlinked, -⟩ := bind_ok.mp hok
    exact require_ok.mp hlinked hzero
  · obtain ⟨y, hrun, hy⟩ := check_ok (show check
        (fun y : Bridge × BridgeLog => decide (y.1.identityToAgent 0 = 5
          ∧ y.1.identityToAgent 1 = 5))
      (run (loggedStep Concrete.bridgeEnv) (Concrete.newBridge, .empty)
        (Concrete.twoIdentities ++ [Concrete.ofFive (.linkAgent 0),
          Concrete.ofFive (.linkAgent 1)])) = true by decide)
    exact ⟨y, hrun, of_decide_eq_true hy⟩
  · obtain ⟨y, hrun, hy⟩ := check_ok (show check
        (fun y : Bridge × BridgeLog => decide (⟨⟨5, 1, 4, 1000, false⟩, 0,
          true, true⟩ ∈ y.2.fulfilments))
      (run (loggedStep Concrete.bridgeEnv) (Concrete.newBridge, .empty)
        (Concrete.askedPlatinum ++ [Concrete.fulfil 0])) = true by decide)
    refine ⟨y, _, hrun, of_decide_eq_true hy, rfl, rfl, fun hf => ?_⟩
    exact absurd hf.tier (by decide)
  · obtain ⟨y, hrun, hy⟩ := check_ok (show check
        (fun y : Bridge × BridgeLog => decide (⟨⟨5, 1, 4, 1000, false⟩, 90,
          true, false⟩ ∈ y.2.fulfilments))
      (run (loggedStep Concrete.bridgeEnv) (Concrete.newBridge, .empty)
        (Concrete.askedPlatinum ++ [Concrete.ofFive .unlinkAgent,
          Concrete.fulfil 90])) = true by decide)
    refine ⟨y, _, hrun, of_decide_eq_true hy, rfl, fun hf => ?_⟩
    exact absurd hf.linked (by decide)

end KamiyoProtocol.ZkReputation
