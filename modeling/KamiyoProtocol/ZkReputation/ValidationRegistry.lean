/-
`ERC8004ValidationRegistry.sol`: validation requests, their responses and
the summary over them.

A request is filed under a hash that the caller chooses, and listed under
its agent and its validator. The contract compares the hash with that of
the request's URI and goes on either way, so the comparison is left out
here. That the agent exists is what the identity registry says when it is
asked, and comes with the call.
-/
import KamiyoProtocol.Lib.Evm
import KamiyoProtocol.Lib.Fixed

namespace KamiyoProtocol.ZkReputation

open Exec Evm Function

-- ==== storage

/-- A `bytes32`. -/
abbrev Hash := Nat

structure ValidationRecord where
  validatorAddress : Address
  agentId : Nat
  response : Nat
  responseHash : Hash
  tag : Hash
  timestamp : Nat
  responded : Bool
  deriving DecidableEq

/-- An entry that was never written. -/
def ValidationRecord.empty : ValidationRecord := ⟨zeroAddress, 0, 0, 0, 0, 0, false⟩

/-- The requests made of validators, and the answers. -/
structure Validations where
  owner : Address
  paused : Bool
  validations : Hash → ValidationRecord
  agentValidations : Nat → List Hash
  validatorRequests : Address → List Hash

/-- The answer to a request. -/
structure Answer where
  response : Nat
  responseHash : Hash
  tag : Hash

namespace Validations

variable (s : Validations)

def validationRequest (timestamp : Nat) (validatorAddress : Address)
    (agentId : Nat) (requestHash : Hash) (agentExists : Bool) :
    Except String Validations := do
  require (s.paused = false) "EnforcedPause"
  require (agentExists = true) "AgentNotFound"
  return { s with
    validations := update s.validations requestHash {
      validatorAddress := validatorAddress
      agentId := agentId
      response := 0
      responseHash := 0
      tag := 0
      timestamp := Fixed.wrap 64 timestamp
      responded := false }
    agentValidations := update s.agentValidations agentId
      (s.agentValidations agentId ++ [requestHash])
    validatorRequests := update s.validatorRequests validatorAddress
      (s.validatorRequests validatorAddress ++ [requestHash]) }

/-- What both ways to respond check of the record, and what they make of
it. -/
def respond (sender : Address) (timestamp : Nat) (requestHash : Hash)
    (check : Except String Unit) (answer : Answer) :
    Except String Validations := do
  let record := s.validations requestHash
  require (record.timestamp ≠ 0) "ValidationNotFound"
  require (record.validatorAddress = sender) "NotValidator"
  require (record.responded = false) "AlreadyResponded"
  check
  return { s with
    validations := update s.validations requestHash { record with
      response := answer.response
      responseHash := answer.responseHash
      tag := answer.tag
      timestamp := Fixed.wrap 64 timestamp
      responded := true } }

def validationResponse (sender : Address) (timestamp : Nat)
    (requestHash : Hash) (response : Nat) (responseHash tag : Hash) :
    Except String Validations := do
  require (s.paused = false) "EnforcedPause"
  s.respond sender timestamp requestHash
    (require (response ≤ 100) "InvalidResponse") ⟨response, responseHash, tag⟩

def tierToResponse (tier : Nat) : Nat :=
  if 4 ≤ tier then 95
  else if tier = 3 then 80
  else if tier = 2 then 60
  else if tier = 1 then 40
  else 20

/-- `kamiyoTierTag` is `keccak256("kamiyo_tier")`. -/
def validationResponseFromTier (kamiyoTierTag : Hash) (sender : Address)
    (timestamp : Nat) (requestHash : Hash) (kamiyoTier : Nat)
    (responseHash : Hash) : Except String Validations := do
  require (s.paused = false) "EnforcedPause"
  s.respond sender timestamp requestHash (.ok ())
    ⟨tierToResponse kamiyoTier, responseHash, kamiyoTierTag⟩

/-- The request counts towards a summary for validators and a tag; an empty
list stands for all validators, a zero tag for all tags. -/
def counts (validatorAddresses : List Address) (tag : Hash)
    (requestHash : Hash) : Bool :=
  let record := s.validations requestHash
  record.responded && (tag == 0 || record.tag == tag)
    && (validatorAddresses.isEmpty
      || validatorAddresses.contains record.validatorAddress)

/-- The loop of `getSummary`: how many requests count, and the sum of their
responses. -/
def summarize (validatorAddresses : List Address) (tag : Hash) :
    List Hash → Nat × Nat
  | [] => (0, 0)
  | requestHash :: rest =>
    let (total, responseSum) := summarize validatorAddresses tag rest
    if s.counts validatorAddresses tag requestHash then
      (total + 1, responseSum + (s.validations requestHash).response)
    else (total, responseSum)

structure Summary where
  count : Nat
  averageResponse : Nat

def getSummary (agentId : Nat) (validatorAddresses : List Address)
    (tag : Hash) : Summary :=
  let (total, responseSum) :=
    s.summarize validatorAddresses tag (s.agentValidations agentId)
  { count := Fixed.wrap 64 total
    averageResponse := if 0 < total then Fixed.wrap 8 (responseSum / total)
      else 0 }

end Validations

-- ==== calls

inductive ValidationCall
  | validationRequest (validatorAddress : Address) (agentId : Nat)
      (requestHash : Hash) (agentExists : Bool)
  | validationResponse (requestHash : Hash) (response : Nat)
      (responseHash tag : Hash)
  | validationResponseFromTier (requestHash : Hash) (kamiyoTier : Nat)
      (responseHash : Hash)
  | setPaused (paused : Bool)

structure ValidationAction where
  sender : Address
  timestamp : Nat
  call : ValidationCall

def validationStep (kamiyoTierTag : Hash) (a : ValidationAction)
    (s : Validations) : Except String Validations :=
  match a.call with
  | .validationRequest validatorAddress agentId requestHash agentExists =>
    s.validationRequest a.timestamp validatorAddress agentId requestHash
      agentExists
  | .validationResponse requestHash response responseHash tag =>
    s.validationResponse a.sender a.timestamp requestHash response
      responseHash tag
  | .validationResponseFromTier requestHash kamiyoTier responseHash =>
    s.validationResponseFromTier kamiyoTierTag a.sender a.timestamp
      requestHash kamiyoTier responseHash
  | .setPaused paused => do
      require (a.sender = s.owner) "OwnableUnauthorizedAccount"
      require (s.paused ≠ paused)
        (if paused then "EnforcedPause" else "ExpectedPause")
      return { s with paused := paused }

/-- No request has been made yet. -/
structure Unused (s : Validations) : Prop where
  validations : ∀ h, s.validations h = ValidationRecord.empty
  agents : ∀ agentId, s.agentValidations agentId = []
  validators : ∀ v, s.validatorRequests v = []

-- ==== steps

/-- The hash is stored: it is listed under the agent of its record. -/
def Validations.Requested (s : Validations) (h : Hash) : Prop :=
  h ∈ s.agentValidations (s.validations h).agentId
  deriving Decidable

/-- The hash a call files a request under. -/
def ValidationCall.requests : ValidationCall → Option Hash
  | .validationRequest _ _ requestHash _ => some requestHash
  | _ => none

variable {kamiyoTierTag : Hash} {s s' : Validations} {a : ValidationAction}

/-- A record's answer is given, and nothing else of it changes. -/
def ValidationRecord.answered (r : ValidationRecord) (answer : Answer)
    (timestamp : Nat) : ValidationRecord :=
  { r with
    response := answer.response
    responseHash := answer.responseHash
    tag := answer.tag
    timestamp := timestamp
    responded := true }

/-- The three things a step can do: file a request, answer one that is
stored and has no answer, or neither. -/
theorem validationStep_cases (h : validationStep kamiyoTierTag a s = .ok s') :
    (∃ requestHash record, a.call.requests = some requestHash
      ∧ record.responded = false ∧ s' = { s with
        validations := update s.validations requestHash record
        agentValidations := update s.agentValidations record.agentId
          (s.agentValidations record.agentId ++ [requestHash])
        validatorRequests := update s.validatorRequests record.validatorAddress
          (s.validatorRequests record.validatorAddress ++ [requestHash]) })
    ∨ (∃ requestHash answer timestamp, a.call.requests = none
      ∧ (s.validations requestHash).timestamp ≠ 0
      ∧ (s.validations requestHash).responded = false ∧ s' = { s with
        validations := update s.validations requestHash
          ((s.validations requestHash).answered answer timestamp) })
    ∨ (a.call.requests = none ∧ ∃ paused, s' = { s with paused := paused }) := by
  obtain ⟨sender, timestamp, call⟩ := a
  have hrespond : ∀ {x : Hash} {check : Except String Unit} {answer : Answer},
      call.requests = none →
      s.respond sender timestamp x check answer = .ok s' →
      ∃ requestHash answer timestamp, call.requests = none
        ∧ (s.validations requestHash).timestamp ≠ 0
        ∧ (s.validations requestHash).responded = false ∧ s' = { s with
          validations := update s.validations requestHash
            ((s.validations requestHash).answered answer timestamp) } := by
    intro x check answer hcall hok
    obtain ⟨_, hstored, _, -, _, hopen, _, -, hok⟩ := bind_ok₄.mp hok
    cases hok
    exact ⟨x, answer, Fixed.wrap 64 timestamp, hcall, require_ok.mp hstored,
      require_ok.mp hopen, rfl⟩
  cases call with
  | validationRequest validatorAddress agentId requestHash agentExists =>
    left
    obtain ⟨_, -, _, -, h⟩ := bind_ok₂.mp h
    cases h
    exact ⟨requestHash, ⟨validatorAddress, agentId, 0, 0, 0,
      Fixed.wrap 64 timestamp, false⟩, rfl, rfl, rfl⟩
  | validationResponse requestHash response responseHash tag =>
    right; left
    obtain ⟨_, -, h⟩ := bind_ok.mp h
    exact hrespond rfl h
  | validationResponseFromTier requestHash kamiyoTier responseHash =>
    right; left
    obtain ⟨_, -, h⟩ := bind_ok.mp h
    exact hrespond rfl h
  | setPaused paused =>
    right; right
    obtain ⟨_, -, _, -, h⟩ := bind_ok₂.mp h
    cases h
    exact ⟨rfl, paused, rfl⟩

end KamiyoProtocol.ZkReputation
