/-
`AdminTimelock.sol`: two of three signers approve a proposal, and it is
executed by a call from the contract.

The call may go anywhere. Code outside may call back into the contract
any number of times before it returns, as any address but the contract's
own; a proposal that targets the contract makes it call itself. So the
machine below keeps a stack of the executions whose call has not returned,
each with the state to go back to if the call fails.
-/
import KamiyoProtocol.Lib.Evm

namespace KamiyoProtocol.Hyperliquid

open Exec Evm Function

-- ==== storage

abbrev Bytes := List Nat

structure Proposal where
  target : Address
  data : Bytes
  value : Nat
  executeAfter : Nat
  approvals : Nat
  executed : Bool
  cancelled : Bool

/-- An entry that was never written. -/
def Proposal.empty : Proposal := ⟨zeroAddress, [], 0, 0, 0, false, false⟩

/-- An execution as it began: who the signers were, who had approved, and
whether the proposal had been cancelled. -/
structure Execution where
  id : Nat
  signers : Fin 3 → Address
  approvedBy : Address → Bool
  cancelled : Bool

structure Timelock where
  signers : Fin 3 → Address
  nonce : Nat
  proposals : Nat → Proposal
  hasApproved : Nat → Address → Bool
  /-- The executions so far, for the statements only. -/
  executions : List Execution

/-- `TIMELOCK_PERIOD`. -/
def timelockPeriod : Nat := 0

def requiredSignatures : Nat := 2

namespace Timelock

variable (s : Timelock)

def isSigner (a : Address) : Prop := ∃ i, s.signers i = a
  deriving Decidable

def setProposal (id : Nat) (p : Proposal) : Timelock :=
  { s with proposals := update s.proposals id p }

/-- `hasApproved[id][a] = true`. -/
def setApproved (id : Nat) (a : Address) : Timelock :=
  { s with hasApproved := update s.hasApproved id (update (s.hasApproved id) a true) }

def propose (sender : Address) (timestamp : Nat) (target : Address)
    (data : Bytes) (value : Nat) : Except String Timelock := do
  require (s.isSigner sender) "NotSigner"
  return ({ s with nonce := s.nonce + 1 }.setProposal s.nonce {
      target := target
      data := data
      value := value
      executeAfter := timestamp + timelockPeriod
      approvals := 1
      executed := false
      cancelled := false }).setApproved s.nonce sender

/-- The modifiers of a call on a proposal, and its first two checks. -/
def openProposal (sender : Address) (id : Nat) : Except String Proposal := do
  require (s.isSigner sender) "NotSigner"
  let p := s.proposals id
  require (p.target ≠ zeroAddress) "ProposalNotFound"
  require (p.executed = false) "AlreadyExecuted"
  require (p.cancelled = false) "AlreadyCancelled"
  return p

def approve (sender : Address) (id : Nat) : Except String Timelock := do
  let p ← s.openProposal sender id
  require (s.hasApproved id sender = false) "AlreadyApproved"
  return (s.setApproved id sender).setProposal id
    { p with approvals := p.approvals + 1 }

/-- `execute`, up to the call it makes. -/
def execute (sender : Address) (timestamp : Nat) (id : Nat) :
    Except String (Timelock × Proposal) := do
  let p ← s.openProposal sender id
  require (requiredSignatures ≤ p.approvals) "InsufficientApprovals"
  require (p.executeAfter ≤ timestamp) "TimelockNotExpired"
  return ({ s.setProposal id { p with executed := true } with
    executions := s.executions
      ++ [⟨id, s.signers, s.hasApproved id, p.cancelled⟩] }, p)

def cancel (sender : Address) (id : Nat) : Except String Timelock := do
  let p ← s.openProposal sender id
  return s.setProposal id { p with cancelled := true }

/-- `updateSigner`; `this` is the contract's own address. -/
def updateSigner (this sender : Address) (index : Nat) (newSigner : Address) :
    Except String Timelock := do
  require (sender = this) "NotSigner"
  if h : index < 3 then
    require (newSigner ≠ zeroAddress) "ZeroAddress"
    return { s with signers := update s.signers ⟨index, h⟩ newSigner }
  else throw "InvalidSignerIndex"

end Timelock

-- ==== calls

inductive TimelockCall
  | propose (target : Address) (data : Bytes) (value : Nat)
  | approve (id : Nat)
  | execute (id : Nat)
  | cancel (id : Nat)
  | updateSigner (index : Nat) (newSigner : Address)

/-- What the contract does with calldata sent to it. -/
inductive Dispatch
  | fn (c : TimelockCall)
  | view
  | receive
  | unknown

/-- The contract's address and its ABI decoder. -/
structure TimelockEnv where
  this : Address
  decode : Bytes → Dispatch

/-- A call of a function: the state it leaves, and the proposal whose call
it makes then. -/
def invoke (env : TimelockEnv) (sender : Address) (timestamp : Nat)
    (s : Timelock) : TimelockCall → Except String (Timelock × Option Proposal)
  | .propose target data value => do
      let s ← s.propose sender timestamp target data value
      return (s, none)
  | .approve id => do
      let s ← s.approve sender id
      return (s, none)
  | .execute id => do
      let (s, p) ← s.execute sender timestamp id
      return (s, some p)
  | .cancel id => do
      let s ← s.cancel sender id
      return (s, none)
  | .updateSigner index newSigner => do
      let s ← s.updateSigner env.this sender index newSigner
      return (s, none)

/-- An execution whose call has not returned: the state before it, and the
call to itself the contract is to make next, with its value. Without one
the code outside is running. -/
structure Frame where
  saved : Timelock
  pending : Option (Dispatch × Nat)

structure Machine where
  now : Timelock
  stack : List Frame

inductive TimelockAction
  /-- A call from outside. -/
  | call (sender : Address) (timestamp : Nat) (c : TimelockCall)
  /-- The contract calls itself; `funded` is whether it has the value. -/
  | selfCall (timestamp : Nat) (funded : Bool)
  /-- The code outside returns, or reverts. -/
  | back (ok : Bool)

/-- The call a proposal makes, if it is one of the contract to itself. -/
def Proposal.pending (env : TimelockEnv) (p : Proposal) :
    Option (Dispatch × Nat) :=
  if p.target = env.this then some (env.decode p.data, p.value) else none

/-- What a call leaves: a frame for the call it makes in turn. -/
def Machine.enter (env : TimelockEnv) (saved : Timelock)
    (rest : List Frame) : Timelock × Option Proposal → Machine
  | (s, none) => ⟨s, rest⟩
  | (s, some p) => ⟨s, ⟨saved, p.pending env⟩ :: rest⟩

def Machine.step (env : TimelockEnv) (a : TimelockAction) (m : Machine) :
    Except String Machine :=
  match a, m.stack with
  | .call sender timestamp c, stack => do
      require (∀ f ∈ stack.head?, f.pending = none) "the contract is running"
      require (sender ≠ env.this) "only the contract calls as itself"
      let r ← invoke env sender timestamp m.now c
      return Machine.enter env m.now stack r
  | .selfCall timestamp funded, ⟨saved, some (dispatch, value)⟩ :: rest =>
    match dispatch with
    | .fn c =>
      if value ≠ 0 then return ⟨saved, rest⟩
      else match invoke env env.this timestamp m.now c with
        -- a call it makes in turn is the last thing this one does: both
        -- stand or fall together
        | .ok r => return Machine.enter env saved rest r
        | .error _ => return ⟨saved, rest⟩
    | .view => return ⟨if value ≠ 0 then saved else m.now, rest⟩
    | .receive => return ⟨if funded then m.now else saved, rest⟩
    | .unknown => return ⟨saved, rest⟩
  | .back ok, ⟨saved, none⟩ :: rest =>
    return ⟨if ok then m.now else saved, rest⟩
  | _, _ => throw "nothing to return from"

/-- As the constructor leaves it, with three different signers. -/
structure Deployed (m : Machine) : Prop where
  distinct : Function.Injective m.now.signers
  nonce : m.now.nonce = 0
  proposals : ∀ id, m.now.proposals id = Proposal.empty
  hasApproved : ∀ id a, m.now.hasApproved id a = false
  executions : m.now.executions = []
  stack : m.stack = []

end KamiyoProtocol.Hyperliquid
