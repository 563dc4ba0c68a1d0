/-
`dag.ts` of the swarm API: the validation of a plan, and the run of its nodes.

A run awaits the race of the promises in flight, so its steps are the passes
of its loop: entering it with what `shouldAbort` says, and one of the nodes in
flight settling. Objects that serve as maps are functions of the key; where
one is read that was made elsewhere, the read includes what it inherits.
Timestamps are left out.
-/
import KamiyoProtocol.Lib.Dag
import KamiyoProtocol.Lib.Ecma
import KamiyoProtocol.Lib.Exec
import Mathlib.Data.List.Basic

namespace KamiyoProtocol.Swarm

open Ecma (trim)

-- ==== nodes

structure DagNode (T : Type) where
  id : String
  dependsOn : List String
  data : T

inductive DagNodeStatus
  | pending
  | running
  | completed
  | failed
  | skipped
  deriving DecidableEq

/-- The result of a node. What is no result has no status. -/
structure DagRunNodeResult (Out : Type) where
  status : Option DagNodeStatus
  output : Option Out
  error : Option String

inductive DagRunStatus
  | completed
  | failed
  | cancelled
  deriving DecidableEq

-- ==== validation

section Validation

variable {T : Type}

/-- The entries of `byId`, their dependencies without repetitions. -/
def collect (entries : List (String × List String)) :
    List (DagNode T) → Except String (List (String × List String))
  | [] => .ok entries
  | n :: rest =>
    let id := trim n.id
    if id = "" then .error "node id is required"
    else if id ∈ entries.map Prod.fst then
      .error ("duplicate node id: " ++ id)
    else collect (entries ++ [(id, n.dependsOn.eraseDups)]) rest

/-- The first dependency that is the node itself, or no node. -/
def badDependency (entries : List (String × List String)) : Option String :=
  entries.findSome? fun n => n.2.findSome? fun dep =>
    if dep = n.1 then some ("node " ++ n.1 ++ " depends on itself")
    else if dep ∉ entries.map Prod.fst then
      some ("node " ++ n.1 ++ " depends on missing node: " ++ dep)
    else none

/-- The dependencies of a key. -/
def entryDeps (entries : List (String × List String)) (id : String) :
    List String :=
  ((entries.find? (·.1 = id)).map Prod.snd).getD []

/-- The order of a graph, or why there is none. -/
def validateDag (nodes : List (DagNode T)) :
    Except String (List String) := do
  let entries ← collect [] nodes
  match badDependency entries with
  | some error => .error error
  | none =>
    let order := Dag.topoSort (entries.map Prod.fst) (entryDeps entries)
    if order.length ≠ entries.length then .error "dag contains a cycle"
    else .ok order

end Validation

-- ==== runs

/-- What `runNode` comes to. -/
inductive RunOutcome (Out : Type)
  | completed (output : Option Out)
  | failed (error : String)
  | rejected (message : Option String)

/-- The result that is recorded of it. -/
def RunOutcome.result {Out : Type} : RunOutcome Out → DagRunNodeResult Out
  | .completed output => ⟨some .completed, output, none⟩
  | .failed error => ⟨some .failed, none, some error⟩
  | .rejected message =>
    ⟨some .failed, none, some (message.getD "node execution failed")⟩

/-- A verdict of `shouldAbort`. -/
structure Abort where
  status : DagRunStatus
  reason : String
  stops : status ≠ .completed

structure DagOptions (Out : Type) where
  maxParallel : Nat
  failFast : Bool
  /-- Reading a property of `initialResults`. -/
  initialResults : String → Option (DagRunNodeResult Out)

/-- A call of `runNode`, and how many were in flight with it. -/
structure NodeCall (Out : Type) where
  nodeId : String
  deps : List (String × Option (DagRunNodeResult Out))
  inFlight : Nat

/-- Where a run is: before the loop's body, at the race, or done. -/
inductive DagPhase
  | top
  | racing
  | returned
  deriving DecidableEq

structure DagState (Out : Type) where
  results : String → Option (DagRunNodeResult Out)
  remainingDeps : String → Int
  ready : List String
  inFlight : List String
  abortScheduling : Bool
  anyFailed : Bool
  abortStatus : Option DagRunStatus
  abortReason : Option String
  phase : DagPhase
  /-- The calls of `runNode` so far. -/
  calls : List (NodeCall Out)

section Runs

variable {T Out : Type} (nodes : List (DagNode T))

/-- The status of a node. -/
def DagState.statusOf (s : DagState Out) (id : String) :
    Option DagNodeStatus :=
  (s.results id).bind (·.status)

def byId (id : String) : Option (DagNode T) := nodes.find? (·.id = id)

def depsOf (id : String) : List String :=
  ((byId nodes id).map (·.dependsOn)).getD []

def dependents (id : String) : List String :=
  Dag.dependents (nodes.map (·.id)) (depsOf nodes) id

variable (options : DagOptions Out)

/-- A seed counts unless it is pending or running. -/
def initialResult (n : DagNode T) : DagRunNodeResult Out :=
  match options.initialResults n.id with
  | none => ⟨some .pending, none, none⟩
  | some seeded =>
    if seeded.status ≠ some .pending ∧ seeded.status ≠ some .running then
      seeded
    else ⟨some .pending, none, none⟩

def initialStatus (id : String) : Option DagNodeStatus :=
  ((byId nodes id).map (initialResult options)).bind (·.status)

/-- The dependencies that no seed satisfies. -/
def initialRemaining (n : DagNode T) : Nat :=
  Dag.waiting (initialStatus nodes options · = some .completed) n.dependsOn

/-- The state before the loop. -/
def initialState : DagState Out where
  results id := (byId nodes id).map (initialResult options)
  remainingDeps id :=
    match byId nodes id with
    | none => 0
    | some n =>
      if initialStatus nodes options id = some .pending
          ∧ n.dependsOn.length ≠ 0 then
        initialRemaining nodes options n
      else n.dependsOn.length
  ready :=
    (nodes.filter fun n => initialStatus nodes options n.id = some .pending
      ∧ (n.dependsOn.length = 0
        ∨ initialRemaining nodes options n = 0)).map (·.id)
  inFlight := []
  abortScheduling := false
  anyFailed := false
  abortStatus := none
  abortReason := none
  phase := .top
  calls := []

/-- The run of a plan that is not valid. -/
def rejectedState (error : String) : DagState Out :=
  { initialState nodes options with
    results := fun id =>
      (byId nodes id).map fun _ => ⟨some .failed, none, some error⟩
    anyFailed := true
    phase := .returned }

def startNode (s : DagState Out) (nodeId : String) : DagState Out :=
  match byId nodes nodeId with
  | none => s
  | some node =>
    let results :=
      Function.update s.results nodeId (some ⟨some .running, none, none⟩)
    let inFlight :=
      if nodeId ∈ s.inFlight then s.inFlight else s.inFlight ++ [nodeId]
    { s with
      results
      inFlight
      calls := s.calls ++ [⟨nodeId, node.dependsOn.map fun id =>
        (id, results id), inFlight.length⟩] }

/-- Starts what is ready while there is room. -/
def startReady : List String → DagState Out → DagState Out
  | [], s => s
  | nodeId :: ready, s =>
    if s.inFlight.length < options.maxParallel then
      startReady ready (startNode nodes { s with ready } nodeId)
    else s

def finalizePending (status : DagNodeStatus) (error : Option String)
    (s : DagState Out) : DagState Out :=
  { s with
    results := fun id => (s.results id).map fun r =>
      if r.status = some .pending then ⟨some status, none, error⟩ else r }

/-- `skipped: ${status}`. -/
def skippedBy : DagRunStatus → String
  | .completed => "skipped: completed"
  | .failed => "skipped: failed"
  | .cancelled => "skipped: cancelled"

/-- After the loop. -/
def returned (s : DagState Out) : DagState Out :=
  let s :=
    if s.abortScheduling then
      match s.abortStatus with
      | some status =>
        finalizePending .skipped
          (some (s.abortReason.getD (skippedBy status))) s
      | none => finalizePending .skipped (some "skipped: fail-fast") s
    else s
  { s with phase := .returned }

/-- The loop up to the race. -/
def enterLoop (abort : Option Abort) (s : DagState Out) : DagState Out :=
  let s :=
    if s.abortScheduling then s
    else
      match abort with
      | none => s
      | some abort =>
        { s with
          abortScheduling := true
          abortStatus := some abort.status
          abortReason := some abort.reason }
  let s :=
    if s.abortScheduling then s else startReady nodes options s.ready s
  if s.inFlight.length = 0 then returned s else { s with phase := .racing }

/-- One child of a node that is through. -/
def visitChild (childId : String) (s : DagState Out) :
    DagState Out × List String :=
  let remaining := s.remainingDeps childId - 1
  let s :=
    { s with
      remainingDeps := Function.update s.remainingDeps childId remaining }
  if remaining ≠ 0 then (s, [])
  else if s.abortScheduling then (s, [])
  else
    match byId nodes childId with
    | none => (s, [])
    | some child =>
      if child.dependsOn.all fun d => s.statusOf d = some .completed then
        ({ s with ready := s.ready ++ [childId] }, [])
      else if s.statusOf childId = some .pending then
        ({ s with
          results := Function.update s.results childId
            (some ⟨some .skipped, none,
              some "skipped: dependency failed"⟩) }, [childId])
      else (s, [])

def visitChildren : List String → DagState Out → DagState Out × List String
  | [], s => (s, [])
  | childId :: rest, s =>
    let r := visitChild nodes childId s
    let r' := visitChildren rest r.1
    (r'.1, r.2 ++ r'.2)

/-- The terminal queue. Every node is in it at most once. -/
def drain : Nat → List String → DagState Out → DagState Out
  | 0, _, s => s
  | _ + 1, [], s => s
  | fuel + 1, terminalId :: queue, s =>
    let r := visitChildren nodes (dependents nodes terminalId) s
    drain fuel (queue ++ r.2) r.1

/-- Records how a node settled. -/
def recordOutcome (nodeId : String) (outcome : RunOutcome Out)
    (s : DagState Out) : DagState Out :=
  let s :=
    { s with
      inFlight := s.inFlight.erase nodeId
      results := Function.update s.results nodeId (some outcome.result) }
  if outcome.result.status = some .completed then s
  else
    { s with
      anyFailed := true
      abortScheduling := s.abortScheduling || options.failFast }

/-- The loop from the race on. -/
def settleNode (nodeId : String) (outcome : RunOutcome Out)
    (s : DagState Out) : DagState Out :=
  { drain nodes nodes.length [nodeId] (recordOutcome options nodeId outcome s)
    with phase := .top }

/-- What happens to a run. -/
inductive DagEvent (Out : Type)
  | enter (abort : Option Abort)
  | settle (nodeId : String) (outcome : RunOutcome Out)

/-- The loop is entered, or a node that runs settles. -/
def dagStep (event : DagEvent Out) (s : DagState Out) :
    Except Unit (DagState Out) :=
  match event with
  | .enter abort =>
    if s.phase = .top then .ok (enterLoop nodes options abort s)
    else .error ()
  | .settle nodeId outcome =>
    if s.phase = .racing ∧ nodeId ∈ s.inFlight then
      .ok (settleNode nodes options nodeId outcome s)
    else .error ()

/-- `runDag`, up to the loop. -/
def runDag : DagState Out :=
  match validateDag nodes with
  | .error error => rejectedState nodes options error
  | .ok _ => initialState nodes options

def DagState.status (s : DagState Out) : DagRunStatus :=
  s.abortStatus.getD (if s.anyFailed then .failed else .completed)

end Runs

-- ==== seeds

/-- What every object inherits. -/
def objectPrototype : List String :=
  ["constructor", "__defineGetter__", "__defineSetter__", "hasOwnProperty",
    "__lookupGetter__", "__lookupSetter__", "isPrototypeOf",
    "propertyIsEnumerable", "toString", "valueOf", "__proto__",
    "toLocaleString"]

/-- Reading the object that `executeSwarmRun` passes: its own properties are
the seeds, all completed, and the rest is inherited. -/
def seedObject {Out : Type} (seeds : List String)
    (output : String → Option Out) (id : String) :
    Option (DagRunNodeResult Out) :=
  if id ∈ seeds then some ⟨some .completed, output id, none⟩
  else if id ∈ objectPrototype then some ⟨none, none, none⟩
  else none

end KamiyoProtocol.Swarm
