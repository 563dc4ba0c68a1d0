/-
Swarm actions of the hive program: proposals agents vote on anonymously,
and tasks they bid for under seal.

A vote is committed behind a zero-knowledge proof of membership and
revealed later by whoever holds the salt; the account of the action keeps
the tallies. The proof checks and the Poseidon hash are parameters (`Zk`);
the hash fails on inputs that are no field elements, and the program
panics then.

The registry is read here and changed by instructions of other modules,
so it moves at will: whatever it becomes, the results hold.
-/
import KamiyoProtocol.Hive.Registry

namespace KamiyoProtocol.Hive.Swarm

open Solana Exec Function

variable {env : Env Seed}

-- ==== accounts

structure SwarmAction where
  registry : Pubkey
  proposerNullifier : Bytes
  actionHash : Bytes
  threshold : Nat
  votesFor : Nat
  votesAgainst : Nat
  weightedVotesFor : Nat
  weightedVotesAgainst : Nat
  createdSlot : Nat
  deadlineSlot : Nat
  executed : Bool

structure VoteNullifier where
  action : Pubkey
  nullifier : Bytes

/-- `VoteRecord`. The value is 0 before the reveal, then 1 for yes and 2
for no. -/
structure VoteRecord where
  swarmAction : Pubkey
  voteNullifier : Bytes
  voteCommitment : Bytes
  revealed : Bool
  voteValue : Nat

structure SwarmActionBid where
  registry : Pubkey
  proposerNullifier : Bytes
  actionHash : Bytes
  threshold : Nat
  minBid : Nat
  voteCount : Nat
  revealedCount : Nat
  yesVotes : Nat
  noVotes : Nat
  createdSlot : Nat
  voteDeadlineSlot : Nat
  revealDeadlineSlot : Nat
  executed : Bool
  highestYesBid : Nat
  highestYesBidderNullifier : Bytes

structure VoteBidRecord where
  swarmAction : Pubkey
  voteNullifier : Bytes
  voteCommitment : Bytes
  bidCommitment : Bytes
  revealed : Bool
  voteValue : Nat
  bidAmount : Nat

structure World where
  slot : Nat
  registry : Option AgentRegistry
  tokens : Tokens
  actions : Pubkey → Option SwarmAction
  nullifiers : Pubkey → Option VoteNullifier
  records : List (Pubkey × VoteRecord)
  bidActions : Pubkey → Option SwarmActionBid
  bidNullifiers : Pubkey → Option VoteNullifier
  bidRecords : List (Pubkey × VoteBidRecord)

def World.setAction (w : World) (k : Pubkey) (a : SwarmAction) : World :=
  { w with actions := update w.actions k (some a) }

def World.setBidAction (w : World) (k : Pubkey) (a : SwarmActionBid) :
    World :=
  { w with bidActions := update w.bidActions k (some a) }

section Accounts

variable (w : World) {j k : Pubkey} (a : SwarmAction) (b : SwarmActionBid)

@[simp] theorem setBidAction_self (k : Pubkey) :
    (w.setBidAction k b).bidActions k = some b :=
  update_self ..

theorem setBidAction_ne (h : k ≠ j) :
    (w.setBidAction j b).bidActions k = w.bidActions k :=
  update_of_ne h ..

end Accounts

/-- `Pubkey::default()`, the key a fresh account holds. -/
def defaultKey : Pubkey := ⟨List.replicate 32 0⟩

-- ==== outside

/-- The three parts of a Groth16 proof. -/
structure Proof where
  a : Bytes
  b : Bytes
  c : Bytes
deriving DecidableEq

/-- The hash and the proof checks the program calls. -/
structure Zk where
  /-- `hashv`, over BN254. -/
  poseidon : List Bytes → Option Bytes
  agentIdentity : Proof → List Bytes → Bool
  swarmVote : Proof → List Bytes → Bool
  swarmVoteBid : Proof → List Bytes → Bool

/-- `SWARM_VOTE_WINDOW`. -/
def swarmVoteWindow : Nat := 4500

def computeVoteCommitment (zk : Zk) (voteValue : Bool)
    (voteSalt actionHash : Bytes) : Outcome Bytes :=
  let voteInput := List.replicate 31 0 ++ [if voteValue then 1 else 0]
  okOr (zk.poseidon [voteInput, voteSalt, actionHash])
    .arithmeticPanic

def computeBidCommitment (zk : Zk) (bidAmount : Nat)
    (bidSalt actionHash : Bytes) : Outcome Bytes :=
  okOr (zk.poseidon [be32 bidAmount, bidSalt, actionHash])
    .arithmeticPanic

/-- `verify_agent_identity_proof`, against the registry as it stands. -/
def verifyAgentIdentityProof (zk : Zk) (registry : AgentRegistry)
    (proof : Proof) (nullifier : Bytes) : Outcome Unit :=
  ensure (zk.agentIdentity proof
    [registry.agentsRoot, nullifier, be32 registry.epoch] = true)
    .invalidProof

/-- 1 is yes and 2 is no. -/
def voteCode (voteValue : Bool) : Nat := if voteValue then 1 else 2

/-- `checked_add(1)` on a u32 counter. -/
def countVote (n : Nat) : Outcome Nat :=
  okOr (Fixed.checkedAdd 32 n 1) (.custom .voteOverflow)

theorem countVote_ok {n m : Nat} :
    countVote n = .ok m ↔ n + 1 < 2 ^ 32 ∧ m = n + 1 := by
  rw [countVote, okOr_ok, Fixed.checkedAdd_some]

-- ==== swarm actions

def createSwarmAction (env : Env Seed) (zk : Zk) (tx : Tx env)
    (acc : FeeAccounts) (actionHash : Bytes) (proof : Proof)
    (nullifier : Bytes) (threshold : Nat) (w : World) : Outcome World := do
  let registry ← load w.registry
  let k := env.pda (.swarmAction actionHash)
  requireFresh (w.actions k)
  checkFeeAccounts env tx w.tokens registry acc
  ensure (registry.paused = false) .protocolPaused
  ensure (0 < threshold ∧ threshold ≤ 100) .invalidThreshold
  let paid ← payFee env w.tokens registry acc feeCreateSwarmAction
  verifyAgentIdentityProof zk paid.2 proof nullifier
  let deadline ← addU64 w.slot swarmVoteWindow
  let w := { w with tokens := paid.1, registry := some paid.2 }
  .ok (w.setAction k
    { registry := env.pda .registry
      proposerNullifier := nullifier
      actionHash := actionHash
      threshold := threshold
      -- the proposer votes yes, with the default weight
      votesFor := 1
      votesAgainst := 0
      weightedVotesFor := 10000
      weightedVotesAgainst := 0
      createdSlot := w.slot
      deadlineSlot := deadline
      executed := false })

structure VoteAccounts where
  swarmAction : Pubkey
  payer : Pubkey
deriving DecidableEq

def voteSwarmAction (env : Env Seed) (zk : Zk) (tx : Tx env)
    (acc : VoteAccounts) (nullifier commitment : Bytes) (proof : Proof)
    (w : World) : Outcome World := do
  let registry ← load w.registry
  let action ← load (w.actions acc.swarmAction)
  let kn := env.pda (.vote acc.swarmAction nullifier)
  let kr := env.pda (.voteRecord acc.swarmAction nullifier)
  requireFresh (w.nullifiers kn)
  requireFresh (Keyed.locate Prod.fst w.records kr)
  requireSigner tx acc.payer
  ensure (registry.paused = false) .protocolPaused
  ensure (action.executed = false) .actionAlreadyExecuted
  ensure (w.slot ≤ action.deadlineSlot) .votingEnded
  ensure (zk.swarmVote proof [registry.agentsRoot, action.actionHash,
    nullifier, commitment] = true) .invalidProof
  -- the account was created by this instruction and holds the default key
  ensure (defaultKey ≠ acc.swarmAction) .alreadyVoted
  let record : VoteRecord :=
    { swarmAction := acc.swarmAction
      voteNullifier := nullifier
      voteCommitment := commitment
      revealed := false
      voteValue := 0 }
  let votes ← countVote action.votesFor
  let w := { w with
    nullifiers := update w.nullifiers kn
      (some ⟨acc.swarmAction, nullifier⟩)
    records := w.records ++ [(kr, record)] }
  .ok (w.setAction acc.swarmAction { action with votesFor := votes })

def executeSwarmAction (k : Pubkey) (w : World) : Outcome World := do
  let action ← load (w.actions k)
  ensure (action.executed = false) .actionAlreadyExecuted
  ensure (action.deadlineSlot < w.slot) .votingNotEnded
  let totalVotes ← okOr
    (Fixed.checkedAdd 32 action.votesFor action.votesAgainst)
    (.custom .voteOverflow)
  ensure (0 < totalVotes) .noVotes
  let weightedTotal ← okOr (Fixed.checkedAdd 64
    action.weightedVotesFor action.weightedVotesAgainst)
    (.custom .voteOverflow)
  ensure (0 < weightedTotal) .noVotes
  let scaled ← okOr (Fixed.checkedMul 64 action.weightedVotesFor 100)
    (.custom .voteOverflow)
  ensure (action.threshold ≤ scaled / weightedTotal) .thresholdNotMet
  .ok (w.setAction k { action with executed := true })

structure RevealAccounts where
  voteRecord : Pubkey
  swarmAction : Pubkey
deriving DecidableEq

/-- The tallies after a reveal. -/
def countReveal (action : SwarmAction) (voteValue : Bool) :
    Outcome SwarmAction :=
  if voteValue = true then do
    let weighted ← okOr
      (Fixed.checkedAdd 64 action.weightedVotesFor 1)
      (.custom .voteOverflow)
    .ok { action with weightedVotesFor := weighted }
  else do
    let weighted ← okOr
      (Fixed.checkedAdd 64 action.weightedVotesAgainst 1)
      (.custom .voteOverflow)
    -- the submission counted it in favour
    let against ← countVote action.votesAgainst
    .ok { action with
      weightedVotesAgainst := weighted
      votesFor := action.votesFor - 1
      votesAgainst := against }

def revealVote (zk : Zk) (acc : RevealAccounts) (voteValue : Bool)
    (voteSalt : Bytes) (w : World) : Outcome World := do
  let r ← load (Keyed.locate Prod.fst w.records acc.voteRecord)
  let record := r.2.2
  require (record.swarmAction = acc.swarmAction) .constraintRaw
  let action ← load (w.actions acc.swarmAction)
  ensure (record.revealed = false) .voteAlreadyRevealed
  ensure (action.executed = false) .actionAlreadyExecuted
  let computed ← computeVoteCommitment zk voteValue voteSalt
    action.actionHash
  ensure (computed = record.voteCommitment) .commitmentMismatch
  let counted ← countReveal action voteValue
  let w := { w with
    records := w.records.set r.1 (acc.voteRecord,
      { record with revealed := true, voteValue := voteCode voteValue }) }
  .ok (w.setAction acc.swarmAction counted)

-- ==== sealed bids

/-- The arguments of `create_swarm_action_bid` beside the proof. -/
structure BidTerms where
  actionHash : Bytes
  threshold : Nat
  minBid : Nat
  voteDeadlineSlots : Nat
  revealDeadlineSlots : Nat
deriving DecidableEq

def createSwarmActionBid (env : Env Seed) (zk : Zk) (tx : Tx env)
    (payer : Pubkey) (t : BidTerms) (proof : Proof) (nullifier : Bytes)
    (w : World) : Outcome World := do
  let registry ← load w.registry
  let k := env.pda (.swarmActionBid (env.pda .registry) t.actionHash)
  requireFresh (w.bidActions k)
  requireSigner tx payer
  ensure (registry.paused = false) .protocolPaused
  ensure (0 < t.threshold ∧ t.threshold ≤ 100) .invalidThreshold
  ensure (t.voteDeadlineSlots < t.revealDeadlineSlots) .invalidDeadline
  verifyAgentIdentityProof zk registry proof nullifier
  let voteDeadline ← addU64 w.slot t.voteDeadlineSlots
  let revealDeadline ← addU64 w.slot t.revealDeadlineSlots
  .ok (w.setBidAction k
    { registry := env.pda .registry
      proposerNullifier := nullifier
      actionHash := t.actionHash
      threshold := t.threshold
      minBid := t.minBid
      voteCount := 0
      revealedCount := 0
      yesVotes := 0
      noVotes := 0
      createdSlot := w.slot
      voteDeadlineSlot := voteDeadline
      revealDeadlineSlot := revealDeadline
      executed := false
      highestYesBid := 0
      highestYesBidderNullifier := zeroHash })

def voteBidSwarmAction (env : Env Seed) (zk : Zk) (tx : Tx env)
    (acc : VoteAccounts) (nullifier voteCommitment bidCommitment : Bytes)
    (proof : Proof) (w : World) : Outcome World := do
  let registry ← load w.registry
  let action ← load (w.bidActions acc.swarmAction)
  let kn := env.pda (.voteBid acc.swarmAction nullifier)
  let kr := env.pda (.voteBidRecord acc.swarmAction nullifier)
  requireFresh (w.bidNullifiers kn)
  requireFresh (Keyed.locate Prod.fst w.bidRecords kr)
  requireSigner tx acc.payer
  ensure (registry.paused = false) .protocolPaused
  ensure (action.executed = false) .actionAlreadyExecuted
  ensure (w.slot ≤ action.voteDeadlineSlot) .votingEnded
  ensure (zk.swarmVoteBid proof [registry.agentsRoot, action.actionHash,
    nullifier, voteCommitment, bidCommitment, be32 action.minBid] = true)
    .invalidProof
  ensure (defaultKey ≠ acc.swarmAction) .alreadyVoted
  let record : VoteBidRecord :=
    { swarmAction := acc.swarmAction
      voteNullifier := nullifier
      voteCommitment := voteCommitment
      bidCommitment := bidCommitment
      revealed := false
      voteValue := 0
      bidAmount := 0 }
  let votes ← countVote action.voteCount
  let w := { w with
    bidNullifiers := update w.bidNullifiers kn
      (some ⟨acc.swarmAction, nullifier⟩)
    bidRecords := w.bidRecords ++ [(kr, record)] }
  .ok (w.setBidAction acc.swarmAction { action with voteCount := votes })

/-- The tallies and the leader after a reveal. -/
def countBid (action : SwarmActionBid) (nullifier : Bytes)
    (voteValue : Bool) (bidAmount : Nat) : Outcome SwarmActionBid := do
  let revealed ← countVote action.revealedCount
  let action := { action with revealedCount := revealed }
  if voteValue = true then do
    let yes ← countVote action.yesVotes
    let action := { action with yesVotes := yes }
    if action.highestYesBid < bidAmount then
      .ok { action with
        highestYesBid := bidAmount
        highestYesBidderNullifier := nullifier }
    else .ok action
  else do
    let no ← countVote action.noVotes
    .ok { action with noVotes := no }

/-- The arguments of `reveal_vote_bid`. -/
structure BidReveal where
  voteValue : Bool
  voteSalt : Bytes
  bidAmount : Nat
  bidSalt : Bytes
deriving DecidableEq

def revealVoteBid (zk : Zk) (acc : RevealAccounts) (reveal : BidReveal)
    (w : World) : Outcome World := do
  let r ← load (Keyed.locate Prod.fst w.bidRecords acc.voteRecord)
  let record := r.2.2
  require (record.swarmAction = acc.swarmAction) .constraintRaw
  let action ← load (w.bidActions acc.swarmAction)
  ensure (record.revealed = false) .voteAlreadyRevealed
  ensure (action.executed = false) .actionAlreadyExecuted
  ensure (action.voteDeadlineSlot < w.slot) .revealTooEarly
  ensure (w.slot ≤ action.revealDeadlineSlot) .revealTooLate
  let vote ← computeVoteCommitment zk reveal.voteValue reveal.voteSalt
    action.actionHash
  ensure (vote = record.voteCommitment) .commitmentMismatch
  let bid ← computeBidCommitment zk reveal.bidAmount reveal.bidSalt
    action.actionHash
  ensure (bid = record.bidCommitment) .commitmentMismatch
  ensure (action.minBid ≤ reveal.bidAmount) .bidTooLow
  let counted ← countBid action record.voteNullifier reveal.voteValue
    reveal.bidAmount
  let w := { w with
    bidRecords := w.bidRecords.set r.1 (acc.voteRecord,
      { record with
        revealed := true
        voteValue := voteCode reveal.voteValue
        bidAmount := reveal.bidAmount }) }
  .ok (w.setBidAction acc.swarmAction counted)

def executeSwarmActionBid (k : Pubkey) (w : World) : Outcome World := do
  let action ← load (w.bidActions k)
  ensure (action.executed = false) .actionAlreadyExecuted
  ensure (action.revealDeadlineSlot < w.slot) .votingNotEnded
  let totalVotes ← okOr
    (Fixed.checkedAdd 64 action.yesVotes action.noVotes)
    (.custom .voteOverflow)
  ensure (0 < totalVotes) .noVotes
  let scaled ← okOr (Fixed.checkedMul 64 action.yesVotes 100)
    (.custom .voteOverflow)
  ensure (action.threshold ≤ scaled / totalVotes) .thresholdNotMet
  ensure (0 < action.highestYesBid) .noWinningBid
  .ok (w.setBidAction k { action with executed := true })

-- ==== machine

/-- The instructions, the passing of slots, and what happens to the
registry and to token accounts meanwhile. -/
inductive Op where
  | createSwarmAction (acc : FeeAccounts) (actionHash : Bytes)
      (proof : Proof) (nullifier : Bytes) (threshold : Nat)
  | voteSwarmAction (acc : VoteAccounts) (nullifier commitment : Bytes)
      (proof : Proof)
  | executeSwarmAction (k : Pubkey)
  | revealVote (acc : RevealAccounts) (voteValue : Bool)
      (voteSalt : Bytes)
  | createSwarmActionBid (payer : Pubkey) (t : BidTerms) (proof : Proof)
      (nullifier : Bytes)
  | voteBidSwarmAction (acc : VoteAccounts)
      (nullifier voteCommitment bidCommitment : Bytes) (proof : Proof)
  | revealVoteBid (acc : RevealAccounts) (reveal : BidReveal)
  | executeSwarmActionBid (k : Pubkey)
  | advanceSlot (slot : Nat)
  | changeRegistry (registry : AgentRegistry)
  | viaTokens (op : TokenOp)
deriving DecidableEq

/-- One instruction in its transaction. -/
structure Action (env : Env Seed) where
  tx : Tx env
  op : Op

/-- Run an instruction. -/
def step (env : Env Seed) (zk : Zk) (a : Action env) (w : World) :
    Outcome World :=
  match a.op with
  | .createSwarmAction acc h p n t =>
    createSwarmAction env zk a.tx acc h p n t w
  | .voteSwarmAction acc n c p => voteSwarmAction env zk a.tx acc n c p w
  | .executeSwarmAction k => executeSwarmAction k w
  | .revealVote acc v s => revealVote zk acc v s w
  | .createSwarmActionBid payer t p n =>
    createSwarmActionBid env zk a.tx payer t p n w
  | .voteBidSwarmAction acc n vc bc p =>
    voteBidSwarmAction env zk a.tx acc n vc bc p w
  | .revealVoteBid acc r => revealVoteBid zk acc r w
  | .executeSwarmActionBid k => executeSwarmActionBid k w
  | .advanceSlot slot => do
      require (w.slot ≤ slot) .constraintRaw
      .ok { w with slot := slot }
  | .changeRegistry registry => .ok { w with registry := some registry }
  | .viaTokens op => do
      let b ← okOr (op.apply a.tx w.tokens) .tokenProgramError
      .ok { w with tokens := b }

/-- Before the first swarm action. -/
structure Genesis (w : World) : Prop where
  actions : ∀ k, w.actions k = none
  records : w.records = []
  bidActions : ∀ k, w.bidActions k = none
  bidRecords : w.bidRecords = []

end KamiyoProtocol.Hive.Swarm
