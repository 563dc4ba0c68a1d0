/-
Proof of Contribution Humanity: submissions, score commitments, proof
verification and finalisation.

An owner keeps one submission and one commitment for each chain. A proof
is verified against both and leaves a nullifier account behind, created
at an address derived from the chain and a nullifier; since an account
is created once, so is each such address.

`verify_poch_proof` reads its instruction data twice. The handler reads
all seven arguments; the account validation reads the two arguments its
`#[instruction(..)]` attribute lists, from the start of the same bytes.
The action carries the bytes, and both readers are modelled.

The pairing check is a call to a verifier outside the repository and
enters as data.
-/
import KamiyoProtocol.Lib.Borsh
import KamiyoProtocol.Kamiyo.Registry

namespace KamiyoProtocol.Kamiyo.Poch

open Solana Exec Function

-- ==== addresses

/-- The seeds of the derived addresses of the subsystem. -/
inductive Seed where
  | pochSubmission (owner : Pubkey) (chain : Bytes)
  | pochStatus (owner : Pubkey) (chain : Bytes)
  | pochCommitment (owner : Pubkey) (chain : Bytes)
  | pochNullifier (chain nullifier : Bytes)

/-- The environment, with the proof verifier: the three parts of a proof
and the public inputs. -/
structure Env extends Solana.Env Seed where
  /-- `zk::verify_poch_uniqueness_proof`. -/
  verifyPochUniquenessProof : Bytes → Bytes → Bytes → List Bytes → Bool

/-- The codes of `KamiyoError` these instructions raise. -/
inductive PochError where
  | invalidPoCHChain
  | invalidPoCHAssetDid
  | invalidPoCHIdentityDid
  | invalidPoCHPolicyId
  | invalidPoCHChallengeId
  | invalidPoCHOracleRoundId
  | invalidPoCHProofStatementId
  | pochProofNotVerified
  | pochChallengeMismatch
  | pochPolicyMismatch
  | pochAlreadyFinalized
  | pochBlockingDispute
  | pochNullifierInvalid
  | pochCommitmentMismatch
  | invalidZKProof
  | unauthorized
  | unregisteredOracle
deriving DecidableEq

abbrev Outcome (α : Type) := Result PochError α

def maxPochAssetDidLen : Nat := 192
def maxPochIdentityDidLen : Nat := 256
def maxPochPolicyIdLen : Nat := 32
def maxPochChainLen : Nat := 16
def maxPochChallengeIdLen : Nat := 64
def maxPochOracleRoundIdLen : Nat := 64
def maxPochProofStatementIdLen : Nat := 96

-- ==== accounts

structure PoCHSubmission where
  owner : Pubkey
  assetDid : Bytes
  identityDid : Bytes
  chain : Bytes
  policyId : Bytes
  scoreBundleCommitment : Bytes
  challengeId : Bytes
  proofVerified : Bool
  hasBlockingDispute : Bool
  finalized : Bool
  accepted : Bool
  createdAt : Int
  updatedAt : Int

inductive PoCHVerificationStatus where
  | pending
  | verified
  | rejected
  | disputed

structure PoCHStatus where
  owner : Pubkey
  identityDid : Bytes
  chain : Bytes
  status : PoCHVerificationStatus
  scoreBundleCommitment : Bytes
  oracleRoundId : Bytes
  proofStatementId : Bytes
  updatedAt : Int

structure PoCHCommitment where
  owner : Pubkey
  submission : Pubkey
  chain : Bytes
  policyId : Bytes
  challengeId : Bytes
  scoreBundleCommitment : Bytes
  committedAt : Int

structure PoCHNullifier where
  nullifier : Bytes
  owner : Pubkey
  chainDomainHash : Bytes
  verifiedAt : Int

def pochSubmissionSpace : Nat :=
  8 + (32 + (4 + 192) + (4 + 256) + (4 + 16) + (4 + 32) + 32 + (4 + 64)
    + 4 + 2 * 8 + 1)

def pochStatusSpace : Nat :=
  8 + (32 + (4 + 256) + (4 + 16) + 1 + 32 + (4 + 64) + (4 + 96) + 8 + 1)

def pochCommitmentSpace : Nat :=
  8 + (32 + 32 + (4 + 16) + (4 + 32) + (4 + 64) + 32 + 8 + 1)

def pochNullifierSpace : Nat := 8 + (32 + 32 + 32 + 8 + 1)

/-- Everything the instructions read or write; of the oracle registry
they read the keys. -/
structure World where
  lamports : Lamports
  oracles : List Pubkey
  submissions : Pubkey → Option PoCHSubmission
  statuses : Pubkey → Option PoCHStatus
  commitments : Pubkey → Option PoCHCommitment
  nullifiers : Pubkey → Option PoCHNullifier

def World.setSubmission (w : World) (k : Pubkey) (s : PoCHSubmission) :
    World :=
  { w with submissions := update w.submissions k (some s) }

def World.setStatus (w : World) (k : Pubkey) (s : PoCHStatus) : World :=
  { w with statuses := update w.statuses k (some s) }

def World.setCommitment (w : World) (k : Pubkey) (c : PoCHCommitment) :
    World :=
  { w with commitments := update w.commitments k (some c) }

def World.setNullifier (w : World) (k : Pubkey) (n : PoCHNullifier) :
    World :=
  { w with nullifiers := update w.nullifiers k (some n) }

variable {env : Env} {w w' : World}

/-- `init_if_needed`: fund the account unless it exists. -/
def initIfNeeded {α : Type} (env : Env) (l : Lamports) (payer k : Pubkey)
    (space : Nat) (o : Option α) : Outcome Lamports :=
  match o with
  | some _ => .ok l
  | none => fundRent env.toEnv l payer k space

-- ==== submission

/-- `"solana"` and `"base"`. -/
def chains : List Bytes :=
  [[115, 111, 108, 97, 110, 97], [98, 97, 115, 101]]

/-- The chain argument is one of the two. -/
def ValidChain (chain : Bytes) : Prop :=
  chain.length ≤ maxPochChainLen ∧ chain ∈ chains
  deriving Decidable

/-- A string argument that must not be empty, of bounded length. -/
def requireText (s : Bytes) (maxLen : Nat) (e : PochError) :
    Outcome Unit :=
  ensure (s ≠ [] ∧ s.length ≤ maxLen) e

/-- The owner a record initialised on first use keeps. -/
def firstOwner (recorded owner : Pubkey) : Pubkey :=
  if recorded = defaultPubkey then owner else recorded

/-- `[0u8; 32]`. -/
def zero32 : Bytes := List.replicate 32 0

def initPochSubmission (env : Env) (tx : Tx env.toEnv) (owner : Pubkey)
    (chain assetDid identityDid policyId : Bytes) (w : World) :
    Outcome World := do
  require (chain.length ≤ 32) .maxSeedLengthExceeded
  let k := env.pda (.pochSubmission owner chain)
  let j := env.pda (.pochStatus owner chain)
  let l₁ ← initIfNeeded env w.lamports owner k pochSubmissionSpace
    (w.submissions k)
  let l₂ ← initIfNeeded env l₁ owner j pochStatusSpace (w.statuses j)
  requireSigner tx owner
  ensure (ValidChain chain) .invalidPoCHChain
  requireText assetDid maxPochAssetDidLen .invalidPoCHAssetDid
  requireText identityDid maxPochIdentityDidLen .invalidPoCHIdentityDid
  requireText policyId maxPochPolicyIdLen .invalidPoCHPolicyId
  let recorded := ((w.statuses j).map PoCHStatus.owner).getD defaultPubkey
  .ok (({ w with lamports := l₂ }.setSubmission k
    { owner := owner
      assetDid := assetDid
      identityDid := identityDid
      chain := chain
      policyId := policyId
      scoreBundleCommitment := zero32
      challengeId := []
      proofVerified := false
      hasBlockingDispute := false
      finalized := false
      accepted := false
      createdAt := tx.clock
      updatedAt := tx.clock }).setStatus j
    { owner := firstOwner recorded owner
      identityDid := identityDid
      chain := chain
      status := .pending
      scoreBundleCommitment := zero32
      oracleRoundId := []
      proofStatementId := []
      updatedAt := tx.clock })

/-- Load a submission and validate its address. -/
def loadSubmission (env : Env) (w : World) (k owner : Pubkey) :
    Outcome PoCHSubmission := do
  let s ← load (w.submissions k)
  requireSeeds env.toEnv (.pochSubmission owner s.chain) k
  .ok s

/-- The commitment before `commit_poch_score_bundle` writes to it: as it
stands, or filled in on first use. -/
def openCommitment (o : Option PoCHCommitment) (owner submission : Pubkey)
    (s : PoCHSubmission) : PoCHCommitment :=
  let fresh : PoCHCommitment :=
    { owner := owner
      submission := submission
      chain := s.chain
      policyId := s.policyId
      challengeId := []
      scoreBundleCommitment := zero32
      committedAt := 0 }
  match o with
  | none => fresh
  | some c =>
    if c.owner = defaultPubkey then
      { fresh with
        challengeId := c.challengeId
        scoreBundleCommitment := c.scoreBundleCommitment
        committedAt := c.committedAt }
    else c

def commitPochScoreBundle (env : Env) (tx : Tx env.toEnv)
    (submission owner : Pubkey) (challengeId scoreBundleCommitment : Bytes)
    (w : World) : Outcome World := do
  let s ← loadSubmission env w submission owner
  let j := env.pda (.pochStatus owner s.chain)
  let status ← load (w.statuses j)
  let k := env.pda (.pochCommitment owner s.chain)
  let l ← initIfNeeded env w.lamports owner k pochCommitmentSpace
    (w.commitments k)
  requireSigner tx owner
  requireText challengeId maxPochChallengeIdLen .invalidPoCHChallengeId
  ensure (s.owner = owner) .unauthorized
  ensure (s.finalized = false) .pochAlreadyFinalized
  .ok ((({ w with lamports := l }.setSubmission submission
    { s with
      challengeId := challengeId
      scoreBundleCommitment := scoreBundleCommitment
      proofVerified := false
      updatedAt := tx.clock }).setCommitment k
    { openCommitment (w.commitments k) owner submission s with
      challengeId := challengeId
      scoreBundleCommitment := scoreBundleCommitment
      committedAt := tx.clock }).setStatus j
    { status with
      status := .pending
      scoreBundleCommitment := scoreBundleCommitment
      updatedAt := tx.clock })

-- ==== verification

/-- The arguments of `verify_poch_proof`, in their order. -/
structure VerifyArgs where
  chain : Bytes
  proofA : Bytes
  proofB : Bytes
  proofC : Bytes
  policyId : Bytes
  challengeId : Bytes
  identityNullifier : Bytes
deriving DecidableEq

/-- The handler's reading of the instruction data. -/
def readVerifyArgs : Borsh.Reader VerifyArgs := do
  let chain ← Borsh.string
  let proofA ← Borsh.fixed 64
  let proofB ← Borsh.fixed 128
  let proofC ← Borsh.fixed 64
  let policyId ← Borsh.string
  let challengeId ← Borsh.string
  let identityNullifier ← Borsh.fixed 32
  return ⟨chain, proofA, proofB, proofC, policyId, challengeId,
    identityNullifier⟩

/-- What `#[instruction(chain: String, identity_nullifier: [u8; 32])]`
reads for the account constraints. -/
structure VerifySeeds where
  chain : Bytes
  identityNullifier : Bytes

/-- The account validation's reading of the instruction data. -/
def readVerifySeeds : Borsh.Reader VerifySeeds := do
  let chain ← Borsh.string
  let identityNullifier ← Borsh.fixed 32
  return ⟨chain, identityNullifier⟩

/-- Read instruction data, whatever trails it. -/
def decode {α : Type} (r : Borsh.Reader α) (data : Bytes) : Outcome α :=
  okOr ((r data).map Prod.fst) .instructionDidNotDeserialize

/-- The checks of a proof against the owner's submission and
commitment. -/
def checkPochProof (env : Env) (owner submission : Pubkey)
    (args : VerifyArgs) (s : PoCHSubmission) (c : PoCHCommitment) :
    Outcome Unit := do
  ensure (ValidChain args.chain) .invalidPoCHChain
  requireText args.policyId maxPochPolicyIdLen .invalidPoCHPolicyId
  requireText args.challengeId maxPochChallengeIdLen
    .invalidPoCHChallengeId
  ensure (s.owner = owner) .unauthorized
  ensure (c.owner = s.owner) .pochCommitmentMismatch
  ensure (c.submission = submission) .pochCommitmentMismatch
  ensure (c.chain = args.chain) .invalidPoCHChain
  ensure (s.chain = args.chain) .invalidPoCHChain
  ensure (s.policyId = args.policyId) .pochPolicyMismatch
  ensure (c.policyId = args.policyId) .pochPolicyMismatch
  ensure (s.challengeId = args.challengeId) .pochChallengeMismatch
  ensure (c.challengeId = args.challengeId) .pochChallengeMismatch
  ensure (c.scoreBundleCommitment = s.scoreBundleCommitment)
    .pochCommitmentMismatch
  ensure (s.finalized = false) .pochAlreadyFinalized
  ensure (∃ b ∈ args.identityNullifier, b ≠ 0) .pochNullifierInvalid
  ensure (env.verifyPochUniquenessProof args.proofA args.proofB args.proofC
      [s.scoreBundleCommitment, env.hash args.policyId,
        env.hash args.challengeId, args.identityNullifier] = true)
    .invalidZKProof

/-- `verify_poch_proof`, on its instruction data. -/
def verifyPochProof (env : Env) (tx : Tx env.toEnv) (owner : Pubkey)
    (data : Bytes) (w : World) : Outcome World := do
  let args ← decode readVerifyArgs data
  let seeds ← decode readVerifySeeds data
  require (seeds.chain.length ≤ 32) .maxSeedLengthExceeded
  let k := env.pda (.pochSubmission owner seeds.chain)
  let s ← load (w.submissions k)
  requireSigner tx owner
  let c ← load (w.commitments (env.pda (.pochCommitment owner seeds.chain)))
  let j := env.pda (.pochNullifier seeds.chain seeds.identityNullifier)
  requireFresh (w.nullifiers j)
  let l ← fundRent env.toEnv w.lamports owner j pochNullifierSpace
  checkPochProof env owner k args s c
  .ok (({ w with lamports := l }.setNullifier j
    { nullifier := args.identityNullifier
      owner := owner
      chainDomainHash := env.hash args.chain
      verifiedAt := tx.clock }).setSubmission k
    { s with
      proofVerified := true
      updatedAt := tx.clock })

-- ==== finalisation

def finalizePoch (env : Env) (tx : Tx env.toEnv)
    (submission owner oracleSigner : Pubkey) (accepted : Bool)
    (oracleRoundId proofStatementId : Bytes) (hasBlockingDispute : Bool)
    (w : World) : Outcome World := do
  let s ← loadSubmission env w submission owner
  let j := env.pda (.pochStatus owner s.chain)
  let status ← load (w.statuses j)
  let c ← load (w.commitments (env.pda (.pochCommitment owner s.chain)))
  ensure (owner = s.owner) .unauthorized
  require (tx.systemOwned owner = true) .constraintSystemAccount
  ensure (oracleSigner ∈ w.oracles) .unregisteredOracle
  requireSigner tx oracleSigner
  requireText oracleRoundId maxPochOracleRoundIdLen
    .invalidPoCHOracleRoundId
  requireText proofStatementId maxPochProofStatementIdLen
    .invalidPoCHProofStatementId
  ensure (s.finalized = false) .pochAlreadyFinalized
  ensure (s.proofVerified = true) .pochProofNotVerified
  ensure (c.submission = submission ∧ c.challengeId = s.challengeId
    ∧ c.scoreBundleCommitment = s.scoreBundleCommitment)
    .pochCommitmentMismatch
  ensure (hasBlockingDispute = false) .pochBlockingDispute
  .ok ((w.setSubmission submission
    { s with
      hasBlockingDispute := hasBlockingDispute
      finalized := true
      accepted := accepted
      updatedAt := tx.clock }).setStatus j
    { status with
      status := if accepted then .verified else .rejected
      scoreBundleCommitment := s.scoreBundleCommitment
      oracleRoundId := oracleRoundId
      proofStatementId := proofStatementId
      updatedAt := tx.clock })

-- ==== system

/-- The instructions, and the moves of their environment: lamport
transfers, and whatever the registry's own instructions make of the
oracle list. -/
inductive Op where
  | initPochSubmission (owner : Pubkey)
      (chain assetDid identityDid policyId : Bytes)
  | commitPochScoreBundle (submission owner : Pubkey)
      (challengeId scoreBundleCommitment : Bytes)
  | verifyPochProof (owner : Pubkey) (data : Bytes)
  | finalizePoch (submission owner oracleSigner : Pubkey) (accepted : Bool)
      (oracleRoundId proofStatementId : Bytes) (hasBlockingDispute : Bool)
  | setOracles (oracles : List Pubkey)
  | systemTransfer (src dst : Pubkey) (amount : Nat)

structure Action (env : Env) where
  tx : Tx env.toEnv
  op : Op

/-- The transition function. -/
def step (env : Env) (a : Action env) (w : World) : Outcome World :=
  match a.op with
  | .initPochSubmission owner chain asset identity policy =>
    initPochSubmission env a.tx owner chain asset identity policy w
  | .commitPochScoreBundle submission owner challenge score =>
    commitPochScoreBundle env a.tx submission owner challenge score w
  | .verifyPochProof owner data => verifyPochProof env a.tx owner data w
  | .finalizePoch submission owner oracle accepted round statement
      dispute =>
    finalizePoch env a.tx submission owner oracle accepted round
      statement dispute w
  | .setOracles oracles => .ok { w with oracles := oracles }
  | .systemTransfer src dst n => do
      requireSigner a.tx src
      let l ← systemTransfer w.lamports src dst n
      .ok { w with lamports := l }

/-- Before any submission: none of the accounts exists. -/
structure Genesis (w : World) : Prop where
  submissions : ∀ k, w.submissions k = none
  statuses : ∀ k, w.statuses k = none
  commitments : ∀ k, w.commitments k = none
  nullifiers : ∀ k, w.nullifiers k = none

end KamiyoProtocol.Kamiyo.Poch
