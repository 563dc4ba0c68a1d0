/-
The commit-reveal vote on a disputed escrow.

An oracle first commits to a hash, then, once the commit phase is over
and while the reveal phase lasts, discloses the score and the salt under
it. Commitments and submissions are appended to the escrow and never
removed; the first commitment starts the clock of both phases.

The commitment hash covers the transaction id, the score and the salt.
-/
import KamiyoProtocol.Kamiyo.Escrow

namespace KamiyoProtocol.Kamiyo

open Solana Exec

variable {env : Env Seed} {tx : Tx env} {w w' : World}

/-- `oracles.iter().find(|o| o.pubkey == key)`. -/
def findOracle (oracles : List OracleConfig) (key : Pubkey) :
    Option OracleConfig :=
  oracles.find? fun o => o.pubkey = key

/-- The oracle is registered and active. -/
def requireActiveOracle (w : World) (oracle : Pubkey) : Outcome Unit := do
  let registry ← load w.registry
  let o ← okOr (findOracle registry.oracles oracle)
    (.custom .unregisteredOracle)
  ensure (o.status = 0) .oracleNotActive

-- ==== commit

structure CommitOracleScoreAccounts where
  escrow : Pubkey
  oracle : Pubkey

/-- The end of the commit phase: the first commitment sets it, later
ones must come before it. -/
def commitPhaseEnd (clock : Int) (e : Escrow) : Outcome Int :=
  match e.commitPhaseEndsAt with
  | none => .ok (Fixed.saturatingAddI 64 clock commitPhaseDuration)
  | some endsAt => do
      ensure (clock < endsAt) .commitPhaseEnded
      .ok endsAt

/-- The escrow with one more commitment. -/
def Escrow.addCommitment (e : Escrow) (oracle : Pubkey) (hash : Bytes)
    (clock endsAt : Int) : Escrow :=
  { e with
    commitPhaseEndsAt := some endsAt
    oracleCommitments := e.oracleCommitments ++ [⟨oracle, hash, clock, false⟩] }

def commitOracleScore (env : Env Seed) (tx : Tx env)
    (acc : CommitOracleScoreAccounts) (commitmentHash : Bytes)
    (w : World) : Outcome World := do
  let e ← loadEscrow env w acc.escrow
  requireSigner tx acc.oracle
  requireUnpaused w
  ensure (e.status = .disputed) .invalidStatus
  requireActiveOracle w acc.oracle
  ensure (¬ ∃ c ∈ e.oracleCommitments, c.oracle = acc.oracle)
    .duplicateOracleCommitment
  let endsAt ← commitPhaseEnd tx.clock e
  storeEscrow w acc.escrow
    (e.addCommitment acc.oracle commitmentHash tx.clock endsAt)

/-- A commitment is the oracle's first on a disputed escrow, made before
the commit phase ends. -/
theorem commitOracleScore_ok {acc : CommitOracleScoreAccounts}
    {commitmentHash : Bytes}
    (h : commitOracleScore env tx acc commitmentHash w = .ok w') :
    ∃ e endsAt, w.escrows acc.escrow = some e
      ∧ acc.escrow = env.pda (.escrow e.agent e.transactionId)
      ∧ e.status = .disputed
      ∧ (∀ c ∈ e.oracleCommitments, c.oracle ≠ acc.oracle)
      ∧ commitPhaseEnd tx.clock e = .ok endsAt
      ∧ w' = w.setEscrow acc.escrow
          (e.addCommitment acc.oracle commitmentHash tx.clock endsAt) := by
  simp only [commitOracleScore, bind_ok, loadEscrow_ok,
    requireSigner_ok, requireUnpaused_ok, ensure_ok, storeEscrow_ok] at h
  obtain ⟨e, ⟨he, hk⟩, -, -, -, -, -, hstatus, -, -, -, hdup, endsAt, hend,
    -, hw⟩ := h
  refine ⟨e, endsAt, he, hk, hstatus, ?_, hend, hw⟩
  intro c hc hco
  exact hdup ⟨c, hc, hco⟩

-- ==== reveal

structure SubmitOracleScoreAccounts where
  escrow : Pubkey
  oracle : Pubkey

/-- The escrow with commitment `i` revealed and its score submitted. -/
def Escrow.addSubmission (e : Escrow) (i : Nat) (c : OracleCommitment)
    (oracle : Pubkey) (score : Nat) (clock : Int) : Escrow :=
  { e with
    oracleCommitments := e.oracleCommitments.set i { c with revealed := true }
    oracleSubmissions := e.oracleSubmissions ++ [⟨oracle, score, clock⟩] }

def submitOracleScore (env : Env Seed) (tx : Tx env)
    (acc : SubmitOracleScoreAccounts) (qualityScore : Nat)
    (salt signature : Bytes) (w : World) : Outcome World := do
  let e ← loadEscrow env w acc.escrow
  requireSigner tx acc.oracle
  requireUnpaused w
  ensure (e.status = .disputed) .invalidStatus
  ensure (qualityScore ≤ 100) .invalidQualityScore
  let commitEnd ← okOr e.commitPhaseEndsAt
    (.custom .noCommitmentFound)
  ensure (commitEnd ≤ tx.clock) .commitPhaseNotEnded
  ensure (tx.clock < Fixed.saturatingAddI 64 commitEnd revealPhaseDuration)
    .revealPhaseExpired
  requireActiveOracle w acc.oracle
  let found ← okOr
    (Keyed.locate OracleCommitment.oracle e.oracleCommitments acc.oracle)
    (.custom .noCommitmentFound)
  ensure (found.2.revealed = false) .alreadyRevealed
  ensure (found.2.commitmentHash
      = computeCommitmentHash env e.transactionId qualityScore salt)
    .invalidCommitmentHash
  verifyEd25519Signature tx.instructions signature acc.oracle
    (scoreMessage e.transactionId qualityScore)
  ensure (¬ ∃ s ∈ e.oracleSubmissions, s.oracle = acc.oracle)
    .duplicateOracleSubmission
  storeEscrow w acc.escrow
    (e.addSubmission found.1 found.2 acc.oracle qualityScore tx.clock)

/-- A reveal opens the oracle's own unrevealed commitment, once the commit
phase is over: the disclosed score and salt hash to it. -/
theorem submitOracleScore_ok {acc : SubmitOracleScoreAccounts}
    {qualityScore : Nat} {salt signature : Bytes}
    (h : submitOracleScore env tx acc qualityScore salt signature w = .ok w') :
    ∃ e i c, w.escrows acc.escrow = some e
      ∧ acc.escrow = env.pda (.escrow e.agent e.transactionId)
      ∧ e.status = .disputed
      ∧ qualityScore ≤ 100
      ∧ e.oracleCommitments[i]? = some c
      ∧ c.oracle = acc.oracle
      ∧ c.commitmentHash
        = computeCommitmentHash env e.transactionId qualityScore salt
      ∧ (∃ endsAt, e.commitPhaseEndsAt = some endsAt ∧ endsAt ≤ tx.clock)
      ∧ (∀ s ∈ e.oracleSubmissions, s.oracle ≠ acc.oracle)
      ∧ w' = w.setEscrow acc.escrow
          (e.addSubmission i c acc.oracle qualityScore tx.clock) := by
  simp only [submitOracleScore, bind_ok, loadEscrow_ok,
    requireSigner_ok, requireUnpaused_ok, ensure_ok, storeEscrow_ok,
    okOr_ok] at h
  obtain ⟨e, ⟨he, hk⟩, -, -, -, -, -, hstatus, -, hscore, commitEnd, hend, -,
    hover, -, -, -, -, ⟨i, c⟩, hfound, -, -, -, hhash, -, -, -, hdup, -, hw⟩ := h
  obtain ⟨hi, hc⟩ := Keyed.locate_some hfound
  refine ⟨e, i, c, he, hk, hstatus, hscore, hi, hc, hhash,
    ⟨commitEnd, hend, hover⟩, ?_, hw⟩
  intro s hs hso
  exact hdup ⟨s, hs, hso⟩

/-- Who reveals is registered. -/
theorem submitOracleScore_registered {acc : SubmitOracleScoreAccounts}
    {qualityScore : Nat} {salt signature : Bytes}
    (h : submitOracleScore env tx acc qualityScore salt signature w = .ok w') :
    ∃ registry o, w.registry = some registry
      ∧ findOracle registry.oracles acc.oracle = some o := by
  simp only [submitOracleScore, requireActiveOracle, bind_ok, load_ok,
    okOr_ok] at h
  obtain ⟨e, -, -, -, -, -, -, -, -, -, -, -, -, -, -, -, -, ⟨registry, hreg,
    o, ho, -⟩, -⟩ := h
  exact ⟨registry, o, hreg, ho⟩

end KamiyoProtocol.Kamiyo
