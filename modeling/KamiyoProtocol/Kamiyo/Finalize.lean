/-
`finalize_multi_oracle_dispute`: consensus, slashing, rewards, payout.

The instruction computes one consensus score from the revealed scores
and splits the escrowed amount by it. It then slashes the agent's stake
when the dispute was frivolous, walks the submissions to reward the
oracles near the consensus and slash the others, drops the oracles with
too many violations, and pays the escrow out.

Lamports move in four places: out of the agent identity (slash), out of
the registry (oracle slashes, then forfeited stakes) and out of the
escrow (payout). Slashed lamports go to the treasury when it is passed
and to the api otherwise; both are the `sink`.
-/
import KamiyoProtocol.Kamiyo.Voting

namespace KamiyoProtocol.Kamiyo

open Solana Exec

variable {env : Env Seed} {tx : Tx env} {w w' : World}

structure FinalizeAccounts where
  escrow : Pubkey
  agent : Pubkey
  api : Pubkey
  agentIdentity : Bool
  caller : Pubkey
  treasury : Bool
  parties : PartyAccounts
  treasuryTokenAccount : Option Pubkey

-- ==== amounts

/-- The scores of the submissions whose oracle is still registered, with
the oracle's weight. -/
def weightedScores (oracles : List OracleConfig)
    (subs : List OracleSubmission) : List (Nat × Nat) :=
  subs.filterMap fun s =>
    (findOracle oracles s.oracle).map fun o => (s.qualityScore, o.weight)

/-- How the escrowed amount is split. -/
structure Split where
  refundPercentage : Nat
  refundAmount : Nat
  paymentAmount : Nat
  protocolFee : Nat
  rewardPerOracle : Nat

/-- The split by a consensus score: fee and rewards come out of the
api's payment, each capped by what is left of it. -/
def splitAmount (amount consensus : Nat) (rewardsEnabled : Bool)
    (oracleCount : Nat) : Split :=
  let refundPercentage := calculateRefundFromQuality consensus
  let refundAmount := percentOf amount refundPercentage
  let paymentAmount := amount - refundAmount
  let protocolFee := min (percentOf amount protocolFeePercent) paymentAmount
  let baseReward :=
    if rewardsEnabled then percentOf amount oracleRewardPercent else 0
  let totalReward := min baseReward (paymentAmount - protocolFee)
  { refundPercentage := refundPercentage
    refundAmount := refundAmount
    paymentAmount := paymentAmount
    protocolFee := protocolFee
    rewardPerOracle :=
      if 0 < oracleCount then totalReward / oracleCount else 0 }

/-- Where slashed lamports go. -/
def sink (env : Env Seed) (acc : FinalizeAccounts) : Pubkey :=
  if acc.treasury then env.pda .treasury else acc.api

-- ==== agent slashing

/-- Slash the agent's stake for a frivolous dispute; also returns the
computed slash amount. -/
def slashAgent (env : Env Seed) (acc : FinalizeAccounts)
    (refundPercentage : Nat) (identity : Option AgentIdentity)
    (w : World) : Outcome (World × Nat) :=
  match identity with
  | none => .ok (w, 0)
  | some a =>
    let slash := percentOf a.stakeAmount agentDisputeLossSlashPercent
    let k := env.pda (.agent acc.agent)
    if refundPercentage = 0 then
      if 0 < slash ∧ slash ≤ a.stakeAmount then do
        let l ← moveLamports w.lamports k (sink env acc) slash
          .arithmeticPanic
        .ok ((w.setLamports l).setAgent k { a with
            stakeAmount := a.stakeAmount - slash
            disputedEscrows := Fixed.saturatingAdd 64 a.disputedEscrows 1 },
          slash)
      else .ok (w, slash)
    else .ok (w, 0)

-- ==== oracle slashing

/-- The registry side of the loop over submissions: the oracle records,
the lamports, and the four accumulators of the source. -/
structure Tally where
  oracles : List OracleConfig
  lamports : Lamports
  oraclesToRemove : List Pubkey
  totalSlashedStake : Nat
  actualOracleReward : Nat

/-- Reward an oracle within the deviation. -/
def rewardOracle (rewardPerOracle : Nat) (i : Nat) (o : OracleConfig)
    (t : Tally) : Tally :=
  if 0 < rewardPerOracle then
    { t with
      oracles := t.oracles.set i { o with
        totalRewards := Fixed.saturatingAdd 64 o.totalRewards rewardPerOracle }
      actualOracleReward :=
        Fixed.saturatingAdd 64 t.actualOracleReward rewardPerOracle }
  else t

/-- Slash an oracle outside the deviation, and note it for removal when
it has too many violations. -/
def slashOracle (env : Env Seed) (dest : Pubkey) (i : Nat)
    (o : OracleConfig) (t : Tally) : Outcome Tally :=
  let slash := percentOf o.stakeAmount oracleSlashPercent
  let violations := Fixed.saturatingAdd 8 o.violationCount 1
  if 0 < slash ∧ slash ≤ o.stakeAmount then do
    let l ← moveLamports t.lamports (env.pda .oracleRegistry) dest slash
      .arithmeticPanic
    .ok { t with
      oracles := t.oracles.set i { o with
        stakeAmount := o.stakeAmount - slash
        violationCount := violations }
      lamports := l
      oraclesToRemove :=
        if maxOracleSlashViolations ≤ violations then
          t.oraclesToRemove ++ [o.pubkey]
        else t.oraclesToRemove
      totalSlashedStake :=
        Fixed.saturatingAdd 64 t.totalSlashedStake slash }
  else .ok t

/-- The loop body: one submission. -/
def tallySubmission (env : Env Seed) (dest : Pubkey)
    (consensus maxDeviation rewardPerOracle : Nat)
    (s : OracleSubmission) (t : Tally) : Outcome Tally :=
  match Keyed.locate OracleConfig.pubkey t.oracles s.oracle with
  | none => .ok t
  | some (i, o) =>
    if absDiff s.qualityScore consensus ≤ maxDeviation then
      .ok (rewardOracle rewardPerOracle i o t)
    else slashOracle env dest i o t

/-- The loop over the submissions. -/
def tallySubmissions (env : Env Seed) (dest : Pubkey)
    (consensus maxDeviation rewardPerOracle : Nat) :
    List OracleSubmission → Tally → Outcome Tally
  | [], t => .ok t
  | s :: rest, t => do
      let t' ← tallySubmission env dest consensus maxDeviation
        rewardPerOracle s t
      tallySubmissions env dest consensus maxDeviation rewardPerOracle rest t'

-- ==== removal

/-- The registry side of the removal loop. -/
structure Removal where
  oracles : List OracleConfig
  lamports : Lamports
  totalStake : Nat
  forfeitedOracleStake : Nat

/-- The loop body: drop one oracle and forfeit its remaining stake. -/
def removeViolator (env : Env Seed) (acc : FinalizeAccounts)
    (oracle : Pubkey) (r : Removal) : Outcome Removal :=
  match Keyed.locate OracleConfig.pubkey r.oracles oracle with
  | none => .ok r
  | some (i, o) => do
      let l ← payLamports r.lamports (env.pda .oracleRegistry)
        (sink env acc) o.stakeAmount
      .ok { oracles := r.oracles.eraseIdx i
            lamports := l
            totalStake := r.totalStake - o.stakeAmount
            forfeitedOracleStake :=
              if acc.treasury then
                Fixed.saturatingAdd 64 r.forfeitedOracleStake o.stakeAmount
              else r.forfeitedOracleStake }

/-- The loop over the oracles to remove. -/
def removeViolators (env : Env Seed) (acc : FinalizeAccounts) :
    List Pubkey → Removal → Outcome Removal
  | [], r => .ok r
  | o :: rest, r => do
      let r' ← removeViolator env acc o r
      removeViolators env acc rest r'

-- ==== payout

/-- A guarded token payment to a party, validated for mint and owner. -/
def payPartyTokens (b : Tokens) (src authority owner mint : Pubkey)
    (ta : Option (Pubkey × TokenAccount)) (n : Nat) : Outcome Tokens :=
  if 0 < n then do
    let ta ← okOr ta (.custom .missingTokenAccount)
    ensure (ta.2.mint = mint) .tokenMintMismatch
    ensure (ta.2.owner = owner) .unauthorized
    transferTokens b src ta.1 authority n
  else .ok b

/-- The protocol fee in tokens: to the treasury token account when one is
passed, validated for its mint alone, else to the api's account as
passed. -/
def payFeeTokens (b : Tokens) (src authority mint : Pubkey)
    (treasuryTa apiTa : Option (Pubkey × TokenAccount)) (n : Nat) :
    Outcome Tokens :=
  if 0 < n then
    match treasuryTa with
    | some ta => do
        ensure (ta.2.mint = mint) .tokenMintMismatch
        transferTokens b src ta.1 authority n
    | none => do
        let ta ← okOr apiTa (.custom .missingTokenAccount)
        transferTokens b src ta.1 authority n
  else .ok b

/-- The oracle rewards in tokens: to the treasury token account, or
nowhere. -/
def payRewardTokens (b : Tokens) (src authority mint : Pubkey)
    (treasuryTa : Option (Pubkey × TokenAccount)) (n : Nat) :
    Outcome Tokens :=
  if 0 < n then
    match treasuryTa with
    | some ta => do
        ensure (ta.2.mint = mint) .tokenMintMismatch
        transferTokens b src ta.1 authority n
    | none => .ok b
  else .ok b

/-- The token branch of the payout. -/
def finalizeSpl (w : World) (k mint : Pubkey) (e : Escrow)
    (parties : Parties) (treasuryTa : Option (Pubkey × TokenAccount))
    (split : Split) (reward : Nat) : Outcome World := do
  let escrowTa ← okOr parties.escrowTokenAccount
    (.custom .missingTokenAccount)
  ensure (parties.tokenProgram = true) .missingTokenProgram
  ensure (escrowTa.2.mint = mint) .tokenMintMismatch
  let adjustedPayment := split.paymentAmount - split.protocolFee - reward
  let b₁ ← payPartyTokens w.tokens escrowTa.1 k e.agent mint
    parties.agentTokenAccount split.refundAmount
  let b₂ ← payPartyTokens b₁ escrowTa.1 k e.api mint
    parties.apiTokenAccount adjustedPayment
  let b₃ ← payFeeTokens b₂ escrowTa.1 k mint treasuryTa
    parties.apiTokenAccount split.protocolFee
  let b₄ ← payRewardTokens b₃ escrowTa.1 k mint treasuryTa reward
  .ok (w.setTokens b₄)

/-- The SOL branch of the payout. -/
def finalizeSol (env : Env Seed) (w : World) (k : Pubkey) (e : Escrow)
    (acc : FinalizeAccounts) (split : Split) (reward : Nat) :
    Outcome World := do
  let adjustedPayment := split.paymentAmount - split.protocolFee - reward
  let maxTransferable :=
    w.lamports.bal k - env.minimumBalance escrowSpace
  let totalTransfer :=
    Fixed.saturatingAdd 64 (Fixed.saturatingAdd 64 (Fixed.saturatingAdd 64
      split.refundAmount adjustedPayment) split.protocolFee) reward
  ensure (totalTransfer ≤ maxTransferable) .insufficientDisputeFunds
  let l₁ ← payLamports w.lamports k e.agent split.refundAmount
  let l₂ ← payLamports l₁ k e.api adjustedPayment
  let l₃ ← payLamports l₂ k (sink env acc) split.protocolFee
  let l₄ ← payLamports l₃ k (env.pda .treasury)
    (if acc.treasury then reward else 0)
  .ok (w.setLamports l₄)

-- ==== instruction

/-- Whether rewards can be routed anywhere: the treasury token account
for a token escrow, the treasury for a SOL escrow. -/
def oracleRewardsEnabled (e : Escrow) (acc : FinalizeAccounts) : Bool :=
  match e.tokenMint with
  | some _ => acc.treasuryTokenAccount.isSome
  | none => acc.treasury

/-- Enough revealed scores: the tier of the amount, and half of the
registered oracles. -/
def quorumRequired (amount registered : Nat) : Nat :=
  max (registered * 50 / 100) (requiredOracleCount amount)

/-- `Option<Account<'info, T>>` at a derived address. -/
def loadOptional {α : Type} (given : Bool) (o : Option α) :
    Outcome (Option α) :=
  if given then do
    let a ← load o
    .ok (some a)
  else .ok none

/-- The scores that enter the consensus, once the checks before it have
passed. -/
def consensusScores (tx : Tx env) (e : Escrow)
    (registry : OracleRegistry) : Outcome (List (Nat × Nat)) := do
  let scores := weightedScores registry.oracles e.oracleSubmissions
  ensure (e.status = .disputed) .invalidStatus
  ensure (requiredOracleCount e.amount ≤ e.oracleSubmissions.length)
    .insufficientOracleConsensus
  ensure (quorumRequired e.amount registry.oracles.length
    ≤ e.oracleSubmissions.length) .insufficientOracleConsensus
  let disputedAt ← okOr e.disputedAt (.custom .invalidStatus)
  ensure (Fixed.saturatingAddI 64 disputedAt oracleRevealDelay ≤ tx.clock)
    .revealDelayNotMet
  ensure (minConsensusOracles ≤ scores.length)
    .insufficientOracleConsensus
  .ok scores

/-- The checks of the instruction, up to the consensus score. -/
def finalizeConsensus (tx : Tx env) (e : Escrow)
    (registry : OracleRegistry) : Outcome Nat := do
  let scores ← consensusScores tx e registry
  calculateWeightedConsensus scores registry.maxScoreDeviation

/-- The oracle-count checks of a finalisation: the tier of the amount and
the quorum are asked of all submissions, the minimum of the scores of
oracles still registered. -/
structure OracleCounts (oracles : List OracleConfig) (amount : Nat)
    (subs : List OracleSubmission) : Prop where
  tier : requiredOracleCount amount ≤ subs.length
  quorum : quorumRequired amount oracles.length ≤ subs.length
  registered : minConsensusOracles ≤ (weightedScores oracles subs).length

theorem consensusScores_ok {e : Escrow} {registry : OracleRegistry}
    {scores : List (Nat × Nat)}
    (h : consensusScores tx e registry = .ok scores) :
    scores = weightedScores registry.oracles e.oracleSubmissions
      ∧ e.status = .disputed
      ∧ OracleCounts registry.oracles e.amount e.oracleSubmissions := by
  simp only [consensusScores, bind_ok, ensure_ok] at h
  obtain ⟨-, hstatus, -, htier, -, hquorum, -, -, -, -, -, hmin, hscores⟩ := h
  cases hscores
  exact ⟨rfl, hstatus, htier, hquorum, hmin⟩

theorem finalizeConsensus_counts {e : Escrow} {registry : OracleRegistry}
    {c : Nat} (h : finalizeConsensus tx e registry = .ok c) :
    OracleCounts registry.oracles e.amount e.oracleSubmissions := by
  obtain ⟨scores, hscores, -⟩ := bind_ok.mp h
  exact (consensusScores_ok hscores).2.2

theorem OracleCounts.submitted {oracles : List OracleConfig} {amount : Nat}
    {subs : List OracleSubmission} (h : OracleCounts oracles amount subs) :
    subs ≠ [] := by
  intro hnil
  have hmin := h.registered
  rw [hnil] at hmin
  exact absurd hmin (Nat.not_succ_le_zero 2)

/-- What the oracle side of a finalisation leaves: the world, the rewards
recorded, and the stake slashed and forfeited. -/
structure OracleOutcome where
  world : World
  reward : Nat
  slashed : Nat
  forfeited : Nat

/-- The accumulators before the loop over the submissions. -/
def Tally.start (registry : OracleRegistry) (l : Lamports) : Tally :=
  { oracles := registry.oracles
    lamports := l
    oraclesToRemove := []
    totalSlashedStake := 0
    actualOracleReward := 0 }

/-- The removal loop starts where the tally ended. -/
def Removal.start (registry : OracleRegistry) (t : Tally) : Removal :=
  { oracles := t.oracles
    lamports := t.lamports
    totalStake := registry.totalStake - t.totalSlashedStake
    forfeitedOracleStake := 0 }

/-- Slashing, rewards and removal on the registry. -/
def settleOracles (env : Env Seed) (acc : FinalizeAccounts) (e : Escrow)
    (registry : OracleRegistry) (consensus rewardPerOracle : Nat)
    (w : World) : Outcome OracleOutcome := do
  let t ← tallySubmissions env (sink env acc) consensus
    registry.maxScoreDeviation rewardPerOracle e.oracleSubmissions
    (Tally.start registry w.lamports)
  let r ← removeViolators env acc t.oraclesToRemove
    (Removal.start registry t)
  .ok { world := (w.setLamports r.lamports).setRegistry { registry with
          oracles := r.oracles
          totalStake := r.totalStake }
        reward := t.actualOracleReward
        slashed := t.totalSlashedStake
        forfeited := r.forfeitedOracleStake }

/-- Book the fee and the slashed lamports with the treasury, when it is
passed. -/
def bookTreasury (tx : Tx env) (treasury : Option Treasury)
    (protocolFee agentSlash slashed forfeited : Nat) (w : World) : World :=
  match treasury with
  | none => w
  | some t =>
    let totalSlashed :=
      Fixed.saturatingAdd 64 (Fixed.saturatingAdd 64 agentSlash forfeited)
        slashed
    w.setTreasury { t with
      totalFeesCollected :=
        Fixed.saturatingAdd 64 t.totalFeesCollected protocolFee
      totalSlashedCollected :=
        if 0 < totalSlashed then
          Fixed.saturatingAdd 64 t.totalSlashedCollected totalSlashed
        else t.totalSlashedCollected
      updatedAt := tx.clock }

def finalizeMultiOracleDispute (env : Env Seed) (tx : Tx env)
    (acc : FinalizeAccounts) (w : World) : Outcome World := do
  let e ← loadEscrow env w acc.escrow
  let registry ← load w.registry
  ensure (acc.agent = e.agent) .unauthorized
  ensure (acc.api = e.api) .unauthorized
  let identity ← loadOptional acc.agentIdentity
    (w.agents (env.pda (.agent acc.agent)))
  requireSigner tx acc.caller
  let treasury ← loadOptional acc.treasury w.treasury
  let parties ← loadParties w.tokens acc.parties
  let treasuryTa ← loadTokenAccount w.tokens acc.treasuryTokenAccount
  requireUnpaused w
  let consensus ← finalizeConsensus tx e registry
  let split := splitAmount e.amount consensus (oracleRewardsEnabled e acc)
    e.oracleSubmissions.length
  let w₁ ← storeEscrow w acc.escrow { e with
    status := .resolved
    qualityScore := some consensus
    refundPercentage := some split.refundPercentage }
  let slash ← slashAgent env acc split.refundPercentage identity w₁
  let o ← settleOracles env acc e registry consensus
    split.rewardPerOracle slash.1
  let w₂ := bookTreasury tx treasury split.protocolFee slash.2 o.slashed
    o.forfeited o.world
  match e.tokenMint with
  | some mint =>
    finalizeSpl w₂ acc.escrow mint e parties treasuryTa split o.reward
  | none => finalizeSol env w₂ acc.escrow e acc split o.reward

end KamiyoProtocol.Kamiyo
