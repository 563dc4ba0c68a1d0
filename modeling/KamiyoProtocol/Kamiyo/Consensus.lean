/-
The pure helper functions of the kamiyo program: the weighted consensus
of revealed scores, the refund tiers, oracle counts, dispute costs, the
reputation score, and the two byte strings oracles hash and sign.

Everything here is a total function of its arguments; only the consensus
can refuse. The bounds the payout arithmetic rests on are at the end of
each group: a consensus is at most 100, a refund percentage is one of
four tiers.
-/
import Mathlib.Data.List.Sort
import KamiyoProtocol.Kamiyo.State

namespace KamiyoProtocol.Kamiyo

open Solana

-- ==== consensus

def absDiff (a b : Nat) : Nat := (a - b) + (b - a)

/-- One round of the accumulation: weighted sum and total weight. -/
def addScore (acc : Nat × Nat) (s : Nat × Nat) : Nat × Nat :=
  (Fixed.saturatingAdd 64 acc.1 (Fixed.saturatingMul 64 s.1 s.2),
   Fixed.saturatingAdd 64 acc.2 s.2)

/-- Weighted sum and total weight of `(score, weight)` pairs. -/
def sumScores (scores : List (Nat × Nat)) : Nat × Nat :=
  scores.foldl addScore (0, 0)

/-- Ceiling of the weighted mean, at most 100. -/
def ceilingMean (weightedSum totalWeight : Nat) : Outcome Nat := do
  let n ← Exec.okOr (Fixed.checkedAdd 64 weightedSum totalWeight)
    (.custom .arithmeticOverflow)
  let consensus ← Exec.okOr (Fixed.checkedDiv (n - 1) totalWeight)
    (.custom .arithmeticOverflow)
  .ok (min consensus 100)

/-- Median of the scores; the ceiling of the middle mean for even
counts. -/
def medianScore (scores : List Nat) : Nat :=
  let sorted := scores.insertionSort (· ≤ ·)
  let len := sorted.length
  if len % 2 = 0 then
    ((sorted[len / 2 - 1]?.getD 0) + (sorted[len / 2]?.getD 0) + 1) / 2
  else sorted[len / 2]?.getD 0

/-- The pairs whose score is within `maxDeviation` of the median. -/
def withinDeviation (scores : List (Nat × Nat)) (maxDeviation : Nat) :
    List (Nat × Nat) :=
  let median := medianScore (scores.map Prod.fst)
  scores.filter fun s => absDiff s.1 median ≤ maxDeviation

def calculateWeightedConsensus (scores : List (Nat × Nat))
    (maxDeviation : Nat) : Outcome Nat := do
  ensure (2 ≤ scores.length) .insufficientOracleConsensus
  ensure (∀ s ∈ scores, s.1 ≤ 100) .invalidQualityScore
  let all := sumScores scores
  ensure (0 < all.2) .noConsensusReached
  if 100 ≤ maxDeviation then ceilingMean all.1 all.2
  else do
    let kept := sumScores (withinDeviation scores maxDeviation)
    ensure (0 < kept.2) .noConsensusReached
    ceilingMean kept.1 kept.2

def calculateRefundFromQuality (qualityScore : Nat) : Nat :=
  if qualityScore ≤ 49 then 100
  else if qualityScore ≤ 64 then 75
  else if qualityScore ≤ 79 then 35
  else 0

theorem refund_tiers (q : Nat) :
    (q < 50 ∧ calculateRefundFromQuality q = 100)
      ∨ (50 ≤ q ∧ (calculateRefundFromQuality q = 75
          ∨ calculateRefundFromQuality q = 35
          ∨ calculateRefundFromQuality q = 0)) := by
  unfold calculateRefundFromQuality
  split
  · left
    omega
  · right
    refine ⟨by omega, ?_⟩
    split
    · exact .inl rfl
    · split
      · exact .inr (.inl rfl)
      · exact .inr (.inr rfl)

def requiredOracleCount (escrowAmount : Nat) : Nat :=
  if tier3EscrowThreshold ≤ escrowAmount then 5
  else if tier2EscrowThreshold ≤ escrowAmount then 4
  else minConsensusOracles

-- ==== reputation

def calculateDisputeCost (r : EntityReputation) : Nat :=
  if r.totalTransactions = 0 then baseDisputeCost
  else
    let disputeRate :=
      Fixed.saturatingMul 64 r.disputesFiled 100 / r.totalTransactions
    let multiplier :=
      if disputeRate ≤ 20 then 1
      else if disputeRate ≤ 40 then 2
      else if disputeRate ≤ 60 then 5
      else 10
    Fixed.saturatingMul 64 baseDisputeCost multiplier

def calculateReputationScore (r : EntityReputation) : Nat :=
  if r.totalTransactions = 0 then 500
  else
    let txScore :=
      Fixed.saturatingMul 16 (min r.totalTransactions 100) 5
    let disputeScore :=
      if 0 < r.disputesFiled then
        let winRate :=
          Fixed.saturatingMul 64 r.disputesWon 100 / r.disputesFiled
        min (Fixed.saturatingMul 16 (Fixed.wrap 16 winRate) 3) 300
      else 150
    let qualityScore :=
      min (Fixed.saturatingMul 16 r.averageQualityReceived 2) 200
    min (Fixed.saturatingAdd 16 (Fixed.saturatingAdd 16 txScore
      disputeScore) qualityScore) 1000

-- ==== byte strings

/-- `compute_commitment_hash`: the hash of transaction id, score and
salt. -/
def computeCommitmentHash (env : Env Seed) (transactionId : Bytes)
    (score : Nat) (salt : Bytes) : Bytes :=
  env.hash (transactionId ++ UInt8.ofNat score :: salt)

/-- The ASCII digit of a number below ten. -/
def digit (d : Nat) : UInt8 := UInt8.ofNat (48 + d)

/-- A u8 in decimal, as `format!` writes it. -/
def u8Decimal (n : Nat) : Bytes :=
  if n < 10 then [digit n]
  else if n < 100 then [digit (n / 10), digit (n % 10)]
  else [digit (n / 100), digit (n / 10 % 10), digit (n % 10)]

/-- The message a verifier signs: transaction id, colon, score in
decimal. -/
def scoreMessage (transactionId : Bytes) (qualityScore : Nat) : Bytes :=
  transactionId ++ 58 :: u8Decimal qualityScore

end KamiyoProtocol.Kamiyo
