/-
The hive program: what its instructions share. The agent registry, the
addresses, the error codes, and the token fee.

There is one registry, since its address has no seed but a constant. It
is the whole record here, in the order of its fields; the other modules
keep the accounts they are about.

The system-owned vault and the token accounts of the program are derived
addresses, so no transaction carries their signature. The slot and the
time are part of a world and only move forward.
-/
import KamiyoProtocol.Lib.Bytes
import KamiyoProtocol.Solana.Token

namespace KamiyoProtocol.Hive

open Solana Exec

/-- The seeds of the derived addresses the program computes. -/
inductive Seed where
  | registry
  | treasury (registry : Pubkey)
  | stakeVault (registry : Pubkey)
  | agent (identityCommitment : Bytes)
  | withdrawal (agent : Pubkey)
  | collateralVault (agent : Pubkey)
  | collateralWithdrawal (agent : Pubkey)
  | swarmAction (actionHash : Bytes)
  | vote (action : Pubkey) (nullifier : Bytes)
  | voteRecord (action : Pubkey) (nullifier : Bytes)
  | swarmActionBid (registry : Pubkey) (actionHash : Bytes)
  | voteBid (action : Pubkey) (nullifier : Bytes)
  | voteBidRecord (action : Pubkey) (nullifier : Bytes)

variable {env : Env Seed}

/-- `AgentCollabError`, the codes the modelled instructions raise. -/
inductive AgentCollabError where
  | protocolPaused
  | unauthorized
  | insufficientStake
  | invalidProof
  | invalidThreshold
  | actionAlreadyExecuted
  | votingEnded
  | alreadyVoted
  | votingNotEnded
  | noVotes
  | thresholdNotMet
  | agentNotActive
  | voteAlreadyRevealed
  | revealTooEarly
  | withdrawalAlreadyClaimed
  | timelockNotExpired
  | voteOverflow
  | unauthorizedWithdrawal
  | agentCountOverflow
  | commitmentMismatch
  | exceedsAgentStakeCap
  | exceedsTvlCap
  | stakeOverflow
  | invalidKamiyoMint
  | invalidAmount
  | exceedsCollateral
  | collateralAlreadyClaimed
  | collateralTimelockActive
  | insufficientTreasuryBalance
  | alreadyMigrated
  | notAgentOwner
  | invalidAccountData
  | invalidDeadline
  | revealTooLate
  | bidTooLow
  | noWinningBid

abbrev Outcome (α : Type) := Result AgentCollabError α

/-- `KAMIYO_MINT`. -/
def kamiyoMintId : Pubkey :=
  ⟨[237, 60, 111, 57, 108, 239, 99, 170, 103, 90, 148, 128, 76, 254, 111,
    33, 160, 127, 227, 91, 192, 186, 94, 160, 44, 245, 62, 38, 3, 90, 54,
    159]⟩

def feeRegisterAgent : Nat := 1000000000
def feeCreateSwarmAction : Nat := 500000000
def burnRateBps : Nat := 5000

/-- The burned and the kept part of a fee. -/
def calculateFeeSplit (totalFee : Nat) : Nat × Nat :=
  let burnAmount := totalFee * burnRateBps / 10000
  (burnAmount, totalFee - burnAmount)

/-- `[0u8; 32]`. -/
def zeroHash : Bytes := List.replicate 32 0

structure AgentRegistry where
  authority : Pubkey
  agentsRoot : Bytes
  agentCount : Nat
  signalCount : Nat
  swarmActionCount : Nat
  epoch : Nat
  minStake : Nat
  minSignalConfidence : Nat
  bump : Nat
  paused : Bool
  maxTotalStake : Nat
  maxStakePerAgent : Nat
  totalStake : Nat
  kamiyoMint : Pubkey
  treasuryBump : Nat
  totalBurned : Nat
  totalFeesCollected : Nat
  minSignalCollateral : Nat
deriving DecidableEq

/-- `u64::to_be_bytes`, in the last eight of 32 bytes. -/
def be32 (n : Nat) : Bytes :=
  List.replicate 24 0 ++ (Bytes.le 8 n).reverse

-- ==== fees

/-- Who pays a fee, and from which token account. -/
structure FeeAccounts where
  payer : Pubkey
  kamiyoMint : Pubkey
  payerTokenAccount : Pubkey
deriving DecidableEq

/-- The constraints on the accounts a fee is paid with. -/
def checkFeeAccounts (env : Env Seed) (tx : Tx env) (b : Tokens)
    (registry : AgentRegistry) (acc : FeeAccounts) : Outcome Unit := do
  ensure (acc.kamiyoMint = registry.kamiyoMint) .invalidKamiyoMint
  let source ← load (b.accounts acc.payerTokenAccount)
  require (source.mint = registry.kamiyoMint) .constraintRaw
  require (source.owner = acc.payer) .constraintRaw
  let _ ← load (b.accounts (env.pda (.treasury (env.pda .registry))))
  requireSigner tx acc.payer

/-- Burn one part of a fee, pay the other into the treasury, and count
both. -/
def payFee (env : Env Seed) (b : Tokens) (registry : AgentRegistry)
    (acc : FeeAccounts) (totalFee : Nat) :
    Outcome (Tokens × AgentRegistry) := do
  let split := calculateFeeSplit totalFee
  let b ← burnTokens b acc.payerTokenAccount acc.kamiyoMint acc.payer
    split.1
  let b ← transferTokens b acc.payerTokenAccount
    (env.pda (.treasury (env.pda .registry))) acc.payer split.2
  let burned ← okOr (Fixed.checkedAdd 64 registry.totalBurned split.1)
    (.custom .stakeOverflow)
  let collected ← okOr
    (Fixed.checkedAdd 64 registry.totalFeesCollected split.2)
    (.custom .stakeOverflow)
  .ok (b, { registry with
    totalBurned := burned, totalFeesCollected := collected })

/-- A fee touches the two totals of the registry only, and no other token
account than the payer's and the treasury. -/
theorem payFee_ok {b b' : Tokens} {registry registry' : AgentRegistry}
    {acc : FeeAccounts} {totalFee : Nat}
    (h : payFee env b registry acc totalFee = .ok (b', registry')) :
    (∃ burned collected, registry' = { registry with
        totalBurned := burned, totalFeesCollected := collected })
      ∧ ∃ m, b.burn acc.payerTokenAccount acc.kamiyoMint acc.payer
          (calculateFeeSplit totalFee).1 = some m
        ∧ m.transfer acc.payerTokenAccount
          (env.pda (.treasury (env.pda .registry))) acc.payer
          (calculateFeeSplit totalFee).2 = some b' := by
  simp only [payFee, bind_ok, burnTokens_ok, transferTokens_ok] at h
  obtain ⟨m, hm, b₂, hb₂, burned, -, collected, -, hout⟩ := h
  cases hout
  exact ⟨⟨burned, collected, rfl⟩, m, hm, hb₂⟩

theorem checkFeeAccounts_ok {tx : Tx env} {b : Tokens}
    {registry : AgentRegistry} {acc : FeeAccounts} {u : Unit}
    (h : checkFeeAccounts env tx b registry acc = .ok u) :
    acc.payer ∈ tx.signers := by
  simp only [checkFeeAccounts, bind_ok, requireSigner_ok] at h
  obtain ⟨-, -, source, -, -, -, -, -, _, -, hsig⟩ := h
  exact hsig

theorem payFee_held {tx : Tx env} {b b' : Tokens}
    {registry registry' : AgentRegistry} {acc : FeeAccounts}
    {totalFee : Nat} {k mint : Pubkey} {s : Seed} {n : Nat}
    (hsig : acc.payer ∈ tx.signers)
    (h : payFee env b registry acc totalFee = .ok (b', registry'))
    (hh : b.Held k mint (env.pda s) n) : b'.Held k mint (env.pda s) n := by
  obtain ⟨-, m, hburn, htransfer⟩ := payFee_ok h
  have hne : acc.payer ≠ env.pda s := signer_ne hsig
  exact (hh.burn hne hburn).transfer hne htransfer

end KamiyoProtocol.Hive
