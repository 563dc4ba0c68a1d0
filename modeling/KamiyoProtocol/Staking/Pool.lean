/-
The kamiyo-staking program: the pool, the positions, and every
instruction on them.

The structures follow the program's accounts without the bumps; u64 and
u128 fields are `Nat`, i64 fields `Int`. A position is stored under the
user its address is derived from. Tokens are fee-free, as the token
program of the model has it.

The clock is part of the world and only moves forward; an instruction
runs in a transaction that shows the clock's present value.
-/
import KamiyoProtocol.Solana.Token

namespace KamiyoProtocol.Staking

open Solana Exec

-- ==== accounts

/-- The seeds of the program's derived addresses. -/
inductive Seed where
  | pool
  | vault
  | rewards
  | position (user : Pubkey)

variable {env : Env Seed}

inductive StakingError where
  | belowMinimumStake
  | insufficientBalance
  | noRewardsToClaim
  | poolPaused
  | invalidAuthority
  | mathOverflow

abbrev Outcome (α : Type) := Result StakingError α

def rewardBurnRateBps : Nat := 100
def minStakeAmount : Nat := 100000000000
def thirtyDays : Int := 30 * 24 * 60 * 60
def ninetyDays : Int := 90 * 24 * 60 * 60
def oneEightyDays : Int := 180 * 24 * 60 * 60
def multiplierBase : Nat := 10000
def multiplier30d : Nat := 12000
def multiplier90d : Nat := 15000
def multiplier180d : Nat := 20000

/-- The precision factor of the accumulator. -/
def precision : Nat := 1000000000000

/-- The totals the rewards are shared by. -/
structure StakingPool where
  admin : Pubkey
  tokenMint : Pubkey
  tokenVault : Pubkey
  rewardsVault : Pubkey
  totalStaked : Nat
  totalWeightedStake : Nat
  accumulatedRewardsPerShare : Nat
  lastDistributionTime : Int
  totalRewardsDistributed : Nat
  isPaused : Bool

/-- One stake per owner. -/
structure StakePosition where
  owner : Pubkey
  stakedAmount : Nat
  stakeStartTime : Int
  lastClaimTime : Int
  rewardsDebt : Nat
  totalClaimed : Nat
deriving DecidableEq

/-- The all-zero account `init_if_needed` creates. -/
def StakePosition.zeroed : StakePosition :=
  ⟨⟨List.replicate 32 0⟩, 0, 0, 0, 0, 0⟩

/-- The pool, the positions and the tokens behind them. -/
structure World where
  now : Int
  pool : Option StakingPool
  positions : List (Pubkey × StakePosition)
  tokens : Tokens

-- ==== helpers

/-- `.ok_or(StakingError::MathOverflow)?`. -/
def checked {α : Type} (o : Option α) : Outcome α :=
  okOr o (.custom .mathOverflow)

theorem checked_ok {α : Type} {o : Option α} {a : α} :
    checked o = .ok a ↔ o = some a :=
  okOr_ok

/-- `u64::try_from` of a u128. -/
def toU64 (n : Nat) : Outcome Nat :=
  checked (if n < 2 ^ 64 then some n else none)

theorem toU64_ok {n m : Nat} : toU64 n = .ok m ↔ n < 2 ^ 64 ∧ m = n := by
  rw [toU64, checked_ok]
  by_cases h : n < 2 ^ 64
  · rw [if_pos h]
    constructor
    · intro he
      exact ⟨h, (Option.some.inj he).symm⟩
    · rintro ⟨-, rfl⟩
      rfl
  · rw [if_neg h]
    constructor
    · intro he
      cases he
    · rintro ⟨hlt, -⟩
      exact absurd hlt h

/-- The burned and the distributed part of a reward. -/
def calculateRewardSplit (totalReward : Nat) : Nat × Nat :=
  let burnAmount := totalReward * rewardBurnRateBps / 10000
  (burnAmount, totalReward - burnAmount)

def getMultiplier (durationSeconds : Int) : Nat :=
  if oneEightyDays ≤ durationSeconds then multiplier180d
  else if ninetyDays ≤ durationSeconds then multiplier90d
  else if thirtyDays ≤ durationSeconds then multiplier30d
  else multiplierBase

/-- `(amount as u128) * multiplier / MULTIPLIER_BASE`, in u128. -/
def weigh (amount multiplier : Nat) : Outcome Nat := do
  let x ← checked (Fixed.checkedMul 128 amount multiplier)
  checked (Fixed.checkedDiv x multiplierBase)

theorem weigh_ok {amount multiplier n : Nat}
    (h : weigh amount multiplier = .ok n) :
    n = amount * multiplier / multiplierBase := by
  simp only [weigh, bind_ok, checked_ok, Fixed.checkedMul_some,
    Fixed.checkedDiv_some] at h
  obtain ⟨x, ⟨-, rfl⟩, -, rfl⟩ := h
  rfl

def calculatePendingRewards (pool : StakingPool)
    (position : StakePosition) (currentTime : Int) : Outcome Nat :=
  if position.stakedAmount = 0 then .ok 0
  else do
    let duration ← subI64 currentTime position.stakeStartTime
    let weightedStake ←
      weigh position.stakedAmount (getMultiplier duration)
    let x ← checked
      (Fixed.checkedMul 128 weightedStake pool.accumulatedRewardsPerShare)
    let accumulated ← checked (Fixed.checkedDiv x precision)
    let debt := (Fixed.checkedDiv position.rewardsDebt precision).getD 0
    toU64 ((Fixed.checkedSub accumulated debt).getD 0)

/-- The position's stake under the multiplier of its age. -/
def StakePosition.weightedStake (p : StakePosition) (now : Int) : Nat :=
  p.stakedAmount * getMultiplier (now - p.stakeStartTime) / multiplierBase

/-- What is reported as pending: the weighted accrual less the debt, each
floored. -/
theorem calculatePendingRewards_ok {pool : StakingPool}
    {p : StakePosition} {now : Int} {n : Nat}
    (h : calculatePendingRewards pool p now = .ok n) :
    n = p.weightedStake now * pool.accumulatedRewardsPerShare / precision
        - p.rewardsDebt / precision := by
  unfold calculatePendingRewards at h
  split at h
  · next hz =>
      cases h
      simp [StakePosition.weightedStake, hz]
  · simp only [bind_ok, subI64_ok, checked_ok, toU64_ok,
      Fixed.checkedMul_some, Fixed.checkedDiv_some] at h
    obtain ⟨duration, ⟨-, rfl⟩, weighted, hw, x, ⟨-, rfl⟩, acc, ⟨-, rfl⟩,
      -, rfl⟩ := h
    have hdebt : (Fixed.checkedDiv p.rewardsDebt precision).getD 0
        = p.rewardsDebt / precision := rfl
    rw [hdebt, weigh_ok hw]
    unfold Fixed.checkedSub
    split
    · rfl
    · next hlt =>
        have := Nat.lt_of_not_le hlt
        simp only [Option.getD_none, StakePosition.weightedStake]
        omega

/-- The CPI paying rewards out of the rewards vault, skipped for
nothing. -/
def payRewards (env : Env Seed) (b : Tokens) (dst : Pubkey)
    (pending : Nat) : Outcome Tokens :=
  if 0 < pending then
    transferTokens b (env.pda .rewards) dst (env.pda .pool) pending
  else .ok b

/-- `init_if_needed` on the user's position. -/
def initIfNeeded (l : List (Pubkey × StakePosition)) (user : Pubkey) :
    List (Pubkey × StakePosition) :=
  match Keyed.locate Prod.fst l user with
  | some _ => l
  | none => l ++ [(user, .zeroed)]

-- ==== instructions

structure InitializePoolAccounts where
  tokenMint : Pubkey
  admin : Pubkey

def initializePool (env : Env Seed) (tx : Tx env)
    (acc : InitializePoolAccounts) (w : World) : Outcome World := do
  requireSigner tx acc.admin
  requireFresh w.pool
  let b ← okOr (w.tokens.openAccount (env.pda .vault) acc.tokenMint
    (env.pda .pool)) .accountAlreadyInUse
  let b ← okOr (b.openAccount (env.pda .rewards) acc.tokenMint
    (env.pda .pool)) .accountAlreadyInUse
  .ok { w with
    pool := some
      { admin := acc.admin
        tokenMint := acc.tokenMint
        tokenVault := env.pda .vault
        rewardsVault := env.pda .rewards
        totalStaked := 0
        totalWeightedStake := 0
        accumulatedRewardsPerShare := 0
        lastDistributionTime := tx.clock
        totalRewardsDistributed := 0
        isPaused := false }
    tokens := b }

structure StakeAccounts where
  userTokenAccount : Pubkey
  user : Pubkey

/-- The first half of `stake`: an existing position is paid what is
pending, a new one gets its owner and start. -/
def claimExisting (env : Env Seed) (tx : Tx env) (acc : StakeAccounts)
    (pool : StakingPool) (position : StakePosition) (b : Tokens) :
    Outcome (StakePosition × Tokens) :=
  if 0 < position.stakedAmount then do
    let pending ← calculatePendingRewards pool position tx.clock
    if 0 < pending then do
      let b ← payRewards env b acc.userTokenAccount pending
      let claimed ← checked
        (Fixed.checkedAdd 64 position.totalClaimed pending)
      .ok ({ position with totalClaimed := claimed }, b)
    else .ok (position, b)
  else
    .ok ({ position with
      owner := acc.user
      stakeStartTime := tx.clock }, b)

def stake (env : Env Seed) (tx : Tx env) (acc : StakeAccounts)
    (amount : Nat) (w : World) : Outcome World := do
  requireSigner tx acc.user
  let pool ← load w.pool
  let positions := initIfNeeded w.positions acc.user
  let r ← load (Keyed.locate Prod.fst positions acc.user)
  requireAta env w.tokens acc.userTokenAccount acc.user pool.tokenMint
  ensure (pool.isPaused = false) .poolPaused
  ensure (minStakeAmount ≤ amount) .belowMinimumStake
  let c ← claimExisting env tx acc pool r.2.2 w.tokens
  let b ← transferTokens c.2 acc.userTokenAccount (env.pda .vault)
    acc.user amount
  let staked ← checked (Fixed.checkedAdd 64 c.1.stakedAmount amount)
  let totalStaked ← checked (Fixed.checkedAdd 64 pool.totalStaked amount)
  let duration ← subI64 tx.clock c.1.stakeStartTime
  let weighted ← weigh amount (getMultiplier duration)
  let weighted ← toU64 weighted
  let totalWeighted ← checked
    (Fixed.checkedAdd 64 pool.totalWeightedStake weighted)
  let debt ← checked
    (Fixed.checkedMul 128 staked pool.accumulatedRewardsPerShare)
  .ok { w with
    pool := some { pool with
      totalStaked := totalStaked
      totalWeightedStake := totalWeighted }
    positions := positions.set r.1 (acc.user,
      { c.1 with
        stakedAmount := staked
        lastClaimTime := tx.clock
        rewardsDebt := debt })
    tokens := b }

/-- The accounts of `unstake` and `claim_rewards`. -/
structure PositionAccounts where
  userTokenAccount : Pubkey
  owner : Pubkey
  user : Pubkey

/-- The validation the two share: the user signs, the position is the
user's and names the owner passed, the token account is the user's. -/
def loadPosition (env : Env Seed) (tx : Tx env) (acc : PositionAccounts)
    (pool : StakingPool) (w : World) :
    Outcome (Nat × Pubkey × StakePosition) := do
  requireSigner tx acc.user
  let r ← load (Keyed.locate Prod.fst w.positions acc.user)
  ensure (r.2.2.owner = acc.owner) .invalidAuthority
  requireAta env w.tokens acc.userTokenAccount acc.user pool.tokenMint
  .ok r

def unstake (env : Env Seed) (tx : Tx env) (acc : PositionAccounts)
    (amount : Nat) (w : World) : Outcome World := do
  let pool ← load w.pool
  let r ← loadPosition env tx acc pool w
  let position := r.2.2
  ensure (amount ≤ position.stakedAmount) .insufficientBalance
  let pending ← calculatePendingRewards pool position tx.clock
  let b ← payRewards env w.tokens acc.userTokenAccount pending
  let b ← transferTokens b (env.pda .vault) acc.userTokenAccount
    (env.pda .pool) amount
  let staked ← checked (Fixed.checkedSub position.stakedAmount amount)
  let claimed ← checked
    (Fixed.checkedAdd 64 position.totalClaimed pending)
  let totalStaked ← checked (Fixed.checkedSub pool.totalStaked amount)
  let duration ← subI64 tx.clock position.stakeStartTime
  let weighted ← weigh amount (getMultiplier duration)
  let weighted ← toU64 weighted
  let debt ← checked
    (Fixed.checkedMul 128 staked pool.accumulatedRewardsPerShare)
  .ok { w with
    pool := some { pool with
      totalStaked := totalStaked
      totalWeightedStake := pool.totalWeightedStake - weighted }
    positions := w.positions.set r.1 (acc.user,
      { position with
        stakedAmount := staked
        stakeStartTime := if staked = 0 then 0
          else position.stakeStartTime
        lastClaimTime := tx.clock
        rewardsDebt := debt
        totalClaimed := claimed })
    tokens := b }

def claimRewards (env : Env Seed) (tx : Tx env) (acc : PositionAccounts)
    (w : World) : Outcome World := do
  let pool ← load w.pool
  let r ← loadPosition env tx acc pool w
  let position := r.2.2
  let pending ← calculatePendingRewards pool position tx.clock
  if pending = 0 then .ok w
  else do
    let b ← payRewards env w.tokens acc.userTokenAccount pending
    let claimed ← checked
      (Fixed.checkedAdd 64 position.totalClaimed pending)
    let debt ← checked (Fixed.checkedMul 128 position.stakedAmount
      pool.accumulatedRewardsPerShare)
    .ok { w with
      positions := w.positions.set r.1 (acc.user,
        { position with
          lastClaimTime := tx.clock
          totalClaimed := claimed
          rewardsDebt := debt })
      tokens := b }

structure DistributeRewardsAccounts where
  tokenMint : Pubkey
  distributorTokenAccount : Pubkey
  distributor : Pubkey

def distributeRewards (env : Env Seed) (tx : Tx env)
    (acc : DistributeRewardsAccounts) (amount : Nat) (w : World) :
    Outcome World := do
  requireSigner tx acc.distributor
  let pool ← load w.pool
  require (acc.tokenMint = pool.tokenMint) .constraintRaw
  ensure (0 < pool.totalWeightedStake) .noRewardsToClaim
  let split := calculateRewardSplit amount
  let b ← burnTokens w.tokens acc.distributorTokenAccount acc.tokenMint
    acc.distributor split.1
  let b ← transferChecked b acc.distributorTokenAccount
    (env.pda .rewards) acc.tokenMint acc.distributor split.2
  let x ← checked (Fixed.checkedMul 128 split.2 precision)
  let rewardPerShare ← checked
    (Fixed.checkedDiv x pool.totalWeightedStake)
  let accumulated ← checked (Fixed.checkedAdd 128
    pool.accumulatedRewardsPerShare rewardPerShare)
  let total ← checked
    (Fixed.checkedAdd 64 pool.totalRewardsDistributed split.2)
  .ok { w with
    pool := some { pool with
      accumulatedRewardsPerShare := accumulated
      lastDistributionTime := tx.clock
      totalRewardsDistributed := total }
    tokens := b }

/-- `pause_pool` and `unpause_pool`. -/
def setPaused (tx : Tx env) (admin : Pubkey) (paused : Bool)
    (w : World) : Outcome World := do
  requireSigner tx admin
  let pool ← load w.pool
  ensure (pool.admin = admin) .invalidAuthority
  .ok { w with pool := some { pool with isPaused := paused } }

structure AdminForceUnstakeAccounts where
  stakerTokenAccount : Pubkey
  staker : Pubkey
  admin : Pubkey

def adminForceUnstake (env : Env Seed) (tx : Tx env)
    (acc : AdminForceUnstakeAccounts) (w : World) : Outcome World := do
  requireSigner tx acc.admin
  let pool ← load w.pool
  ensure (pool.admin = acc.admin) .invalidAuthority
  let r ← load (Keyed.locate Prod.fst w.positions acc.staker)
  requireAta env w.tokens acc.stakerTokenAccount acc.staker pool.tokenMint
  let vault ← load (w.tokens.accounts (env.pda .rewards))
  let position := r.2.2
  let amount := position.stakedAmount
  if amount = 0 then .ok w
  else do
    let pending ← calculatePendingRewards pool position tx.clock
    let b ← payRewards env w.tokens acc.stakerTokenAccount
      (min pending vault.amount)
    let b ← transferTokens b (env.pda .vault) acc.stakerTokenAccount
      (env.pda .pool) amount
    let claimed ← checked
      (Fixed.checkedAdd 64 position.totalClaimed pending)
    let duration ← subI64 tx.clock position.stakeStartTime
    let weighted ← weigh amount (getMultiplier duration)
    let weighted ← toU64 weighted
    .ok { w with
      pool := some { pool with
        totalStaked := pool.totalStaked - amount
        totalWeightedStake := pool.totalWeightedStake - weighted }
      positions := w.positions.set r.1 (acc.staker,
        { position with
          stakedAmount := 0
          stakeStartTime := 0
          lastClaimTime := tx.clock
          totalClaimed := claimed
          rewardsDebt := 0 })
      tokens := b }

-- ==== machine

/-- The instructions of the program, the clock, and what anyone can do
with token accounts. -/
inductive Op where
  | initializePool (acc : InitializePoolAccounts)
  | stake (acc : StakeAccounts) (amount : Nat)
  | unstake (acc : PositionAccounts) (amount : Nat)
  | claimRewards (acc : PositionAccounts)
  | distributeRewards (acc : DistributeRewardsAccounts) (amount : Nat)
  | pausePool (admin : Pubkey)
  | unpausePool (admin : Pubkey)
  | adminForceUnstake (acc : AdminForceUnstakeAccounts)
  | advanceClock (t : Int)
  | viaTokens (op : TokenOp)

/-- One instruction in its transaction. -/
structure Action (env : Env Seed) where
  tx : Tx env
  op : Op

/-- Run an instruction. -/
def perform (env : Env Seed) (a : Action env) (w : World) :
    Outcome World :=
  match a.op with
  | .initializePool acc => initializePool env a.tx acc w
  | .stake acc n => stake env a.tx acc n w
  | .unstake acc n => unstake env a.tx acc n w
  | .claimRewards acc => claimRewards env a.tx acc w
  | .distributeRewards acc n => distributeRewards env a.tx acc n w
  | .pausePool admin => setPaused a.tx admin true w
  | .unpausePool admin => setPaused a.tx admin false w
  | .adminForceUnstake acc => adminForceUnstake env a.tx acc w
  | .advanceClock t => do
      require (w.now ≤ t ∧ Fixed.InRange 64 t) .constraintRaw
      .ok { w with now := t }
  | .viaTokens op => do
      let b ← okOr (op.apply a.tx w.tokens) .tokenProgramError
      .ok { w with tokens := b }

/-- The transition function: the transaction shows the world's clock. -/
def step (env : Env Seed) (a : Action env) (w : World) : Outcome World := do
  require (a.tx.clock = w.now) .constraintRaw
  perform env a w

end KamiyoProtocol.Staking
