/-
When a staker can take the principal out.

`unstake` first reports and pays the position's rewards and only then
returns the stake, so whatever stops the rewards stops the principal:
an accrual that leaves the u128, a rewards vault that other claims have
emptied, a claimed total that leaves the u64. The forced withdrawal of
the admin pays what the vault has instead.

`Payable` is the condition on the state before, and it is exact: the
vault of the stakes itself always covers them (`Accounted`).
-/
import KamiyoProtocol.Staking.Concrete
import KamiyoProtocol.Staking.Stakes

namespace KamiyoProtocol.Staking

open Solana Exec

variable {env : Env Seed} {w w' : World}

-- ==== the property

/-- The call of `unstake` a position's owner makes: signed, at the
present clock, with the owner's position and associated token account. -/
structure OwnerCall (env : Env Seed) (w : World) (pool : StakingPool)
    (p : StakePosition) (tx : Tx env) (acc : PositionAccounts) : Prop where
  clock : tx.clock = w.now
  signed : acc.user ∈ tx.signers
  position : (acc.user, p) ∈ w.positions
  owner : acc.owner = acc.user
  address : acc.userTokenAccount = env.ata acc.user pool.tokenMint
  account : w.tokens.Held acc.userTokenAccount pool.tokenMint acc.user 0

/-- `unstake` succeeds, and of the transfers it makes, the only one out
of the vault is of the amount, to the token account passed. -/
def Withdraws (env : Env Seed) (tx : Tx env) (acc : PositionAccounts)
    (amount : Nat) (w : World) : Prop :=
  ∃ w' ts, step env ⟨tx, .unstake acc amount⟩ w = .ok w'
    ∧ w'.tokens.journal = w.tokens.journal ++ ts
    ∧ ts.filter (fun t => t.src = env.pda .vault)
      = [⟨env.pda .vault, acc.userTokenAccount, amount⟩]

-- ==== the condition

/-- What has accrued to the position and not been settled. -/
def StakePosition.accrued (p : StakePosition) (accumulated : Nat)
    (now : Int) : Nat :=
  p.weightedStake now * accumulated / precision - p.rewardsDebt / precision

/-- The tokens in the rewards vault. -/
def rewardsHeld (env : Env Seed) (b : Tokens) : Nat :=
  match b.accounts (env.pda .rewards) with
  | some a => a.amount
  | none => 0

/-- The position's rewards can be reckoned and paid. -/
structure Payable (env : Env Seed) (w : World) (pool : StakingPool)
    (p : StakePosition) (amount : Nat) : Prop where
  /-- The age of the stake is an i64. -/
  age : Fixed.InRange 64 (w.now - p.stakeStartTime)
  /-- The accrual is a u128. -/
  accrual : p.weightedStake w.now * pool.accumulatedRewardsPerShare < 2 ^ 128
  /-- The vault covers what has accrued. -/
  covered : p.accrued pool.accumulatedRewardsPerShare w.now
    ≤ rewardsHeld env w.tokens
  /-- The total claimed stays a u64. -/
  claimed : p.totalClaimed
    + p.accrued pool.accumulatedRewardsPerShare w.now < 2 ^ 64
  /-- The weight taken off is a u64. -/
  weight : weight amount (getMultiplier (w.now - p.stakeStartTime)) < 2 ^ 64

-- ==== rewards

theorem weigh_iff {amount multiplier n : Nat} :
    weigh amount multiplier = .ok n
      ↔ amount * multiplier < 2 ^ 128 ∧ n = weight amount multiplier := by
  simp only [weigh, bind_ok, checked_ok, Fixed.checkedMul_some,
    Fixed.checkedDiv_some]
  constructor
  · intro h
    obtain ⟨x, ⟨hlt, rfl⟩, -, rfl⟩ := h
    exact ⟨hlt, rfl⟩
  · intro h
    obtain ⟨hlt, rfl⟩ := h
    exact ⟨_, ⟨hlt, rfl⟩, by decide, rfl⟩

theorem weigh_isOk {amount : Nat} (h : amount < 2 ^ 64) (d : Int) :
    weigh amount (getMultiplier d) = .ok (weight amount (getMultiplier d)) := by
  apply weigh_iff.mpr
  refine ⟨?_, rfl⟩
  have hle := Nat.mul_le_mul (Nat.le_of_lt h) (getMultiplier_le d)
  omega

variable {pool : StakingPool} {p : StakePosition}

theorem accrued_of_ok
    {now : Int} {n : Nat} (h : calculatePendingRewards pool p now = .ok n) :
    n = p.accrued pool.accumulatedRewardsPerShare now :=
  calculatePendingRewards_ok h

theorem calculatePendingRewards_isOk
    {now : Int} (hsmall : p.stakedAmount < 2 ^ 64)
    (hage : Fixed.InRange 64 (now - p.stakeStartTime))
    (haccrual : p.weightedStake now * pool.accumulatedRewardsPerShare < 2 ^ 128)
    (hfit : p.accrued pool.accumulatedRewardsPerShare now < 2 ^ 64) :
    ∃ n, calculatePendingRewards pool p now = .ok n := by
  unfold calculatePendingRewards
  by_cases hz : p.stakedAmount = 0
  · rw [if_pos hz]
    exact ⟨0, rfl⟩
  · rw [if_neg hz]
    have hsub : (subI64 now p.stakeStartTime : Outcome Int)
        = .ok (now - p.stakeStartTime) := subI64_ok.mpr ⟨hage, rfl⟩
    have hweigh := weigh_isOk hsmall (now - p.stakeStartTime)
    have hmul : Fixed.checkedMul 128 (weight p.stakedAmount
        (getMultiplier (now - p.stakeStartTime)))
        pool.accumulatedRewardsPerShare
        = some (p.weightedStake now * pool.accumulatedRewardsPerShare) :=
      Fixed.checkedMul_some.mpr ⟨haccrual, rfl⟩
    have hdebt : (Fixed.checkedDiv p.rewardsDebt precision).getD 0
        = p.rewardsDebt / precision := rfl
    have hpending : (Fixed.checkedSub
        (p.weightedStake now * pool.accumulatedRewardsPerShare / precision)
        (p.rewardsDebt / precision)).getD 0
        = p.accrued pool.accumulatedRewardsPerShare now := by
      unfold Fixed.checkedSub StakePosition.accrued
      split
      · rfl
      · rw [Option.getD_none]
        omega
    refine ⟨p.accrued pool.accumulatedRewardsPerShare now, ?_⟩
    simp only [bind_ok, checked_ok]
    refine ⟨_, hsub, _, hweigh, _, hmul, _,
      Fixed.checkedDiv_some.mpr ⟨by decide, rfl⟩, ?_⟩
    rw [hdebt, hpending]
    exact toU64_ok.mpr ⟨hfit, rfl⟩

theorem accrual_of_ok
    {now : Int} {n : Nat} (h : calculatePendingRewards pool p now = .ok n) :
    p.weightedStake now * pool.accumulatedRewardsPerShare < 2 ^ 128 := by
  unfold calculatePendingRewards at h
  split at h
  · next hz =>
      have hweight : p.weightedStake now = 0 := by
        rw [StakePosition.weightedStake, hz, Nat.zero_mul, Nat.zero_div]
      rw [hweight, Nat.zero_mul]
      decide
  · simp only [bind_ok, subI64_ok, checked_ok, Fixed.checkedMul_some] at h
    obtain ⟨duration, ⟨-, rfl⟩, weighted, hw, x, ⟨hlt, -⟩, -⟩ := h
    rw [weigh_ok hw] at hlt
    exact hlt

theorem le_weightedStake (p : StakePosition) (now : Int) :
    p.stakedAmount ≤ p.weightedStake now :=
  le_weight (base_le_getMultiplier _)

-- ==== payments

/-- The transfers of a reward payment. -/
def rewardTransfers (env : Env Seed) (dst : Pubkey) (n : Nat) :
    List (Transfer Pubkey) :=
  if 0 < n then [⟨env.pda .rewards, dst, n⟩] else []

/-- A reward payment that went through was covered, and is on the
journal. -/
theorem payRewards_ok {b b' : Tokens} {dst : Pubkey} {n : Nat}
    (h : payRewards env b dst n = .ok b') :
    n ≤ rewardsHeld env b
      ∧ b'.journal = b.journal ++ rewardTransfers env dst n := by
  unfold payRewards at h
  unfold rewardTransfers
  split at h
  · next hpos =>
      rw [if_pos hpos]
      obtain ⟨s, d, hs, -, -, -, hn, -, hj⟩ :=
        Tokens.transfer_some (transferTokens_ok.mp h)
      rw [rewardsHeld, hs]
      exact ⟨hn, hj⟩
  · next hzero =>
      cases h
      rw [if_neg hzero, List.append_nil]
      exact ⟨by omega, rfl⟩

/-- A covered payment goes through, and leaves the destination what it
is. -/
theorem payRewards_isOk {b : Tokens} {dst mint user : Pubkey} {n : Nat}
    (hvault : b.Held (env.pda .rewards) mint (env.pda .pool) 0)
    (hdst : b.Held dst mint user 0) (hn : n ≤ rewardsHeld env b) :
    ∃ b', payRewards env b dst n = .ok b' ∧ b'.Held dst mint user 0 := by
  unfold payRewards
  by_cases hpos : 0 < n
  · rw [if_pos hpos]
    obtain ⟨b', hb'⟩ : ∃ b', b.transfer (env.pda .rewards) dst
        (env.pda .pool) n = some b' := by
      obtain ⟨s, hs, hsm, hso, -⟩ := hvault
      obtain ⟨d, hd, hdm, -, -⟩ := hdst
      rw [rewardsHeld, hs] at hn
      exact Tokens.transfer_isSome hs hd (hsm.trans hdm.symm) hso hn
    exact ⟨b', transferTokens_ok.mpr hb', hdst.kept hb'⟩
  · rw [if_neg hpos]
    exact ⟨b, rfl, hdst⟩

theorem OwnerCall.loads {tx : Tx env} {acc : PositionAccounts}
    (hc : OwnerCall env w pool p tx acc) (hb : Accounted env w pool) :
    ∃ i, loadPosition env tx acc pool w = .ok (i, (acc.user, p)) := by
  cases hl : Keyed.locate Prod.fst w.positions acc.user with
  | none => exact absurd rfl (Keyed.locate_none.mp hl _ hc.position)
  | some r =>
    have hkey := locate_key hl
    -- one position a user
    have hsame : r.2 = (acc.user, p) := by
      have hone := Keyed.filter_eq_singleton hb.distinct hc.position
      have hmem : r.2 ∈ w.positions.filter
          (fun e => e.1 = acc.user) := by
        rw [List.mem_filter]
        refine ⟨Keyed.locate_mem hl, ?_⟩
        rw [hkey]
        exact decide_eq_true rfl
      rw [hone] at hmem
      exact List.mem_singleton.mp hmem
    refine ⟨r.1, ?_⟩
    simp only [loadPosition, bind_ok, load_ok]
    refine ⟨(), requireSigner_ok.mpr hc.signed, r, hl, (), ?_, (), ?_, ?_⟩
    · apply ensure_ok.mpr
      rw [hsame]
      exact (hb.owned _ hc.position).trans hc.owner.symm
    · obtain ⟨a, ha, -, ho, -⟩ := hc.account
      simp only [requireAta, bind_ok, load_ok]
      exact ⟨a, ha, (), require_ok.mpr ho, require_ok.mpr hc.address⟩
    · rw [← hsame]

-- ==== withdrawals

theorem payable_of_withdraws
    {tx : Tx env} {acc : PositionAccounts} {amount : Nat}
    (hb : Accounted env w pool) (hc : OwnerCall env w pool p tx acc)
    (h : Withdraws env tx acc amount w) : Payable env w pool p amount := by
  obtain ⟨w', ts, hstep, -, -⟩ := h
  obtain ⟨i, hload⟩ := hc.loads hb
  simp only [step, perform, unstake, bind_ok, load_ok, hb.here,
    checked_ok, toU64_ok, subI64_ok, Fixed.checkedAdd_some] at hstep
  obtain ⟨-, -, q, hq, r, hr, -, -, pending, hpending, b₁, hb₁, b, -,
    staked, -, claimed, ⟨hclaimed, -⟩, total, -, duration, ⟨hage, rfl⟩,
    weighted, hw, w64, ⟨hweight, -⟩, -⟩ := hstep
  cases hq
  rw [hload] at hr
  cases hr
  rw [hc.clock] at hpending hage hw
  have haccrued := accrued_of_ok hpending
  refine ⟨hage, accrual_of_ok hpending, ?_, ?_, ?_⟩
  · rw [← haccrued]
    exact (payRewards_ok hb₁).1
  · rw [← haccrued]
    exact hclaimed
  · rw [(weigh_iff.mp hw).2] at hweight
    exact hweight

theorem withdraws_of_payable
    {tx : Tx env} {acc : PositionAccounts} {amount : Nat}
    (hb : Accounted env w pool) (hc : OwnerCall env w pool p tx acc)
    (hle : amount ≤ p.stakedAmount) (hp : Payable env w pool p amount) :
    Withdraws env tx acc amount w := by
  obtain ⟨i, hload⟩ := hc.loads hb
  have hsmall : p.stakedAmount < 2 ^ 64 := hb.small _ hc.position
  obtain ⟨pending, hpending⟩ := calculatePendingRewards_isOk hsmall hp.age
    hp.accrual (Nat.lt_of_le_of_lt (Nat.le_add_left _ _) hp.claimed)
  have haccrued := accrued_of_ok hpending
  obtain ⟨hvault, hrewards⟩ := hb.vault
  -- the two payments
  obtain ⟨b₁, hb₁, hdst⟩ := payRewards_isOk hrewards hc.account
    (haccrued ▸ hp.covered)
  have hstakes : p.stakedAmount ≤ pool.totalStaked := by
    obtain ⟨j, hj⟩ := List.mem_iff_getElem?.mp hc.position
    rw [hb.total]
    exact Keyed.le_sum (fun e => e.2.stakedAmount) hj
  obtain ⟨b, hb'⟩ : ∃ b, b₁.transfer (env.pda .vault)
      acc.userTokenAccount (env.pda .pool) amount = some b := by
    obtain ⟨⟨s, hs, hsm, hso, hn⟩, -⟩ :=
      shifts_rewards hb₁ _ _ ⟨hvault, hrewards⟩
    obtain ⟨d, hd, hdm, -, -⟩ := hdst
    exact Tokens.transfer_isSome hs hd (hsm.trans hdm.symm) hso (by omega)
  -- the books
  have hdebt : (p.stakedAmount - amount) * pool.accumulatedRewardsPerShare
      < 2 ^ 128 := by
    refine Nat.lt_of_le_of_lt (Nat.mul_le_mul_right _ ?_) hp.accrual
    exact Nat.le_trans (Nat.sub_le _ _) (le_weightedStake p w.now)
  have hweigh := weigh_isOk (Nat.lt_of_le_of_lt hle hsmall)
    (w.now - p.stakeStartTime)
  obtain ⟨w', hstep, htokens⟩ : ∃ w',
      step env ⟨tx, .unstake acc amount⟩ w = .ok w' ∧ w'.tokens = b := by
    simp only [step, perform, unstake, bind_ok, load_ok, checked_ok,
      toU64_ok, subI64_ok, Fixed.checkedAdd_some, Fixed.checkedSub_some,
      Fixed.checkedMul_some, transferTokens_ok, hc.clock]
    have hclaimed : p.totalClaimed + pending < 2 ^ 64 := by
      rw [haccrued]
      exact hp.claimed
    refine ⟨_, ⟨(), require_ok.mpr trivial, pool, hb.here, _, hload, (),
      ensure_ok.mpr hle, pending, hpending, b₁, hb₁, b, hb', _, ⟨hle, rfl⟩,
      _, ⟨hclaimed, rfl⟩, _, ⟨Nat.le_trans hle hstakes, rfl⟩, _,
      ⟨hp.age, rfl⟩, _, hweigh, _, ⟨hp.weight, rfl⟩, _, ⟨hdebt, rfl⟩,
      rfl⟩, rfl⟩
  refine ⟨w', rewardTransfers env acc.userTokenAccount pending
    ++ [⟨env.pda .vault, acc.userTokenAccount, amount⟩], hstep, ?_, ?_⟩
  · obtain ⟨_, _, -, -, -, -, -, -, hj⟩ := Tokens.transfer_some hb'
    rw [htokens, hj, (payRewards_ok hb₁).2, List.append_assoc]
  · have hne : env.pda .rewards ≠ env.pda .vault := pda_ne (by simp)
    have hnone : (rewardTransfers env acc.userTokenAccount pending).filter
        (fun t => t.src = env.pda .vault) = [] := by
      unfold rewardTransfers
      split
      · simp [hne]
      · rfl
    rw [List.filter_append, hnone]
    simp

-- ==== the theorem

/-- In every state a pool's life reaches, an owner's withdrawal of any
part of the stake succeeds, and takes exactly that part out of the vault,
exactly when the position's rewards can be reckoned and paid. -/
theorem withdrawable_iff {tx₀ : Tx env} {acc₀ : InitializePoolAccounts}
    {w₀ w₁ : World} {tr : List (Action env)} {pool : StakingPool}
    {p : StakePosition} {tx : Tx env} {acc : PositionAccounts}
    {amount : Nat} (hempty : w₀.positions = [])
    (hinit : initializePool env tx₀ acc₀ w₀ = .ok w₁)
    (hrun : run (step env) w₁ tr = .ok w)
    (hpool : w.pool = some pool) (hc : OwnerCall env w pool p tx acc)
    (hle : amount ≤ p.stakedAmount) :
    Withdraws env tx acc amount w ↔ Payable env w pool p amount := by
  obtain ⟨q, hb⟩ := accounted_run hempty hinit hrun
  cases Option.some.inj (hpool.symm.trans hb.here)
  constructor
  · exact payable_of_withdraws hb hc
  · exact withdraws_of_payable hb hc hle

-- ==== instances

open Concrete Solana.Concrete in
/-- A wallet with a position and a token account makes the owner's
call. -/
theorem ownerCall_of_owns {i : UInt8} (clock : UInt32) (h : owns w i p = true)
    (hnow : w.now = clock.toNat) (hmint : pool.tokenMint = mint) :
    OwnerCall Concrete.env w pool p
      (txOf Concrete.env coding.wallet_ne_pda [i] clock []) (own i) := by
  rw [owns, Bool.and_eq_true, decide_eq_true_eq] at h
  obtain ⟨hmem, hany⟩ := h
  obtain ⟨a, ha, hac⟩ := (Option.any_eq_true _ _).mp hany
  rw [decide_eq_true_eq] at hac
  refine ⟨hnow.symm, by simp [own, txOf], hmem, rfl, ?_, ?_⟩
  · rw [hmint]
    rfl
  · rw [hmint]
    exact ⟨a, ha, hac.1, hac.2, Nat.zero_le _⟩

open Concrete Solana.Concrete in
/-- Right after a reward is shared, a staker takes out part of the stake
and the reward with it. -/
theorem withdrawable_iff_shared :
    ∃ w₁ w, created = .ok w₁ ∧ run (step Concrete.env) w₁ shared = .ok w
      ∧ Withdraws Concrete.env
        (txOf Concrete.env coding.wallet_ne_pda [10] 1000 []) (own 10) 40000000000
        w := by
  obtain ⟨w₁, hinit, h₁⟩ := check_ok (show check (fun w₁ =>
      check (fun w => decide (w.now = 1000)
        && owns w 10 ⟨wallet 10, 100000000000, 1000, 1000, 0, 0⟩
        && w.pool.any fun pool => decide (pool.tokenMint = mint
          ∧ pool.accumulatedRewardsPerShare = 4950
          ∧ rewardsHeld Concrete.env w.tokens = 990))
        (run (step Concrete.env) w₁ shared)) created = true
    by decide)
  obtain ⟨w, hrun, h⟩ := check_ok h₁
  simp only [Bool.and_eq_true, decide_eq_true_eq] at h
  obtain ⟨⟨hnow, howns⟩, hany⟩ := h
  obtain ⟨pool, hpool, hfacts⟩ := (Option.any_eq_true _ _).mp hany
  rw [decide_eq_true_eq] at hfacts
  obtain ⟨hmint, hacc, hheld⟩ := hfacts
  refine ⟨w₁, w, hinit, hrun, ?_⟩
  apply (withdrawable_iff rfl hinit hrun hpool
    (ownerCall_of_owns 1000 howns hnow hmint) (by decide)).mpr
  refine ⟨?_, ?_, ?_, ?_, ?_⟩
  · rw [hnow]
    decide
  · rw [hnow, hacc]
    decide
  · rw [hnow, hacc, hheld]
    decide
  · rw [hnow, hacc]
    decide
  · rw [hnow]
    decide

open Concrete Solana.Concrete in
/-- Thirty days on, the other staker has claimed 594 of the 990, and the
396 left in the vault stop the second staker's principal, whatever the
amount. -/
theorem principal_blocked :
    ∃ w₁ w pool p, start.positions = [] ∧ created = .ok w₁
      ∧ run (step Concrete.env) w₁
          (shared ++ [later, collect 10 2593000]) = .ok w
      ∧ w.pool = some pool
      ∧ OwnerCall Concrete.env w pool p
        (txOf Concrete.env coding.wallet_ne_pda [11] 2593000 []) (own 11)
      ∧ p.stakedAmount = 100000000000
      ∧ ∀ amount, ¬ Withdraws Concrete.env
        (txOf Concrete.env coding.wallet_ne_pda [11] 2593000 []) (own 11) amount
        w := by
  obtain ⟨w₁, hinit, h₁⟩ := check_ok (show check (fun w₁ =>
      check (fun w => decide (w.now = 2593000)
        && owns w 11 ⟨wallet 11, 100000000000, 1000, 1000, 0, 0⟩
        && w.pool.any fun pool => decide (pool.tokenMint = mint
          ∧ pool.accumulatedRewardsPerShare = 4950
          ∧ rewardsHeld Concrete.env w.tokens = 396))
        (run (step Concrete.env) w₁
          (shared ++ [later, collect 10 2593000]))) created = true
    by decide)
  obtain ⟨w, hrun, h⟩ := check_ok h₁
  simp only [Bool.and_eq_true, decide_eq_true_eq] at h
  obtain ⟨⟨hnow, howns⟩, hany⟩ := h
  obtain ⟨pool, hpool, hfacts⟩ := (Option.any_eq_true _ _).mp hany
  rw [decide_eq_true_eq] at hfacts
  obtain ⟨hmint, hacc, hheld⟩ := hfacts
  have hcall := ownerCall_of_owns 2593000 howns hnow hmint
  refine ⟨w₁, w, pool, _, rfl, hinit, hrun, hpool, hcall, rfl, ?_⟩
  intro amount hwithdraws
  obtain ⟨q, hb⟩ := accounted_run rfl hinit hrun
  cases Option.some.inj (hpool.symm.trans hb.here)
  have hcovered := (payable_of_withdraws hb hcall hwithdraws).covered
  rw [hnow, hacc, hheld] at hcovered
  exact absurd hcovered (by decide)

end KamiyoProtocol.Staking
