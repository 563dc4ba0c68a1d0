/-
What one action does to the stakes: the positions' amounts, the pool's
two totals, and the vault that holds the tokens.

`Shift` is the inversion both the withdrawal and the weight results are
derived from: an action passes the stakes by, adds to one position,
settles one at its amount, or takes from one. The part the last three
share is `Entry`.
-/
import KamiyoProtocol.Staking.Moves

namespace KamiyoProtocol.Staking

open Solana Exec

variable {env : Env Seed} {w w' : World}

-- ==== the vaults

/-- The pool's two vaults of a mint, with `n` tokens of stakes at
least. -/
def Vaulted (env : Env Seed) (b : Tokens) (mint : Pubkey) (n : Nat) :
    Prop :=
  b.Held (env.pda .vault) mint (env.pda .pool) n
    ∧ b.Held (env.pda .rewards) mint (env.pda .pool) 0

/-- From `b` to `b'` the stakes held gain `gain` and lose `loss`. -/
def Shifts (env : Env Seed) (b b' : Tokens) (gain loss : Nat) : Prop :=
  ∀ mint n, Vaulted env b mint n → Vaulted env b' mint (n + gain - loss)

theorem shifts_refl (b : Tokens) : Shifts env b b 0 0 :=
  fun _ _ h => h

theorem Shifts.after {b m b' : Tokens} {gain loss : Nat}
    (h : Shifts env m b' gain loss) (h₀ : Shifts env b m 0 0) :
    Shifts env b b' gain loss := by
  intro mint n hv
  exact h mint n (h₀ mint n hv)

variable {b b' : Tokens}

variable {n : Nat}

theorem shifts_rewards {dst : Pubkey}
    (h : payRewards env b dst n = .ok b') : Shifts env b b' 0 0 := by
  unfold payRewards at h
  split at h
  · rw [transferTokens_ok] at h
    have hne : env.pda .vault ≠ env.pda .rewards := pda_ne (by simp)
    intro mint m hv
    obtain ⟨hvault, hrewards⟩ := hv
    exact ⟨hvault.transfer_ne hne h, hrewards.kept h⟩
  · cases h
    exact shifts_refl b

theorem shifts_stakes {dst : Pubkey}
    (h : b.transfer (env.pda .vault) dst (env.pda .pool) n = some b') :
    Shifts env b b' 0 n := by
  intro mint m hv
  obtain ⟨hvault, hrewards⟩ := hv
  exact ⟨hvault.debit h, hrewards.kept h⟩

variable {tx : Tx env}

theorem shifts_deposit {src authority : Pubkey} (hs : authority ∈ tx.signers)
    (h : b.transfer src (env.pda .vault) authority n = some b') :
    Shifts env b b' n 0 := by
  intro mint m hv
  obtain ⟨hvault, hrewards⟩ := hv
  have hpool : authority ≠ env.pda .pool := signer_ne hs
  have hsrc : src ≠ env.pda .vault := hvault.src_ne hpool h
  exact ⟨hvault.credit (Ne.symm hsrc) h, hrewards.kept h⟩

theorem shifts_signed {src dst authority : Pubkey} (hs : authority ∈ tx.signers)
    (h : b.transfer src dst authority n = some b') :
    Shifts env b b' 0 0 := by
  intro mint m hv
  obtain ⟨hvault, hrewards⟩ := hv
  have hpool : authority ≠ env.pda .pool := signer_ne hs
  exact ⟨hvault.transfer hpool h, hrewards.kept h⟩

theorem shifts_burn {k mint authority : Pubkey} (hs : authority ∈ tx.signers)
    (h : b.burn k mint authority n = some b') : Shifts env b b' 0 0 := by
  intro mint' m hv
  obtain ⟨hvault, hrewards⟩ := hv
  exact ⟨hvault.burn (signer_ne hs) h, hrewards.burn (signer_ne hs) h⟩

theorem shifts_tokenOp {op : TokenOp}
    (h : op.apply tx b = some b') : Shifts env b b' 0 0 := by
  intro mint m hv
  obtain ⟨hvault, hrewards⟩ := hv
  have hpool : env.pda .pool ∉ tx.signers := tx.no_pda_signs _
  exact ⟨hvault.tokenOp hpool h, hrewards.tokenOp hpool h⟩

-- ==== weights

/-- What an amount weighs under a multiplier. -/
def weight (amount multiplier : Nat) : Nat :=
  amount * multiplier / multiplierBase

/-- The multiplier a deposit of the user's is weighed with: that of the
age of the stake it adds to, none for a fresh one. -/
def World.depositMultiplier (w : World) (user : Pubkey) : Nat :=
  match Keyed.locate Prod.fst w.positions user with
  | some r =>
    if 0 < r.2.2.stakedAmount then
      getMultiplier (w.now - r.2.2.stakeStartTime)
    else multiplierBase
  | none => multiplierBase

theorem base_le_getMultiplier (d : Int) :
    multiplierBase ≤ getMultiplier d := by
  unfold getMultiplier
  split
  · decide
  · split
    · decide
    · split
      · decide
      · exact Nat.le_refl _

theorem getMultiplier_le (d : Int) : getMultiplier d ≤ 20000 := by
  unfold getMultiplier
  split
  · decide
  · split
    · decide
    · split
      · decide
      · decide

theorem le_weight {amount multiplier : Nat}
    (h : multiplierBase ≤ multiplier) : amount ≤ weight amount multiplier := by
  unfold weight
  rw [Nat.le_div_iff_mul_le (by decide)]
  exact Nat.mul_le_mul_left amount h

-- ==== shifts

/-- One position rewritten: the pool before and after, the record, the
total and the vault. -/
structure Entry (env : Env Seed) (w w' : World) (user : Pubkey) (i : Nat)
    (p p' : StakePosition) (pool pool' : StakingPool) : Prop where
  before : w.pool = some pool
  after : w'.pool = some pool'
  mint : pool'.tokenMint = pool.tokenMint
  found : Keyed.locate Prod.fst (initIfNeeded w.positions user) user
    = some (i, (user, p))
  written : w'.positions = (initIfNeeded w.positions user).set i (user, p')
  owner : p'.owner = user ∨ (user, p) ∈ w.positions ∧ p'.owner = p.owner
  total : pool'.totalStaked
    = pool.totalStaked + p'.stakedAmount - p.stakedAmount
  vault : Shifts env w.tokens w'.tokens p'.stakedAmount p.stakedAmount

/-- The stakes before and after an action. -/
inductive Shift (env : Env Seed) (a : Action env) (w w' : World) : Prop
  | aside (hpos : w'.positions = w.positions)
      (hpool : ∀ pool, w.pool = some pool → ∃ pool', w'.pool = some pool'
        ∧ pool'.tokenMint = pool.tokenMint
        ∧ pool'.totalStaked = pool.totalStaked
        ∧ pool'.totalWeightedStake = pool.totalWeightedStake)
      (hvault : Shifts env w.tokens w'.tokens 0 0)
      (hstake : ∀ acc n, a.op ≠ .stake acc n)
      (hunstake : ∀ acc n, a.op ≠ .unstake acc n)
      (hforce : ∀ acc, a.op = .adminForceUnstake acc → w.stakeOf acc.staker = 0)
  | deposited (acc : StakeAccounts) (amount i : Nat)
      (p p' : StakePosition) (pool pool' : StakingPool)
      (hop : a.op = .stake acc amount)
      (he : Entry env w w' acc.user i p p' pool pool')
      (hstaked : p'.stakedAmount = p.stakedAmount + amount)
      (hsmall : p'.stakedAmount < 2 ^ 64)
      (hweight : pool'.totalWeightedStake = pool.totalWeightedStake
        + weight amount (w.depositMultiplier acc.user))
  | settled (acc : PositionAccounts) (i : Nat) (p p' : StakePosition)
      (pool : StakingPool) (hop : a.op = .claimRewards acc)
      (he : Entry env w w' acc.user i p p' pool pool)
      (hstaked : p'.stakedAmount = p.stakedAmount)
  | withdrawn (user : Pubkey) (amount i : Nat) (p p' : StakePosition)
      (pool pool' : StakingPool)
      (hop : (∃ acc, a.op = .unstake acc amount ∧ acc.user = user)
        ∨ ∃ acc, a.op = .adminForceUnstake acc ∧ acc.staker = user
          ∧ amount = p.stakedAmount)
      (he : Entry env w w' user i p p' pool pool')
      (hloc : Keyed.locate Prod.fst w.positions user = some (i, (user, p)))
      (hle : amount ≤ p.stakedAmount)
      (hstaked : p'.stakedAmount = p.stakedAmount - amount)
      (hweight : pool'.totalWeightedStake = pool.totalWeightedStake
        - weight amount (getMultiplier (w.now - p.stakeStartTime)))

variable {p p' : StakePosition}

/-- What the first half of `stake` leaves of the position, and that it
leaves the stakes alone. -/
theorem claimExisting_stakes {acc : StakeAccounts} {pool : StakingPool}
    (h : claimExisting env tx acc pool p b = .ok (p', b')) :
    Shifts env b b' 0 0 ∧ p'.stakedAmount = p.stakedAmount
      ∧ (if 0 < p.stakedAmount then p'.owner = p.owner
          ∧ p'.stakeStartTime = p.stakeStartTime
        else p'.owner = acc.user ∧ p'.stakeStartTime = tx.clock) := by
  unfold claimExisting at h
  split at h
  · next hpos =>
      rw [if_pos hpos]
      obtain ⟨pending, -, h⟩ := bind_ok.mp h
      split at h
      · simp only [bind_ok] at h
        obtain ⟨b₁, hb₁, claimed, -, hr⟩ := h
        cases hr
        exact ⟨shifts_rewards hb₁, rfl, rfl, rfl⟩
      · cases h
        exact ⟨shifts_refl b, rfl, rfl, rfl⟩
  · next hzero =>
      rw [if_neg hzero]
      cases h
      exact ⟨shifts_refl b, rfl, rfl, rfl⟩

variable {user : Pubkey}

variable {i : Nat}

theorem mem_of_staked {p : StakePosition}
    (h : Keyed.locate Prod.fst (initIfNeeded w.positions user) user
      = some (i, (user, p))) (hpos : 0 < p.stakedAmount) :
    Keyed.locate Prod.fst w.positions user = some (i, (user, p)) := by
  cases hl : Keyed.locate Prod.fst w.positions user with
  | some r =>
    rw [initIfNeeded_of_some hl, hl] at h
    exact h
  | none =>
    have hstake := stakeOf_init h
    rw [World.stakeOf, hl] at hstake
    dsimp only at hstake
    omega

/-- The deposit's multiplier, from the start the position leaves the first
half of `stake` with. -/
theorem depositMultiplier_eq {p : StakePosition} {start : Int}
    (h : Keyed.locate Prod.fst (initIfNeeded w.positions user) user
      = some (i, (user, p)))
    (hstart : start = if 0 < p.stakedAmount then p.stakeStartTime
      else w.now) :
    getMultiplier (w.now - start) = w.depositMultiplier user := by
  have hbase : getMultiplier (w.now - w.now) = multiplierBase := by
    rw [Int.sub_self]
    rfl
  rw [hstart]
  by_cases hpos : 0 < p.stakedAmount
  · rw [if_pos hpos, World.depositMultiplier, mem_of_staked h hpos]
    exact (if_pos hpos).symm
  · rw [if_neg hpos, hbase, World.depositMultiplier]
    cases hl : Keyed.locate Prod.fst w.positions user with
    | none => rfl
    | some r =>
      rw [initIfNeeded_of_some hl, hl] at h
      cases h
      exact (if_neg hpos).symm

variable {a : Action env}

theorem stake_shift {acc : StakeAccounts} {amount : Nat}
    (hop : a.op = .stake acc amount) (hclock : a.tx.clock = w.now)
    (h : stake env a.tx acc amount w = .ok w') : Shift env a w w' := by
  simp only [stake, bind_ok, load_ok, requireSigner_ok, checked_ok,
    transferTokens_ok, toU64_ok, subI64_ok, Fixed.checkedAdd_some] at h
  obtain ⟨-, hsig, pool, hpool, r, hr, -, -, -, -, -, -, c, hc, b, hb,
    staked, ⟨hsmall, rfl⟩, total, ⟨-, rfl⟩, duration, ⟨-, rfl⟩, weight, hw,
    weighted, ⟨-, rfl⟩, tw, ⟨-, rfl⟩, debt, -, hw'⟩ := h
  cases hw'
  obtain ⟨hshift, hsame, hcase⟩ := claimExisting_stakes hc
  have hkey := locate_key hr
  rw [hkey] at hr
  have hstart : c.1.stakeStartTime = if 0 < r.2.2.stakedAmount then
      r.2.2.stakeStartTime else w.now := by
    split at hcase
    · next hpos => rw [if_pos hpos, hcase.2]
    · next hzero => rw [if_neg hzero, hcase.2, hclock]
  refine Shift.deposited acc amount r.1 r.2.2 _ pool _ hop
    ⟨hpool, rfl, rfl, hr, rfl, ?_, ?_, ?_⟩ ?_ hsmall ?_
  · split at hcase
    · next hpos =>
        exact Or.inr ⟨Keyed.locate_mem (mem_of_staked hr hpos), hcase.1⟩
    · exact Or.inl hcase.1
  · dsimp only
    rw [hsame]
    omega
  · dsimp only
    rw [hsame]
    intro mint n hv
    have hgain := (shifts_deposit hsig hb).after hshift mint n hv
    rw [Nat.sub_zero] at hgain
    have heq : n + (r.2.2.stakedAmount + amount) - r.2.2.stakedAmount
        = n + amount := by omega
    rw [heq]
    exact hgain
  · dsimp only
    rw [hsame]
  · dsimp only
    rw [weigh_ok hw, hclock, depositMultiplier_eq hr hstart]
    rfl

theorem locate_opened {r : Nat × Pubkey × StakePosition}
    (h : Keyed.locate Prod.fst w.positions user = some r) :
    initIfNeeded w.positions user = w.positions ∧ (user, r.2.2) ∈ w.positions
      ∧ Keyed.locate Prod.fst (initIfNeeded w.positions user) user
        = some (r.1, (user, r.2.2)) := by
  have hkey := locate_key h
  have hinit := initIfNeeded_of_some h
  rw [hinit]
  rw [hkey] at h
  exact ⟨rfl, Keyed.locate_mem h, h⟩

theorem unstake_shift {acc : PositionAccounts}
    {amount : Nat} (hop : a.op = .unstake acc amount)
    (hclock : a.tx.clock = w.now)
    (h : unstake env a.tx acc amount w = .ok w') : Shift env a w w' := by
  simp only [unstake, bind_ok, load_ok, checked_ok, ensure_ok,
    toU64_ok, subI64_ok, transferTokens_ok, Fixed.checkedSub_some] at h
  obtain ⟨pool, hpool, r, hr, -, hle, pending, -, b₁, hb₁, b, hb,
    staked, ⟨-, rfl⟩, claimed, -, total, ⟨-, rfl⟩, duration, ⟨-, rfl⟩,
    weight, hw, weighted, ⟨-, rfl⟩, debt, -, hw'⟩ := h
  cases hw'
  obtain ⟨hinit, hmem, hloc⟩ := locate_opened (loadPosition_ok hr)
  refine Shift.withdrawn acc.user amount r.1 r.2.2 _ pool _
    (Or.inl ⟨acc, hop, rfl⟩)
    ⟨hpool, rfl, rfl, hloc, by rw [hinit], ?_, ?_, ?_⟩
    (by rw [← hinit]; exact hloc) hle rfl ?_
  · exact Or.inr ⟨hmem, rfl⟩
  · dsimp only
    omega
  · intro mint n hv
    have hloss := (shifts_stakes hb).after (shifts_rewards hb₁) mint n hv
    have heq : n + (r.2.2.stakedAmount - amount) - r.2.2.stakedAmount
        = n + 0 - amount := by omega
    dsimp only
    rw [heq]
    exact hloss
  · dsimp only
    rw [weigh_ok hw, hclock]
    rfl

theorem claimRewards_shift {acc : PositionAccounts}
    (hop : a.op = .claimRewards acc)
    (h : claimRewards env a.tx acc w = .ok w') : Shift env a w w' := by
  simp only [claimRewards, bind_ok, load_ok] at h
  obtain ⟨pool, hpool, r, hr, pending, -, h⟩ := h
  split at h
  · cases h
    refine Shift.aside rfl (fun pool h => ⟨pool, h, rfl, rfl, rfl⟩)
      (shifts_refl _) ?_ ?_ ?_
    · simp [hop]
    · simp [hop]
    · simp [hop]
  · simp only [bind_ok] at h
    obtain ⟨b, hb, claimed, -, debt, -, hw⟩ := h
    cases hw
    obtain ⟨hinit, hmem, hloc⟩ := locate_opened (loadPosition_ok hr)
    refine Shift.settled acc r.1 r.2.2 _ pool hop
      ⟨hpool, hpool, rfl, hloc, by rw [hinit], ?_, ?_, ?_⟩ ?_
    · exact Or.inr ⟨hmem, rfl⟩
    · dsimp only
      omega
    · intro mint n hv
      have hkeep := shifts_rewards hb mint n hv
      dsimp only
      rw [Nat.add_sub_cancel]
      exact hkeep
    · rfl

theorem distributeRewards_shift {acc : DistributeRewardsAccounts} {amount : Nat}
    (hop : a.op = .distributeRewards acc amount)
    (h : distributeRewards env a.tx acc amount w = .ok w') :
    Shift env a w w' := by
  simp only [distributeRewards, bind_ok, load_ok, requireSigner_ok,
    burnTokens_ok] at h
  obtain ⟨-, hsig, pool, hpool, -, -, -, -, b₁, hb₁, b, hb, x, -, rps, -,
    acc', -, total, -, hw⟩ := h
  cases hw
  refine Shift.aside rfl ?_ ((shifts_signed hsig
    (transferChecked_ok hb)).after (shifts_burn hsig hb₁)) ?_ ?_ ?_
  · intro pool' hpool'
    rw [hpool] at hpool'
    cases hpool'
    exact ⟨_, rfl, rfl, rfl, rfl⟩
  · simp [hop]
  · simp [hop]
  · simp [hop]

theorem setPaused_shift {admin : Pubkey} {paused : Bool}
    (hop : a.op = .pausePool admin ∨ a.op = .unpausePool admin)
    (h : setPaused a.tx admin paused w = .ok w') : Shift env a w w' := by
  simp only [setPaused, bind_ok, load_ok] at h
  obtain ⟨-, -, pool, hpool, -, -, hw⟩ := h
  cases hw
  refine Shift.aside rfl ?_ (shifts_refl _) ?_ ?_ ?_
  · intro pool' hpool'
    rw [hpool] at hpool'
    cases hpool'
    exact ⟨_, rfl, rfl, rfl, rfl⟩
  · rcases hop with hop | hop
    · simp [hop]
    · simp [hop]
  · rcases hop with hop | hop
    · simp [hop]
    · simp [hop]
  · rcases hop with hop | hop
    · simp [hop]
    · simp [hop]

theorem adminForceUnstake_shift {acc : AdminForceUnstakeAccounts}
    (hop : a.op = .adminForceUnstake acc) (hclock : a.tx.clock = w.now)
    (h : adminForceUnstake env a.tx acc w = .ok w') :
    Shift env a w w' := by
  simp only [adminForceUnstake, bind_ok, load_ok] at h
  obtain ⟨-, -, pool, hpool, -, -, r, hr, -, -, vault, -, h⟩ := h
  obtain ⟨hinit, hmem, hloc⟩ := locate_opened hr
  split at h
  · next hz =>
      cases h
      refine Shift.aside rfl (fun pool h => ⟨pool, h, rfl, rfl, rfl⟩)
        (shifts_refl _) ?_ ?_ ?_
      · simp [hop]
      · simp [hop]
      · intro acc' hop'
        rw [hop] at hop'
        cases hop'
        rw [stakeOf_init hloc]
        exact hz
  · simp only [bind_ok, toU64_ok, subI64_ok, transferTokens_ok] at h
    obtain ⟨pending, -, b₁, hb₁, b, hb, claimed, -, duration, ⟨-, rfl⟩,
      weight, hw, weighted, ⟨-, rfl⟩, hw'⟩ := h
    cases hw'
    refine Shift.withdrawn acc.staker r.2.2.stakedAmount r.1 r.2.2 _ pool _
      (Or.inr ⟨acc, hop, rfl, rfl⟩)
      ⟨hpool, rfl, rfl, hloc, by rw [hinit], ?_, ?_, ?_⟩
      (by rw [← hinit]; exact hloc) (Nat.le_refl _) (Nat.sub_self _).symm ?_
    · exact Or.inr ⟨hmem, rfl⟩
    · rfl
    · exact (shifts_stakes hb).after (shifts_rewards hb₁)
    · dsimp only
      rw [weigh_ok hw, hclock]
      rfl

theorem step_shift (h : step env a w = .ok w') :
    Shift env a w w' := by
  simp only [step, bind_ok, require_ok] at h
  obtain ⟨-, hclock, h⟩ := h
  unfold perform at h
  split at h
  · next acc hop =>
      -- a second pool is refused
      simp only [initializePool, bind_ok, requireFresh_ok, okOr_ok] at h
      obtain ⟨-, -, -, hpool, b₁, hb₁, b, hb, hw⟩ := h
      cases hw
      refine Shift.aside rfl ?_ ?_ ?_ ?_ ?_
      · intro pool hsome
        rw [hpool] at hsome
        cases hsome
      · intro mint n hv
        obtain ⟨hvault, hrewards⟩ := hv
        exact ⟨(hvault.openAccount hb₁).openAccount hb,
          (hrewards.openAccount hb₁).openAccount hb⟩
      · simp [hop]
      · simp [hop]
      · simp [hop]
  · next acc n hop => exact stake_shift hop hclock h
  · next acc n hop => exact unstake_shift hop hclock h
  · next acc hop => exact claimRewards_shift hop h
  · next acc n hop => exact distributeRewards_shift hop h
  · next admin hop => exact setPaused_shift (Or.inl hop) h
  · next admin hop => exact setPaused_shift (Or.inr hop) h
  · next acc hop => exact adminForceUnstake_shift hop hclock h
  · next t hop =>
      obtain ⟨-, -, hw⟩ := bind_ok.mp h
      cases hw
      refine Shift.aside rfl (fun pool h => ⟨pool, h, rfl, rfl, rfl⟩)
        (shifts_refl _) ?_ ?_ ?_
      · simp [hop]
      · simp [hop]
      · simp [hop]
  · next op hop =>
      simp only [bind_ok, okOr_ok] at h
      obtain ⟨b, hb, hw⟩ := h
      cases hw
      refine Shift.aside rfl (fun pool h => ⟨pool, h, rfl, rfl, rfl⟩)
        (shifts_tokenOp hb) ?_ ?_ ?_
      · simp [hop]
      · simp [hop]
      · simp [hop]

-- ==== the books

/-- Where the rewritten record stands: in the place of the user's old one,
or at the end of a list without one. -/
theorem Entry.positions {pool pool' : StakingPool}
    (he : Entry env w w' user i p p' pool pool') :
    (w.positions[i]? = some (user, p)
        ∧ w'.positions = w.positions.set i (user, p'))
      ∨ ((∀ e ∈ w.positions, e.1 ≠ user) ∧ p = .zeroed
        ∧ w'.positions = w.positions ++ [(user, p')]) := by
  have hfound := (Keyed.locate_some he.found).1
  have hwritten := he.written
  cases hl : Keyed.locate Prod.fst w.positions user with
  | some r =>
    left
    rw [initIfNeeded_of_some hl] at hfound hwritten
    exact ⟨hfound, hwritten⟩
  | none =>
    right
    have hnew := Keyed.locate_none.mp hl
    have hopen : initIfNeeded w.positions user
        = w.positions ++ [(user, .zeroed)] := by
      rw [initIfNeeded, hl]
    rw [hopen] at hfound hwritten
    by_cases hlt : i < w.positions.length
    · rw [List.getElem?_append_left hlt] at hfound
      exact absurd rfl (hnew _ (List.mem_of_getElem? hfound))
    · obtain rfl : i = w.positions.length := by
        have hbound := (List.getElem?_eq_some_iff.mp hfound).1
        rw [List.length_append, List.length_singleton] at hbound
        omega
      rw [List.getElem?_concat_length] at hfound
      cases hfound
      refine ⟨hnew, rfl, ?_⟩
      rw [hwritten, List.set_append_right _ _ (Nat.le_refl _), Nat.sub_self]
      rfl

/-- The stakes are on the books: one position a user, each the user's own,
their total the pool's and in the vault. -/
structure Accounted (env : Env Seed) (w : World) (pool : StakingPool) :
    Prop where
  here : w.pool = some pool
  distinct : (w.positions.map Prod.fst).Nodup
  owned : ∀ e ∈ w.positions, e.2.owner = e.1
  small : ∀ e ∈ w.positions, e.2.stakedAmount < 2 ^ 64
  total : pool.totalStaked = (w.positions.map fun e => e.2.stakedAmount).sum
  vault : Vaulted env w.tokens pool.tokenMint pool.totalStaked

theorem Accounted.entry {pool pool' : StakingPool} (hb : Accounted env w pool)
    (he : Entry env w w' user i p p' pool pool')
    (hsmall : p'.stakedAmount < 2 ^ 64) : Accounted env w' pool' := by
  have hvault : Vaulted env w'.tokens pool'.tokenMint pool'.totalStaked := by
    rw [he.mint, he.total]
    exact he.vault _ _ hb.vault
  have howner : p'.owner = user := by
    rcases he.owner with h | ⟨hmem, hsame⟩
    · exact h
    · exact hsame.trans (hb.owned _ hmem)
  rcases he.positions with ⟨hi, hpos⟩ | ⟨hnew, hzero, hpos⟩
  · have hmem : ∀ e ∈ w'.positions, e ∈ w.positions ∨ e = (user, p') := by
      intro e h
      rw [hpos] at h
      exact List.mem_or_eq_of_mem_set h
    refine ⟨he.after, ?_, ?_, ?_, ?_, hvault⟩
    · rw [hpos, Keyed.map_set (y := (user, p')) hi rfl]
      exact hb.distinct
    · intro e h
      rcases hmem e h with hold | rfl
      · exact hb.owned e hold
      · exact howner
    · intro e h
      rcases hmem e h with hold | rfl
      · exact hb.small e hold
      · exact hsmall
    · have hsum := Keyed.sum_set (fun e => e.2.stakedAmount) hi (user, p')
      have htotal := hb.total
      rw [he.total, hpos]
      dsimp only at hsum
      omega
  · have hmem : ∀ e ∈ w'.positions, e ∈ w.positions ∨ e = (user, p') := by
      intro e h
      rw [hpos] at h
      rcases List.mem_append.mp h with hold | hlast
      · exact Or.inl hold
      · exact Or.inr (List.mem_singleton.mp hlast)
    refine ⟨he.after, ?_, ?_, ?_, ?_, hvault⟩
    · rw [hpos]
      exact Keyed.nodup_append hb.distinct hnew
    · intro e h
      rcases hmem e h with hold | rfl
      · exact hb.owned e hold
      · exact howner
    · intro e h
      rcases hmem e h with hold | rfl
      · exact hb.small e hold
      · exact hsmall
    · have hp : p.stakedAmount = 0 := by
        rw [hzero]
        rfl
      rw [he.total, hpos, Keyed.sum_append_single, ← hb.total, hp]
      rfl

theorem Accounted.small_found {pool pool' : StakingPool}
    (hb : Accounted env w pool)
    (he : Entry env w w' user i p p' pool pool') :
    p.stakedAmount < 2 ^ 64 := by
  rcases he.positions with ⟨hi, -⟩ | ⟨-, hzero, -⟩
  · exact hb.small _ (List.mem_of_getElem? hi)
  · rw [hzero]
    decide

theorem Accounted.step {pool : StakingPool}
    (hb : Accounted env w pool) (h : step env a w = .ok w') :
    ∃ pool', Accounted env w' pool' := by
  cases step_shift h with
  | aside hpos hpool hvault =>
    obtain ⟨pool', hafter, hmint, htotal, -⟩ := hpool pool hb.here
    refine ⟨pool', hafter, ?_, ?_, ?_, ?_, ?_⟩
    · rw [hpos]
      exact hb.distinct
    · rw [hpos]
      exact hb.owned
    · rw [hpos]
      exact hb.small
    · rw [hpos, htotal]
      exact hb.total
    · rw [hmint, htotal]
      exact hvault _ _ hb.vault
  | deposited acc amount i p p' q pool' hop he hstaked hsmall =>
    cases Option.some.inj (hb.here.symm.trans he.before)
    exact ⟨pool', hb.entry he hsmall⟩
  | settled acc i p p' q hop he hstaked =>
    cases Option.some.inj (hb.here.symm.trans he.before)
    refine ⟨pool, hb.entry he ?_⟩
    rw [hstaked]
    exact hb.small_found he
  | withdrawn user amount i p p' q pool' hop he hloc hle hstaked =>
    cases Option.some.inj (hb.here.symm.trans he.before)
    refine ⟨pool', hb.entry he ?_⟩
    have hsmall := hb.small_found he
    omega

theorem accounted_start {acc : InitializePoolAccounts}
    {w₀ w₁ : World} (hempty : w₀.positions = [])
    (hinit : initializePool env tx acc w₀ = .ok w₁) :
    ∃ pool, Accounted env w₁ pool ∧ pool.totalWeightedStake = 0
      ∧ w₁.positions = [] := by
  simp only [initializePool, bind_ok, requireFresh_ok, okOr_ok]
    at hinit
  obtain ⟨-, -, -, -, b₁, hb₁, b, hb, hw⟩ := hinit
  cases hw
  refine ⟨_, ⟨rfl, ?_, ?_, ?_, ?_, ?_⟩, rfl, hempty⟩
  · rw [hempty]
    exact List.nodup_nil
  · simp [hempty]
  · simp [hempty]
  · simp [hempty]
  · exact ⟨(Tokens.held_openAccount hb₁).openAccount hb,
      Tokens.held_openAccount hb⟩

theorem accounted_run {acc : InitializePoolAccounts}
    {w₀ w₁ : World} {tr : List (Action env)}
    (hempty : w₀.positions = [])
    (hinit : initializePool env tx acc w₀ = .ok w₁)
    (hrun : run (step env) w₁ tr = .ok w) :
    ∃ pool, Accounted env w pool := by
  have hkept : ∀ (a : Action env) s s', (∃ pool, Accounted env s pool) →
      step env a s = .ok s' → ∃ pool, Accounted env s' pool := by
    intro a s s' hI hs
    obtain ⟨pool, hb⟩ := hI
    exact hb.step hs
  obtain ⟨pool, hstart, -⟩ := accounted_start hempty hinit
  exact run_induct hkept ⟨pool, hstart⟩ hrun

end KamiyoProtocol.Staking
