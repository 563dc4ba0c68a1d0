/-
What one action of the staking program does to the reward books.

`Move` is the inversion every reward invariant is derived from: seen
from the books, an action passes them by, settles one position at a new
amount, or distributes. What a settlement pays leaves the rewards vault,
and nothing else does: the vault's authority is the pool's derived
address, which no transaction is signed by.
-/
import KamiyoProtocol.Lib.Accrual
import KamiyoProtocol.Staking.Pool

namespace KamiyoProtocol.Staking

open Solana Exec

variable {env : Env Seed} {w w' : World}

-- ==== the books

/-- All that was ever paid out of the rewards vault. -/
def paidOut (env : Env Seed) (b : Tokens) : Nat :=
  Transfer.outOf b.journal (env.pda .rewards)

def World.accumulated (w : World) : Nat :=
  match w.pool with
  | some pool => pool.accumulatedRewardsPerShare
  | none => 0

def World.distributed (w : World) : Nat :=
  match w.pool with
  | some pool => pool.totalRewardsDistributed
  | none => 0

/-- A position as a holder of the reward fund. -/
def StakePosition.share (p : StakePosition) : Accrual.Share :=
  ⟨p.stakedAmount, p.rewardsDebt⟩

def World.shares (w : World) : List Accrual.Share :=
  w.positions.map fun e => e.2.share

/-- The user's stake, none without a position. -/
def World.stakeOf (w : World) (user : Pubkey) : Nat :=
  match Keyed.locate Prod.fst w.positions user with
  | some r => r.2.2.stakedAmount
  | none => 0

/-- How the fraction left over by a stake changes with the stake. -/
def World.fractionChange (w : World) (amount amount' : Nat) : Int :=
  (Accrual.fraction precision w.accumulated amount' : Int)
    - Accrual.fraction precision w.accumulated amount

/-- What an action's rounding gives away, in units of `1 / precision`: a
resettled stake the change of its fraction, a distribution what its per
share rate credits less what came in. -/
def roundingCost {env : Env Seed} (a : Action env) (w : World) : Int :=
  match a.op with
  | .stake acc amount =>
    w.fractionChange (w.stakeOf acc.user) (w.stakeOf acc.user + amount)
  | .unstake acc amount =>
    w.fractionChange (w.stakeOf acc.user) (w.stakeOf acc.user - amount)
  | .adminForceUnstake acc =>
    w.fractionChange (w.stakeOf acc.staker) 0
  | .distributeRewards _ amount =>
    match w.pool with
    | some pool =>
      let n := (calculateRewardSplit amount).2
      (Accrual.held w.shares * (n * precision
        / pool.totalWeightedStake : Nat) : Int) - precision * n
    | none => 0
  | _ => 0

-- ==== vault payments

/-- The rewards vault is a token account of the pool's. -/
def Guarded (env : Env Seed) (b : Tokens) : Prop :=
  ∃ mint, b.Held (env.pda .rewards) mint (env.pda .pool) 0

/-- From a guarded vault, `b` to `b'` pays out `n`. -/
def Pays (env : Env Seed) (b b' : Tokens) (n : Nat) : Prop :=
  Guarded env b → Guarded env b' ∧ paidOut env b' = paidOut env b + n

theorem pays_refl (b : Tokens) : Pays env b b 0 :=
  fun hg => ⟨hg, rfl⟩

theorem Pays.trans {b m b' : Tokens} {n k : Nat} (h : Pays env b m n)
    (h' : Pays env m b' k) : Pays env b b' (n + k) := by
  intro hg
  obtain ⟨hgm, hm⟩ := h hg
  obtain ⟨hg', hb'⟩ := h' hgm
  exact ⟨hg', by omega⟩

variable {b b' : Tokens}

variable {n : Nat}

theorem paidOut_transfer {src dst authority : Pubkey}
    (h : b.transfer src dst authority n = some b') :
    paidOut env b' = paidOut env b
      + if src = env.pda .rewards then n else 0 := by
  obtain ⟨_, _, -, -, -, -, -, -, hj⟩ := Tokens.transfer_some h
  rw [paidOut, hj, Transfer.outOf_append, Transfer.outOf_cons,
    Transfer.outOf_nil]
  rfl

theorem pays_rewards {dst : Pubkey}
    (h : payRewards env b dst n = .ok b') : Pays env b b' n := by
  unfold payRewards at h
  split at h
  · rw [transferTokens_ok] at h
    rintro ⟨mint, hheld⟩
    refine ⟨⟨mint, hheld.kept h⟩, ?_⟩
    rw [paidOut_transfer h, if_pos rfl]
  · next hn =>
      cases h
      obtain rfl : n = 0 := by omega
      exact pays_refl b

theorem pays_stakes {dst : Pubkey}
    (h : (transferTokens b (env.pda .vault) dst (env.pda .pool) n
      : Outcome Tokens) = .ok b') : Pays env b b' 0 := by
  rw [transferTokens_ok] at h
  have hne : env.pda .vault ≠ env.pda .rewards := pda_ne (by simp)
  rintro ⟨mint, hheld⟩
  refine ⟨⟨mint, hheld.kept h⟩, ?_⟩
  rw [paidOut_transfer h, if_neg hne]

variable {tx : Tx env}

theorem pays_signed {src dst authority : Pubkey} (hs : authority ∈ tx.signers)
    (h : b.transfer src dst authority n = some b') : Pays env b b' 0 := by
  rintro ⟨mint, hheld⟩
  have hne : authority ≠ env.pda .pool := signer_ne hs
  refine ⟨⟨mint, hheld.transfer hne h⟩, ?_⟩
  rw [paidOut_transfer h, if_neg (hheld.src_ne hne h)]

theorem pays_nothing
    (hheld : ∀ mint, b.Held (env.pda .rewards) mint (env.pda .pool) 0 →
      b'.Held (env.pda .rewards) mint (env.pda .pool) 0)
    (hj : b'.journal = b.journal) : Pays env b b' 0 := by
  rintro ⟨mint, hh⟩
  exact ⟨⟨mint, hheld mint hh⟩, by rw [paidOut, hj]; rfl⟩

theorem pays_burn {k mint authority : Pubkey} (hs : authority ∈ tx.signers)
    (h : b.burn k mint authority n = some b') : Pays env b b' 0 :=
  pays_nothing (fun _ hh => hh.burn (signer_ne hs) h)
    (Tokens.journal_burn h)

theorem pays_openAccount {k mint owner : Pubkey}
    (h : b.openAccount k mint owner = some b') : Pays env b b' 0 :=
  pays_nothing (fun _ hh => hh.openAccount h)
    (Tokens.journal_openAccount h)

theorem pays_tokenOp {op : TokenOp}
    (h : op.apply tx b = some b') : Pays env b b' 0 := by
  have hpool : env.pda .pool ∉ tx.signers := tx.no_pda_signs _
  cases op with
  | transfer src dst authority n =>
    simp only [TokenOp.apply] at h
    split at h
    · next hs => exact pays_signed hs h
    · cases h
  | setOwner k newOwner =>
    exact pays_nothing (fun _ hh => hh.setOwner hpool h)
      (Tokens.journal_setOwner h)
  | mintTo k n =>
    exact pays_nothing (fun _ hh => hh.mintTo h)
      (Tokens.journal_mintTo h)
  | burn k mint authority n =>
    simp only [TokenOp.apply] at h
    split at h
    · next hs => exact pays_burn hs h
    · cases h
  | openAccount k mint owner =>
    simp only [TokenOp.apply] at h
    split at h
    · exact pays_openAccount h
    · cases h
  | createAta wallet mint => exact pays_openAccount h
  | closeAccount k =>
    exact pays_nothing (fun _ hh => hh.closeAccount hpool h)
      (Tokens.journal_closeAccount h)

-- ==== moves

/-- The reward books before and after an action. -/
inductive Move (env : Env Seed) (a : Action env) (w w' : World) : Prop
  | aside (hpos : w'.positions = w.positions)
      (hacc : w'.accumulated = w.accumulated)
      (hdist : w'.distributed = w.distributed)
      (hpay : Pays env w.tokens w'.tokens 0)
      (hcost : roundingCost a w = 0)
  | settled (pool : StakingPool) (user : Pubkey) (i : Nat)
      (p p' : StakePosition) (pending paid : Nat)
      (hpool : w.pool = some pool)
      (hloc : Keyed.locate Prod.fst (initIfNeeded w.positions user) user
        = some (i, (user, p)))
      (hpos : w'.positions = (initIfNeeded w.positions user).set i (user, p'))
      (hdebt : p'.rewardsDebt = p'.stakedAmount * w.accumulated)
      (hpending : calculatePendingRewards pool p w.now = .ok pending)
      (hpaid : paid ≤ pending)
      (hacc : w'.accumulated = w.accumulated)
      (hdist : w'.distributed = w.distributed)
      (hpay : Pays env w.tokens w'.tokens paid)
      (hcost : roundingCost a w
        = w.fractionChange p.stakedAmount p'.stakedAmount)
  | distributed (acc : DistributeRewardsAccounts) (amount : Nat)
      (pool : StakingPool)
      (hop : a.op = .distributeRewards acc amount)
      (hpool : w.pool = some pool)
      (hpos : w'.positions = w.positions)
      (hacc : w'.accumulated = w.accumulated
        + (calculateRewardSplit amount).2 * precision / pool.totalWeightedStake)
      (hdist : w'.distributed = w.distributed + (calculateRewardSplit amount).2)
      (hpay : Pays env w.tokens w'.tokens 0)

variable {user : Pubkey}

theorem initIfNeeded_of_some {l : List (Pubkey × StakePosition)}
    {r : Nat × Pubkey × StakePosition}
    (h : Keyed.locate Prod.fst l user = some r) :
    initIfNeeded l user = l := by
  rw [initIfNeeded, h]

theorem stakeOf_init {i : Nat} {p : StakePosition}
    (h : Keyed.locate Prod.fst (initIfNeeded w.positions user) user
      = some (i, (user, p))) : w.stakeOf user = p.stakedAmount := by
  cases hl : Keyed.locate Prod.fst w.positions user with
  | some r =>
    rw [initIfNeeded_of_some hl, hl] at h
    cases h
    rw [World.stakeOf, hl]
  | none =>
    -- the fresh position is the only one of the user's
    have hfresh : p = .zeroed := by
      have hmem := Keyed.locate_mem h
      rw [initIfNeeded, hl] at hmem
      rcases List.mem_append.mp hmem with hold | hnew
      · exact absurd rfl (Keyed.locate_none.mp hl _ hold)
      · cases List.mem_singleton.mp hnew
        rfl
    rw [World.stakeOf, hl, hfresh]
    rfl

theorem locate_key {l : List (Pubkey × StakePosition)}
    {r : Nat × Pubkey × StakePosition}
    (h : Keyed.locate Prod.fst l user = some r) :
    r = (r.1, (user, r.2.2)) := by
  have hkey := (Keyed.locate_some (x := r.2) h).2
  rw [← hkey]

theorem locate_init_ne {user k : Pubkey} (hne : user ≠ k) :
    Keyed.locate Prod.fst (initIfNeeded w.positions user) k
      = Keyed.locate Prod.fst w.positions k := by
  unfold initIfNeeded
  split
  · rfl
  · exact Keyed.locate_append_ne hne

/-- The lookups once the user's position is rewritten. -/
theorem locate_written {i : Nat} {p p' : StakePosition}
    (hloc : Keyed.locate Prod.fst (initIfNeeded w.positions user) user
      = some (i, (user, p)))
    (hpos : w'.positions
      = (initIfNeeded w.positions user).set i (user, p')) (k : Pubkey) :
    Keyed.locate Prod.fst w'.positions k
      = if k = user then some (i, (user, p'))
        else Keyed.locate Prod.fst w.positions k := by
  rw [hpos, Keyed.locate_set (y := (user, p')) (Keyed.locate_some hloc).1
    rfl]
  by_cases hk : k = user
  · rw [if_pos hk, hk, hloc]
    simp
  · rw [if_neg hk, ← locate_init_ne (w := w) (Ne.symm hk)]
    cases hr : Keyed.locate Prod.fst (initIfNeeded w.positions user) k with
    | none => rfl
    | some r =>
      have hne : r.1 ≠ i := by
        -- one slot holds one key
        intro heq
        obtain ⟨hslot, hkey⟩ := Keyed.locate_some (x := r.2) hr
        rw [heq, (Keyed.locate_some hloc).1] at hslot
        rw [← Option.some.inj hslot] at hkey
        exact hk hkey.symm
      rw [Option.map_some, if_neg hne]

theorem claimExisting_ok {acc : StakeAccounts}
    {pool : StakingPool} {p p' : StakePosition}
    (h : claimExisting env tx acc pool p b = .ok (p', b')) :
    p'.stakedAmount = p.stakedAmount
      ∧ ∃ pending, calculatePendingRewards pool p tx.clock = .ok pending
        ∧ Pays env b b' pending := by
  unfold claimExisting at h
  split at h
  · obtain ⟨pending, hpending, h⟩ := bind_ok.mp h
    split at h
    · simp only [bind_ok] at h
      obtain ⟨b₁, hb₁, claimed, -, hr⟩ := h
      cases hr
      exact ⟨rfl, pending, hpending, pays_rewards hb₁⟩
    · next hz =>
        cases h
        obtain rfl : pending = 0 := by omega
        exact ⟨rfl, 0, hpending, pays_refl b⟩
  · next hz =>
      cases h
      refine ⟨rfl, 0, ?_, pays_refl b⟩
      rw [calculatePendingRewards, if_pos (by omega)]

theorem loadPosition_ok {acc : PositionAccounts}
    {pool : StakingPool} {r : Nat × Pubkey × StakePosition}
    (h : loadPosition env tx acc pool w = .ok r) :
    Keyed.locate Prod.fst w.positions acc.user = some r := by
  simp only [loadPosition, bind_ok, load_ok] at h
  obtain ⟨-, -, r', hr, -, -, -, -, he⟩ := h
  cases he
  exact hr

variable {a : Action env}

theorem stake_move {acc : StakeAccounts} {amount : Nat}
    (hop : a.op = .stake acc amount) (hclock : a.tx.clock = w.now)
    (h : stake env a.tx acc amount w = .ok w') : Move env a w w' := by
  simp only [stake, bind_ok, load_ok, requireSigner_ok, checked_ok,
    transferTokens_ok, Fixed.checkedAdd_some, Fixed.checkedMul_some] at h
  obtain ⟨-, hsig, pool, hpool, r, hr, -, -, -, -, -, -, c, hc, b, hb,
    staked, ⟨-, rfl⟩, total, -, duration, -, weight, -, weighted, -, tw, -,
    debt, ⟨-, rfl⟩, hw⟩ := h
  cases hw
  obtain ⟨hsame, pending, hpending, hpays⟩ := claimExisting_ok hc
  have hkey := locate_key hr
  rw [hkey] at hr
  rw [hclock] at hpending
  refine Move.settled pool acc.user r.1 r.2.2 _ pending pending hpool hr
    rfl ?_ hpending (Nat.le_refl _) ?_ ?_
    (hpays.trans (pays_signed hsig hb)) ?_
  · rw [World.accumulated, hpool]
  · simp only [World.accumulated, hpool]
  · simp only [World.distributed, hpool]
  · simp only [roundingCost, hop, stakeOf_init hr, hsame]

theorem unstake_move {acc : PositionAccounts}
    {amount : Nat} (hop : a.op = .unstake acc amount)
    (hclock : a.tx.clock = w.now)
    (h : unstake env a.tx acc amount w = .ok w') : Move env a w w' := by
  simp only [unstake, bind_ok, load_ok, checked_ok,
    Fixed.checkedSub_some, Fixed.checkedMul_some] at h
  obtain ⟨pool, hpool, r, hr, -, -, pending, hpending, b₁, hb₁, b, hb,
    staked, ⟨-, rfl⟩, claimed, -, total, -, duration, -, weight, -,
    weighted, -, debt, ⟨-, rfl⟩, hw⟩ := h
  cases hw
  have hr := loadPosition_ok hr
  have hkey := locate_key hr
  rw [hkey] at hr
  rw [hclock] at hpending
  have hinit := initIfNeeded_of_some hr
  have hloc := hr
  rw [← hinit] at hloc
  refine Move.settled pool acc.user r.1 r.2.2 _ pending pending hpool hloc
    (by rw [hinit]) ?_ hpending (Nat.le_refl _) ?_ ?_
    ((pays_rewards hb₁).trans (pays_stakes hb)) ?_
  · rw [World.accumulated, hpool]
  · simp only [World.accumulated, hpool]
  · simp only [World.distributed, hpool]
  · simp only [roundingCost, hop, stakeOf_init hloc]

/-- A claim finds nothing pending and changes nothing, or settles the
position at its amount. -/
theorem claimRewards_move {acc : PositionAccounts}
    (hop : a.op = .claimRewards acc) (hclock : a.tx.clock = w.now)
    (h : claimRewards env a.tx acc w = .ok w') : Move env a w w' := by
  simp only [claimRewards, bind_ok, load_ok] at h
  obtain ⟨pool, hpool, r, hr, pending, hpending, h⟩ := h
  split at h
  · cases h
    refine Move.aside rfl rfl rfl (pays_refl _) ?_
    simp only [roundingCost, hop]
  · simp only [bind_ok, checked_ok, Fixed.checkedMul_some] at h
    obtain ⟨b, hb, claimed, -, debt, ⟨-, rfl⟩, hw⟩ := h
    cases hw
    have hr := loadPosition_ok hr
    have hkey := locate_key hr
    rw [hkey] at hr
    rw [hclock] at hpending
    have hinit := initIfNeeded_of_some hr
    have hloc := hr
    rw [← hinit] at hloc
    refine Move.settled pool acc.user r.1 r.2.2 _ pending pending hpool
      hloc (by rw [hinit]) ?_ hpending (Nat.le_refl _) rfl rfl
      (pays_rewards hb) ?_
    · rw [World.accumulated, hpool]
    · simp only [roundingCost, hop, World.fractionChange, Int.sub_self]

theorem distributeRewards_move {acc : DistributeRewardsAccounts} {amount : Nat}
    (hop : a.op = .distributeRewards acc amount)
    (h : distributeRewards env a.tx acc amount w = .ok w') :
    Move env a w w' := by
  simp only [distributeRewards, bind_ok, load_ok, requireSigner_ok,
    checked_ok, burnTokens_ok, Fixed.checkedAdd_some,
    Fixed.checkedMul_some, Fixed.checkedDiv_some] at h
  obtain ⟨-, hsig, pool, hpool, -, -, -, -, b₁, hb₁, b, hb, x, ⟨-, rfl⟩,
    rps, ⟨-, rfl⟩, acc', ⟨-, rfl⟩, total, ⟨-, rfl⟩, hw⟩ := h
  cases hw
  refine Move.distributed acc amount pool hop hpool rfl ?_ ?_
    ((pays_burn hsig hb₁).trans
      (pays_signed hsig (transferChecked_ok hb)))
  · simp only [World.accumulated, hpool]
  · simp only [World.distributed, hpool]

/-- An emptied position is passed by; any other is settled at zero, for
what the vault can pay of the pending rewards. -/
theorem adminForceUnstake_move {acc : AdminForceUnstakeAccounts}
    (hop : a.op = .adminForceUnstake acc) (hclock : a.tx.clock = w.now)
    (h : adminForceUnstake env a.tx acc w = .ok w') : Move env a w w' := by
  simp only [adminForceUnstake, bind_ok, load_ok] at h
  obtain ⟨-, -, pool, hpool, -, -, r, hr, -, -, vault, -, h⟩ := h
  have hkey := locate_key hr
  rw [hkey] at hr
  have hinit := initIfNeeded_of_some hr
  have hloc := hr
  rw [← hinit] at hloc
  split at h
  · next hz =>
      cases h
      refine Move.aside rfl rfl rfl (pays_refl _) ?_
      simp only [roundingCost, hop, stakeOf_init hloc, hz,
        World.fractionChange, Int.sub_self]
  · simp only [bind_ok] at h
    obtain ⟨pending, hpending, b₁, hb₁, b, hb, claimed, -, duration, -,
      weight, -, weighted, -, hw⟩ := h
    cases hw
    rw [hclock] at hpending
    refine Move.settled pool acc.staker r.1 r.2.2 _ pending _ hpool hloc
      (by rw [hinit]) (Nat.zero_mul _).symm hpending
      (Nat.min_le_left _ vault.amount) ?_ ?_
      ((pays_rewards hb₁).trans (pays_stakes hb)) ?_
    · simp only [World.accumulated, hpool]
    · simp only [World.distributed, hpool]
    · simp only [roundingCost, hop, stakeOf_init hloc]

theorem initializePool_move {acc : InitializePoolAccounts}
    (hop : a.op = .initializePool acc)
    (h : initializePool env a.tx acc w = .ok w') : Move env a w w' := by
  simp only [initializePool, bind_ok, requireFresh_ok, okOr_ok]
    at h
  obtain ⟨-, -, -, hpool, b₁, hb₁, b, hb, hw⟩ := h
  cases hw
  refine Move.aside rfl ?_ ?_
    ((pays_openAccount hb₁).trans (pays_openAccount hb)) ?_
  · simp only [World.accumulated, hpool]
  · simp only [World.distributed, hpool]
  · simp only [roundingCost, hop]

theorem setPaused_move {admin : Pubkey} {paused : Bool}
    (hcost : roundingCost a w = 0)
    (h : setPaused a.tx admin paused w = .ok w') : Move env a w w' := by
  simp only [setPaused, bind_ok, load_ok] at h
  obtain ⟨-, -, pool, hpool, -, -, hw⟩ := h
  cases hw
  refine Move.aside rfl ?_ ?_ (pays_refl _) hcost
  · simp only [World.accumulated, hpool]
  · simp only [World.distributed, hpool]

theorem step_move (h : step env a w = .ok w') :
    Move env a w w' := by
  simp only [step, bind_ok, require_ok] at h
  obtain ⟨-, hclock, h⟩ := h
  unfold perform at h
  split at h
  · next acc hop => exact initializePool_move hop h
  · next acc n hop => exact stake_move hop hclock h
  · next acc n hop => exact unstake_move hop hclock h
  · next acc hop => exact claimRewards_move hop hclock h
  · next acc n hop => exact distributeRewards_move hop h
  · next admin hop => exact setPaused_move (by simp only [roundingCost, hop]) h
  · next admin hop => exact setPaused_move (by simp only [roundingCost, hop]) h
  · next acc hop => exact adminForceUnstake_move hop hclock h
  · next t hop =>
      obtain ⟨-, -, hw⟩ := bind_ok.mp h
      cases hw
      exact Move.aside rfl rfl rfl (pays_refl _)
        (by simp only [roundingCost, hop])
  · next op hop =>
      simp only [bind_ok, okOr_ok] at h
      obtain ⟨b, hb, hw⟩ := h
      cases hw
      exact Move.aside rfl rfl rfl (pays_tokenOp hb)
        (by simp only [roundingCost, hop])

end KamiyoProtocol.Staking
