/-
What a vote weighs.

The weight is the wallet's balance and the stake under the multiplier of
its age. The product is formed in 64 bits, where the staking program
forms it in 128, and counts for nothing when it does not fit; and the sum
falls back to the wallet when that does not fit. Either way a larger
holding weighs less than a smaller one, so weights are right exactly
where product and sum both fit, and at the largest wallet there is.
-/
import KamiyoProtocol.Governance.Program
import KamiyoProtocol.Staking.Stakes

namespace KamiyoProtocol.Governance

open Solana Exec

variable {env : Env Seeds}

-- ==== multiplier

theorem le_saturatingSubI {t a b : Int} (hlo : -2 ^ 63 < t) (hhi : t < 2 ^ 63) :
    t ≤ Fixed.saturatingSubI 64 a b ↔ t ≤ a - b := by
  show t ≤ max (-2 ^ 63) (min (a - b) (2 ^ 63 - 1)) ↔ t ≤ a - b
  omega

theorem getStakingMultiplier_eq (start now : Int) :
    getStakingMultiplier start now = Staking.getMultiplier (now - start) := by
  have h180 := le_saturatingSubI (t := Staking.oneEightyDays) (a := now)
    (b := start) (by decide) (by decide)
  have h90 := le_saturatingSubI (t := Staking.ninetyDays) (a := now)
    (b := start) (by decide) (by decide)
  have h30 := le_saturatingSubI (t := Staking.thirtyDays) (a := now)
    (b := start) (by decide) (by decide)
  simp only [getStakingMultiplier, Staking.getMultiplier, h180, h90, h30]

theorem getMultiplier_mono {d d' : Int} (h : d ≤ d') :
    Staking.getMultiplier d ≤ Staking.getMultiplier d' := by
  grind [Staking.getMultiplier, Staking.oneEightyDays, Staking.ninetyDays,
    Staking.thirtyDays, Staking.multiplier180d, Staking.multiplier90d,
    Staking.multiplier30d, Staking.multiplierBase]

-- ==== weights

/-- What the weight of a vote is reckoned from. -/
structure Holding where
  wallet : Nat
  staked : Nat
  start : Int
  now : Int

namespace Holding

/-- The fields fit the program's types. -/
structure Valid (x : Holding) : Prop where
  wallet : x.wallet < 2 ^ 64
  staked : x.staked < 2 ^ 64
  start : Fixed.InRange 64 x.start
  now : Fixed.InRange 64 x.now

def multiplier (x : Holding) : Nat := Staking.getMultiplier (x.now - x.start)

/-- The weight as `cast_vote` computes it. -/
def weight (x : Holding) : Nat :=
  addWeights x.wallet (stakingWeight x.staked x.start x.now)

/-- The stake under its multiplier, rounded down. -/
def stake (x : Holding) : Nat := x.staked * x.multiplier / 10000

/-- No more in the wallet, no more staked, for no longer. -/
structure Le (x y : Holding) : Prop where
  wallet : x.wallet ≤ y.wallet
  staked : x.staked ≤ y.staked
  duration : x.now - x.start ≤ y.now - y.start

/-- The weight is the wallet and the multiplied stake if they fit, and no
smaller holding weighs more. -/
structure Weighed (x : Holding) : Prop where
  exact : x.wallet + x.stake < 2 ^ 64 → x.weight = x.wallet + x.stake
  monotone : ∀ y : Holding, y.Valid → y.Le x → y.weight ≤ x.weight

/-- Product and sum fit, or the wallet is the largest there is. -/
def Fits (x : Holding) : Prop :=
  (x.staked * x.multiplier < 2 ^ 64 ∧ x.wallet + x.stake < 2 ^ 64)
    ∨ x.wallet = 2 ^ 64 - 1

variable {x y : Holding}

theorem Le.stake (h : y.Le x) : y.stake ≤ x.stake :=
  Nat.div_le_div_right
    (Nat.mul_le_mul h.staked (getMultiplier_mono h.duration))

theorem stakingWeight_eq (x : Holding) :
    stakingWeight x.staked x.start x.now
      = if x.staked * x.multiplier < 2 ^ 64 then x.stake else 0 := by
  unfold stakingWeight Fixed.checkedMul
  rw [getStakingMultiplier_eq]
  show Option.getD (if x.staked * x.multiplier < 2 ^ 64 then _ else _) 0
    / 10000 = _
  split
  · rfl
  · rfl

theorem weight_eq (x : Holding) :
    x.weight = if x.staked * x.multiplier < 2 ^ 64
        ∧ x.wallet + x.stake < 2 ^ 64 then x.wallet + x.stake
      else x.wallet := by
  unfold weight addWeights Fixed.checkedAdd
  rw [stakingWeight_eq]
  by_cases hproduct : x.staked * x.multiplier < 2 ^ 64
  · rw [if_pos hproduct]
    by_cases hsum : x.wallet + x.stake < 2 ^ 64
    · rw [if_pos hsum, if_pos ⟨hproduct, hsum⟩]
      rfl
    · rw [if_neg hsum, if_neg (fun h => hsum h.2)]
      rfl
  · have hneither : ¬ (x.staked * x.multiplier < 2 ^ 64
        ∧ x.wallet + x.stake < 2 ^ 64) := fun h => hproduct h.1
    rw [if_neg hproduct, if_neg hneither]
    split
    · rfl
    · rfl

theorem weight_le (x : Holding) : x.weight ≤ x.wallet + x.stake := by
  rw [weight_eq]
  split
  · exact Nat.le_refl _
  · exact Nat.le_add_right _ _

theorem wallet_le_weight (x : Holding) : x.wallet ≤ x.weight := by
  rw [weight_eq]
  split
  · exact Nat.le_add_right _ _
  · exact Nat.le_refl _

theorem weight_lt (h : x.wallet < 2 ^ 64) : x.weight < 2 ^ 64 := by
  rw [weight_eq]
  split
  · next hfits => exact hfits.2
  · exact h

/-- One unit staked just now beside the same wallet. -/
def unit (x : Holding) : Holding :=
  { x with staked := 1, now := min x.now x.start }

theorem unit_valid (h : x.Valid) : x.unit.Valid := by
  obtain ⟨hw, -, hs, hn⟩ := h
  refine ⟨hw, show 1 < 2 ^ 64 by decide, hs, ?_⟩
  show Fixed.InRange 64 (min x.now x.start)
  rcases min_choice x.now x.start with hmin | hmin
  · rw [hmin]
    exact hn
  · rw [hmin]
    exact hs

theorem unit_le (h : 0 < x.staked) : x.unit.Le x := by
  refine ⟨Nat.le_refl _, h, ?_⟩
  show min x.now x.start - x.start ≤ x.now - x.start
  omega

theorem unit_weight (h : x.wallet + 1 < 2 ^ 64) :
    x.unit.weight = x.wallet + 1 := by
  have hduration : min x.now x.start - x.start ≤ 0 := by omega
  have hone : x.unit.multiplier = 10000 := by
    have hle : x.unit.multiplier ≤ Staking.getMultiplier 0 :=
      getMultiplier_mono hduration
    have hge := Staking.base_le_getMultiplier (x.unit.now - x.unit.start)
    exact Nat.le_antisymm hle hge
  have hstake : x.unit.stake = 1 := by
    show 1 * x.unit.multiplier / 10000 = 1
    rw [hone]
  have hproduct : x.unit.staked * x.unit.multiplier < 2 ^ 64 := by
    rw [hone]
    show 1 * 10000 < 2 ^ 64
    decide
  rw [weight_eq, if_pos ⟨hproduct, by rw [hstake]; exact h⟩, hstake]
  rfl

/-- Where something is staked and counts for nothing, one unit of it would
weigh more. -/
theorem not_monotone (hx : x.Valid) (hstaked : 0 < x.staked)
    (hwallet : x.wallet ≠ 2 ^ 64 - 1) (hw : x.weight = x.wallet) :
    ¬ Weighed x := by
  intro h
  have hfit : x.wallet + 1 < 2 ^ 64 := by
    have := hx.wallet
    omega
  have hle := h.monotone x.unit (unit_valid hx) (unit_le hstaked)
  rw [unit_weight hfit, hw] at hle
  omega

theorem weighed_iff (hx : x.Valid) : Weighed x ↔ x.Fits := by
  constructor
  · intro h
    by_cases hfits : x.staked * x.multiplier < 2 ^ 64
        ∧ x.wallet + x.stake < 2 ^ 64
    · exact Or.inl hfits
    · right
      by_contra hwallet
      have hstaked : 0 < x.staked := by
        rcases Nat.eq_zero_or_pos x.staked with hzero | hpos
        · have hstake : x.stake = 0 := by simp [stake, hzero]
          exact absurd ⟨by simp [hzero], by rw [hstake]; exact hx.wallet⟩
            hfits
        · exact hpos
      refine not_monotone hx hstaked hwallet ?_ h
      rw [weight_eq, if_neg hfits]
  · intro h
    rcases h with hfits | hmax
    · have hw : x.weight = x.wallet + x.stake := by
        rw [weight_eq, if_pos hfits]
      refine ⟨fun _ => hw, ?_⟩
      intro y _ hle
      rw [hw]
      exact (weight_le y).trans (Nat.add_le_add hle.wallet hle.stake)
    · refine ⟨?_, ?_⟩
      · intro hsum
        have hw := wallet_le_weight x
        have hle := weight_le x
        omega
      · intro y hy _
        have hlt := weight_lt hy.wallet
        have hw := wallet_le_weight x
        omega

end Holding

-- ==== votes

theorem stakingWeight_zero (start now : Int) :
    stakingWeight 0 start now = 0 := by
  simp [stakingWeight, Fixed.checkedMul]

/-- The stake a vote may count: that of the position read from the account
handed in, if it is one of the staking program's. -/
inductive Read : Option AccountInfo → Nat → Int → Prop
  | none (start : Int) : Read none 0 start
  | other (info : AccountInfo) (start : Int)
      (hother : info.data.length < 8
        ∨ info.data.take 8 ≠ Staking.positionDiscriminator) :
      Read (some info) 0 start
  | position (info : AccountInfo) (p : StakePositionPrefix) (rest : Bytes)
      (hread : readPrefix (info.data.drop 8) = some (p, rest)) :
      Read (some info) p.stakedAmount p.stakeStartTime

/-- A vote is recorded at the weight of the voter's holding. -/
theorem castVote_weight {tx : Tx env} {acc : CastVoteAccounts}
    {support : Bool} {w w' : World}
    (h : castVote env tx acc support w = .ok w') :
    ∃ (wallet : TokenAccount) (x : Holding),
      w.tokens.accounts acc.voterTokenAccount = some wallet
        ∧ x.wallet = wallet.amount ∧ x.now = tx.clock
        ∧ Read acc.stakePosition x.staked x.start
        ∧ w'.voteRecords = w.voteRecords
          ++ [(env.pda (.inl (.vote acc.proposal acc.voter)),
            ⟨acc.proposal, acc.voter, x.weight, support, tx.clock⟩)] := by
  simp only [castVote, bind_ok, load_ok] at h
  obtain ⟨-, -, config, -, proposal, -, -, -, -, -, wallet, hwallet, -, -,
    -, -, -, -, -, -, staked, hstaked, counted, -, hw'⟩ := h
  cases hw'
  have hread : ∃ n start, Read acc.stakePosition n start
      ∧ staked = stakingWeight n start tx.clock := by
    cases hinfo : acc.stakePosition with
    | none =>
      rw [hinfo] at hstaked
      cases hstaked
      exact ⟨0, 0, .none 0, (stakingWeight_zero 0 tx.clock).symm⟩
    | some info =>
      rw [hinfo] at hstaked
      dsimp only [optionalWeight, positionWeight] at hstaked
      split at hstaked
      · cases hstaked
      · split at hstaked
        · next hother =>
            cases hstaked
            exact ⟨0, 0, .other info 0 hother,
              (stakingWeight_zero 0 tx.clock).symm⟩
        · simp only [bind_ok, okOr_ok] at hstaked
          obtain ⟨⟨p, rest⟩, hp, -, -, hs⟩ := hstaked
          cases hs
          exact ⟨_, _, .position info p rest hp, rfl⟩
  obtain ⟨n, start, hread, rfl⟩ := hread
  exact ⟨wallet, ⟨wallet.amount, n, start, tx.clock⟩, hwallet, rfl, rfl,
    hread, rfl⟩

-- ==== the theorem

/-- Every vote is recorded at the weight of the voter's holding, and that
is the balance and the multiplied stake whenever they fit, and no smaller
holding weighs more, exactly where product and sum both fit or the wallet
is the largest there is. -/
theorem vote_weight_iff (holding : Holding) :
    (∀ (env : Env Seeds) (tx : Tx env) (acc : CastVoteAccounts)
      (support : Bool) (w w' : World),
      castVote env tx acc support w = .ok w' →
      ∃ (wallet : TokenAccount) (x : Holding),
        w.tokens.accounts acc.voterTokenAccount = some wallet
          ∧ x.wallet = wallet.amount ∧ x.now = tx.clock
          ∧ Read acc.stakePosition x.staked x.start
          ∧ w'.voteRecords = w.voteRecords
            ++ [(env.pda (.inl (.vote acc.proposal acc.voter)),
              ⟨acc.proposal, acc.voter, x.weight, support, tx.clock⟩)])
    ∧ (holding.Valid → (holding.Weighed ↔ holding.Fits)) :=
  ⟨fun _ _ _ _ _ _ => castVote_weight, Holding.weighed_iff⟩

/-- A wallet of five and a stake of ten, held for less than a week. -/
def small : Holding := ⟨5, 10, 0, 3600⟩

theorem small_weighed : small.Weighed :=
  ((vote_weight_iff small).2
    ⟨by decide, by decide, by decide, by decide⟩).mpr (Or.inl (by decide))

/-- After a hundred and eighty days 93 percent of the supply weigh
nothing. -/
def overflowing : Holding := ⟨0, 930000000000000, 0, 15552000⟩

theorem overflowing_weight : overflowing.Valid ∧ overflowing.weight = 0
    ∧ overflowing.wallet + overflowing.stake = 1860000000000000
    ∧ ¬ overflowing.Weighed := by
  have hvalid : overflowing.Valid :=
    ⟨by decide, by decide, by decide, by decide⟩
  refine ⟨hvalid, by decide, by decide, ?_⟩
  intro h
  have hexact := h.exact (by decide)
  exact absurd hexact (by decide)

end KamiyoProtocol.Governance
