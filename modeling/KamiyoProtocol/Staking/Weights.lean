/-
The pool's weighted total against the weights put into it.

A deposit is weighed with the multiplier of the stake's age at the time,
a withdrawal with the multiplier at the withdrawal, and the multiplier
has grown in between. A ghost beside the state keeps what is still
staked as tranches, each at the multiplier it was put in with; what the
total should be is the weight of the tranches.

`Returned` says of a withdrawal that the weight it takes off, no more
than the total has, is the weight the amount was put in with. The total
is right throughout a run exactly when all the run's withdrawals are so.
Nothing here depends on which deposits a withdrawal is taken from: the
draw is any.
-/
import KamiyoProtocol.Lib.Tranches
import KamiyoProtocol.Staking.Concrete
import KamiyoProtocol.Staking.Stakes

namespace KamiyoProtocol.Staking

open Solana Exec Function
open Tranches (Tranche Draw)

variable {env : Env Seed} {w w' : World}

-- ==== the ghost

/-- What each user has put in and not taken out. -/
abbrev Deposits := Pubkey → List Tranche

/-- Whom an instruction takes a stake from, and how much. -/
def withdrawal (op : Op) (w : World) : Option (Pubkey × Nat) :=
  match op with
  | .unstake acc amount => some (acc.user, amount)
  | .adminForceUnstake acc => some (acc.staker, w.stakeOf acc.staker)
  | _ => none

/-- An accepted instruction's effect on the deposits. -/
def track (d : Draw) (a : Action env) (w : World) (g : Deposits) :
    Deposits :=
  match a.op with
  | .stake acc amount =>
    update g acc.user
      (g acc.user ++ [⟨amount, w.depositMultiplier acc.user⟩])
  | op =>
    match withdrawal op w with
    | some u => update g u.1 (d.take (g u.1) u.2)
    | none => g

/-- The program, with the deposits beside its state. -/
abbrev stepTracked (env : Env Seed) (d : Draw) (a : Action env)
    (x : World × Deposits) : Outcome (World × Deposits) :=
  tracked (step env) (track d) a x

def noDeposits : Deposits := fun _ => []

-- ==== the property

/-- The users with a position. -/
def World.stakers (w : World) : List Pubkey := w.positions.map Prod.fst

/-- The weights of all that is still staked, as they were added. -/
def weightAdded (x : World × Deposits) : Nat :=
  (x.1.stakers.map fun k =>
    Tranches.weights multiplierBase (x.2 k)).sum

/-- The pool's weighted total is the weights that were added for what is
still staked, and so at least the stakes. -/
def Weighed (x : World × Deposits) : Prop :=
  ∀ pool, x.1.pool = some pool →
    pool.totalWeightedStake = weightAdded x
      ∧ (x.1.positions.map fun e => e.2.stakedAmount).sum
        ≤ pool.totalWeightedStake

-- ==== the condition

/-- Taken out now, the amount takes off what it was put in with. -/
def ReturnedAt (d : Draw) (x : World × Deposits) (user : Pubkey)
    (amount : Nat) : Prop :=
  ∀ pool ∈ x.1.pool, ∀ r ∈ Keyed.locate Prod.fst x.1.positions user,
    min (weight amount (getMultiplier (x.1.now - r.2.2.stakeStartTime)))
        pool.totalWeightedStake
      + Tranches.weights multiplierBase (d.take (x.2 user) amount)
      = Tranches.weights multiplierBase (x.2 user)
  deriving Decidable

/-- What an action takes out takes off what it was put in with. -/
def Returned (d : Draw) (a : Action env) (x : World × Deposits) : Prop :=
  ∀ u ∈ withdrawal a.op x.1, ReturnedAt d x u.1 u.2
  deriving Decidable

-- ==== the invariant

/-- The deposits beside a state are the stakes, at rates of one and
above. -/
structure Deposited (env : Env Seed) (x : World × Deposits) : Prop where
  books : ∃ pool, Accounted env x.1 pool
  amounts : ∀ k, Tranches.total (x.2 k) = x.1.stakeOf k
  rates : ∀ k, ∀ t ∈ x.2 k, multiplierBase ≤ t.rate

theorem base_le_depositMultiplier (user : Pubkey) :
    multiplierBase ≤ w.depositMultiplier user := by
  unfold World.depositMultiplier
  split
  · split
    · exact base_le_getMultiplier _
    · exact Nat.le_refl _
  · exact Nat.le_refl _

variable {user : Pubkey}

theorem Entry.stakeOf {i : Nat} {p p' : StakePosition}
    {pool pool' : StakingPool}
    (he : Entry env w w' user i p p' pool pool') (k : Pubkey) :
    w'.stakeOf k = if k = user then p'.stakedAmount else w.stakeOf k := by
  rw [World.stakeOf, locate_written he.found he.written]
  by_cases hk : k = user
  · rw [if_pos hk, if_pos hk]
  · rw [if_neg hk, if_neg hk]
    rfl

theorem Entry.stakers {i : Nat} {p p' : StakePosition}
    {pool pool' : StakingPool}
    (he : Entry env w w' user i p p' pool pool') :
    (user ∈ w.stakers ∧ w'.stakers = w.stakers)
      ∨ (user ∉ w.stakers ∧ w'.stakers = w.stakers ++ [user]) := by
  unfold World.stakers
  rcases he.positions with ⟨hi, hpos⟩ | ⟨hnew, -, hpos⟩
  · left
    have hmem := List.mem_of_getElem? hi
    refine ⟨List.mem_map.mpr ⟨_, hmem, rfl⟩, ?_⟩
    rw [hpos]
    exact Keyed.map_set (y := (user, p')) hi rfl
  · right
    refine ⟨?_, by rw [hpos, List.map_append]; rfl⟩
    intro hmem
    obtain ⟨e, he, hkey⟩ := List.mem_map.mp hmem
    exact hnew e he hkey

theorem stakeOf_of_not_staker {k : Pubkey} (h : k ∉ w.stakers) :
    w.stakeOf k = 0 := by
  have hnone : Keyed.locate Prod.fst w.positions k = none := by
    apply Keyed.locate_none.mpr
    intro e he hkey
    exact h (List.mem_map.mpr ⟨e, he, hkey⟩)
  rw [World.stakeOf, hnone]

variable {g : Deposits}

/-- Rewriting a user's deposits with the user's position. -/
theorem Deposited.entry {i : Nat}
    {p p' : StakePosition} {pool pool' : StakingPool} {l : List Tranche}
    (hd : Deposited env (w, g))
    (he : Entry env w w' user i p p' pool pool')
    (hbooks : ∃ pool, Accounted env w' pool)
    (hl : Tranches.total l = p'.stakedAmount)
    (hrates : ∀ t ∈ l, multiplierBase ≤ t.rate) :
    Deposited env (w', update g user l)
      ∧ weightAdded (w', update g user l)
          + Tranches.weights multiplierBase (g user)
        = weightAdded (w, g) + Tranches.weights multiplierBase l := by
  refine ⟨⟨hbooks, ?_, ?_⟩, ?_⟩
  · intro k
    dsimp only
    rw [he.stakeOf]
    by_cases hk : k = user
    · rw [if_pos hk, hk, update_self]
      exact hl
    · rw [if_neg hk, update_of_ne hk]
      exact hd.amounts k
  · intro k
    dsimp only
    by_cases hk : k = user
    · rw [hk, update_self]
      exact hrates
    · rw [update_of_ne hk]
      exact hd.rates k
  · obtain ⟨q, hb⟩ := hd.books
    unfold weightAdded
    dsimp only
    rcases he.stakers with ⟨hmem, hsame⟩ | ⟨hnew, happ⟩
    · rw [hsame]
      exact Keyed.sum_update _ g l hb.distinct hmem
    · -- a new staker has put nothing in
      have hzero : Tranches.weights multiplierBase (g user) = 0 := by
        apply Tranches.weights_eq_zero
        exact (hd.amounts user).trans (stakeOf_of_not_staker hnew)
      rw [happ, List.map_append, List.sum_append,
        Keyed.sum_update_of_not_mem _ g l hnew, hzero]
      simp

variable {x : World × Deposits}

theorem Deposited.le_weightAdded (hd : Deposited env x) :
    (x.1.positions.map fun e => e.2.stakedAmount).sum ≤ weightAdded x := by
  obtain ⟨pool, hb⟩ := hd.books
  unfold weightAdded World.stakers
  rw [List.map_map]
  apply List.sum_le_sum
  intro e he
  have hstake : x.1.stakeOf e.1 = e.2.stakedAmount := by
    cases hl : Keyed.locate Prod.fst x.1.positions e.1 with
    | none => exact absurd rfl (Keyed.locate_none.mp hl e he)
    | some r =>
      have hkey := locate_key hl
      have hmem : r.2 ∈ x.1.positions.filter (fun z => z.1 = e.1) := by
        rw [List.mem_filter]
        refine ⟨Keyed.locate_mem hl, ?_⟩
        rw [hkey]
        exact decide_eq_true rfl
      rw [Keyed.filter_eq_singleton hb.distinct he, List.mem_singleton] at hmem
      rw [World.stakeOf, hl, ← hmem]
  dsimp only [Function.comp]
  rw [← hstake, ← hd.amounts e.1]
  exact Tranches.total_le_weights (by decide) (hd.rates e.1)

theorem weighed_iff {pool : StakingPool}
    (hd : Deposited env x) (hpool : x.1.pool = some pool) :
    Weighed x ↔ pool.totalWeightedStake = weightAdded x := by
  constructor
  · intro h
    exact (h pool hpool).1
  · intro h q hq
    cases Option.some.inj (hpool.symm.trans hq)
    refine ⟨h, ?_⟩
    rw [h]
    exact hd.le_weightAdded

-- ==== steps

variable {a : Action env}

theorem withdrawal_of {amount i : Nat} {p : StakePosition}
    (hloc : Keyed.locate Prod.fst w.positions user = some (i, (user, p)))
    (hop : (∃ acc, a.op = .unstake acc amount ∧ acc.user = user)
      ∨ ∃ acc, a.op = .adminForceUnstake acc ∧ acc.staker = user
        ∧ amount = p.stakedAmount) :
    withdrawal a.op w = some (user, amount) := by
  rcases hop with ⟨acc, hop, rfl⟩ | ⟨acc, hop, rfl, rfl⟩
  · rw [hop]
    rfl
  · rw [hop, withdrawal, World.stakeOf, hloc]

variable {d : Draw}

theorem track_withdrawal {amount : Nat}
    (h : withdrawal a.op w = some (user, amount)) :
    track d a w g = update g user (d.take (g user) amount) := by
  unfold track
  split
  · next acc n hop =>
      rw [hop] at h
      cases h
  · rw [h]

theorem track_aside (hstake : ∀ acc n, a.op ≠ .stake acc n)
    (h : withdrawal a.op w = none) : track d a w g = g := by
  unfold track
  split
  · next acc n hop => exact absurd hop (hstake acc n)
  · rw [h]

/-- The condition on the action that takes an amount out. -/
theorem returned_iff {pool : StakingPool} {amount i : Nat}
    {p : StakePosition} (hpool : x.1.pool = some pool)
    (hwith : withdrawal a.op x.1 = some (user, amount))
    (hloc : Keyed.locate Prod.fst x.1.positions user = some (i, (user, p))) :
    Returned d a x
      ↔ min (weight amount (getMultiplier (x.1.now - p.stakeStartTime)))
          pool.totalWeightedStake
        + Tranches.weights multiplierBase (d.take (x.2 user) amount)
        = Tranches.weights multiplierBase (x.2 user) := by
  unfold Returned ReturnedAt
  rw [hwith, hpool]
  simp only [Option.mem_some, forall_eq', hloc]

theorem returned_of_none
    (hwith : withdrawal a.op x.1 = none) : Returned d a x := by
  intro u hu
  rw [hwith] at hu
  cases hu

theorem withdrawal_aside (hunstake : ∀ acc n, a.op ≠ .unstake acc n)
    (hforce : ∀ acc, a.op = .adminForceUnstake acc → w.stakeOf acc.staker = 0) :
    withdrawal a.op w = none
      ∨ ∃ user, withdrawal a.op w = some (user, 0) ∧ w.stakeOf user = 0 := by
  unfold withdrawal
  split
  · next acc n hop => exact absurd hop (hunstake acc n)
  · next acc hop =>
      right
      exact ⟨acc.staker, by rw [hforce acc hop], hforce acc hop⟩
  · exact Or.inl rfl

/-- Deposits rewritten alike, in amounts, rates and weights, beside the
same stakes. -/
theorem Deposited.same {g g' : Deposits} (hd : Deposited env (w, g))
    (hbooks : ∃ pool, Accounted env w' pool)
    (hpos : w'.positions = w.positions)
    (hamounts : ∀ k, Tranches.total (g' k) = Tranches.total (g k))
    (hrates : ∀ k, ∀ t ∈ g' k, multiplierBase ≤ t.rate)
    (hweights : ∀ k, Tranches.weights multiplierBase (g' k)
      = Tranches.weights multiplierBase (g k)) :
    Deposited env (w', g') ∧ weightAdded (w', g') = weightAdded (w, g) := by
  refine ⟨⟨hbooks, ?_, hrates⟩, ?_⟩
  · intro k
    have hstake : w'.stakeOf k = w.stakeOf k := by
      rw [World.stakeOf, hpos]
      rfl
    exact (hamounts k).trans ((hd.amounts k).trans hstake.symm)
  · simp only [weightAdded, World.stakers, hpos, hweights]

/-- An action that passes the stakes by: whatever is tracked, nothing is
put in or taken out. -/
theorem Deposited.aside
    (hd : Deposited env (w, g)) (hbooks : ∃ pool, Accounted env w' pool)
    (hpos : w'.positions = w.positions)
    (hstake : ∀ acc n, a.op ≠ .stake acc n)
    (hnothing : withdrawal a.op w = none
      ∨ ∃ user, withdrawal a.op w = some (user, 0) ∧ w.stakeOf user = 0) :
    Deposited env (w', track d a w g)
      ∧ weightAdded (w', track d a w g) = weightAdded (w, g)
      ∧ Returned d a (w, g) := by
  rcases hnothing with hnone | ⟨user, hsome, hzero⟩
  · rw [track_aside hstake hnone]
    obtain ⟨hd', hw'⟩ := hd.same hbooks hpos (fun _ => rfl) hd.rates
      (fun _ => rfl)
    exact ⟨hd', hw', returned_of_none hnone⟩
  · have hempty : Tranches.total (g user) = 0 :=
      (hd.amounts user).trans hzero
    have htake : Tranches.total (d.take (g user) 0) = 0 := by
      rw [d.total_take _ _ (Nat.zero_le _), hempty]
    have hweight : Tranches.weights multiplierBase (g user) = 0 :=
      Tranches.weights_eq_zero hempty
    have hweight' : Tranches.weights multiplierBase (d.take (g user) 0) = 0 :=
      Tranches.weights_eq_zero htake
    rw [track_withdrawal hsome]
    have hput : ∀ k, Tranches.total (update g user
          (d.take (g user) 0) k) = Tranches.total (g k)
        ∧ Tranches.weights multiplierBase (update g user
          (d.take (g user) 0) k) = Tranches.weights multiplierBase (g k)
        ∧ ∀ t ∈ update g user (d.take (g user) 0) k,
          multiplierBase ≤ t.rate := by
      intro k
      by_cases hk : k = user
      · rw [hk, update_self, htake, hempty, hweight, hweight']
        exact ⟨rfl, rfl, Tranches.rates_part (d.part_take _ _) (hd.rates user)⟩
      · rw [update_of_ne hk]
        exact ⟨rfl, rfl, hd.rates k⟩
    obtain ⟨hd', hw'⟩ := hd.same hbooks hpos (fun k => (hput k).1)
      (fun k => (hput k).2.2) (fun k => (hput k).2.1)
    refine ⟨hd', hw', ?_⟩
    intro u hu
    rw [hsome] at hu
    cases hu
    intro q _ r _
    dsimp only
    rw [hweight, hweight', weight, Nat.zero_mul, Nat.zero_div, Nat.zero_min]

/-- One action keeps the deposits beside the state, and the total right
exactly when what it takes out takes off what it was put in with. -/
theorem deposited_step {x y : World × Deposits} (hd : Deposited env x)
    (hstep : stepTracked env d a x = .ok y) :
    Deposited env y ∧ (Weighed x → (Weighed y ↔ Returned d a x)) := by
  obtain ⟨w, g⟩ := x
  obtain ⟨w', g'⟩ := y
  obtain ⟨hs, hg⟩ := tracked_ok.mp hstep
  dsimp only at hs hg
  subst hg
  obtain ⟨pool, hb⟩ := hd.books
  have hbooks := hb.step hs
  cases step_shift hs with
  | aside hpos hpool _ hstake hunstake hforce =>
    obtain ⟨pool', hafter, -, -, htotal⟩ := hpool pool hb.here
    obtain ⟨hd', hw', hret⟩ := hd.aside (d := d) hbooks hpos hstake
      (withdrawal_aside hunstake hforce)
    refine ⟨hd', ?_⟩
    intro hx
    rw [weighed_iff hd hb.here] at hx
    rw [weighed_iff hd' hafter, hw', htotal]
    exact ⟨fun _ => hret, fun _ => hx⟩
  | deposited acc amount i p p' q pool' hop he hstaked _ hweight =>
    cases Option.some.inj (hb.here.symm.trans he.before)
    have htrack : track d a w g = update g acc.user
        (g acc.user ++ [⟨amount, w.depositMultiplier acc.user⟩]) := by
      rw [track, hop]
    rw [htrack]
    have hamount : Tranches.total (g acc.user) = p.stakedAmount :=
      (hd.amounts acc.user).trans (stakeOf_init he.found)
    have htotal : Tranches.total (g acc.user
        ++ [⟨amount, w.depositMultiplier acc.user⟩])
        = p'.stakedAmount := by
      rw [Tranches.total_append_one, hamount, hstaked]
    have hrates : ∀ t ∈ g acc.user ++ [⟨amount, w.depositMultiplier acc.user⟩],
        multiplierBase ≤ t.rate := by
      intro t ht
      rcases List.mem_append.mp ht with hold | hnew
      · exact hd.rates acc.user t hold
      · cases List.mem_singleton.mp hnew
        exact base_le_depositMultiplier _
    obtain ⟨hd', hw'⟩ := hd.entry he hbooks htotal hrates
    refine ⟨hd', ?_⟩
    intro hx
    rw [weighed_iff hd hb.here] at hx
    rw [weighed_iff hd' he.after, hweight]
    rw [Tranches.weights_append_one] at hw'
    have hone : (Tranche.mk amount (w.depositMultiplier acc.user)).weight
        multiplierBase = weight amount (w.depositMultiplier acc.user) :=
      rfl
    rw [hone] at hw'
    constructor
    · intro _
      apply returned_of_none
      rw [hop]
      rfl
    · intro _
      omega
  | settled acc i p p' q hop he hstaked =>
    cases Option.some.inj (hb.here.symm.trans he.before)
    have hnone : withdrawal a.op w = none := by
      rw [hop]
      rfl
    have htrack : track d a w g = update g acc.user (g acc.user) := by
      rw [track_aside (by simp [hop]) hnone]
      funext k
      by_cases hk : k = acc.user
      · rw [hk, update_self]
      · rw [update_of_ne hk]
    rw [htrack]
    have hamount : Tranches.total (g acc.user) = p'.stakedAmount :=
      (hd.amounts acc.user).trans
        ((stakeOf_init he.found).trans hstaked.symm)
    obtain ⟨hd', hw'⟩ := hd.entry (l := g acc.user) he hbooks hamount
      (hd.rates acc.user)
    refine ⟨hd', ?_⟩
    intro hx
    rw [weighed_iff hd hb.here] at hx
    rw [weighed_iff hd' he.after]
    constructor
    · intro _
      exact returned_of_none hnone
    · intro _
      omega
  | withdrawn user amount i p p' q pool' hop he hloc hle hstaked hweight =>
    cases Option.some.inj (hb.here.symm.trans he.before)
    have hwith := withdrawal_of hloc hop
    rw [track_withdrawal hwith]
    have hamount : Tranches.total (g user) = p.stakedAmount :=
      (hd.amounts user).trans (stakeOf_init he.found)
    have hpart := d.part_take (g user) amount
    have htaken : Tranches.total (d.take (g user) amount)
        = p'.stakedAmount := by
      rw [hstaked, ← hamount]
      apply d.total_take
      rw [hamount]
      exact hle
    have hrates : ∀ t ∈ d.take (g user) amount, multiplierBase ≤ t.rate :=
      Tranches.rates_part hpart (hd.rates user)
    obtain ⟨hd', hw'⟩ := hd.entry he hbooks htaken hrates
    refine ⟨hd', ?_⟩
    intro hx
    rw [weighed_iff hd hb.here] at hx
    rw [weighed_iff hd' he.after, hweight]
    have hless : Tranches.weights multiplierBase (d.take (g user) amount)
        ≤ Tranches.weights multiplierBase (g user) :=
      Tranches.weights_le hpart
    rw [returned_iff (x := (w, g)) hb.here hwith hloc]
    dsimp only
    omega

-- ==== the theorem

/-- Whichever deposits withdrawals are taken from: throughout a run the
weighted total is the weights added for what is still staked exactly when
every withdrawal takes off the weight its amount was put in with. -/
theorem weights_kept_iff {tx : Tx env} {acc : InitializePoolAccounts}
    {w₀ w₁ : World} {tr : List (Action env)} (d : Draw)
    (hempty : w₀.positions = [])
    (hinit : initializePool env tx acc w₀ = .ok w₁)
    (hrun : run (step env) w₁ tr = .ok w) :
    Throughout (stepTracked env d) Weighed (w₁, noDeposits) tr
      ↔ Meets (stepTracked env d) (Returned d) (w₁, noDeposits) tr := by
  obtain ⟨pool, hb, hzero, hpos⟩ := accounted_start hempty hinit
  have hstart : Deposited env (w₁, noDeposits) := by
    refine ⟨⟨pool, hb⟩, ?_, ?_⟩
    · intro k
      rw [stakeOf_of_not_staker]
      · rfl
      · simp [World.stakers, hpos]
    · intro k t ht
      cases ht
  have hright : Weighed (w₁, noDeposits) := by
    rw [weighed_iff hstart hb.here, hzero]
    simp [weightAdded, World.stakers, hpos]
  obtain ⟨g, hrun'⟩ := run_tracked (track d) noDeposits hrun
  refine throughout_iff_meets (Deposited env) ?_ ?_ hstart hright hrun'
  · intro a x y hd hs
    exact (deposited_step hd hs).1
  · intro a x y hd hx hs
    exact (deposited_step hd hs).2 hx

-- ==== instances

open Concrete in
/-- While the stakes are young, withdrawals take off what was put in. -/
theorem weights_kept_iff_young :
    ∃ w₁, created = .ok w₁
      ∧ Throughout (stepTracked Concrete.env Tranches.oldestFirst)
        Weighed (w₁, noDeposits)
        (shared ++ [takeOut 10 1000 40000000000]) := by
  obtain ⟨w₁, hinit, h⟩ := check_ok (show check (fun w₁ =>
      check (fun _ => true) (run (step Concrete.env) w₁
        (shared ++ [takeOut 10 1000 40000000000]))
      && checkMeets (stepTracked Concrete.env Tranches.oldestFirst)
        (fun a x => decide (Returned Tranches.oldestFirst a x))
        (w₁, noDeposits) (shared ++ [takeOut 10 1000 40000000000]))
      created = true
    by decide)
  rw [Bool.and_eq_true] at h
  obtain ⟨hrun, hmeets⟩ := h
  obtain ⟨w, hrun, -⟩ := check_ok hrun
  refine ⟨w₁, hinit, ?_⟩
  apply (weights_kept_iff Tranches.oldestFirst rfl hinit hrun).mpr
  exact meets_of_check (fun _ _ h => of_decide_eq_true h) hmeets

open Concrete in
/-- Thirty days on, one of two equal stakers leaves, and takes a fifth of
the other's weight along: 80 of the 100 staked are left in the total. -/
theorem weight_removed :
    ∃ w₁ w pool, start.positions = [] ∧ created = .ok w₁
      ∧ run (step Concrete.env) w₁ [deposit 10, deposit 11, later,
          takeOut 10 2593000 100000000000] = .ok w
      ∧ w.pool = some pool ∧ pool.totalWeightedStake = 80000000000
      ∧ (w.positions.map fun e => e.2.stakedAmount).sum = 100000000000
      ∧ ∀ d, ¬ Throughout (stepTracked Concrete.env d) Weighed
        (w₁, noDeposits) [deposit 10, deposit 11, later,
          takeOut 10 2593000 100000000000] := by
  obtain ⟨w₁, hinit, h⟩ := check_ok (show check (fun w₁ =>
      check (fun w => decide ((w.positions.map fun e =>
          e.2.stakedAmount).sum = 100000000000)
        && w.pool.any fun pool => decide
          (pool.totalWeightedStake = 80000000000))
        (run (step Concrete.env) w₁ [deposit 10, deposit 11, later,
          takeOut 10 2593000 100000000000])) created = true
    by decide)
  obtain ⟨w, hrun, hw⟩ := check_ok h
  rw [Bool.and_eq_true, decide_eq_true_eq] at hw
  obtain ⟨hsum, hany⟩ := hw
  obtain ⟨pool, hpool, htotal⟩ := (Option.any_eq_true _ _).mp hany
  rw [decide_eq_true_eq] at htotal
  refine ⟨w₁, w, pool, rfl, hinit, hrun, hpool, htotal, hsum, ?_⟩
  intro d hall
  obtain ⟨g, hrun'⟩ := run_tracked (track d) noDeposits hrun
  have hend : Weighed (w, g) :=
    throughout_iff_prefix.mp hall _ [] _ (List.append_nil _).symm hrun'
  obtain ⟨-, hle⟩ := hend pool hpool
  rw [hsum, htotal] at hle
  exact absurd hle (by decide)

end KamiyoProtocol.Staking
