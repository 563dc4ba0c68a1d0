/-
Solvency and idempotence of the staking rewards.

The books are an accumulator-per-share fund (`Lib/Accrual`) with two
departures. Pending rewards are reported on the stake times the
multiplier of its age, while the debt a settlement writes is the plain
product: once a multiplier shows in the accrual, a claim leaves
something pending and the next one pays it again. And the distribution
divides by a weighted total that stakes enter and leave at different
multipliers, so the rate may credit more than came in.

# The condition

A state is `Plain` when no multiplier shows: every position accrues what
its bare stake does. In a run of plain states a claim leaves nothing
behind, and paid plus pending can exceed the distributed total by
rounding only. `roundingCost` is what each action's rounding gives away;
the potential that follows it is the imbalance of the fund, and the run
is solvent while the costs run up stay less than a unit ahead of the
fractions still open.
-/
import KamiyoProtocol.Staking.Concrete
import KamiyoProtocol.Staking.Moves

namespace KamiyoProtocol.Staking

open Solana Exec

variable {env : Env Seed} {w w' : World}

-- ==== the property

/-- The pending rewards reported for a position, none when the
calculation fails. -/
def reported (pool : StakingPool) (now : Int) (p : StakePosition) : Nat :=
  match calculatePendingRewards pool p now with
  | .ok n => n
  | .error _ => 0

/-- Rewards paid and pending are within the rewards distributed. -/
def Solvent (env : Env Seed) (w : World) : Prop :=
  ∀ pool, w.pool = some pool →
    paidOut env w.tokens
        + (w.positions.map fun e => reported pool w.now e.2).sum
      ≤ pool.totalRewardsDistributed

/-- Of two claims by one user in the run, with no distribution between
them, the second pays nothing. -/
def ClaimsOnce (env : Env Seed) (w₀ : World) (tr : List (Action env)) :
    Prop :=
  ∀ p a q b r w w', tr = p ++ a :: q ++ b :: r →
    (∃ acc acc', a.op = .claimRewards acc ∧ b.op = .claimRewards acc'
      ∧ acc.user = acc'.user) →
    (∀ c ∈ q, ∀ acc n, c.op ≠ .distributeRewards acc n) →
    run (step env) w₀ (p ++ a :: q) = .ok w →
    step env b w = .ok w' →
    paidOut env w'.tokens = paidOut env w.tokens

-- ==== the condition

/-- The multiplier of its age does not show in the position's
accrual. -/
def StakePosition.Plain (p : StakePosition) (accumulated : Nat)
    (now : Int) : Prop :=
  p.weightedStake now * accumulated / precision
    = p.stakedAmount * accumulated / precision

/-- No position earns more than at the base multiplier. -/
def Plain (w : World) : Prop :=
  ∀ e ∈ w.positions, e.2.Plain w.accumulated w.now

instance (w : World) : Decidable (Plain w) :=
  inferInstanceAs (Decidable (∀ e ∈ w.positions,
    e.2.weightedStake w.now * w.accumulated / precision
      = e.2.stakedAmount * w.accumulated / precision))

/-- One unit beyond the fractions open: what rounding may give away. -/
def roundingRoom (w : World) : Int :=
  precision + Accrual.fractions precision w.accumulated w.shares

-- ==== plainness

theorem pending_of_plain {pool : StakingPool} {p : StakePosition}
    {n : Nat} (hpool : w.pool = some pool)
    (h : calculatePendingRewards pool p w.now = .ok n)
    (hp : p.Plain w.accumulated w.now) :
    n = p.share.due precision w.accumulated := by
  have hacc : w.accumulated = pool.accumulatedRewardsPerShare := by
    rw [World.accumulated, hpool]
  unfold StakePosition.Plain at hp
  rw [calculatePendingRewards_ok h, ← hacc, hp]
  rfl

theorem reported_le {pool : StakingPool} {p : StakePosition}
    (hpool : w.pool = some pool) (hp : p.Plain w.accumulated w.now) :
    reported pool w.now p ≤ p.share.due precision w.accumulated := by
  unfold reported
  split
  · next n hn => exact Nat.le_of_eq (pending_of_plain hpool hn hp)
  · exact Nat.zero_le _

theorem zeroed_plain (accumulated : Nat) (now : Int) :
    StakePosition.zeroed.Plain accumulated now := by
  simp [StakePosition.Plain, StakePosition.weightedStake, StakePosition.zeroed]

theorem plain_init (h : Plain w) (user : Pubkey) :
    ∀ e ∈ initIfNeeded w.positions user, e.2.Plain w.accumulated w.now := by
  intro e he
  unfold initIfNeeded at he
  split at he
  · exact h e he
  · rcases List.mem_append.mp he with hold | hnew
    · exact h e hold
    · cases List.mem_singleton.mp hnew
      exact zeroed_plain _ _

-- ==== solvency

/-- What holds of the books in every state. -/
structure Booked (env : Env Seed) (w : World) : Prop where
  guarded : Guarded env w.tokens
  current : ∀ s ∈ w.shares, s.Current w.accumulated

/-- How far payments and credits run ahead of the distributions. -/
def imbalance (env : Env Seed) (w : World) : Int :=
  Accrual.imbalance precision w.accumulated (paidOut env w.tokens)
    w.distributed w.shares

/-- The shares with the user's position opened: an empty one, at most,
is added. -/
theorem shares_init (user : Pubkey) :
    (initIfNeeded w.positions user).map (fun e => e.2.share) = w.shares
      ∨ (initIfNeeded w.positions user).map (fun e => e.2.share)
        = w.shares ++ [⟨0, 0⟩] := by
  unfold initIfNeeded
  split
  · exact Or.inl rfl
  · right
    rw [List.map_append]
    rfl

variable {a : Action env}

/-- One action keeps the books, and moves the imbalance by its rounding
cost at most. -/
theorem booked_step (hb : Booked env w) (hp : Plain w)
    (hstep : step env a w = .ok w') :
    Booked env w' ∧ imbalance env w' ≤ imbalance env w + roundingCost a w := by
  cases step_move hstep with
  | aside hpos hacc hdist hpay hcost =>
    obtain ⟨hg, hpaid⟩ := hpay hb.guarded
    have hshares : w'.shares = w.shares := by
      rw [World.shares, hpos]
      rfl
    refine ⟨⟨hg, ?_⟩, ?_⟩
    · rw [hshares, hacc]
      exact hb.current
    · unfold imbalance
      rw [hacc, hdist, hshares, hpaid, hcost]
      simp
  | settled pool user i p p' pending paid hpool hloc hpos hdebt hpending
      hpaid hacc hdist hpay hcost =>
    obtain ⟨hg, hout⟩ := hpay hb.guarded
    have hplain : p.Plain w.accumulated w.now :=
      plain_init hp user _ (Keyed.locate_mem hloc)
    have hdue : paid ≤ p.share.due precision w.accumulated := by
      rw [← pending_of_plain hpool hpending hplain]
      exact hpaid
    -- the books with the position opened
    have hnew : p'.share = Accrual.settle w.accumulated p'.stakedAmount := by
      rw [StakePosition.share, hdebt]
      rfl
    have hshares : w'.shares
        = ((initIfNeeded w.positions user).map fun e => e.2.share).set i
          (Accrual.settle w.accumulated p'.stakedAmount) := by
      rw [World.shares, hpos, List.map_set, hnew]
    have hi : ((initIfNeeded w.positions user).map
        fun e => e.2.share)[i]? = some p.share := by
      rw [List.getElem?_map, (Keyed.locate_some hloc).1]
      rfl
    have hcur : ∀ s ∈ (initIfNeeded w.positions user).map
        (fun e => e.2.share), s.Current w.accumulated := by
      intro s hs
      rcases shares_init (w := w) user with h | h
      · rw [h] at hs
        exact hb.current s hs
      · rw [h] at hs
        rcases List.mem_append.mp hs with hold | hzero
        · exact hb.current s hold
        · cases List.mem_singleton.mp hzero
          exact Nat.zero_le _
    have himb : Accrual.imbalance precision w.accumulated
        (paidOut env w.tokens) w.distributed
        ((initIfNeeded w.positions user).map fun e => e.2.share)
        = imbalance env w := by
      rcases shares_init (w := w) user with h | h
      · rw [h]
        rfl
      · rw [h, Accrual.imbalance_append_zero]
        rfl
    refine ⟨⟨hg, ?_⟩, ?_⟩
    · intro s hs
      rw [hacc]
      rw [hshares] at hs
      rcases List.mem_or_eq_of_mem_set hs with hold | rfl
      · exact hcur s hold
      · exact Accrual.settle_current _ _
    · have hsettle := Accrual.imbalance_settle
        (paidOut env w.tokens) w.distributed hi
        (hcur _ (List.mem_of_getElem? hi)) hdue p'.stakedAmount
      rw [himb] at hsettle
      rw [imbalance, hacc, hdist, hshares, hout, hcost]
      exact hsettle
  | distributed acc amount pool hop hpool hpos hacc hdist hpay =>
    obtain ⟨hg, hout⟩ := hpay hb.guarded
    have hshares : w'.shares = w.shares := by
      rw [World.shares, hpos]
      rfl
    refine ⟨⟨hg, ?_⟩, ?_⟩
    · rw [hshares, hacc]
      intro s hs
      exact (hb.current s hs).mono (Nat.le_add_right _ _)
    · rw [imbalance, hacc, hdist, hshares, hout, Nat.add_zero,
        Accrual.imbalance_fund]
      simp only [roundingCost, hop, hpool]
      exact Int.le_refl _

/-- Plain books whose imbalance is within the rounding room are
solvent. -/
theorem solvent_of_booked (hb : Booked env w) (hp : Plain w)
    (hroom : imbalance env w < roundingRoom w) : Solvent env w := by
  intro pool hpool
  have hwithin : paidOut env w.tokens
      + Accrual.dues precision w.accumulated w.shares ≤ w.distributed :=
    (Accrual.solvent_iff (by decide) hb.current).mpr hroom
  have hdist : w.distributed = pool.totalRewardsDistributed := by
    rw [World.distributed, hpool]
  have hreports : (w.positions.map fun e => reported pool w.now e.2).sum
      ≤ Accrual.dues precision w.accumulated w.shares := by
    unfold Accrual.dues World.shares
    rw [List.map_map]
    apply List.sum_le_sum
    intro e he
    exact reported_le hpool (hp e he)
  omega

-- ==== idempotence

/-- Nothing is due to the user's position. -/
def Drained (user : Pubkey) (w : World) : Prop :=
  ∀ r, Keyed.locate Prod.fst w.positions user = some r →
    r.2.2.share.due precision w.accumulated = 0

theorem due_settled {p : StakePosition} {accumulated : Nat}
    (h : p.rewardsDebt = p.stakedAmount * accumulated) :
    p.share.due precision accumulated = 0 := by
  have hshare : p.share = Accrual.settle accumulated p.stakedAmount := by
    rw [StakePosition.share, h]
    rfl
  rw [hshare]
  exact Accrual.settle_due _ _ _

/-- The lookup after a settlement: the settled position for its user, the
old one for anyone else. -/
theorem locate_settled {user k : Pubkey} {i : Nat} {p p' : StakePosition}
    {r : Nat × Pubkey × StakePosition}
    (hloc : Keyed.locate Prod.fst (initIfNeeded w.positions user) user
      = some (i, (user, p)))
    (hpos : w'.positions = (initIfNeeded w.positions user).set i (user, p'))
    (hr : Keyed.locate Prod.fst w'.positions k = some r) :
    (k = user ∧ r.2.2 = p')
      ∨ (k ≠ user ∧ Keyed.locate Prod.fst w.positions k = some r) := by
  rw [locate_written hloc hpos] at hr
  by_cases hk : k = user
  · rw [if_pos hk] at hr
    cases hr
    exact Or.inl ⟨hk, rfl⟩
  · rw [if_neg hk] at hr
    exact Or.inr ⟨hk, hr⟩

theorem Drained.step {user : Pubkey} (hd : Drained user w)
    (hop : ∀ acc n, a.op ≠ .distributeRewards acc n)
    (hstep : step env a w = .ok w') : Drained user w' := by
  intro r hr
  cases step_move hstep with
  | aside hpos hacc _ _ _ =>
    rw [hpos] at hr
    rw [hacc]
    exact hd r hr
  | settled pool k i p p' pending paid hpool hloc hpos hdebt _ _ hacc =>
    rw [hacc]
    rcases locate_settled hloc hpos hr with ⟨-, hp'⟩ | ⟨-, hold⟩
    · rw [hp']
      exact due_settled hdebt
    · exact hd r hold
  | distributed acc n pool hdistr => exact absurd hdistr (hop acc n)

/-- What a claim does, in terms of the position it finds. -/
theorem claim_cases {acc : PositionAccounts}
    (hop : a.op = .claimRewards acc) (hstep : step env a w = .ok w') :
    ∃ pool r pending, w.pool = some pool
      ∧ Keyed.locate Prod.fst w.positions acc.user = some r
      ∧ calculatePendingRewards pool r.2.2 w.now = .ok pending
      ∧ ((pending = 0 ∧ w' = w)
        ∨ ∃ p', w'.positions = w.positions.set r.1 (acc.user, p')
            ∧ w'.accumulated = w.accumulated
            ∧ p'.rewardsDebt = p'.stakedAmount * w.accumulated
            ∧ 0 < pending) := by
  simp only [step, bind_ok, require_ok, perform, hop] at hstep
  obtain ⟨-, hclock, h⟩ := hstep
  simp only [claimRewards, bind_ok, load_ok] at h
  obtain ⟨pool, hpool, r, hr, pending, hpending, h⟩ := h
  rw [hclock] at hpending
  refine ⟨pool, r, pending, hpool, loadPosition_ok hr, hpending, ?_⟩
  split at h
  · next hz =>
      cases h
      exact Or.inl ⟨hz, rfl⟩
  · next hz =>
      simp only [bind_ok, checked_ok, Fixed.checkedMul_some] at h
      obtain ⟨b, -, claimed, -, debt, ⟨-, rfl⟩, hw⟩ := h
      cases hw
      refine Or.inr ⟨_, rfl, rfl, ?_, Nat.pos_of_ne_zero hz⟩
      rw [World.accumulated, hpool]

theorem drained_of_claim {acc : PositionAccounts}
    (hop : a.op = .claimRewards acc) (hp : Plain w)
    (hstep : step env a w = .ok w') : Drained acc.user w' := by
  obtain ⟨pool, r, pending, hpool, hr, hpending, hcases⟩ :=
    claim_cases hop hstep
  rcases hcases with ⟨hz, rfl⟩ | ⟨p', hpos, hacc, hdebt, -⟩
  · intro s hs
    obtain rfl : r = s := Option.some.inj (hr.symm.trans hs)
    have hplain := hp r.2 (Keyed.locate_mem hr)
    rw [← pending_of_plain hpool hpending hplain]
    exact hz
  · intro s hs
    have hkey := locate_key hr
    rw [hkey] at hr
    have hloc := hr
    rw [← initIfNeeded_of_some hr] at hloc
    rw [hacc]
    have hpos' : w'.positions
        = (initIfNeeded w.positions acc.user).set r.1 (acc.user, p') := by
      rw [initIfNeeded_of_some hr]
      exact hpos
    rcases locate_settled hloc hpos' hs with ⟨-, hp'⟩ | ⟨hne, -⟩
    · rw [hp']
      exact due_settled hdebt
    · exact absurd rfl hne

theorem claim_of_drained {acc : PositionAccounts}
    (hop : a.op = .claimRewards acc) (hp : Plain w)
    (hd : Drained acc.user w) (hstep : step env a w = .ok w') :
    w' = w := by
  obtain ⟨pool, r, pending, hpool, hr, hpending, hcases⟩ :=
    claim_cases hop hstep
  have hplain := hp r.2 (Keyed.locate_mem hr)
  have hzero : pending = 0 := by
    rw [pending_of_plain hpool hpending hplain]
    exact hd r hr
  rcases hcases with ⟨-, hw⟩ | ⟨_, -, -, -, hpos⟩
  · exact hw
  · omega

theorem claimsOnce_of_plain {w₀ : World} {tr : List (Action env)}
    (hplain : Throughout (step env) Plain w₀ tr) :
    ClaimsOnce env w₀ tr := by
  rintro p a q b r w w' rfl ⟨acc, acc', ha, hb, huser⟩ hq hrun hstep
  have hprefix := throughout_iff_prefix.mp hplain
  obtain ⟨m, hp, hrest⟩ := run_append.mp hrun
  obtain ⟨m', hclaim, hmid⟩ := run_cons.mp hrest
  have hm : Plain m := by
    refine hprefix p (a :: q ++ b :: r) m ?_ hp
    rw [List.append_assoc]
  have hw : Plain w := hprefix (p ++ a :: q) (b :: r) w rfl hrun
  have hdrained : Drained acc.user w := by
    refine run_induct_meets (I := Drained acc.user) ?_
      (drained_of_claim ha hm hclaim) (meets_of_forall hq) hmid
    intro c s s' hI hc hs
    exact hI.step hc hs
  rw [huser] at hdrained
  rw [claim_of_drained hb hw hdrained hstep]

-- ==== the theorem

/-- Before the pool exists: no position, and nothing paid. -/
structure Genesis (env : Env Seed) (w : World) : Prop where
  positions : w.positions = []
  unpaid : paidOut env w.tokens = 0

theorem booked_start {tx : Tx env} {acc : InitializePoolAccounts}
    {w₀ w₁ : World} (hgen : Genesis env w₀)
    (hinit : initializePool env tx acc w₀ = .ok w₁) :
    Booked env w₁ ∧ imbalance env w₁ = 0 := by
  simp only [initializePool, bind_ok, requireFresh_ok, okOr_ok]
    at hinit
  obtain ⟨-, -, -, hpool, b₁, hb₁, b, hb, hw⟩ := hinit
  cases hw
  have hpaid : paidOut env b = 0 := by
    rw [paidOut, Tokens.journal_openAccount hb, Tokens.journal_openAccount hb₁]
    exact hgen.unpaid
  refine ⟨⟨⟨_, Tokens.held_openAccount hb⟩, ?_⟩, ?_⟩
  · intro s hs
    simp [World.shares, hgen.positions] at hs
  · simp [imbalance, Accrual.imbalance, World.accumulated,
      World.distributed, World.shares, hgen.positions, hpaid,
      Accrual.held, Accrual.accounted]

/-- In every run of plain states whose rounding costs stay within the
room the states leave, rewards paid and pending never exceed the rewards
distributed, and of two claims with no distribution between them the
second pays nothing. -/
theorem rewards_solvent {tx : Tx env} {acc : InitializePoolAccounts}
    {w₀ w₁ : World} {tr : List (Action env)} (hgen : Genesis env w₀)
    (hinit : initializePool env tx acc w₀ = .ok w₁)
    (hplain : Throughout (step env) Plain w₁ tr)
    (hround : Exec.Budgeted (step env) roundingCost roundingRoom 0 w₁ tr) :
    Throughout (step env) (Solvent env) w₁ tr ∧ ClaimsOnce env w₁ tr := by
  obtain ⟨hbooked, hzero⟩ := booked_start hgen hinit
  refine ⟨?_, claimsOnce_of_plain hplain⟩
  exact Exec.throughout_of_budgeted
    (fun _ _ _ hb hp hs => booked_step hb hp hs)
    (fun _ hb hp hroom => solvent_of_booked hb hp hroom)
    hbooked (Int.le_of_eq hzero) hplain hround

-- ==== instances

theorem start_genesis : Genesis Concrete.env Concrete.start := ⟨rfl, rfl⟩

open Concrete in
/-- Two young stakers share a reward; one claims twice. -/
theorem rewards_solvent_shared :
    ∃ w₁, created = .ok w₁
      ∧ Throughout (step Concrete.env) (Solvent Concrete.env) w₁
          (shared ++ [collect 10 1000, collect 10 1000])
      ∧ ClaimsOnce Concrete.env w₁
          (shared ++ [collect 10 1000, collect 10 1000]) := by
  obtain ⟨w₁, hinit, hrun⟩ := check_ok (show check (fun w₁ =>
      Exec.checkThroughout (step Concrete.env) (fun w => decide (Plain w))
        w₁ (shared ++ [collect 10 1000, collect 10 1000])
      && Exec.checkBudget (step Concrete.env) roundingCost roundingRoom 0
        w₁ (shared ++ [collect 10 1000, collect 10 1000])) created = true
    by decide)
  rw [Bool.and_eq_true] at hrun
  obtain ⟨hplain, hround⟩ := hrun
  exact ⟨w₁, hinit, rewards_solvent start_genesis hinit
    (Exec.throughout_of_check (fun _ h => of_decide_eq_true h) hplain)
    (Exec.budgeted_of_check hround)⟩

open Concrete in
/-- Thirty days on, the first claim pays 594 where 495 accrued, the second
99 more, and with the other staker's 594 and another 99 the books promise
1386 out of 990. -/
theorem rewards_insolvent :
    ∃ w₁ w₂ w₃, Genesis Concrete.env start ∧ created = .ok w₁
      ∧ run (step Concrete.env) w₁
          (shared ++ [later, collect 10 2593000]) = .ok w₂
      ∧ step Concrete.env (collect 10 2593000) w₂ = .ok w₃
      ∧ paidOut Concrete.env w₂.tokens = 594
      ∧ paidOut Concrete.env w₃.tokens = 693
      ∧ ¬ Solvent Concrete.env w₃
      ∧ ¬ ClaimsOnce Concrete.env w₁
          (shared ++ later :: collect 10 2593000
            :: [collect 10 2593000]) := by
  obtain ⟨w₁, hinit, h₁⟩ := check_ok (show check (fun w₁ =>
      check (fun w₂ => decide (paidOut Concrete.env w₂.tokens = 594)
        && check (fun w₃ =>
          decide (paidOut Concrete.env w₃.tokens = 693)
          && w₃.pool.any fun pool => decide (pool.totalRewardsDistributed
            < 693 + (w₃.positions.map fun e =>
              reported pool w₃.now e.2).sum))
          (step Concrete.env (collect 10 2593000) w₂))
        (run (step Concrete.env) w₁
          (shared ++ [later, collect 10 2593000]))) created = true
    by decide)
  obtain ⟨w₂, hrun, h₂⟩ := check_ok h₁
  rw [Bool.and_eq_true, decide_eq_true_eq] at h₂
  obtain ⟨hpaid, h₂⟩ := h₂
  obtain ⟨w₃, hstep, h₃⟩ := check_ok h₂
  rw [Bool.and_eq_true, decide_eq_true_eq] at h₃
  obtain ⟨hpaid', hany⟩ := h₃
  obtain ⟨pool, hpool, hlt⟩ := (Option.any_eq_true _ _).mp hany
  rw [decide_eq_true_eq] at hlt
  refine ⟨w₁, w₂, w₃, start_genesis, hinit, hrun, hstep, hpaid, hpaid', ?_, ?_⟩
  · intro hsolv
    have := hsolv pool hpool
    omega
  · intro honce
    have := honce (shared ++ [later]) (collect 10 2593000) []
      (collect 10 2593000) [] w₂ w₃ rfl ⟨_, _, rfl, rfl, rfl⟩
      (fun _ h => by cases h) hrun hstep
    omega

end KamiyoProtocol.Staking
