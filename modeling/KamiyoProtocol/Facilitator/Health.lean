/-
What the figures of a collateral summary are made of.

A summary divides the debt of the pool, of all its agents, by what one
agent's positions are worth; the first answer to a collateral event
divides it by the collateral of the pool. A quotient by no collateral is
shown as no utilisation, and one by no debt as a health of 9999.
-/
import KamiyoProtocol.Facilitator.References

namespace KamiyoProtocol.Facilitator

open Exec Keyed Function

-- ==== readings

/-- The figures of a summary. -/
def CollateralSummary.figures (s : CollateralSummary) : Nat × ℚ :=
  (s.ltvBps, s.healthFactor)

namespace Db

variable (db : Db)

/-- The positions of an agent in a pool. -/
def ownPositions (agentId poolId : String) : List CollateralPosition :=
  db.collateralPositions.filter fun x =>
    x.agentId = agentId ∧ x.poolId = poolId

/-- The open debts of an agent in a pool. -/
def ownDebts (agentId poolId : String) : List Debt :=
  db.debts.filter fun d =>
    d.agentId = agentId ∧ d.poolId = poolId ∧ d.status = .opened

/-- What the positions of an agent in a pool are read as. -/
def ownEffective (agentId poolId : String) : Nat :=
  parseMicro (Numeric.sum ((db.activePositions agentId poolId).map Prod.snd))

/-- The cap of a pool in a summary, where none is as good as zero. -/
def summaryCapBps (poolId : String) : Nat :=
  match db.fastpathPools poolId with
  | some pool => if pool.ltvCapBps = 0 then 6500 else pool.ltvCapBps
  | none => 6500

/-- What a summary reads: the agent's collateral, the debt of the pool and
its cap. -/
structure Reads (agentId poolId : String)
    (effective outstanding cap : Nat) : Prop where
  effective_eq : db.ownEffective agentId poolId = effective
  reserve : ∃ r, db.poolReserves poolId = some r
    ∧ r.outstandingMicro = outstanding
  cap_eq : db.summaryCapBps poolId = cap

/-- Two states of the same terms and the same books of an agent in a
pool. -/
structure SameBooks (agentId poolId : String) (db' : Db) : Prop where
  assets : db.collateralAssets = db'.collateralAssets
  pools : db.fastpathPools poolId = db'.fastpathPools poolId
  positions : db.ownPositions agentId poolId = db'.ownPositions agentId poolId
  debts : db.ownDebts agentId poolId = db'.ownDebts agentId poolId

variable {db} {db' : Db} {agentId poolId : String}
  {effective outstanding cap : Nat}

theorem summaryCapBps_pos : 0 < db.summaryCapBps poolId := by
  unfold summaryCapBps
  split
  · split
    · omega
    · omega
  · omega

theorem Reads.summary (h : db.Reads agentId poolId effective outstanding cap) :
    db.getKizunaCollateralSummary agentId poolId
      = some (collateralSummary effective outstanding cap) := by
  obtain ⟨r, hr, hout⟩ := h.reserve
  have heq : db.getKizunaCollateralSummary agentId poolId
      = (db.poolReserves poolId).map fun reserve =>
        collateralSummary (db.ownEffective agentId poolId)
          reserve.outstandingMicro (db.summaryCapBps poolId) := rfl
  rw [heq, hr, h.effective_eq, h.cap_eq, ← hout]
  rfl

theorem activePositions_own (db : Db) (agentId poolId : String) :
    db.activePositions agentId poolId
      = (db.ownPositions agentId poolId).filterMap fun x =>
        if x.status = "active" then
          (db.effectiveCollateral x).map fun e => (x, e)
        else none := by
  unfold activePositions ownPositions
  rw [List.filterMap_filter]
  congr 1
  funext x
  by_cases hown : x.agentId = agentId ∧ x.poolId = poolId
  · simp [hown]
  · rw [if_neg (by tauto)]
    simp [hown]

theorem SameBooks.reads (h : db.SameBooks agentId poolId db') :
    db.ownEffective agentId poolId = db'.ownEffective agentId poolId
      ∧ db.summaryCapBps poolId = db'.summaryCapBps poolId := by
  constructor
  · unfold ownEffective
    rw [activePositions_own, activePositions_own, h.positions]
    unfold effectiveCollateral
    rw [h.assets]
  · unfold summaryCapBps
    rw [h.pools]

end Db

-- ==== figures

section Figures

variable {effective effective' outstanding outstanding' cap : Nat}

theorem ltv_debt (h : outstanding ≤ outstanding') :
    (collateralSummary effective outstanding cap).ltvBps
      ≤ (collateralSummary effective outstanding' cap).ltvBps := by
  dsimp only [collateralSummary]
  split
  · exact min_le_min_left _
      (Nat.div_le_div_right (Nat.mul_le_mul_right _ h))
  · exact le_refl 0

theorem ltv_collateral_iff (h : effective ≤ effective') :
    (collateralSummary effective' outstanding cap).ltvBps
        ≤ (collateralSummary effective outstanding cap).ltvBps
      ↔ ¬ (effective = 0 ∧ 0 < effective'
        ∧ effective' ≤ outstanding * 10000) := by
  dsimp only [collateralSummary]
  rcases Nat.eq_zero_or_pos effective' with hnone | hsome
  · simp [hnone]
  · rw [if_pos hsome]
    rcases Nat.eq_zero_or_pos effective with hzero | hpos
    · rw [if_neg (by omega)]
      have hdiv : 0 < outstanding * 10000 / effective'
          ↔ effective' ≤ outstanding * 10000 := by
        simp [Nat.div_pos_iff, hsome]
      omega
    · rw [if_pos hpos]
      have hdiv : outstanding * 10000 / effective'
          ≤ outstanding * 10000 / effective := Nat.div_le_div_left h hpos
      omega

/-- The collateral as the code weighs it. -/
def weighted (effective cap : Nat) : ℚ :=
  Double.mul (Double.round effective) cap

/-- The debt as the code scales it. -/
def owed (outstanding : Nat) : ℚ :=
  Double.mul (Double.round outstanding) 10000

theorem healthFactor_eq : healthFactor effective cap outstanding
    = Double.round (weighted effective cap / owed outstanding) := rfl

theorem weighted_nonneg : 0 ≤ weighted effective cap :=
  Double.round_nonneg
    (mul_nonneg (Double.round_nonneg effective.cast_nonneg) cap.cast_nonneg)

theorem weighted_pos (h : 0 < effective) (hcap : 0 < cap) :
    0 < weighted effective cap :=
  Double.round_pos (mul_pos (Double.round_pos (Nat.cast_pos.mpr h))
    (Nat.cast_pos.mpr hcap))

theorem weighted_none : weighted 0 cap = 0 := by
  simp [weighted, Double.mul, Double.round_zero]

theorem weighted_uncapped : weighted effective 0 = 0 := by
  simp [weighted, Double.mul, Double.round_zero]

theorem weighted_mono (h : effective ≤ effective') :
    weighted effective cap ≤ weighted effective' cap := by
  have hround := Double.round_mono (effective.cast_nonneg (α := ℚ))
    (Nat.cast_le.mpr h)
  refine Double.round_mono ?_ ?_
  · exact mul_nonneg (Double.round_nonneg effective.cast_nonneg)
      cap.cast_nonneg
  · exact mul_le_mul_of_nonneg_right hround cap.cast_nonneg

theorem owed_pos (h : 0 < outstanding) : 0 < owed outstanding :=
  Double.round_pos (mul_pos (Double.round_pos (Nat.cast_pos.mpr h))
    (by norm_num))

theorem owed_mono (h : outstanding ≤ outstanding') :
    owed outstanding ≤ owed outstanding' := by
  have hround := Double.round_mono (outstanding.cast_nonneg (α := ℚ))
    (Nat.cast_le.mpr h)
  refine Double.round_mono ?_ ?_
  · exact mul_nonneg (Double.round_nonneg outstanding.cast_nonneg)
      (by norm_num)
  · exact mul_le_mul_of_nonneg_right hround (by norm_num)

theorem quotient_nonneg (h : 0 < outstanding) :
    0 ≤ weighted effective cap / owed outstanding :=
  div_nonneg weighted_nonneg (owed_pos h).le

theorem health_collateral (h : effective ≤ effective') :
    (collateralSummary effective outstanding cap).healthFactor
      ≤ (collateralSummary effective' outstanding cap).healthFactor := by
  dsimp only [collateralSummary]
  split
  · next hpos =>
      exact Double.round_mono (quotient_nonneg hpos)
        (div_le_div_of_nonneg_right (weighted_mono h) (owed_pos hpos).le)
  · exact le_refl _

/-- 9999 as an even number of 53 bits. -/
theorem ceiling_scaled : (9999 : ℚ) = (9999 * 2 ^ 39 : ℤ) * 2 ^ (-39 : ℤ) := by
  norm_num

theorem health_le_iff (h : 0 < outstanding) :
    healthFactor effective cap outstanding ≤ 9999
      ↔ weighted effective cap ≤ (9999 + 1 / 2 ^ 40) * owed outstanding := by
  rw [healthFactor_eq, ← div_le_iff₀ (owed_pos h), ceiling_scaled,
    Double.round_le_iff (by norm_num) (by norm_num) (by norm_num)
      (quotient_nonneg h)]
  norm_num

theorem le_health_iff (h : 0 < outstanding) :
    9999 ≤ healthFactor effective cap outstanding
      ↔ (9999 - 1 / 2 ^ 40) * owed outstanding ≤ weighted effective cap := by
  rw [healthFactor_eq, ← le_div_iff₀ (owed_pos h), ceiling_scaled,
    Double.le_round_iff (by norm_num) (by norm_num) (by norm_num)
      (quotient_nonneg h)]
  norm_num

theorem health_eq_iff (h : 0 < outstanding) :
    healthFactor effective cap outstanding = 9999
      ↔ |weighted effective cap - 9999 * owed outstanding|
        ≤ owed outstanding / 2 ^ 40 := by
  rw [le_antisymm_iff, health_le_iff h, le_health_iff h, abs_le]
  constructor
  · rintro ⟨hle, hge⟩
    constructor
    · linarith
    · linarith
  · rintro ⟨hge, hle⟩
    constructor
    · linarith
    · linarith

theorem health_debt_iff (h : outstanding ≤ outstanding') :
    (collateralSummary effective outstanding' cap).healthFactor
        ≤ (collateralSummary effective outstanding cap).healthFactor
      ↔ ¬ (outstanding = 0 ∧ 0 < outstanding'
        ∧ (9999 + 1 / 2 ^ 40) * owed outstanding'
          < weighted effective cap) := by
  dsimp only [collateralSummary]
  rcases Nat.eq_zero_or_pos outstanding' with hnone | hsome
  · have hzero : outstanding = 0 := by omega
    simp [hnone, hzero]
  · rw [if_pos hsome]
    rcases Nat.eq_zero_or_pos outstanding with hzero | hpos
    · rw [if_neg (by omega), health_le_iff hsome, ← not_lt]
      simp [hzero, hsome]
    · rw [if_pos hpos]
      have hanti : healthFactor effective cap outstanding'
          ≤ healthFactor effective cap outstanding :=
        Double.round_mono (quotient_nonneg hsome)
          (div_le_div_of_nonneg_left weighted_nonneg (owed_pos hpos)
            (owed_mono h))
      simp [hanti, hpos.ne']

/-- A debt whose figures are those of no debt: the health of it rounds to
9999. -/
def Unseen (effective cap outstanding : Nat) : Prop :=
  0 < outstanding ∧ outstanding * 10000 < effective
    ∧ |weighted effective cap - 9999 * owed outstanding|
      ≤ owed outstanding / 2 ^ 40

/-- Two debts of the same figures. -/
def SameFigures (effective cap outstanding outstanding' : Nat) : Prop :=
  outstanding = outstanding'
    ∨ (effective = 0 ∧ 0 < outstanding ∧ 0 < outstanding')
    ∨ (outstanding = 0 ∧ Unseen effective cap outstanding')
    ∨ (outstanding' = 0 ∧ Unseen effective cap outstanding)

/-- Two debts that three roundings may take for one. -/
def Near (outstanding outstanding' : Nat) : Prop :=
  2 ^ 50 ≤ max outstanding outstanding'
    ∧ |(outstanding : ℚ) - outstanding'| * 2 ^ 51 < outstanding + outstanding'

theorem figures_debtless :
    (collateralSummary effective 0 cap).figures = (0, 9999) := by
  simp [collateralSummary, CollateralSummary.figures]

theorem figures_unseen (h : 0 < outstanding) :
    (collateralSummary effective outstanding cap).figures = (0, 9999)
      ↔ Unseen effective cap outstanding := by
  unfold CollateralSummary.figures Unseen
  rw [Prod.mk.injEq]
  dsimp only [collateralSummary]
  rw [if_pos h, health_eq_iff h]
  have hdiv : 0 < effective → (outstanding * 10000 / effective = 0
      ↔ outstanding * 10000 < effective) := by
    intro hpos
    rw [Nat.div_eq_zero_iff]
    omega
  constructor
  · rintro ⟨hltv, hhealth⟩
    have hpos : 0 < effective := by
      rcases Nat.eq_zero_or_pos effective with hzero | hpos
      · -- a weight of zero is not near 9999 times a debt
        have howed := owed_pos h
        rw [hzero, weighted_none, abs_le] at hhealth
        linarith [hhealth.1]
      · exact hpos
    rw [if_pos hpos] at hltv
    exact ⟨h, (hdiv hpos).mp (by omega), hhealth⟩
  · rintro ⟨-, hlt, hhealth⟩
    refine ⟨?_, hhealth⟩
    rw [if_pos (by omega), (hdiv (by omega)).mpr hlt]
    rfl

/-- The debt as the code scales it, after its two roundings. -/
theorem owed_error : |owed outstanding - outstanding * 10000|
    ≤ ((1 + Double.eps) ^ 2 - 1) * (outstanding * 10000) := by
  have hexact : Double.Within 0 (outstanding : ℚ) outstanding outstanding :=
    .exact (by rw [abs_of_nonneg outstanding.cast_nonneg])
  have hscale : Double.Within 0 (10000 : ℚ) 10000 10000 :=
    .exact (by norm_num)
  exact (hexact.round.mul hscale).error

/-- Debts of the same health differ by the error of three roundings. -/
theorem health_near (heff : 0 < effective) (hcap : 0 < cap)
    (h : 0 < outstanding) (h' : 0 < outstanding')
    (heq : healthFactor effective cap outstanding
      = healthFactor effective cap outstanding') :
    |(outstanding : ℚ) - outstanding'| * 2 ^ 51
      < outstanding + outstanding' := by
  have hw := weighted_pos heff hcap
  have ho := owed_pos h
  have ho' := owed_pos h'
  have hnear : |owed outstanding - owed outstanding'|
      ≤ Double.eps * (owed outstanding + owed outstanding') := by
    rw [healthFactor_eq, healthFactor_eq] at heq
    have hround := Double.round_near heq
    rw [abs_of_pos (div_pos hw ho), abs_of_pos (div_pos hw ho')] at hround
    have hdiff : weighted effective cap / owed outstanding
          - weighted effective cap / owed outstanding'
        = weighted effective cap / (owed outstanding * owed outstanding')
          * (owed outstanding' - owed outstanding) := by
      field_simp
    have hsum : weighted effective cap / owed outstanding
          + weighted effective cap / owed outstanding'
        = weighted effective cap / (owed outstanding * owed outstanding')
          * (owed outstanding + owed outstanding') := by
      field_simp
      ring
    have hfactor : 0 < weighted effective cap
        / (owed outstanding * owed outstanding') :=
      div_pos hw (mul_pos ho ho')
    rw [hdiff, hsum, abs_mul, abs_of_pos hfactor, mul_left_comm,
      abs_sub_comm] at hround
    exact le_of_mul_le_mul_left hround hfactor
  have herror := @owed_error outstanding
  have herror' := @owed_error outstanding'
  have hpos : (0 : ℚ) < outstanding := Nat.cast_pos.mpr h
  have hpos' : (0 : ℚ) < outstanding' := Nat.cast_pos.mpr h'
  unfold Double.eps at hnear herror herror'
  rw [abs_le] at hnear herror herror'
  rw [← lt_div_iff₀ (by norm_num), abs_lt]
  constructor
  · linarith [hnear.1, herror.1, herror.2, herror'.1, herror'.2]
  · linarith [hnear.2, herror.1, herror.2, herror'.1, herror'.2]

theorem near_or_eq (h : |(outstanding : ℚ) - outstanding'| * 2 ^ 51
      < outstanding + outstanding') :
    outstanding = outstanding' ∨ Near outstanding outstanding' := by
  rcases Nat.lt_or_ge (max outstanding outstanding') (2 ^ 50) with hlt | hge
  · left
    have hsum : (outstanding : ℚ) + outstanding' ≤ 2 ^ 51 := by
      have : outstanding + outstanding' ≤ 2 ^ 51 := by omega
      exact_mod_cast this
    have hone : |((outstanding : ℤ) : ℚ) - (outstanding' : ℤ)| < 1 := by
      push_cast
      linarith
    have hint : |(outstanding : ℤ) - outstanding'| < 1 := by
      exact_mod_cast hone
    have := abs_lt.mp hint
    omega
  · exact .inr ⟨hge, h⟩

theorem SameFigures.figures
    (h : SameFigures effective cap outstanding outstanding') :
    (collateralSummary effective outstanding cap).figures
      = (collateralSummary effective outstanding' cap).figures := by
  rcases h with rfl | ⟨rfl, hpos, hpos'⟩ | ⟨rfl, hunseen⟩ | ⟨rfl, hunseen⟩
  · rfl
  · simp [collateralSummary, CollateralSummary.figures, hpos, hpos',
      healthFactor_eq, weighted_none]
  · rw [figures_debtless, (figures_unseen hunseen.1).mpr hunseen]
  · rw [figures_debtless, (figures_unseen hunseen.1).mpr hunseen]

theorem sameFigures_or_near (hcap : 0 < cap)
    (h : (collateralSummary effective outstanding cap).figures
      = (collateralSummary effective outstanding' cap).figures) :
    SameFigures effective cap outstanding outstanding'
      ∨ Near outstanding outstanding' := by
  unfold SameFigures
  rcases Nat.eq_zero_or_pos outstanding with hzero | hpos
  · rcases Nat.eq_zero_or_pos outstanding' with hzero' | hpos'
    · exact .inl (.inl (hzero.trans hzero'.symm))
    · rw [hzero, figures_debtless, eq_comm, figures_unseen hpos'] at h
      exact .inl (.inr (.inr (.inl ⟨hzero, h⟩)))
  · rcases Nat.eq_zero_or_pos outstanding' with hzero' | hpos'
    · rw [hzero', figures_debtless, figures_unseen hpos] at h
      exact .inl (.inr (.inr (.inr ⟨hzero', h⟩)))
    · rcases Nat.eq_zero_or_pos effective with hnone | hsome
      · exact .inl (.inr (.inl ⟨hnone, hpos, hpos'⟩))
      · have hhealth := congrArg Prod.snd h
        dsimp only [collateralSummary, CollateralSummary.figures] at hhealth
        rw [if_pos hpos, if_pos hpos'] at hhealth
        exact (near_or_eq (health_near hsome hcap hpos hpos' hhealth)).imp_left
          .inl

end Figures

-- ==== answers

/-- The positions after an event that is accepted. -/
def ApplyCollateral.moved (p : ApplyCollateral)
    (l : List CollateralPosition) : List CollateralPosition :=
  match locate CollateralPosition.key l p.key with
  | none => l ++ [⟨p.agentId, p.poolId, p.collateralAccount, p.assetId,
      p.amountMicro, 0, 0, "active"⟩]
  | some (i, old) => l.set i (match p.eventType with
      | .deposit =>
        { old with depositedMicro := old.depositedMicro + p.amountMicro }
      | .withdraw =>
        { old with withdrawnMicro := old.withdrawnMicro + p.amountMicro })

namespace Db

variable (db : Db)

/-- The reserve of an event's pool, made if there is none. -/
def reserveOf (p : ApplyCollateral) : PoolReserve :=
  (db.poolReserves p.poolId).getD ⟨p.lane, 0, 0, 0⟩

/-- What an event adds to the collateral of the pool. -/
def creditedMicro (p : ApplyCollateral) : Int :=
  match db.collateralAssets p.assetId with
  | some asset =>
    let delta : Int :=
      (p.amountMicro * (10000 - asset.haircutBps) / 10000 : Nat)
    if p.eventType = .deposit then delta else -delta
  | none => 0

/-- The collateral of the pool after an event. -/
def pooledAfter (p : ApplyCollateral) : Nat :=
  if (db.reserveOf p).lane = p.lane then
    ((db.reserveOf p).collateralValueMicro + db.creditedMicro p).toNat
  else (db.reserveOf p).collateralValueMicro

/-- What the agent's positions are read as after an event. -/
def ownAfter (p : ApplyCollateral) : Nat :=
  { db with
    collateralPositions := p.moved db.collateralPositions }.ownEffective
      p.agentId p.poolId

/-- The agent's positions are the collateral of the pool, and the cap of
the pool counts in the same way. -/
def Sole (p : ApplyCollateral) : Prop :=
  db.pooledAfter p = db.ownAfter p
    ∧ ((db.reserveOf p).outstandingMicro = 0 ∨ db.ownAfter p = 0
      ∨ ∀ pool ∈ db.fastpathPools p.poolId, pool.ltvCapBps ≠ 0)

variable {db} {db' : Db} {p : ApplyCollateral}

theorem move_moved {x : CollateralPosition}
    (h : db.moveCollateral p = .ok (db', x)) :
    db' = { db with
      collateralPositions := p.moved db.collateralPositions } := by
  unfold moveCollateral at h
  unfold ApplyCollateral.moved
  split at h
  · next hnew =>
      cases h
      rw [hnew]
  · next i old hevent hold =>
      cases h
      rw [hold, hevent]
  · next i old hevent hold =>
      obtain ⟨_, -, h⟩ := bind_ok.mp h
      cases h
      rw [hold, hevent]
  · cases h

theorem bump_collateral (db : Db) (poolId : String) (lane : Lane) (d : Int) :
    (db.bumpKizunaPoolReserve poolId lane 0 0 d).poolReserves poolId
      = let row := (db.poolReserves poolId).getD ⟨lane, 0, 0, 0⟩
        some (if row.lane = lane then
          { row with
            collateralValueMicro := (row.collateralValueMicro + d).toNat }
        else row) := by
  unfold bumpKizunaPoolReserve
  simp

/-- The cap of a pool in a first answer. -/
def answerCapBps (db : Db) (poolId : String) : Nat :=
  match db.fastpathPools poolId with
  | some pool => pool.ltvCapBps
  | none => 6500

/-- A first answer is over the collateral of the pool, in a state where
the summary is over the agent's own. -/
theorem first_answer {v : CollateralResult}
    (h : db.applyKizunaCollateralEvent p = .ok (db', v))
    (hfirst : v.idempotent = false) :
    v.summary = collateralSummary (db.pooledAfter p)
        (db.reserveOf p).outstandingMicro (db.answerCapBps p.poolId)
      ∧ db'.Reads p.agentId p.poolId (db.ownAfter p)
        (db.reserveOf p).outstandingMicro (db.summaryCapBps p.poolId)
      ∧ p.event ∈ db'.collateralEvents
      ∧ p.key ∈ db'.collateralPositions.map CollateralPosition.key := by
  unfold applyKizunaCollateralEvent at h
  split at h
  · obtain ⟨_, -, _, -, _, -, h⟩ := bind_ok₃.mp h
    cases h
    cases hfirst
  · obtain ⟨asset, hasset, _, -, _, -, h⟩ := bind_ok₃.mp h
    obtain ⟨⟨db₁, x⟩, hmoved, reserve, hreserve, h⟩ := bind_ok₂.mp h
    cases h
    have hkey := (move_persists hmoved).2
    have hdb₁ := move_moved hmoved
    subst hdb₁
    have hcredited : (if p.eventType = .deposit then
          ((p.amountMicro * (10000 - asset.haircutBps) / 10000 : Nat) : Int)
        else -((p.amountMicro * (10000 - asset.haircutBps) / 10000 : Nat)
          : Int)) = db.creditedMicro p := by
      unfold creditedMicro
      rw [okOr_ok.mp hasset]
    rw [hcredited] at hreserve ⊢
    have hafter := okOr_ok.mp hreserve
    have hrow := (bump_collateral _ _ _ _).symm.trans hafter
    have hfields : reserve.outstandingMicro = (db.reserveOf p).outstandingMicro
        ∧ reserve.collateralValueMicro = db.pooledAfter p := by
      unfold pooledAfter
      rw [← Option.some.inj hrow]
      change (if (db.reserveOf p).lane = p.lane then _
          else db.reserveOf p).outstandingMicro = _
        ∧ (if (db.reserveOf p).lane = p.lane then _
          else db.reserveOf p).collateralValueMicro = _
      split
      · exact ⟨rfl, rfl⟩
      · exact ⟨rfl, rfl⟩
    refine ⟨?_, ⟨rfl, ⟨reserve, hafter, hfields.1⟩, rfl⟩, ?_, hkey⟩
    · show collateralSummary _ _ _ = _
      rw [hfields.1, hfields.2]
      rfl
    · exact List.mem_append_right _ (List.mem_singleton.mpr rfl)

theorem capBps_eq_iff (db : Db) (poolId : String) :
    db.answerCapBps poolId = db.summaryCapBps poolId
      ↔ ∀ pool ∈ db.fastpathPools poolId, pool.ltvCapBps ≠ 0 := by
  unfold answerCapBps summaryCapBps
  cases db.fastpathPools poolId with
  | none => simp
  | some pool =>
    dsimp only
    split
    · next hzero => simp [hzero]
    · next hne => simp [hne]

theorem capBps_cases (db : Db) (poolId : String) :
    db.answerCapBps poolId = db.summaryCapBps poolId
      ∨ db.answerCapBps poolId = 0 ∧ 0 < db.summaryCapBps poolId := by
  unfold answerCapBps summaryCapBps
  cases db.fastpathPools poolId with
  | none => exact .inl rfl
  | some pool =>
    dsimp only
    split
    · next hzero => exact .inr ⟨hzero, by omega⟩
    · exact .inl rfl

theorem summary_eq_iff {pooled own outstanding cap cap' : Nat}
    (hcap : cap = cap' ∨ cap = 0 ∧ 0 < cap') :
    collateralSummary own outstanding cap'
        = collateralSummary pooled outstanding cap
      ↔ pooled = own ∧ (outstanding = 0 ∨ own = 0 ∨ cap = cap') := by
  constructor
  · intro h
    have hown : own = pooled :=
      congrArg CollateralSummary.effectiveCollateralMicro h
    subst hown
    refine ⟨rfl, ?_⟩
    rcases Nat.eq_zero_or_pos outstanding with hzero | hpos
    · exact .inl hzero
    · rcases hcap with hsame | ⟨rfl, hcap'⟩
      · exact .inr (.inr hsame)
      · have hhealth := congrArg CollateralSummary.healthFactor h
        dsimp only [collateralSummary] at hhealth
        rw [if_pos hpos, if_pos hpos, healthFactor_eq, healthFactor_eq,
          weighted_uncapped, zero_div, Double.round_zero] at hhealth
        rcases Nat.eq_zero_or_pos own with hnone | hsome
        · exact .inr (.inl hnone)
        · have := Double.round_pos
            (div_pos (weighted_pos hsome hcap') (owed_pos hpos))
          exact absurd hhealth this.ne'
  · rintro ⟨rfl, rfl | rfl | rfl⟩
    · simp [collateralSummary]
    · simp [collateralSummary, healthFactor_eq, weighted_none]
    · rfl

/-- An event is answered again from the state it left, and alike exactly
when the agent's positions are the collateral of the pool. -/
theorem answer_again {v : CollateralResult}
    (h : db.applyKizunaCollateralEvent p = .ok (db', v))
    (hfirst : v.idempotent = false) : ∃ v',
    db'.applyKizunaCollateralEvent p = .ok (db', v') ∧ v'.idempotent = true
      ∧ (v'.summary = v.summary ↔ db.Sole p) := by
  obtain ⟨hsummary, hreads, hevent, hkey⟩ := first_answer h hfirst
  obtain ⟨reserve, hreserve, -⟩ := hreads.reserve
  obtain ⟨x, summary, -, -, hagain, hok⟩ := collateral_again
    (List.mem_map_of_mem hevent) hkey hreserve
  refine ⟨_, hok, rfl, ?_⟩
  rw [hreads.summary, Option.some.injEq] at hagain
  rw [hsummary, ← hagain, summary_eq_iff (capBps_cases _ _), capBps_eq_iff]
  rfl

end Db

-- ==== two states

/-- In two states, the figures are those of the agent's books where the
debts of the pool show the same, and below `2 ^ 50` only there; they follow
the debt and the collateral, except where there is none; and an event is
answered again as it was answered exactly when the agent is alone in the
pool. -/
theorem figures_iff {db db' : Db} {agentId poolId : String}
    {effective effective' outstanding outstanding' cap cap' : Nat}
    {s s' : CollateralSummary}
    (hreads : db.Reads agentId poolId effective outstanding cap)
    (hreads' : db'.Reads agentId poolId effective' outstanding' cap')
    (hs : db.getKizunaCollateralSummary agentId poolId = some s)
    (hs' : db'.getKizunaCollateralSummary agentId poolId = some s') :
    (db.SameBooks agentId poolId db' →
      (SameFigures effective cap outstanding outstanding' →
        s.figures = s'.figures)
      ∧ (s.figures = s'.figures →
        SameFigures effective cap outstanding outstanding'
          ∨ Near outstanding outstanding'))
    ∧ (effective = effective' → cap = cap' → outstanding ≤ outstanding' →
      s.ltvBps ≤ s'.ltvBps
        ∧ (s'.healthFactor ≤ s.healthFactor
          ↔ ¬ (outstanding = 0 ∧ 0 < outstanding'
            ∧ (9999 + 1 / 2 ^ 40) * owed outstanding'
              < weighted effective cap)))
    ∧ (outstanding = outstanding' → cap = cap' → effective ≤ effective' →
      s.healthFactor ≤ s'.healthFactor
        ∧ (s'.ltvBps ≤ s.ltvBps
          ↔ ¬ (effective = 0 ∧ 0 < effective'
            ∧ effective' ≤ outstanding * 10000)))
    ∧ ∀ p after v, db.applyKizunaCollateralEvent p = .ok (after, v) →
      v.idempotent = false → ∃ v',
        after.applyKizunaCollateralEvent p = .ok (after, v')
          ∧ v'.idempotent = true ∧ (v'.summary = v.summary ↔ db.Sole p) := by
  rw [hreads.summary] at hs
  rw [hreads'.summary] at hs'
  cases hs
  cases hs'
  refine ⟨?_, ?_, ?_, fun p after v => Db.answer_again⟩
  · intro hbooks
    obtain ⟨heff, hcap⟩ := hbooks.reads
    rw [hreads.effective_eq, hreads'.effective_eq] at heff
    rw [hreads.cap_eq, hreads'.cap_eq] at hcap
    subst heff hcap
    refine ⟨SameFigures.figures, sameFigures_or_near ?_⟩
    rw [← hreads.cap_eq]
    exact Db.summaryCapBps_pos
  · rintro rfl rfl hle
    exact ⟨ltv_debt hle, health_debt_iff hle⟩
  · rintro rfl rfl hle
    exact ⟨health_collateral hle, ltv_collateral_iff hle⟩

namespace Concrete

/-- The start, with the position in the reserve. -/
def pooledDb : Db :=
  { start.store.db with
    poolReserves := update start.store.db.poolReserves "fastpath-main"
      (some ⟨.cryptoFast, 0, 0, 20000000000000000⟩) }

/-- Another agent of the pool owes it. -/
def indebtedDb : Db :=
  { pooledDb with
    debts := [⟨"other", "payer", "repay", solana, .cryptoFast,
      "fastpath-main", 0, 0, 0, none, 1000000000000000, 1000000000000000,
      .opened, "tx"⟩]
    poolReserves := update start.store.db.poolReserves "fastpath-main"
      (some ⟨.cryptoFast, 0, 1000000000000000, 20000000000000000⟩) }

/-- The agent has withdrawn its collateral. -/
def bareDb : Db :=
  { indebtedDb with
    collateralPositions := [⟨"agent", "fastpath-main", "collateral", "usdc",
      20000000000000000, 20000000000000000, 0, "active"⟩]
    poolReserves := update start.store.db.poolReserves "fastpath-main"
      (some ⟨.cryptoFast, 0, 1000000000000000, 0⟩) }

/-- Another agent's deposit. -/
def otherDeposit : ApplyCollateral :=
  ⟨"other", .cryptoFast, "fastpath-main", "collateral", "usdc",
    20000000000000000, .deposit, "deposit"⟩

theorem pooled_reads : pooledDb.Reads "agent" "fastpath-main"
    20000000000000000 0 1 :=
  ⟨by decide, ⟨_, rfl, rfl⟩, rfl⟩

theorem indebted_reads : indebtedDb.Reads "agent" "fastpath-main"
    20000000000000000 1000000000000000 1 :=
  ⟨by decide, ⟨_, rfl, rfl⟩, rfl⟩

theorem pooled_books :
    pooledDb.SameBooks "agent" "fastpath-main" indebtedDb :=
  ⟨rfl, rfl, rfl, by decide⟩

/-- The figures of a deposit, answered first and again. -/
def depositTwice : Option ((Nat × ℚ) × (Nat × ℚ)) :=
  match indebtedDb.applyKizunaCollateralEvent otherDeposit with
  | .ok (after, v) =>
    match after.applyKizunaCollateralEvent otherDeposit with
    | .ok (_, v') => some (v.summary.figures, v'.summary.figures)
    | .error _ => none
  | .error _ => none

/-- Another agent's debt changes an agent's figures; the collateral
withdrawn, they show no utilisation of a pool in debt; and a deposit to it
is answered twice with different figures. -/
theorem figures_shared :
    pooledDb.SameBooks "agent" "fastpath-main" indebtedDb
      ∧ (pooledDb.getKizunaCollateralSummary "agent" "fastpath-main").map
        CollateralSummary.figures = some (0, 9999)
      ∧ (indebtedDb.getKizunaCollateralSummary "agent" "fastpath-main").map
        CollateralSummary.figures = some (500, Double.div 1 500)
      ∧ (bareDb.getKizunaCollateralSummary "agent" "fastpath-main").map
        CollateralSummary.figures = some (0, 0)
      ∧ depositTwice = some ((250, Double.div 1 250), (500, Double.div 1 500)) := by
  refine ⟨pooled_books, ?_, ?_, ?_, ?_⟩
  · decide +kernel
  · decide +kernel
  · decide +kernel
  · decide +kernel

theorem figures_iff_pooled :
    ((collateralSummary 20000000000000000 0 1).figures
        = (collateralSummary 20000000000000000 1000000000000000 1).figures →
      SameFigures 20000000000000000 1 0 1000000000000000
        ∨ Near 0 1000000000000000)
    ∧ ¬ Near 0 1000000000000000
    ∧ (collateralSummary 20000000000000000 0 1).ltvBps
      ≤ (collateralSummary 20000000000000000 1000000000000000 1).ltvBps := by
  obtain ⟨hbooks, hdebt, -, -⟩ := figures_iff pooled_reads indebted_reads
    pooled_reads.summary indebted_reads.summary
  refine ⟨(hbooks pooled_books).2, ?_, (hdebt rfl rfl (by decide)).1⟩
  norm_num [Near]

end Concrete

end KamiyoProtocol.Facilitator
