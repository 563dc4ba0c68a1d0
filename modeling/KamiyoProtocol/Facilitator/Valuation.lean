/-
What the collateral queries return for what the positions are worth.

A position is worth its available amount times what the haircut leaves
of 10000, over 10000; the queries divide, print the quotient and read it
back as an integer. The division here is any whose quotients show
sixteen digits after the point, as PostgreSQL's do for the amounts in
use (`Numeric.div`, which shows fewer for very large ones, is the case of
the model at large). None of these is read back, so the returned value is
zero: the worth of positions of less than one micro-unit, and of no
others.
-/
import KamiyoProtocol.Facilitator.Concrete

namespace KamiyoProtocol.Facilitator

-- ==== queries

namespace Db

variable (db : Db)

/-- `available * (10000 - haircut)` of a position, joined with its
asset. -/
def weightedMicro (x : CollateralPosition) : Option Nat :=
  (db.collateralAssets x.assetId).map fun asset =>
    x.availableMicro * (10000 - asset.haircutBps)

/-- An agent's active positions in a pool, weighted. -/
def weightedPositions (agentId poolId : String) :
    List (CollateralPosition × Nat) :=
  db.collateralPositions.filterMap fun x =>
    if x.agentId = agentId ∧ x.poolId = poolId ∧ x.status = "active" then
      (db.weightedMicro x).map fun a => (x, a)
    else none

/-- Those of one account. -/
def accountPositions (agentId poolId collateralAccount : String) :
    List (CollateralPosition × Nat) :=
  (db.weightedPositions agentId poolId).filter fun r =>
    r.1.collateralAccount = collateralAccount

/-- `getKizunaCollateralPosition`, by a division by 10000. -/
def getKizunaCollateralPositionBy (quotient : Nat → Numeric)
    (agentId poolId collateralAccount : String) : Option PositionView :=
  match db.accountPositions agentId poolId collateralAccount with
  | [] => none
  | r :: rest =>
    some {
      assetId := r.1.assetId
      totalAvailableMicro :=
        ((r :: rest).map fun r => r.1.availableMicro).sum
      effectiveCollateralMicro :=
        ((r :: rest).map fun r => parseMicro (quotient r.2)).sum
      assets := (r :: rest).map fun r =>
        ⟨r.1.assetId, r.1.availableMicro, quotient r.2⟩ }

/-- `getKizunaCollateralSummary`, by a division by 10000. -/
def getKizunaCollateralSummaryBy (quotient : Nat → Numeric)
    (agentId poolId : String) : Option CollateralSummary :=
  (db.poolReserves poolId).map fun reserve =>
    collateralSummary
      (parseMicro (Numeric.sum
        ((db.weightedPositions agentId poolId).map fun r => quotient r.2)))
      reserve.outstandingMicro
      (match db.fastpathPools poolId with
        | some pool => if pool.ltvCapBps = 0 then 6500 else pool.ltvCapBps
        | none => 6500)

theorem activePositions_eq (agentId poolId : String) :
    db.activePositions agentId poolId
      = (db.weightedPositions agentId poolId).map fun r =>
        (r.1, Numeric.div r.2 10000) := by
  unfold activePositions weightedPositions
  rw [List.map_filterMap]
  congr 1
  funext x
  split
  · unfold effectiveCollateral weightedMicro
    cases db.collateralAssets x.assetId with
    | none => rfl
    | some asset => rfl
  · rfl

theorem getKizunaCollateralPositionBy_div
    (agentId poolId collateralAccount : String) :
    db.getKizunaCollateralPositionBy (Numeric.div · 10000) agentId poolId
        collateralAccount
      = db.getKizunaCollateralPosition agentId poolId collateralAccount := by
  unfold getKizunaCollateralPositionBy getKizunaCollateralPosition
    accountPositions
  rw [activePositions_eq, List.filter_map]
  have hfilter : ((fun r : CollateralPosition × Numeric =>
        decide (r.1.collateralAccount = collateralAccount))
      ∘ fun r : CollateralPosition × Nat => (r.1, Numeric.div r.2 10000))
      = fun r => decide (r.1.collateralAccount = collateralAccount) := rfl
  rw [hfilter]
  cases (db.weightedPositions agentId poolId).filter fun r =>
      decide (r.1.collateralAccount = collateralAccount) with
  | nil => rfl
  | cons r rest => simp [Function.comp_def]

theorem getKizunaCollateralSummaryBy_div (agentId poolId : String) :
    db.getKizunaCollateralSummaryBy (Numeric.div · 10000) agentId poolId
      = db.getKizunaCollateralSummary agentId poolId := by
  unfold getKizunaCollateralSummaryBy getKizunaCollateralSummary
  rw [activePositions_eq, List.map_map]
  rfl

end Db

-- ==== valuation

/-- The returned value is the weighted sum over 10000, rounded down, and
positive where one of the positions is worth a micro-unit. -/
def Valued (effective : Nat) (weights : List Nat) : Prop :=
  effective = weights.sum / 10000 ∧ ((∃ a ∈ weights, 10000 ≤ a) → 0 < effective)

theorem valued_zero (weights : List Nat) :
    Valued 0 weights ↔ weights.sum < 10000 := by
  constructor
  · intro h
    have hfloor := h.1
    omega
  · intro h
    refine ⟨by omega, ?_⟩
    intro hex
    obtain ⟨a, ha, hle⟩ := hex
    have := List.single_le_sum (by simp) a ha
    omega

theorem parseMicro_fraction {x : Numeric} (h : x.scale ≠ 0) :
    parseMicro x = 0 := by
  unfold parseMicro Numeric.toBigInt
  rw [if_neg h]
  rfl

theorem scale_sum {l : List Numeric} {k : Nat} (h : ∀ x ∈ l, k ≤ x.scale)
    (hne : l ≠ []) : k ≤ (Numeric.sum l).scale := by
  cases l with
  | nil => exact absurd rfl hne
  | cons x rest => exact le_trans (h x List.mem_cons_self) (le_max_left _ _)

section Division

variable {db : Db} {quotient : Nat → Numeric}
  {agentId poolId account : String}

theorem position_zero (hq : ∀ a, 16 ≤ (quotient a).scale) {view : PositionView}
    (h : db.getKizunaCollateralPositionBy quotient agentId poolId account
      = some view) : view.effectiveCollateralMicro = 0 := by
  unfold Db.getKizunaCollateralPositionBy at h
  split at h
  · cases h
  · cases h
    refine List.sum_eq_zero ?_
    intro n hn
    obtain ⟨r, -, rfl⟩ := List.mem_map.mp hn
    exact parseMicro_fraction (by have := hq r.2; omega)

theorem summary_zero (hq : ∀ a, 16 ≤ (quotient a).scale)
    {summary : CollateralSummary}
    (h : db.getKizunaCollateralSummaryBy quotient agentId poolId
      = some summary) : summary.effectiveCollateralMicro = 0 := by
  obtain ⟨reserve, -, rfl⟩ := Option.map_eq_some_iff.mp h
  show parseMicro _ = 0
  by_cases hnil : db.weightedPositions agentId poolId = []
  · rw [hnil]
    rfl
  · have hscale : 16 ≤ (Numeric.sum ((db.weightedPositions agentId
        poolId).map fun r => quotient r.2)).scale := by
      refine scale_sum ?_ (by simpa using hnil)
      intro x hx
      obtain ⟨r, -, rfl⟩ := List.mem_map.mp hx
      exact hq r.2
    exact parseMicro_fraction (by omega)

/-- The returned values are right exactly for positions worth less than a
micro-unit together. -/
theorem valuation_iff (hq : ∀ a, 16 ≤ (quotient a).scale) :
    (∀ view, db.getKizunaCollateralPositionBy quotient agentId poolId account
        = some view →
      (Valued view.effectiveCollateralMicro
          ((db.accountPositions agentId poolId account).map Prod.snd)
        ↔ ((db.accountPositions agentId poolId account).map Prod.snd).sum
          < 10000))
      ∧ ∀ summary, db.getKizunaCollateralSummaryBy quotient agentId poolId
          = some summary →
        (Valued summary.effectiveCollateralMicro
            ((db.weightedPositions agentId poolId).map Prod.snd)
          ↔ ((db.weightedPositions agentId poolId).map Prod.snd).sum
            < 10000) := by
  constructor
  · intro view h
    rw [position_zero hq h]
    exact valued_zero _
  · intro summary h
    rw [summary_zero hq h]
    exact valued_zero _

end Division

/-- A thousand micro-units under a haircut of a tenth. -/
def haircutDb : Db :=
  { Concrete.start.store.db with
    collateralAssets := fun id =>
      if id = "usdc" then some ⟨1000, "active"⟩ else none
    collateralPositions := [⟨"agent", "fastpath-main", "collateral", "usdc",
      1000, 0, 0, "active"⟩] }

theorem haircut_positions :
    haircutDb.accountPositions "agent" "fastpath-main" "collateral"
        = [(⟨"agent", "fastpath-main", "collateral", "usdc", 1000, 0, 0,
          "active"⟩, 9000000)]
      ∧ haircutDb.weightedPositions "agent" "fastpath-main"
        = [(⟨"agent", "fastpath-main", "collateral", "usdc", 1000, 0, 0,
          "active"⟩, 9000000)] := by
  decide

/-- They are worth 900 micro-units, which are returned as none. -/
theorem haircut_unvalued :
    ((haircutDb.getKizunaCollateralPosition "agent" "fastpath-main"
        "collateral").map PositionView.effectiveCollateralMicro = some 0)
      ∧ ((haircutDb.getKizunaCollateralSummary "agent" "fastpath-main").map
        CollateralSummary.effectiveCollateralMicro = some 0)
      ∧ ¬ Valued 0 ((haircutDb.accountPositions "agent" "fastpath-main"
        "collateral").map Prod.snd)
      ∧ ¬ Valued 0 ((haircutDb.weightedPositions "agent"
        "fastpath-main").map Prod.snd) := by
  refine ⟨by decide, by decide, ?_, ?_⟩
  · rw [haircut_positions.1]
    exact fun h => absurd h.1 (by decide)
  · rw [haircut_positions.2]
    exact fun h => absurd h.1 (by decide)

/-- Division by 10000 to sixteen digits. -/
def sixteenDigits (a : Nat) : Numeric := ⟨a * 10 ^ 12, 16⟩

theorem valuation_iff_haircut :
    (∀ view, haircutDb.getKizunaCollateralPositionBy sixteenDigits "agent"
        "fastpath-main" "collateral" = some view →
      (Valued view.effectiveCollateralMicro ((haircutDb.accountPositions
          "agent" "fastpath-main" "collateral").map Prod.snd)
        ↔ ((haircutDb.accountPositions "agent" "fastpath-main"
          "collateral").map Prod.snd).sum < 10000))
      ∧ ∀ summary, haircutDb.getKizunaCollateralSummaryBy sixteenDigits
          "agent" "fastpath-main" = some summary →
        (Valued summary.effectiveCollateralMicro
            ((haircutDb.weightedPositions "agent" "fastpath-main").map
              Prod.snd)
          ↔ ((haircutDb.weightedPositions "agent" "fastpath-main").map
            Prod.snd).sum < 10000) :=
  valuation_iff fun _ => le_refl 16

/-- With the digits PostgreSQL really shows, a position is read back once
its quotient has none after the point, rounded to the nearest. -/
theorem parseMicro_div (a : Nat) :
    parseMicro (Numeric.div a 10000)
      = if Numeric.whole ≤ a then (2 * a + 10000) / 20000 else 0 := by
  split
  · next ha =>
      unfold parseMicro Numeric.toBigInt Numeric.div
      rw [Numeric.divScale_whole ha]
      simp
  · next ha =>
      have hscale := Numeric.divScale_fraction (not_le.mp ha)
      refine parseMicro_fraction ?_
      show Numeric.divScale a 10000 ≠ 0
      omega

end KamiyoProtocol.Facilitator
