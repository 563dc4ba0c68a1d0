/-
The LTV cap of a fast-path pool.

The kernel keeps an approval within the cap of the collateral and the
outstanding amount it is sent. What it is sent are the open debts, read
before the reservation is made; what the cap is to bound are the open
debts and what is reserved, by then. So the cap holds as long as every
reservation is made on an evaluation that was sent at least the exposure
there is.
-/
import KamiyoProtocol.Facilitator.Prefund
import KamiyoProtocol.Facilitator.Lines
import Mathlib.Data.Nat.Cast.Order.Field

namespace KamiyoProtocol.Facilitator

open Exec Await Keyed

variable {env : Env}

-- ==== collateral

/-- The lines of an agent in a pool. -/
def CreditLine.of (agentId poolId : String) (l : CreditLine) : Prop :=
  l.agentId = agentId ∧ l.poolId = poolId

instance (agentId poolId : String) :
    DecidablePred (CreditLine.of agentId poolId) := fun l =>
  inferInstanceAs (Decidable (l.agentId = agentId ∧ l.poolId = poolId))

namespace Db

variable (db : Db)

/-- The effective collateral of a position as an agent's collateral in a
pool. -/
def positionValue (agentId poolId : String) (x : CollateralPosition) : ℚ :=
  if x.agentId = agentId ∧ x.poolId = poolId ∧ x.status = "active" then
    ((db.effectiveCollateral x).map Numeric.value).getD 0
  else 0

/-- The effective collateral of an agent in a pool. -/
def collateralValue (agentId poolId : String) : ℚ :=
  (db.collateralPositions.map (db.positionValue agentId poolId)).sum

/-- The effective collateral at a cap in basis points. -/
def ltvCap (agentId poolId : String) (ltvCapBps : Nat) : Nat :=
  ⌊db.collateralValue agentId poolId * ltvCapBps / 10000⌋₊

/-- In every fast-path pool every agent's exposure is within the cap. -/
def WithinCap : Prop :=
  ∀ (agentId poolId : String) (pool : FastpathPool),
    db.fastpathPools poolId = some pool →
    db.exposure (CreditLine.of agentId poolId)
      ≤ db.ltvCap agentId poolId pool.ltvCapBps

theorem positionValue_nonneg (agentId poolId : String)
    (x : CollateralPosition) : 0 ≤ db.positionValue agentId poolId x := by
  unfold positionValue
  split
  · cases db.effectiveCollateral x with
    | none => exact le_refl 0
    | some e => exact e.value_nonneg
  · exact le_refl 0

theorem positionValue_raise (agentId poolId : String) (x : CollateralPosition)
    (amountMicro : Nat) : db.positionValue agentId poolId x
      ≤ db.positionValue agentId poolId
        { x with depositedMicro := x.depositedMicro + amountMicro } := by
  have havailable : x.availableMicro ≤ CollateralPosition.availableMicro
      { x with depositedMicro := x.depositedMicro + amountMicro } := by
    unfold CollateralPosition.availableMicro
    dsimp only
    omega
  unfold positionValue effectiveCollateral
  dsimp only
  split
  · cases db.collateralAssets x.assetId with
    | none => simp only [Option.map_none, Option.getD_none, le_refl]
    | some asset =>
      simp only [Option.map_some, Option.getD_some]
      exact Numeric.value_div_mono (Nat.mul_le_mul_right _ havailable)
  · exact le_refl _

/-- The rows of the collateral queries add up to the effective
collateral. -/
theorem sum_activePositions (agentId poolId : String) :
    ((db.activePositions agentId poolId).map fun r => r.2.value).sum
      = db.collateralValue agentId poolId := by
  unfold activePositions collateralValue
  induction db.collateralPositions with
  | nil => rfl
  | cons x rest ih =>
    rw [List.map_cons, List.sum_cons, ← ih, List.filterMap_cons, positionValue]
    by_cases hx : x.agentId = agentId ∧ x.poolId = poolId ∧ x.status = "active"
    · rw [if_pos hx, if_pos hx]
      cases db.effectiveCollateral x with
      | none => exact (zero_add _).symm
      | some e => rfl
    · rw [if_neg hx, if_neg hx]
      exact (zero_add _).symm

/-- What a position is read back as is no more than the agent has in the
pool. -/
theorem position_le {agentId poolId account : String} {x : PositionView}
    (h : db.getKizunaCollateralPosition agentId poolId account = some x) :
    (x.effectiveCollateralMicro : ℚ) ≤ db.collateralValue agentId poolId := by
  rw [← db.sum_activePositions agentId poolId]
  unfold getKizunaCollateralPosition at h
  have hsum : ∀ l : List (CollateralPosition × Numeric),
      (((l.filter fun r => r.1.collateralAccount = account).map
        fun r => parseMicro r.2).sum : ℚ) ≤ (l.map fun r => r.2.value).sum := by
    intro l
    induction l with
    | nil => exact le_refl _
    | cons r rest ih =>
      have hparse : ((parseMicro r.2 : Nat) : ℚ) ≤ r.2.value :=
        r.2.toBigInt_le
      have hnonneg : 0 ≤ r.2.value := r.2.value_nonneg
      rw [List.filter_cons]
      split
      · push_cast [List.map_cons, List.sum_cons] at ih ⊢
        linarith
      · push_cast [List.map_cons, List.sum_cons] at ih ⊢
        linarith
  have hle := hsum (db.activePositions agentId poolId)
  split at h
  · cases h
  · next r rest hrows =>
      cases h
      rw [hrows] at hle
      exact hle

end Db

/-- Pools stay and collateral does not shrink. -/
structure Grows (db db' : Db) : Prop where
  pools : db'.fastpathPools = db.fastpathPools
  value : ∀ agentId poolId,
    db.collateralValue agentId poolId ≤ db'.collateralValue agentId poolId

theorem Grows.refl (db : Db) : Grows db db :=
  ⟨rfl, fun _ _ => le_refl _⟩

theorem Grows.trans {a b c : Db} (h₁ : Grows a b) (h₂ : Grows b c) :
    Grows a c :=
  ⟨h₂.pools.trans h₁.pools, fun agentId poolId =>
    (h₁.value agentId poolId).trans (h₂.value agentId poolId)⟩

theorem Grows.of_same {db db' : Db} (hpools : db'.fastpathPools = db.fastpathPools)
    (hassets : db'.collateralAssets = db.collateralAssets)
    (hpositions : db'.collateralPositions = db.collateralPositions) :
    Grows db db' := by
  refine ⟨hpools, fun agentId poolId => le_of_eq ?_⟩
  unfold Db.collateralValue Db.positionValue Db.effectiveCollateral
  rw [hassets, hpositions]

theorem Grows.cap_le {db db' : Db} (h : Grows db db')
    (agentId poolId : String) (ltvCapBps : Nat) :
    db.ltvCap agentId poolId ltvCapBps
      ≤ db'.ltvCap agentId poolId ltvCapBps := by
  unfold Db.ltvCap
  have hvalue := h.value agentId poolId
  gcongr

theorem deposit_grows {db db' : Db} {p : ApplyCollateral}
    {x : CollateralPosition} (hp : p.eventType = .deposit)
    (h : db.moveCollateral p = .ok (db', x)) : Grows db db' := by
  unfold Db.moveCollateral at h
  rw [hp] at h
  cases hold : locate CollateralPosition.key db.collateralPositions p.key with
  | none =>
    rw [hold] at h
    cases h
    refine ⟨rfl, fun agentId poolId => ?_⟩
    unfold Db.collateralValue
    rw [sum_append_single]
    exact le_add_of_nonneg_right (db.positionValue_nonneg agentId poolId _)
  | some r =>
    obtain ⟨i, old⟩ := r
    rw [hold] at h
    cases h
    refine ⟨rfl, fun agentId poolId => ?_⟩
    have hraise := db.positionValue_raise agentId poolId old p.amountMicro
    have hsum := sum_set (db.positionValue agentId poolId)
      (locate_some hold).1
      { old with depositedMicro := old.depositedMicro + p.amountMicro }
    show (db.collateralPositions.map (db.positionValue agentId poolId)).sum
      ≤ ((db.collateralPositions.set i
        { old with
          depositedMicro := old.depositedMicro + p.amountMicro }).map
        (db.positionValue agentId poolId)).sum
    linarith

/-- The operation takes collateral out. -/
def Op.withdraws : Op → Bool
  | .applyKizunaCollateralEvent p => decide (p.eventType = .withdraw)
  | _ => false

theorem Booked.grows {db db' : Db} {op : Op} (h : Booked db db' op)
    (hop : op.withdraws = false) : Grows db db' := by
  cases h with
  | aside decisions settlements guards sessions same grown merchants =>
    subst same
    exact Grows.of_same rfl rfl rfl
  | settlement row same =>
    subst same
    exact Grows.of_same rfl rfl rfl
  | reserve p sent now stored done =>
    obtain ⟨-, -, ⟨_, _, rfl⟩, -⟩ := Db.create_ok done
    exact Grows.of_same rfl rfl rfl
  | release id status done =>
    rcases Db.release_ok done with rfl | ⟨row, -, -, ⟨_, _, rfl⟩, -⟩
    · exact Grows.refl _
    · exact Grows.of_same rfl rfl rfl
  | consume p now v done =>
    obtain ⟨row, d, -, -, -, -, ⟨_, _, _, _, rfl⟩, -, -⟩ :=
      Db.finalize_ok done
    exact Grows.of_same rfl rfl rfl
  | repay p done =>
    obtain ⟨_, _, _, hsame, -⟩ := Db.repay_eq db p
    rw [done, hsame]
    exact Grows.of_same rfl rfl rfl
  | fund p v done =>
    rcases Db.fund_booked done with rfl | ⟨⟨balances, rfl⟩, -⟩
    · exact Grows.refl _
    · exact Grows.of_same rfl rfl rfl
  | collateral p v done =>
    have hdeposit : p.eventType = .deposit := by
      cases hp : p.eventType with
      | deposit => rfl
      | withdraw => exact absurd hp (of_decide_eq_false hop)
    rcases Db.collateral_ok done with rfl | ⟨db₁, x, _, _, hmove, rfl⟩
    · exact Grows.refl _
    · have hgrows := deposit_grows hdeposit hmove
      obtain ⟨positions, rfl⟩ := Db.move_same hmove
      exact hgrows.trans (Grows.of_same rfl rfl rfl)

-- ==== kernel

/-- What the figures sent leave to be approved under the cap. -/
def KernelEvaluateInput.capMicro (input : KernelEvaluateInput) : Nat :=
  (input.collateral.map fun x =>
    x.effectiveCollateralMicro * x.ltvCapBps / 10000).getD 0
    - input.outstandingMicro

/-- The kernel approves no more than that in the crypto-fast lane. -/
def Choice.Caps (c : Choice) (op : Op) : Prop :=
  ∀ input ∈ op.kernelInput, input.lane = .cryptoFast →
    c.kernel.approvedMicro ≤ input.capMicro

instance (c : Choice) (op : Op) : Decidable (c.Caps op) :=
  inferInstanceAs (Decidable (∀ input ∈ op.kernelInput,
    input.lane = .cryptoFast → c.kernel.approvedMicro ≤ input.capMicro))

instance (c : Choice) (op : Op) : Decidable (c.Echoes op) :=
  inferInstanceAs (Decidable (∀ input ∈ op.kernelInput,
    c.kernel.lane = input.lane ∧ c.kernel.poolId = input.poolId))

/-- The kernel answers for the lane and the pool it is asked about, within
the cap, and no collateral is withdrawn. -/
def Capped (c : Choice) (op : Op) (_ : World) : Prop :=
  c.Echoes op ∧ c.Caps op ∧ op.withdraws = false
  deriving Decidable

-- ==== duties

/-- What a reservation asks for is within the cap, on top of the
outstanding amount the kernel was sent. -/
def Db.Fits (db : Db) (p : CreateReservation) (input : KernelEvaluateInput) :
    Prop :=
  ∀ pool ∈ db.fastpathPools p.poolId, pool.ltvCapBps ≠ 0 →
    p.amountMicro + input.outstandingMicro
      ≤ db.ltvCap p.agentId p.poolId pool.ltvCapBps

theorem Db.Fits.later {db db' : Db} {p : CreateReservation}
    {input : KernelEvaluateInput} (h : db.Fits p input) (hgrows : Grows db db') :
    db'.Fits p input := by
  intro pool hpool hcap
  rw [hgrows.pools] at hpool
  exact (h pool hpool hcap).trans (hgrows.cap_le _ _ _)

/-- A reservation made on an evaluation in the crypto-fast lane fits. -/
def capDuty : Contract Store Choice Op Op.Res Response where
  rely s s' := Grows s.db s'.db
  refl s := Grows.refl s.db
  trans _ _ _ := Grows.trans
  allowed op c _ := c.Echoes op ∧ c.Caps op ∧ op.withdraws = false
  owes op _ s :=
    match op with
    | .createKizunaReservation p sent => ∀ input ∈ sent,
        input.lane = .cryptoFast → 0 < p.amountMicro → s.db.Fits p input
    | _ => True
  ends _ _ := True
  lasts _ _ _ _ _ := trivial

theorem fits_of_caps {q : VerifyRequest} {a : AcceptedVerify} {f : Figures}
    {input : KernelEvaluateInput} {c : Choice} {id : Nat} {s : Store}
    (hallowed : capDuty.allowed (.evaluateKizunaKernelDecision input) c s)
    (hunder : Underwritten capDuty.rely env q a f input s)
    (hlane : input.lane = .cryptoFast)
    (hpos : 0 < (reservationFor env q a f c.kernel id).amountMicro) :
    s.db.Fits (reservationFor env q a f c.kernel id) input := by
  obtain ⟨hechoes, hcaps, -⟩ := hallowed
  have happroved : (reservationFor env q a f c.kernel id).amountMicro
      ≤ input.capMicro :=
    (Nat.min_le_left _ _).trans (hcaps input rfl hlane)
  have hpoolId := (hechoes input rfl).2
  obtain ⟨account, mandate, collateral, rfl, hcollateral⟩ := hunder.input
  obtain ⟨collateralAccount, s₁, summary, hs₁, rfl⟩ := hcollateral hlane
  obtain ⟨s₂, hs₂, hpool⟩ := hunder.pool hlane
  have hpoolId : c.kernel.poolId = a.poolId := hpoolId
  intro pool hmem hcap
  change s.db.fastpathPools c.kernel.poolId = some pool at hmem
  show (reservationFor env q a f c.kernel id).amountMicro + f.outstandingMicro
    ≤ s.db.ltvCap q.kizuna.agentId c.kernel.poolId pool.ltvCapBps
  rw [hpoolId, hs₂.pools] at hmem
  rw [hpoolId]
  have hf : f.pool = some pool := hpool.trans hmem
  unfold KernelEvaluateInput.capMicro at happroved
  unfold kernelInput kernelCollateral at happroved
  dsimp only at happroved
  cases hx : s₁.db.getKizunaCollateralPosition q.kizuna.agentId a.poolId
      collateralAccount with
  | none =>
    rw [hx] at happroved
    simp only [Option.map_none, Option.getD_none] at happroved
    omega
  | some x =>
    cases summary with
    | none =>
      rw [hx] at happroved
      simp only [Option.map_none, Option.getD_none] at happroved
      omega
    | some summary =>
      rw [hx, hf] at happroved
      simp only [Option.map_some, Option.getD_some, if_neg hcap]
        at happroved
      have hvalue : (x.effectiveCollateralMicro : ℚ)
          ≤ s.db.collateralValue q.kizuna.agentId a.poolId :=
        (Db.position_le _ hx).trans (hs₁.value _ _)
      have hfloor : x.effectiveCollateralMicro * pool.ltvCapBps / 10000
          ≤ s.db.ltvCap q.kizuna.agentId a.poolId pool.ltvCapBps := by
        apply Nat.le_floor
        refine Nat.cast_div_le.trans ?_
        push_cast
        gcongr
      omega

theorem capDuty_safe (q : Request) (now : Nat) (s : Store) :
    Safe perform capDuty (route env now q) s := by
  have hother : ∀ op k s, (∀ p sent, op ≠ .createKizunaReservation p sent) →
      capDuty.owes op k s := by
    intro op k s hop
    cases op with
    | createKizunaReservation p sent => exact (hop p sent rfl).elim
    | _ => trivial
  refine reserving_safe ?_ hother ?_ ?_ q now s
  · exact fun _ _ => trivial
  · intro q
    refine ⟨?_, ?_, ?_, ?_⟩
    · intro op c s hallowed
      exact (perform_booked op c s).grows hallowed.2.2
    · exact fun _ _ => trivial
    · exact fun op k s _ hop => hother op k s hop
    · intro a f input c id k s₀ s hallowed hunder hs
      rintro input' ⟨⟩ hlane hpos
      exact (fits_of_caps hallowed hunder hlane hpos).later hs
  · rintro p k s - input ⟨⟩

-- ==== runs

/-- The reservation an operation makes, and on what evaluation. -/
def Op.reserving : Op → Option (CreateReservation × Option KernelEvaluateInput)
  | .createKizunaReservation p sent => some (p, sent)
  | _ => none

/-- A reservation in a fast-path pool of some cap is made on an evaluation
in the crypto-fast lane, which was sent no less than the agent's exposure
in the pool as it is now. -/
def Informed (_ : Choice) (op : Op) (w : World) : Prop :=
  ∀ r ∈ op.reserving, ∀ pool ∈ w.store.db.fastpathPools r.1.poolId,
    pool.ltvCapBps ≠ 0 ∧ ∃ input ∈ r.2, input.lane = .cryptoFast
      ∧ w.store.db.exposure (CreditLine.of r.1.agentId r.1.poolId)
        ≤ input.outstandingMicro
  deriving Decidable

theorem withinCap_create {db db' : Db} {p : CreateReservation} {dbNow : Nat}
    {stored : Stored Reservation}
    (hdone : db.createKizunaReservation p dbNow = .ok (db', stored))
    (hgrows : Grows db db') (h : db.WithinCap)
    (hfits : 0 < p.amountMicro → ∀ pool ∈ db.fastpathPools p.poolId,
      db.exposure (CreditLine.of p.agentId p.poolId) + p.amountMicro
        ≤ db.ltvCap p.agentId p.poolId pool.ltvCapBps) : db'.WithinCap := by
  intro agentId poolId pool hpool
  rw [hgrows.pools] at hpool
  refine le_trans ?_ (hgrows.cap_le agentId poolId pool.ltvCapBps)
  have hold := h agentId poolId pool hpool
  obtain ⟨hreserved, howed⟩ :=
    create_lines (P := CreditLine.of agentId poolId) hdone
  unfold Db.exposure at hold hfits ⊢
  rw [hreserved, howed]
  by_cases hline : CreditLine.of agentId poolId p.line ∧ 0 < p.amountMicro
  · obtain ⟨⟨rfl, rfl⟩, hpos⟩ := hline
    have hle := on_le (CreditLine.of p.line.agentId p.line.poolId) p.line
      p.amountMicro
    have hfit := hfits hpos pool hpool
    change db.reservedOn (CreditLine.of p.agentId p.poolId)
      + on (CreditLine.of p.agentId p.poolId) p.line p.amountMicro
      + db.owedOn (CreditLine.of p.agentId p.poolId)
      ≤ db.ltvCap p.agentId p.poolId pool.ltvCapBps
    change on (CreditLine.of p.agentId p.poolId) p.line p.amountMicro
      ≤ p.amountMicro at hle
    omega
  · have hzero : on (CreditLine.of agentId poolId) p.line p.amountMicro
        = 0 := by
      by_cases hpos : 0 < p.amountMicro
      · exact if_neg fun hp => hline ⟨hp, hpos⟩
      · rw [Nat.eq_zero_of_not_pos hpos, on_zero]
    omega

theorem withinCap_step {op : Op} {c : Choice} {k : op.Res → Handler}
    {w : World} (hcapped : Capped c op w) (hinformed : Informed c op w)
    (howed : capDuty.owes op k w.store) (h : w.store.db.WithinCap) :
    (perform op c w.store).1.db.WithinCap := by
  have hbooked := perform_booked op c w.store
  have hgrows := hbooked.grows hcapped.2.2
  by_cases hop : ∃ p sent now stored, op = .createKizunaReservation p sent
      ∧ w.store.db.createKizunaReservation p now
        = .ok ((perform op c w.store).1.db, stored)
  · obtain ⟨p, sent, now, stored, rfl, hdone⟩ := hop
    apply withinCap_create hdone hgrows h
    intro hpos pool hpool
    obtain ⟨hcap, input, hinput, hlane, hsent⟩ :=
      hinformed (p, sent) rfl pool hpool
    have hfit := howed input hinput hlane hpos pool hpool hcap
    change w.store.db.exposure (CreditLine.of p.agentId p.poolId) ≤ _
      at hsent
    omega
  · intro agentId poolId pool hpool
    rw [hgrows.pools] at hpool
    calc (perform op c w.store).1.db.exposure (CreditLine.of agentId poolId)
        ≤ w.store.db.exposure (CreditLine.of agentId poolId) :=
          hbooked.exposure_le.resolve_right hop
      _ ≤ w.store.db.ltvCap agentId poolId pool.ltvCapBps :=
          h agentId poolId pool hpool
      _ ≤ _ := hgrows.cap_le agentId poolId pool.ltvCapBps

/-- Where the kernel keeps within the cap of what it is sent, nothing is
withdrawn and every reservation is made on the exposure there is, the
exposure stays within the cap. -/
theorem exposure_capped {w₀ w : World} {tr : List Action} (h₀ : Genesis w₀)
    (hcapped : Meets (step env) (AtOp Capped) w₀ tr)
    (hm : Meets (step env) (AtOp Informed) w₀ tr)
    (hrun : run (step env) w₀ tr = .ok w) : w.store.db.WithinCap := by
  have hsafe₀ : AllSafe perform capDuty w₀ := by
    intro p hp
    rw [h₀.progs] at hp
    cases hp
  have hcap₀ : w₀.store.db.WithinCap := by
    intro agentId poolId pool _
    unfold Db.exposure Db.reservedOn Db.owedOn owedIn
    rw [h₀.reservations, h₀.debts]
    exact Nat.zero_le _
  refine (run_induct_meets (I := fun w =>
    AllSafe perform capDuty w ∧ w.store.db.WithinCap) ?_
    ⟨hsafe₀, hcap₀⟩ (meets_both hcapped hm) hrun).2
  rintro a w w' ⟨hsafe, hwithin⟩ hcond hstep
  constructor
  · refine safe_step ?_ ?_ ?_ hsafe hcond.1 hstep
    · intro op c s hallowed
      exact (perform_booked op c s).grows hallowed.2.2
    · exact fun q now w _ => capDuty_safe q now w.store
    · exact fun i c w op hop hcond => hcond op hop
  · rcases step_ok hstep with
      ⟨q, now, rfl, rfl⟩ | ⟨i, c, op, k, rfl, hi, hy⟩
    · exact hwithin
    · have hs := resume_store hi hy
      rw [hs]
      have hop := awaited_of hi
      exact withinCap_step (hcond.1 op hop) (hcond.2 op hop)
        (hsafe _ (List.mem_of_getElem? hi)).owed hwithin

/-- One verification, up to the cap. -/
theorem exposure_capped_fast :
    ∃ w, run (step Concrete.env) Concrete.start Concrete.fastRun = .ok w
      ∧ w.store.db.exposure (CreditLine.of "agent" "fastpath-main")
        = 2000000000000
      ∧ w.store.db.WithinCap := by
  obtain ⟨w, hrun, hexposure⟩ := check_ok (show Exec.check (fun w : World =>
      decide (w.store.db.exposure (CreditLine.of "agent" "fastpath-main")
        = 2000000000000))
      (run (step Concrete.env) Concrete.start Concrete.fastRun) = true
    by decide)
  have hcapped : Meets (step Concrete.env) (AtOp Capped) Concrete.start
      Concrete.fastRun := by
    apply meets_of_check fun a w h =>
      of_decide_eq_true (p := AtOp Capped a w) h
    decide
  have hm : Meets (step Concrete.env) (AtOp Informed) Concrete.start
      Concrete.fastRun := by
    apply meets_of_check fun a w h =>
      of_decide_eq_true (p := AtOp Informed a w) h
    decide
  exact ⟨w, hrun, of_decide_eq_true hexposure,
    exposure_capped Concrete.start_genesis hcapped hm hrun⟩

/-- Two verifications, each up to the cap: the second is evaluated on the
open debts, of which there are none. -/
theorem exposure_stacks :
    ∃ w, Genesis Concrete.start
      ∧ Meets (step Concrete.env) (AtOp Capped) Concrete.start
        Concrete.stackedRun
      ∧ run (step Concrete.env) Concrete.start Concrete.stackedRun = .ok w
      ∧ w.store.db.ltvCap "agent" "fastpath-main" 1 = 2000000000000
      ∧ w.store.db.exposure (CreditLine.of "agent" "fastpath-main")
        = 4000000000000
      ∧ ¬ w.store.db.WithinCap := by
  obtain ⟨w, hrun, hfigures⟩ := check_ok (show Exec.check (fun w : World =>
      decide (w.store.db.ltvCap "agent" "fastpath-main" 1 = 2000000000000
        ∧ w.store.db.exposure (CreditLine.of "agent" "fastpath-main")
          = 4000000000000
        ∧ w.store.db.fastpathPools "fastpath-main"
          = some ⟨"active", 1, 11 / 10, 5000000000000⟩))
      (run (step Concrete.env) Concrete.start Concrete.stackedRun) = true
    by decide +kernel)
  obtain ⟨hcap, hexposure, hpool⟩ := of_decide_eq_true hfigures
  have hcapped : Meets (step Concrete.env) (AtOp Capped) Concrete.start
      Concrete.stackedRun := by
    apply meets_of_check fun a w h =>
      of_decide_eq_true (p := AtOp Capped a w) h
    decide
  refine ⟨w, Concrete.start_genesis, hcapped, hrun, hcap, hexposure, ?_⟩
  intro h
  have hle := h "agent" "fastpath-main" _ hpool
  rw [hexposure] at hle
  change 4000000000000 ≤ w.store.db.ltvCap "agent" "fastpath-main" 1 at hle
  rw [hcap] at hle
  omega

end KamiyoProtocol.Facilitator
