/-
References as idempotency keys.

Funding events, collateral events and repayments are each recorded under
a reference of the agent's, and a second call under it is meant to answer
what is recorded or to be refused as a conflict. The three implement it
apart. A funding event is looked up in the pool of the call, so the pool
is a part of the key, and is compared in type and amount. A collateral
event and a repayment are looked up by agent and reference and compared
in nothing.

What is recorded is recorded for good, with the balance, the position and
the reserve it went to (`Kept`). A repayment's row does not have its
scope, so a run carries the repayments that were recorded.
-/
import KamiyoProtocol.Facilitator.Effects
import KamiyoProtocol.Facilitator.Concrete

namespace KamiyoProtocol.Facilitator

open Exec Keyed Await Function

-- ==== replays

/-- The call is refused as a conflict. -/
def Conflicts {α : Type} (x : Except String α) : Prop :=
  ∃ msg, x = .error msg ∧ msg.endsWith "conflict" = true

namespace Db

variable (db : Db)

/-- The call answers for the recorded funding event if it is the same,
and conflicts otherwise. -/
def FundingReplays (e : FundingEvent) (q : ApplyFunding) : Prop :=
  (q.row = e → ∃ balance,
    db.enterpriseBalances (e.agentId, e.poolId) = some balance
      ∧ db.applyKizunaFundingEvent q = .ok (db, ⟨true, e, balance⟩))
    ∧ (q.row ≠ e → Conflicts (db.applyKizunaFundingEvent q))

/-- The same for a collateral event, answered by what it went to. -/
def CollateralReplays (e : CollateralEvent) (q : ApplyCollateral) : Prop :=
  (q.event = e → ∃ x reserve summary,
    x ∈ db.collateralPositions
      ∧ x.key = (e.agentId, e.poolId, e.collateralAccount, e.assetId)
      ∧ db.poolReserves e.poolId = some reserve
      ∧ db.applyKizunaCollateralEvent q = .ok (db, ⟨true, x, reserve, summary⟩))
    ∧ (q.event ≠ e → Conflicts (db.applyKizunaCollateralEvent q))

/-- `applyKizunaRepayment` as the statement it is, which cannot fail. -/
def repay (q : ApplyRepayment) : Except String (Db × RepaymentResult) :=
  .ok (db.applyKizunaRepayment q)

/-- The same for a repayment. -/
def RepaymentReplays (p q : ApplyRepayment) : Prop :=
  (q = p → ∃ r ∈ db.repayments, r.agentId = p.agentId
    ∧ r.referenceId = p.referenceId ∧ r.amountMicro = p.amountMicro
    ∧ db.repay q = .ok (db, ⟨r, true, db.outstandingIn p⟩))
    ∧ (q ≠ p → Conflicts (db.repay q))

end Db

/-- The keys the calls are looked up by. -/
def FundingEvent.key (e : FundingEvent) : String × String × String :=
  (e.agentId, e.poolId, e.referenceId)

def CollateralEvent.reference (e : CollateralEvent) : String × String :=
  (e.agentId, e.referenceId)

def Repayment.reference (r : Repayment) : String × String :=
  (r.agentId, r.referenceId)

def ApplyRepayment.reference (p : ApplyRepayment) : String × String :=
  (p.agentId, p.referenceId)

-- ==== persistence

/-- No balance, position or reserve that is there is gone. -/
structure Persists (db db' : Db) : Prop where
  balances : ∀ k, (db.enterpriseBalances k).isSome →
    (db'.enterpriseBalances k).isSome
  positions : ∀ k, k ∈ db.collateralPositions.map CollateralPosition.key →
    k ∈ db'.collateralPositions.map CollateralPosition.key
  reserves : ∀ k, (db.poolReserves k).isSome → (db'.poolReserves k).isSome

theorem Persists.refl (db : Db) : Persists db db :=
  ⟨fun _ => id, fun _ => id, fun _ => id⟩

theorem Persists.trans {a b c : Db} (h₁ : Persists a b)
    (h₂ : Persists b c) : Persists a c :=
  ⟨fun k h => h₂.balances k (h₁.balances k h),
    fun k h => h₂.positions k (h₁.positions k h),
    fun k h => h₂.reserves k (h₁.reserves k h)⟩

theorem isSome_put {K V : Type} [DecidableEq K] (f : K → Option V) (k j : K)
    (v : V) (h : (f j).isSome) : (update f k (some v) j).isSome := by
  by_cases hj : j = k
  · rw [hj, update_self]
    rfl
  · rw [update_of_ne hj]
    exact h

variable {db db' : Db}

theorem Persists.of_same
    (hbalances : db'.enterpriseBalances = db.enterpriseBalances)
    (hpositions : db'.collateralPositions = db.collateralPositions)
    (hreserves : db'.poolReserves = db.poolReserves) : Persists db db' := by
  refine ⟨?_, ?_, ?_⟩
  · rw [hbalances]
    exact fun _ => id
  · rw [hpositions]
    exact fun _ => id
  · rw [hreserves]
    exact fun _ => id

theorem bump_persists (db : Db) (poolId : String) (lane : Lane) (r o c : Int) :
    Persists db (db.bumpKizunaPoolReserve poolId lane r o c)
      ∧ ((db.bumpKizunaPoolReserve poolId lane r o c).poolReserves
        poolId).isSome := by
  refine ⟨⟨fun _ => id, fun _ => id, fun k h => isSome_put _ _ _ _ h⟩, ?_⟩
  show (update db.poolReserves poolId (some _) poolId).isSome
  rw [update_self]
  rfl

theorem mutate_persists {agentId poolId : String} {a r s : Int} {m n : Nat}
    (h : db.mutateKizunaEnterpriseBalance agentId poolId a r s m n = some db') :
    Persists db db' ∧ (db'.enterpriseBalances (agentId, poolId)).isSome := by
  unfold Db.mutateKizunaEnterpriseBalance at h
  dsimp only at h
  split at h
  · cases h
    refine ⟨⟨fun k h => isSome_put _ _ _ _ h, fun _ => id, fun _ => id⟩, ?_⟩
    show (update db.enterpriseBalances (agentId, poolId) (some _) _).isSome
    rw [update_self]
    rfl
  · cases h

theorem giveBack_persists {row : Reservation}
    (h : db.giveBack row = .ok db') : Persists db db' := by
  unfold Db.giveBack at h
  dsimp only at h
  split at h
  · exact (bump_persists ..).1.trans (mutate_persists (okOr_ok.mp h)).1
  · cases h
    exact (bump_persists ..).1

theorem release_persists {id : Nat} {status : ReleaseStatus} {u : Unit}
    (h : db.releaseKizunaReservation id status = .ok (db', u)) :
    Persists db db' := by
  unfold Db.releaseKizunaReservation at h
  split at h
  · cases h
    exact Persists.refl db
  · split at h
    · obtain ⟨db₁, hback, h⟩ := bind_ok.mp h
      cases h
      have hgiven := giveBack_persists hback
      exact ⟨hgiven.balances, hgiven.positions, hgiven.reserves⟩
    · cases h
      exact Persists.refl db

theorem create_persists {p : CreateReservation} {dbNow : Nat}
    {stored : Stored Reservation}
    (h : db.createKizunaReservation p dbNow = .ok (db', stored)) :
    Persists db db' := by
  iterate 3 obtain ⟨_, -, h⟩ := bind_ok.mp h
  have hrow : Persists db { db with
      reservations := db.reservations ++ [p.row dbNow] } :=
    .of_same rfl rfl rfl
  dsimp only at h
  split at h
  · obtain ⟨db₁, hmutate, h⟩ := bind_ok.mp h
    cases h
    exact (hrow.trans (bump_persists ..).1).trans
      (mutate_persists (okOr_ok.mp hmutate)).1
  · cases h
    exact hrow.trans (bump_persists ..).1

theorem fund_persists {row : Reservation} {d : Decision}
    {p : FinalizeSettlement} {debt : Option (Stored Debt)}
    (h : db.fundSettlement row d p = .ok (db', debt)) : Persists db db' := by
  unfold Db.fundSettlement at h
  split at h
  · obtain ⟨_, -, db₁, hmutate, h⟩ := bind_ok₂.mp h
    cases h
    exact (mutate_persists (okOr_ok.mp hmutate)).1
  · cases h
    have hupsert : ∀ row, Persists db (db.upsertDebt row).1 := by
      intro row
      obtain ⟨⟨debts, hdb⟩, -⟩ := db.upsertDebt_debts row
      rw [hdb]
      exact .of_same rfl rfl rfl
    exact hupsert _

theorem finalize_persists {p : FinalizeSettlement} {now : Nat}
    {v : FinalizeResult}
    (h : db.finalizeKizunaSettlement p now = .ok (db', v)) :
    Persists db db' := by
  obtain ⟨row, -, d, -, h⟩ := bind_ok₂.mp h
  iterate 3 obtain ⟨_, -, h⟩ := bind_ok.mp h
  dsimp only at h
  split at h
  · obtain ⟨_, -, h⟩ := bind_ok.mp h
    cases h
  · obtain ⟨⟨db₁, debt⟩, hfund, s, -, _, -, h⟩ := bind_ok₃.mp h
    cases h
    obtain ⟨events, he⟩ := Db.insertBillable_same _
    rw [he]
    have hfunded := fund_persists hfund
    refine Persists.trans ?_ (bump_persists ..).1
    exact ⟨hfunded.balances, hfunded.positions, hfunded.reserves⟩

theorem repay_persists (db : Db) (p : ApplyRepayment) :
    Persists db (db.applyKizunaRepayment p).1 := by
  have hfold : ∀ (xs : List ((Lane × String) × Nat)) (db₁ : Db),
      Persists db db₁ → Persists db (xs.foldl (fun db x =>
        db.bumpKizunaPoolReserve x.1.2 x.1.1 0 (-(x.2 : Int)) 0) db₁) := by
    intro xs
    induction xs with
    | nil => exact fun _ h => h
    | cons x rest ih =>
      intro db₁ h
      exact ih _ (h.trans (bump_persists ..).1)
  unfold Db.applyKizunaRepayment
  split
  · exact Persists.refl db
  · exact hfold _ _ (.of_same rfl rfl rfl)

theorem move_persists {p : ApplyCollateral} {x : CollateralPosition}
    (h : db.moveCollateral p = .ok (db', x)) :
    Persists db db'
      ∧ p.key ∈ db'.collateralPositions.map CollateralPosition.key := by
  have hset : ∀ {i : Nat} {old : CollateralPosition} (y : CollateralPosition),
      locate CollateralPosition.key db.collateralPositions p.key
        = some (i, old) → y.key = old.key →
      Persists db { db with
        collateralPositions := db.collateralPositions.set i y }
        ∧ p.key ∈ (db.collateralPositions.set i y).map
          CollateralPosition.key := by
    intro i old y hold hy
    obtain ⟨hi, hkey⟩ := locate_some hold
    have hkeys : (db.collateralPositions.set i y).map CollateralPosition.key
        = db.collateralPositions.map CollateralPosition.key := map_set hi hy
    refine ⟨⟨fun _ => id, ?_, fun _ => id⟩, ?_⟩
    · intro k hk
      show k ∈ (db.collateralPositions.set i y).map _
      rw [hkeys]
      exact hk
    · rw [hkeys, ← hkey]
      exact List.mem_map_of_mem (List.mem_of_getElem? hi)
  unfold Db.moveCollateral at h
  split at h
  · cases h
    refine ⟨⟨fun _ => id, ?_, fun _ => id⟩, ?_⟩
    · intro k hk
      show k ∈ (db.collateralPositions ++ [_]).map _
      rw [List.map_append]
      exact List.mem_append_left _ hk
    · show _ ∈ (db.collateralPositions ++ [_]).map _
      rw [List.map_append]
      exact List.mem_append_right _ (List.mem_singleton.mpr rfl)
  · next i old _ hold =>
      cases h
      exact hset _ hold rfl
  · next i old _ hold =>
      obtain ⟨_, -, h⟩ := bind_ok.mp h
      cases h
      exact hset _ hold rfl
  · cases h

-- ==== recording

/-- The three records of events are as they were. -/
structure SameRecords (db db' : Db) : Prop where
  fundingEvents : db'.fundingEvents = db.fundingEvents
  collateralEvents : db'.collateralEvents = db.collateralEvents
  repayments : db'.repayments = db.repayments

theorem SameRecords.refl (db : Db) : SameRecords db db := ⟨rfl, rfl, rfl⟩

/-- A committed funding event replays one, or is recorded under a new key
with its balance. -/
theorem funding_recorded {p : ApplyFunding} {v : FundingResult}
    (h : db.applyKizunaFundingEvent p = .ok (db', v)) :
    db' = db ∨ (∀ e ∈ db.fundingEvents, e.key ≠ p.row.key) ∧ p.amountMicro ≠ 0
      ∧ (db'.enterpriseBalances (p.agentId, p.poolId)).isSome
      ∧ Persists db db'
      ∧ db'.fundingEvents = db.fundingEvents ++ [p.row]
      ∧ db'.collateralEvents = db.collateralEvents
      ∧ db'.repayments = db.repayments := by
  obtain ⟨_, hamount, h⟩ := bind_ok.mp h
  split at h
  · obtain ⟨_, -, balance, -, h⟩ := bind_ok₂.mp h
    cases h
    exact .inl rfl
  · next hnew =>
      obtain ⟨db₁, hmutate, balance, -, h⟩ := bind_ok₂.mp h
      cases h
      have hmutate := okOr_ok.mp hmutate
      obtain ⟨hpersists, hbalance⟩ := mutate_persists hmutate
      obtain ⟨⟨balances, hdb₁⟩, -⟩ := Db.mutate_some hmutate
      refine .inr ⟨locate_none.mp hnew, require_ok.mp hamount, hbalance,
        ⟨hpersists.balances, hpersists.positions, hpersists.reserves⟩,
        ?_, ?_, ?_⟩
      · rw [hdb₁]
      · rw [hdb₁]
      · rw [hdb₁]

/-- A committed collateral event replays one, or is recorded under a new
key with its position and its reserve. -/
theorem collateral_recorded {p : ApplyCollateral} {v : CollateralResult}
    (h : db.applyKizunaCollateralEvent p = .ok (db', v)) :
    db' = db ∨ (∀ e ∈ db.collateralEvents, e.reference ≠ p.event.reference)
      ∧ p.key ∈ db'.collateralPositions.map CollateralPosition.key
      ∧ (db'.poolReserves p.poolId).isSome
      ∧ Persists db db'
      ∧ db'.fundingEvents = db.fundingEvents
      ∧ db'.collateralEvents = db.collateralEvents ++ [p.event]
      ∧ db'.repayments = db.repayments := by
  unfold Db.applyKizunaCollateralEvent at h
  split at h
  · obtain ⟨x, -, reserve, -, summary, -, h⟩ := bind_ok₃.mp h
    cases h
    exact .inl rfl
  · next hnew =>
      obtain ⟨asset, -, _, -, _, -, h⟩ := bind_ok₃.mp h
      obtain ⟨⟨db₁, x⟩, hmoved, reserve, -, h⟩ := bind_ok₂.mp h
      cases h
      obtain ⟨hpersists, hposition⟩ := move_persists hmoved
      obtain ⟨positions, hdb₁⟩ := Db.move_same hmoved
      have hbump := bump_persists { db₁ with
        collateralEvents := db₁.collateralEvents ++ [p.event] } p.poolId
        p.lane 0 0 (if p.eventType = .deposit then
          ((p.amountMicro * (10000 - asset.haircutBps) / 10000 : Nat) : Int)
          else -((p.amountMicro * (10000 - asset.haircutBps) / 10000 : Nat)
            : Int))
      refine .inr ⟨locate_none.mp hnew, hposition, hbump.2, ?_, ?_, ?_, ?_⟩
      · refine Persists.trans ?_ hbump.1
        exact ⟨hpersists.balances, hpersists.positions, hpersists.reserves⟩
      · show db₁.fundingEvents = _
        rw [hdb₁]
      · show db₁.collateralEvents ++ [p.event] = _
        rw [hdb₁]
      · show db₁.repayments = _
        rw [hdb₁]

/-- A repayment replays one, or is recorded under a new key. -/
theorem repay_recorded (db : Db) (p : ApplyRepayment) :
    ((db.applyKizunaRepayment p).1 = db
        ∧ ∃ r ∈ db.repayments, r.reference = p.reference)
      ∨ (∀ r ∈ db.repayments, r.reference ≠ p.reference)
        ∧ (db.applyKizunaRepayment p).1.fundingEvents = db.fundingEvents
        ∧ (db.applyKizunaRepayment p).1.collateralEvents = db.collateralEvents
        ∧ ∃ r, (db.applyKizunaRepayment p).1.repayments = db.repayments ++ [r]
          ∧ r.reference = p.reference ∧ r.amountMicro = p.amountMicro := by
  unfold Db.applyKizunaRepayment
  split
  · next i r hr =>
      exact .inl ⟨rfl, r, locate_mem hr, (locate_some hr).2⟩
  · next hnew =>
      dsimp only
      obtain ⟨reserves, h⟩ := Db.foldl_bump (fun x => x.1.2) (fun x => x.1.1)
        (fun x => -(x.2 : Int))
        (outstandingDeltas (repayDebts p 0 p.amountMicro db.debts).payments)
        { db with
          debts := (repayDebts p 0 p.amountMicro db.debts).debts
          repayments := db.repayments ++ [_] }
      rw [h]
      exact .inr ⟨locate_none.mp hnew, rfl, rfl, _, rfl, rfl, rfl⟩

-- ==== invariant

/-- References are recorded once, with what they went to, and the rows of
the repayments are those of the list. -/
structure Recorded (db : Db) (g : List ApplyRepayment) : Prop where
  funding_keys : (db.fundingEvents.map FundingEvent.key).Nodup
  funding : ∀ e ∈ db.fundingEvents, e.amountMicro ≠ 0
    ∧ (db.enterpriseBalances (e.agentId, e.poolId)).isSome
  collateral_keys : (db.collateralEvents.map CollateralEvent.reference).Nodup
  collateral : ∀ e ∈ db.collateralEvents,
    (e.agentId, e.poolId, e.collateralAccount, e.assetId)
        ∈ db.collateralPositions.map CollateralPosition.key
      ∧ (db.poolReserves e.poolId).isSome
  repayments : db.repayments.map (fun r => (r.reference, r.amountMicro))
    = g.map fun p => (p.reference, p.amountMicro)
  repayment_keys : (g.map ApplyRepayment.reference).Nodup

variable {g : List ApplyRepayment}

theorem Recorded.persist (h : Recorded db g) (hp : Persists db db') :
    (∀ e ∈ db.fundingEvents, e.amountMicro ≠ 0
        ∧ (db'.enterpriseBalances (e.agentId, e.poolId)).isSome)
      ∧ ∀ e ∈ db.collateralEvents,
        (e.agentId, e.poolId, e.collateralAccount, e.assetId)
            ∈ db'.collateralPositions.map CollateralPosition.key
          ∧ (db'.poolReserves e.poolId).isSome := by
  constructor
  · intro e he
    obtain ⟨hamount, hbalance⟩ := h.funding e he
    exact ⟨hamount, hp.balances _ hbalance⟩
  · intro e he
    obtain ⟨hposition, hreserve⟩ := h.collateral e he
    exact ⟨hp.positions _ hposition, hp.reserves _ hreserve⟩

theorem Recorded.aside (h : Recorded db g) (hp : Persists db db')
    (hs : SameRecords db db') : Recorded db' g := by
  obtain ⟨hfunding, hcollateral⟩ := h.persist hp
  refine ⟨?_, ?_, ?_, ?_, ?_, h.repayment_keys⟩
  · rw [hs.fundingEvents]
    exact h.funding_keys
  · rw [hs.fundingEvents]
    exact hfunding
  · rw [hs.collateralEvents]
    exact h.collateral_keys
  · rw [hs.collateralEvents]
    exact hcollateral
  · rw [hs.repayments]
    exact h.repayments

theorem Recorded.fund {p : ApplyFunding} {v : FundingResult} (h : Recorded db g)
    (hdone : db.applyKizunaFundingEvent p = .ok (db', v)) :
    Recorded db' g := by
  rcases funding_recorded hdone with rfl
    | ⟨hnew, hamount, hbalance, hp, hevents, hcollateral, hrepayments⟩
  · exact h
  · obtain ⟨hfunding', hcollateral'⟩ := h.persist hp
    refine ⟨?_, ?_, ?_, ?_, ?_, h.repayment_keys⟩
    · rw [hevents]
      exact nodup_append h.funding_keys hnew
    · rw [hevents]
      intro e he
      rcases List.mem_append.mp he with he | he
      · exact hfunding' e he
      · rw [List.mem_singleton.mp he]
        exact ⟨hamount, hbalance⟩
    · rw [hcollateral]
      exact h.collateral_keys
    · rw [hcollateral]
      exact hcollateral'
    · rw [hrepayments]
      exact h.repayments

theorem Recorded.move {p : ApplyCollateral} {v : CollateralResult}
    (h : Recorded db g)
    (hdone : db.applyKizunaCollateralEvent p = .ok (db', v)) :
    Recorded db' g := by
  rcases collateral_recorded hdone with rfl
    | ⟨hnew, hposition, hreserve, hp, hfunding, hevents, hrepayments⟩
  · exact h
  · obtain ⟨hfunding', hcollateral'⟩ := h.persist hp
    refine ⟨?_, ?_, ?_, ?_, ?_, h.repayment_keys⟩
    · rw [hfunding]
      exact h.funding_keys
    · rw [hfunding]
      exact hfunding'
    · rw [hevents]
      exact nodup_append h.collateral_keys hnew
    · rw [hevents]
      intro e he
      rcases List.mem_append.mp he with he | he
      · exact hcollateral' e he
      · rw [List.mem_singleton.mp he]
        exact ⟨hposition, hreserve⟩
    · rw [hrepayments]
      exact h.repayments

theorem Recorded.references (h : Recorded db g) :
    db.repayments.map Repayment.reference = g.map ApplyRepayment.reference := by
  have hfst := congrArg (List.map Prod.fst) h.repayments
  rw [List.map_map, List.map_map] at hfst
  exact hfst

theorem Recorded.repay {p : ApplyRepayment} (h : Recorded db g) :
    Recorded (db.applyKizunaRepayment p).1
      (if ∃ r ∈ db.repayments, r.reference = p.reference then g
        else g ++ [p]) := by
  rcases repay_recorded db p with ⟨hsame, hknown⟩
    | ⟨hnew, hfunding, hcollateral, r, hrows, hreference, hamount⟩
  · rw [if_pos hknown, hsame]
    exact h
  · rw [if_neg (fun ⟨r, hr, hkey⟩ => hnew r hr hkey)]
    obtain ⟨hfunding', hcollateral'⟩ := h.persist (repay_persists db p)
    refine ⟨?_, ?_, ?_, ?_, ?_, ?_⟩
    · rw [hfunding]
      exact h.funding_keys
    · rw [hfunding]
      exact hfunding'
    · rw [hcollateral]
      exact h.collateral_keys
    · rw [hcollateral]
      exact hcollateral'
    · rw [hrows, List.map_append, List.map_append, h.repayments,
        List.map_singleton, List.map_singleton, hreference, hamount]
    · refine nodup_append h.repayment_keys ?_
      intro q hq hkey
      have hmem : p.reference ∈ db.repayments.map Repayment.reference := by
        rw [h.references, ← hkey]
        exact List.mem_map_of_mem hq
      obtain ⟨r', hr', hkey'⟩ := List.mem_map.mp hmem
      exact hnew r' hr' hkey'

-- ==== service

/-- The repayments that were recorded. -/
def record (a : Action) (w : World) (g : List ApplyRepayment) :
    List ApplyRepayment :=
  match a with
  | .arrive _ _ => g
  | .resume i c =>
    match w.awaited i with
    | some (.applyKizunaRepayment p) =>
      if c.outcome = .fails then g
      else if ∃ r ∈ w.store.db.repayments, r.reference = p.reference
        then g
      else g ++ [p]
    | _ => g

theorem Recorded.booked {op : Op} (h : Recorded db g)
    (hop : ∀ p, op ≠ .applyKizunaRepayment p) (hb : Booked db db' op) :
    Recorded db' g := by
  cases hb with
  | aside decisions settlements guards sessions same grown merchants =>
    rw [same]
    exact h.aside (.of_same rfl rfl rfl) ⟨rfl, rfl, rfl⟩
  | settlement row same =>
    rw [same]
    exact h.aside (.of_same rfl rfl rfl) ⟨rfl, rfl, rfl⟩
  | reserve p sent now stored done =>
    refine h.aside (create_persists done) ?_
    obtain ⟨-, -, ⟨_, _, hdb⟩, -⟩ := Db.create_ok done
    rw [hdb]
    exact ⟨rfl, rfl, rfl⟩
  | release id status done =>
    refine h.aside (release_persists done) ?_
    rcases Db.release_ok done with hsame | ⟨row, -, -, ⟨_, _, hdb⟩, -⟩
    · rw [hsame]
      exact SameRecords.refl db
    · rw [hdb]
      exact ⟨rfl, rfl, rfl⟩
  | consume p now v done =>
    refine h.aside (finalize_persists done) ?_
    obtain ⟨row, d, -, -, -, -, ⟨_, _, _, _, hdb⟩, -, -⟩ :=
      Db.finalize_ok done
    rw [hdb]
    exact ⟨rfl, rfl, rfl⟩
  | repay p done => exact absurd rfl (hop p)
  | fund p v done => exact h.fund done
  | collateral p v done => exact h.move done

theorem commit_succeeded {α : Type} (c : Choice) (s : Store) (db : Db)
    (v : α) : (commit c s (.ok (db, v))).1.db
      = if c.outcome = .fails then s.db else db := by
  unfold commit
  split
  · next hc => rw [if_pos hc]
  · next heq _ => cases heq
  · next hc heq =>
      cases heq
      rw [if_neg (by rw [hc]; decide)]
  · next hc heq =>
      cases heq
      rw [if_neg (by rw [hc]; decide)]

theorem Recorded.next {env : Env} {a : Action} {w w' : World}
    (h : Recorded w.store.db g) (hstep : step env a w = .ok w') :
    Recorded w'.store.db (record a w g) := by
  rcases step_ok hstep with ⟨q, now, rfl, rfl⟩ | ⟨i, c, op, k, rfl, hi, hw'⟩
  · exact h
  · have hs := resume_store hi hw'
    have hawaited : w.awaited i = some op := by
      unfold Pool.awaited
      rw [hi]
      rfl
    rw [hs]
    unfold record
    dsimp only
    rw [hawaited]
    cases op with
    | applyKizunaRepayment p =>
      show Recorded (commit c w.store (.ok (w.store.db.applyKizunaRepayment
        p))).1.db _
      rw [commit_succeeded]
      dsimp only
      split
      · exact h
      · exact h.repay
    | _ =>
      refine h.booked ?_ (perform_booked _ c w.store)
      intro p hp
      cases hp

-- ==== conflicts

section Conflicts

variable {α β : Type} {msg : String}

theorem not_conflicts_ok (a : α) : ¬ Conflicts (.ok a) :=
  fun ⟨_, h, _⟩ => by cases h

theorem conflicts_bind {x : Except String α} {f : α → Except String β} :
    Conflicts (x >>= f) ↔ Conflicts x ∨ ∃ a, x = .ok a ∧ Conflicts (f a) := by
  cases x with
  | error e =>
    constructor
    · rintro ⟨_, h, hmsg⟩
      cases h
      exact .inl ⟨e, rfl, hmsg⟩
    · rintro (⟨_, h, hmsg⟩ | ⟨a, h, -⟩)
      · cases h
        exact ⟨e, rfl, hmsg⟩
      · cases h
  | ok a =>
    constructor
    · exact fun h => .inr ⟨a, rfl, h⟩
    · rintro (h | ⟨a', h, hf⟩)
      · exact absurd h (not_conflicts_ok a)
      · cases h
        exact hf

theorem conflicts_require {c : Prop} [Decidable c] :
    Conflicts (require c msg) ↔ ¬ c ∧ msg.endsWith "conflict" = true := by
  unfold require
  by_cases hc : c
  · rw [if_pos hc]
    simp [hc, not_conflicts_ok]
  · rw [if_neg hc]
    constructor
    · rintro ⟨_, h, hmsg⟩
      cases h
      exact ⟨hc, hmsg⟩
    · exact fun h => ⟨msg, rfl, h.2⟩

theorem not_conflicts_okOr {o : Option α}
    (hmsg : msg.endsWith "conflict" = false) : ¬ Conflicts (okOr o msg) := by
  rintro ⟨msg', h, hconflict⟩
  cases o with
  | some a => cases h
  | none =>
    cases h
    rw [hmsg] at hconflict
    cases hconflict

end Conflicts

-- ==== replays

/-- A funding event is recorded in the pool of the call that the call
differs from in type or amount. -/
def Db.Disagrees (db : Db) (q : ApplyFunding) : Prop :=
  q.amountMicro ≠ 0 ∧ ∃ e ∈ db.fundingEvents, e.key = q.row.key
    ∧ ¬ (e.eventType = q.eventType ∧ e.amountMicro = q.amountMicro)

/-- A call conflicts exactly with an event in its own pool that differs
from it in type or amount. -/
theorem funding_conflicts_iff (h : Recorded db g) {q : ApplyFunding} :
    Conflicts (db.applyKizunaFundingEvent q) ↔ db.Disagrees q := by
  unfold Db.applyKizunaFundingEvent Db.Disagrees
  rw [conflicts_bind, conflicts_require]
  constructor
  · rintro (⟨-, hmsg⟩ | ⟨_, hamount, hc⟩)
    · exact absurd hmsg (by decide +kernel)
    · refine ⟨require_ok.mp hamount, ?_⟩
      split at hc
      · next i e he =>
          obtain ⟨-, hkey⟩ := locate_some he
          refine ⟨e, locate_mem he, hkey, ?_⟩
          rw [conflicts_bind, conflicts_require] at hc
          rcases hc with hc | ⟨_, -, hc⟩
          · exact hc.1
          · rw [conflicts_bind] at hc
            rcases hc with hc | ⟨balance, -, hc⟩
            · exact absurd hc (not_conflicts_okOr (by decide +kernel))
            · exact absurd hc (not_conflicts_ok _)
      · rw [conflicts_bind] at hc
        rcases hc with hc | ⟨db', -, hc⟩
        · exact absurd hc (not_conflicts_okOr (by decide +kernel))
        · rw [conflicts_bind] at hc
          rcases hc with hc | ⟨balance, -, hc⟩
          · exact absurd hc (not_conflicts_okOr (by decide +kernel))
          · exact absurd hc (not_conflicts_ok _)
  · rintro ⟨hamount, e, he, hkey, hdiffers⟩
    refine .inr ⟨(), require_ok.mpr hamount, ?_⟩
    obtain ⟨i, hi⟩ := locate_of_nodup h.funding_keys he
    rw [hkey] at hi
    have hlocate : locate (fun e : FundingEvent =>
        (e.agentId, e.poolId, e.referenceId)) db.fundingEvents
        (q.agentId, q.poolId, q.referenceId) = some (i, e) := hi
    rw [hlocate]
    dsimp only
    rw [conflicts_bind, conflicts_require]
    exact .inl ⟨hdiffers, by decide +kernel⟩

theorem funding_replayed (h : Recorded db g) {e : FundingEvent}
    (he : e ∈ db.fundingEvents) {q : ApplyFunding} (hq : q.row = e) :
    ∃ balance, db.enterpriseBalances (e.agentId, e.poolId) = some balance
      ∧ db.applyKizunaFundingEvent q = .ok (db, ⟨true, e, balance⟩) := by
  subst hq
  obtain ⟨hamount, hbalance⟩ := h.funding _ he
  obtain ⟨balance, hbalance⟩ := Option.isSome_iff_exists.mp hbalance
  obtain ⟨i, hi⟩ := locate_of_nodup h.funding_keys he
  have hlocate : locate (fun e : FundingEvent =>
      (e.agentId, e.poolId, e.referenceId)) db.fundingEvents
      (q.agentId, q.poolId, q.referenceId) = some (i, q.row) := hi
  refine ⟨balance, hbalance, ?_⟩
  unfold Db.applyKizunaFundingEvent
  refine bind_ok.mpr ⟨(), require_ok.mpr hamount, ?_⟩
  rw [hlocate]
  refine bind_ok.mpr ⟨(), require_ok.mpr ⟨rfl, rfl⟩, ?_⟩
  exact bind_ok.mpr ⟨balance, okOr_ok.mpr hbalance, rfl⟩

theorem fundingReplays_iff (h : Recorded db g) {e : FundingEvent}
    (he : e ∈ db.fundingEvents) {q : ApplyFunding} :
    db.FundingReplays e q ↔ q.row = e ∨ db.Disagrees q := by
  constructor
  · intro hr
    by_cases hq : q.row = e
    · exact .inl hq
    · exact .inr ((funding_conflicts_iff h).mp (hr.2 hq))
  · rintro (hq | hq)
    · exact ⟨fun _ => funding_replayed h he hq, fun hne => absurd hq hne⟩
    · refine ⟨?_, fun _ => (funding_conflicts_iff h).mpr hq⟩
      intro hrow
      obtain ⟨-, e', he', hkey, hdiffers⟩ := hq
      have heq : e' = e := by
        refine List.inj_on_of_nodup_map h.funding_keys he' he ?_
        rw [hkey, hrow]
      subst heq
      rw [← hrow] at hdiffers
      exact absurd ⟨rfl, rfl⟩ hdiffers

variable {q : ApplyCollateral}

theorem collateral_not_conflicts (db : Db)
    {e : CollateralEvent} (he : e ∈ db.collateralEvents)
    (hkey : e.reference = q.event.reference) :
    ¬ Conflicts (db.applyKizunaCollateralEvent q) := by
  intro hc
  unfold Db.applyKizunaCollateralEvent at hc
  split at hc
  · rw [conflicts_bind] at hc
    rcases hc with hc | ⟨_, -, hc⟩
    · exact not_conflicts_okOr (by decide +kernel) hc
    · rw [conflicts_bind] at hc
      rcases hc with hc | ⟨_, -, hc⟩
      · exact not_conflicts_okOr (by decide +kernel) hc
      · rw [conflicts_bind] at hc
        rcases hc with hc | ⟨_, -, hc⟩
        · exact not_conflicts_okOr (by decide +kernel) hc
        · exact not_conflicts_ok _ hc
  · next hnew => exact locate_none.mp hnew e he hkey

/-- A recorded event is answered from the state as it is. -/
theorem collateral_again {db : Db} {reserve : PoolReserve}
    (hevent : q.event.reference
      ∈ db.collateralEvents.map CollateralEvent.reference)
    (hposition : q.key ∈ db.collateralPositions.map CollateralPosition.key)
    (hreserve : db.poolReserves q.poolId = some reserve) : ∃ x summary,
    x ∈ db.collateralPositions ∧ x.key = q.key
      ∧ db.getKizunaCollateralSummary q.agentId q.poolId = some summary
      ∧ db.applyKizunaCollateralEvent q
        = .ok (db, ⟨true, x, reserve, summary⟩) := by
  obtain ⟨⟨i, x⟩, hx⟩ := locate_of_mem hposition
  obtain ⟨e, he⟩ := locate_of_mem hevent
  have hlocate : locate (fun e : CollateralEvent =>
      (e.agentId, e.referenceId)) db.collateralEvents
      (q.agentId, q.referenceId) = some e := he
  obtain ⟨summary, hsummary⟩ : ∃ summary,
      db.getKizunaCollateralSummary q.agentId q.poolId = some summary := by
    unfold Db.getKizunaCollateralSummary
    rw [hreserve]
    exact ⟨_, rfl⟩
  refine ⟨x, summary, locate_mem hx, (locate_some hx).2, hsummary, ?_⟩
  unfold Db.applyKizunaCollateralEvent
  rw [hlocate]
  refine bind_ok.mpr ⟨(i, x), okOr_ok.mpr hx, ?_⟩
  refine bind_ok.mpr ⟨reserve, okOr_ok.mpr hreserve, ?_⟩
  exact bind_ok.mpr ⟨summary, okOr_ok.mpr hsummary, rfl⟩

theorem collateral_replayed (h : Recorded db g) {e : CollateralEvent}
    (he : e ∈ db.collateralEvents)
    (hq : q.event = e) : ∃ x reserve summary,
    x ∈ db.collateralPositions
      ∧ x.key = (e.agentId, e.poolId, e.collateralAccount, e.assetId)
      ∧ db.poolReserves e.poolId = some reserve
      ∧ db.applyKizunaCollateralEvent q
        = .ok (db, ⟨true, x, reserve, summary⟩) := by
  subst hq
  obtain ⟨hposition, hreserve⟩ := h.collateral _ he
  obtain ⟨reserve, hreserve⟩ := Option.isSome_iff_exists.mp hreserve
  obtain ⟨x, summary, hx, hkey, -, hagain⟩ := collateral_again
    (List.mem_map_of_mem he) hposition hreserve
  exact ⟨x, reserve, summary, hx, hkey, hreserve, hagain⟩

theorem collateralReplays_iff (h : Recorded db g) {e : CollateralEvent}
    (he : e ∈ db.collateralEvents)
    (hkey : e.reference = q.event.reference) :
    db.CollateralReplays e q ↔ q.event = e := by
  constructor
  · intro hr
    by_contra hq
    exact collateral_not_conflicts db he hkey (hr.2 hq)
  · intro hq
    exact ⟨fun _ => collateral_replayed h he hq, fun hne => absurd hq hne⟩

theorem repayment_replayed (h : Recorded db g) {p : ApplyRepayment}
    (hp : p ∈ g) : ∃ r ∈ db.repayments, r.agentId = p.agentId
      ∧ r.referenceId = p.referenceId ∧ r.amountMicro = p.amountMicro
      ∧ db.repay p = .ok (db, ⟨r, true, db.outstandingIn p⟩) := by
  have hmem : (p.reference, p.amountMicro)
      ∈ db.repayments.map fun r => (r.reference, r.amountMicro) := by
    rw [h.repayments]
    exact List.mem_map_of_mem hp
  obtain ⟨r, hr, heq⟩ := List.mem_map.mp hmem
  obtain ⟨hkey, hamount⟩ := Prod.mk.inj heq
  have hkeys : (db.repayments.map Repayment.reference).Nodup := by
    rw [h.references]
    exact h.repayment_keys
  obtain ⟨i, hi⟩ := locate_of_nodup hkeys hr
  rw [hkey] at hi
  have hlocate : locate (fun r : Repayment => (r.agentId, r.referenceId))
      db.repayments (p.agentId, p.referenceId) = some (i, r) := hi
  obtain ⟨hagent, hreference⟩ := Prod.mk.inj hkey
  refine ⟨r, hr, hagent, hreference, hamount, ?_⟩
  unfold Db.repay Db.applyKizunaRepayment
  rw [hlocate]

theorem repaymentReplays_iff (h : Recorded db g) {p q : ApplyRepayment}
    (hp : p ∈ g) : db.RepaymentReplays p q ↔ q = p := by
  constructor
  · intro hr
    by_contra hq
    exact not_conflicts_ok _ (hr.2 hq)
  · rintro rfl
    exact ⟨fun _ => repayment_replayed h hp, fun hne => absurd rfl hne⟩

theorem Genesis.recorded {w : World} (h : Genesis w) :
    Recorded w.store.db [] := by
  refine ⟨?_, ?_, ?_, ?_, ?_, List.nodup_nil⟩
  · rw [h.fundingEvents]
    exact List.nodup_nil
  · rw [h.fundingEvents]
    nofun
  · rw [h.collateralEvents]
    exact List.nodup_nil
  · rw [h.collateralEvents]
    nofun
  · rw [h.repayments]
    rfl

/-- In every state that is reached, a second call under a recorded
reference is right for a funding event exactly if it is the recorded one
or differs in type or amount from one in its own pool, and for a
collateral event and a repayment exactly if it is the recorded one. -/
theorem replay_iff {env : Env} {w₀ w : World} {tr : List Action}
    (h₀ : Genesis w₀)
    (hrun : run (tracked (step env) record) (w₀, []) tr = .ok (w, g)) :
    (∀ e ∈ w.store.db.fundingEvents, ∀ q : ApplyFunding,
        q.agentId = e.agentId → q.referenceId = e.referenceId →
        (w.store.db.FundingReplays e q ↔ q.row = e ∨ w.store.db.Disagrees q))
      ∧ (∀ e ∈ w.store.db.collateralEvents, ∀ q : ApplyCollateral,
        q.agentId = e.agentId → q.referenceId = e.referenceId →
        (w.store.db.CollateralReplays e q ↔ q.event = e))
      ∧ ∀ p ∈ g, ∀ q : ApplyRepayment,
        q.agentId = p.agentId → q.referenceId = p.referenceId →
        (w.store.db.RepaymentReplays p q ↔ q = p) := by
  have h : Recorded w.store.db g := by
    refine run_induct (I := fun x => Recorded x.1.store.db x.2) ?_
      h₀.recorded hrun
    intro a x y hx hstep
    obtain ⟨hs, hg⟩ := tracked_ok.mp hstep
    rw [hg]
    exact hx.next hs
  refine ⟨?_, ?_, ?_⟩
  · intro e he q _ _
    exact fundingReplays_iff h he
  · intro e he q hagent href
    refine collateralReplays_iff h he ?_
    show (e.agentId, e.referenceId) = (q.agentId, q.referenceId)
    rw [hagent, href]
  · intro p hp q _ _
    exact repaymentReplays_iff h hp

-- ==== examples

namespace Concrete

def deposit (amountMicro : Nat) (referenceId : String) : Action :=
  .arrive (.deposit {
    agentId := "agent"
    lane := some .cryptoFast
    poolId := none
    collateralAccount := "collateral"
    assetId := "usdc"
    referenceId := referenceId
    amountMicro := some amountMicro }) 1700000000000

/-- The balance is funded and collateral deposited. -/
def depositsRun : List Action :=
  [fund 5000000 "deposit"] ++ advance (well .enterprise 1000000) 0 3
    ++ [deposit 7 "top-up"] ++ advance (well .enterprise 1000000) 1 4

def funded : ApplyFunding :=
  ⟨"agent", .enterprise, "enterprise-main", "deposit", .deposit, 5000000⟩

def toppedUp : ApplyCollateral :=
  ⟨"agent", .cryptoFast, "fastpath-main", "collateral", "usdc", 7, .deposit,
    "top-up"⟩

/-- The same calls in another lane, and for another amount. -/
def otherLane : ApplyFunding := { funded with lane := .cryptoFast }

def otherAmount : ApplyCollateral := { toppedUp with amountMicro := 8 }

/-- Both events are recorded, and both calls answered. -/
def answered (x : World × List ApplyRepayment) : Bool :=
  decide (funded.row ∈ x.1.store.db.fundingEvents)
    && decide (toppedUp.event ∈ x.1.store.db.collateralEvents)
    && (x.1.store.db.applyKizunaFundingEvent otherLane).isOk
    && (x.1.store.db.applyKizunaCollateralEvent otherAmount).isOk

theorem deposits_answered : ∃ x,
    run (tracked (step env) record) (start, []) depositsRun = .ok x
      ∧ funded.row ∈ x.1.store.db.fundingEvents
      ∧ toppedUp.event ∈ x.1.store.db.collateralEvents
      ∧ ¬ Conflicts (x.1.store.db.applyKizunaFundingEvent otherLane)
      ∧ ¬ Conflicts (x.1.store.db.applyKizunaCollateralEvent otherAmount) := by
  have hok : ∀ {α : Type} {y : Except String α}, y.isOk = true →
      ¬ Conflicts y := by
    intro α y hy
    cases y with
    | error e => cases hy
    | ok a => exact not_conflicts_ok a
  obtain ⟨x, hrun, hx⟩ := check_ok
    (show Exec.check answered (run (tracked (step env) record) (start, [])
      depositsRun) = true by decide)
  simp only [answered, Bool.and_eq_true, decide_eq_true_eq] at hx
  obtain ⟨⟨⟨hfunded, htopped⟩, hlane⟩, hamount⟩ := hx
  exact ⟨x, hrun, hfunded, htopped, hok hlane, hok hamount⟩

theorem references_unchecked : ∃ x, Genesis start
    ∧ run (tracked (step env) record) (start, []) depositsRun = .ok x
    ∧ (∃ e ∈ x.1.store.db.fundingEvents, otherLane.agentId = e.agentId
      ∧ otherLane.referenceId = e.referenceId
      ∧ ¬ x.1.store.db.FundingReplays e otherLane)
    ∧ ∃ e ∈ x.1.store.db.collateralEvents, otherAmount.agentId = e.agentId
      ∧ otherAmount.referenceId = e.referenceId
      ∧ ¬ x.1.store.db.CollateralReplays e otherAmount := by
  obtain ⟨x, hrun, hfunded, htopped, hlane, hamount⟩ := deposits_answered
  refine ⟨x, start_genesis, hrun, ⟨_, hfunded, rfl, rfl, ?_⟩,
    _, htopped, rfl, rfl, ?_⟩
  · intro h
    exact hlane (h.2 (by decide))
  · intro h
    exact hamount (h.2 (by decide))

theorem replay_iff_deposits : ∃ x,
    run (tracked (step env) record) (start, []) depositsRun = .ok x
      ∧ (∀ e ∈ x.1.store.db.fundingEvents, ∀ q : ApplyFunding,
        q.agentId = e.agentId → q.referenceId = e.referenceId →
        (x.1.store.db.FundingReplays e q
          ↔ q.row = e ∨ x.1.store.db.Disagrees q))
      ∧ (∀ e ∈ x.1.store.db.collateralEvents, ∀ q : ApplyCollateral,
        q.agentId = e.agentId → q.referenceId = e.referenceId →
        (x.1.store.db.CollateralReplays e q ↔ q.event = e))
      ∧ ∀ p ∈ x.2, ∀ q : ApplyRepayment,
        q.agentId = p.agentId → q.referenceId = p.referenceId →
        (x.1.store.db.RepaymentReplays p q ↔ q = p) := by
  obtain ⟨x, hrun, -⟩ := deposits_answered
  exact ⟨x, hrun, replay_iff start_genesis hrun⟩

end Concrete

end KamiyoProtocol.Facilitator
