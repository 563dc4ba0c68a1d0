/-
The prefunded balances.

Each transaction moves one balance and rows of one key by the same
amounts, so the three columns stay what the reservations and the record
of funding events say they are, after every order of commits and aborts.
-/
import KamiyoProtocol.Facilitator.Duties
import KamiyoProtocol.Facilitator.Concrete

namespace KamiyoProtocol.Facilitator

open Exec Await Keyed

-- ==== sums

/-- What a reservation holds of its agent's balance: its lock while it is
reserved. One consumed outside the enterprise lane holds it for good. -/
def Reservation.heldMicro (r : Reservation) : Nat :=
  if r.fundingMode = .prefunded ∧ (r.status = .reserved
      ∨ r.status = .consumed ∧ r.lane ≠ .enterprise) then r.lockedMicro
  else 0

/-- What a reservation has spent of it. -/
def Reservation.spentMicro (r : Reservation) : Nat :=
  if r.isPrefundedEnterprise ∧ r.status = .consumed then r.lockedMicro else 0

/-- A row's figure under the key of a balance. -/
def Reservation.at (f : Reservation → Nat) (key : String × String)
    (r : Reservation) : Nat :=
  if (r.agentId, r.poolId) = key then f r else 0

def FundingEvent.at (key : String × String) (e : FundingEvent) : Int :=
  if (e.agentId, e.poolId) = key then e.delta else 0

namespace Db

variable (db : Db)

/-- A figure added up over the reservations of a balance. -/
def reservedSum (f : Reservation → Nat) (key : String × String) : Nat :=
  (db.reservations.map (Reservation.at f key)).sum

/-- The recorded deposits less the recorded withdrawals. -/
def fundedMicro (key : String × String) : Int :=
  (db.fundingEvents.map (FundingEvent.at key)).sum

end Db

variable {f : Reservation → Nat} {key : String × String} {db db' base : Db}

theorem reservedSum_append {row : Reservation}
    (h : db'.reservations = db.reservations ++ [row]) :
    db'.reservedSum f key = db.reservedSum f key + row.at f key := by
  unfold Db.reservedSum
  rw [h]
  exact sum_append_single _ _ _

theorem reservedSum_set {i : Nat} {row row' : Reservation}
    (hi : db.reservations[i]? = some row)
    (h : db'.reservations = db.reservations.set i row') :
    db'.reservedSum f key + row.at f key
      = db.reservedSum f key + row'.at f key := by
  unfold Db.reservedSum
  rw [h]
  exact sum_set _ hi row'

theorem reservedSum_same (h : db'.reservations = db.reservations) :
    db'.reservedSum f key = db.reservedSum f key := by
  unfold Db.reservedSum
  rw [h]

theorem le_reservedSum {i : Nat} {row : Reservation}
    (hi : db.reservations[i]? = some row) :
    f row ≤ db.reservedSum f (row.agentId, row.poolId) := by
  have hle := le_sum (Reservation.at f (row.agentId, row.poolId)) hi
  unfold Reservation.at at hle
  rw [if_pos rfl] at hle
  exact hle

theorem fundedMicro_append {e : FundingEvent}
    (h : db'.fundingEvents = db.fundingEvents ++ [e]) :
    db'.fundedMicro key = db.fundedMicro key + e.at key := by
  unfold Db.fundedMicro
  rw [h]
  simp

theorem fundedMicro_same (h : db'.fundingEvents = db.fundingEvents) :
    db'.fundedMicro key = db.fundedMicro key := by
  unfold Db.fundedMicro
  rw [h]

-- ==== accounting

/-- The balance under `key` is the one in `base` and what reservations
and funding events have made of it since. -/
structure Accounted (base db : Db) (key : String × String) : Prop where
  reserved : (db.balance key).reservedMicro
    = (base.balance key).reservedMicro
      + db.reservedSum Reservation.heldMicro key
  spent : (db.balance key).spentMicro
    = (base.balance key).spentMicro + db.reservedSum Reservation.spentMicro key
  total : ((db.balance key).availableMicro : Int)
      + (db.balance key).reservedMicro + (db.balance key).spentMicro
    = (base.balance key).availableMicro + (base.balance key).reservedMicro
      + (base.balance key).spentMicro + db.fundedMicro key

/-- Rows and events that follow a balance's move keep it accounted. -/
theorem Accounted.move {k : String × String} {a r s : Int}
    (h : Accounted base db key) (hmove : Db.BalanceMove db db' k a r s)
    (hheld : (db'.reservedSum Reservation.heldMicro key : Int)
      = db.reservedSum Reservation.heldMicro key + if k = key then r else 0)
    (hspent : (db'.reservedSum Reservation.spentMicro key : Int)
      = db.reservedSum Reservation.spentMicro key + if k = key then s else 0)
    (hfunded : db'.fundedMicro key
      = db.fundedMicro key + if k = key then a + r + s else 0) :
    Accounted base db' key := by
  obtain ⟨hr, hs, ht⟩ := h
  by_cases hk : k = key
  · subst hk
    rw [if_pos rfl] at hheld hspent hfunded
    obtain ⟨ha', hr', hs', -⟩ := hmove
    refine ⟨?_, ?_, ?_⟩
    · omega
    · omega
    · omega
  · rw [if_neg hk] at hheld hspent hfunded
    have hsame := hmove.ne key (Ne.symm hk)
    refine ⟨?_, ?_, ?_⟩
    · rw [hsame]
      omega
    · rw [hsame]
      omega
    · rw [hsame]
      omega

/-- A transaction that touches neither balances nor reservations nor
funding events. -/
theorem Accounted.same (h : Accounted base db key)
    (hbalances : db'.enterpriseBalances = db.enterpriseBalances)
    (hreservations : db'.reservations = db.reservations)
    (hevents : db'.fundingEvents = db.fundingEvents) :
    Accounted base db' key := by
  apply h.move (Db.BalanceMove.rfl key hbalances)
  · rw [reservedSum_same hreservations]
    simp
  · rw [reservedSum_same hreservations]
    simp
  · rw [fundedMicro_same hevents]
    simp

/-- A change of one reservation along with its balance. -/
theorem Accounted.set {id : Nat} {row row' : Reservation} {a r s : Int}
    (h : Accounted base db key)
    (hrow : db.reservations[id]? = some row)
    (hset : db'.reservations = db.reservations.set id row')
    (hkey : (row'.agentId, row'.poolId) = (row.agentId, row.poolId))
    (hevents : db'.fundingEvents = db.fundingEvents)
    (hmove : Db.BalanceMove db db' (row.agentId, row.poolId) a r s)
    (hheld : (row'.heldMicro : Int) = row.heldMicro + r)
    (hspent : (row'.spentMicro : Int) = row.spentMicro + s)
    (htotal : a + r + s = 0) : Accounted base db' key := by
  have hsum : ∀ f, (db'.reservedSum f key : Int)
      = db.reservedSum f key + if (row.agentId, row.poolId) = key
        then (f row' : Int) - f row else 0 := by
    intro f
    have heq : db'.reservedSum f key + row.at f key
        = db.reservedSum f key + row'.at f key := reservedSum_set hrow hset
    unfold Reservation.at at heq
    rw [hkey] at heq
    by_cases hk : (row.agentId, row.poolId) = key
    · rw [if_pos hk, if_pos hk] at heq
      rw [if_pos hk]
      omega
    · rw [if_neg hk, if_neg hk] at heq
      rw [if_neg hk]
      omega
  apply h.move hmove
  · rw [hsum, hheld]
    congr 2
    omega
  · rw [hsum, hspent]
    congr 2
    omega
  · rw [fundedMicro_same hevents, htotal]
    simp

theorem Booked.accounted {op : Op} (hbooked : Booked db db' op)
    (h : Accounted base db key) : Accounted base db' key := by
  cases hbooked with
  | aside decisions settlements guards sessions same grown merchants =>
    subst same
    exact h.same rfl rfl rfl
  | settlement row same =>
    subst same
    exact h.same rfl rfl rfl
  | reserve p sent now stored done =>
    obtain ⟨-, -, ⟨reserves, balances, hdb⟩, hmove⟩ := Db.create_ok done
    have happend : db'.reservations = db.reservations ++ [p.row now] := by
      rw [hdb]
    have hat : ∀ f, (p.row now).at f key
        = if (p.agentId, p.poolId) = key then f (p.row now) else 0 :=
      fun f => rfl
    have hheld : (p.row now).heldMicro
        = if p.mode = .prefunded then p.lockedMicro else 0 := by
      simp [Reservation.heldMicro, CreateReservation.row]
    have hspent : (p.row now).spentMicro = 0 := by
      simp [Reservation.spentMicro, CreateReservation.row]
    apply h.move hmove
    · rw [reservedSum_append happend, hat, hheld]
      push_cast
      rfl
    · rw [reservedSum_append happend, hat, hspent]
      simp
    · have hevents : db'.fundingEvents = db.fundingEvents := by rw [hdb]
      rw [fundedMicro_same hevents]
      by_cases hmode : p.mode = .prefunded
      · simp [hmode]
      · simp [hmode]
  | release id status done =>
    rcases Db.release_ok done with
      hsame | ⟨row, hrow, hstatus, ⟨reserves, balances, hdb⟩, hmove⟩
    · rw [hsame]
      exact h
    · have hended : status.toReservation ≠ .reserved
          ∧ status.toReservation ≠ .consumed := by
        cases status with
        | released => exact ⟨by decide, by decide⟩
        | expired => exact ⟨by decide, by decide⟩
      have hset : db'.reservations = db.reservations.set id
          { row with status := status.toReservation } := by rw [hdb]
      have hevents : db'.fundingEvents = db.fundingEvents := by rw [hdb]
      refine h.set hrow hset rfl hevents hmove ?_ ?_ ?_
      · by_cases hmode : row.fundingMode = .prefunded
        · simp [Reservation.heldMicro, hmode, hstatus, hended]
        · simp [Reservation.heldMicro, hmode]
      · simp [Reservation.spentMicro, hstatus, hended]
      · by_cases hmode : row.fundingMode = .prefunded
        · simp [hmode]
        · simp [hmode]
  | consume p now v done =>
    obtain ⟨row, d, hrow, -, hstatus, -, ⟨_, _, _, _, hdb⟩, -, hmove⟩ :=
      Db.finalize_ok done
    have hset : db'.reservations
        = db.reservations.set p.reservationId (Db.consumed row p) := by
      rw [hdb]
    have hevents : db'.fundingEvents = db.fundingEvents := by rw [hdb]
    refine h.set hrow hset rfl hevents hmove ?_ ?_ ?_
    · by_cases hprefunded : row.isPrefundedEnterprise
      · have hlane := hprefunded.1
        have hmode := hprefunded.2
        simp [Reservation.heldMicro, Db.consumed, hprefunded, hlane, hmode,
          hstatus]
      · have hlane : row.fundingMode = .prefunded →
            row.lane ≠ .enterprise := fun hmode hlane =>
          hprefunded ⟨hlane, hmode⟩
        by_cases hmode : row.fundingMode = .prefunded
        · simp [Reservation.heldMicro, Db.consumed, hprefunded, hmode,
            hstatus, hlane hmode]
        · simp [Reservation.heldMicro, Db.consumed, hprefunded, hmode]
    · have hkept : (Db.consumed row p).isPrefundedEnterprise
          ↔ row.isPrefundedEnterprise := Iff.rfl
      by_cases hprefunded : row.isPrefundedEnterprise
      · have hspent : (Db.consumed row p).spentMicro = row.lockedMicro :=
          if_pos ⟨hkept.mpr hprefunded, rfl⟩
        rw [hspent]
        simp [Reservation.spentMicro, hprefunded, hstatus]
      · simp [Reservation.spentMicro, hkept, hprefunded]
    · by_cases hprefunded : row.isPrefundedEnterprise
      · simp [hprefunded]
      · simp [hprefunded]
  | repay p done =>
    obtain ⟨_, _, _, hdb, -⟩ := db.repay_eq p
    rw [hdb] at done
    subst done
    exact h.same rfl rfl rfl
  | fund p v done =>
    rcases Db.fund_booked done with hsame | ⟨⟨_, hdb⟩, hmove⟩
    · rw [hsame]
      exact h
    · apply h.move hmove
      · have hsame : db'.reservations = db.reservations := by rw [hdb]
        rw [reservedSum_same hsame]
        simp
      · have hsame : db'.reservations = db.reservations := by rw [hdb]
        rw [reservedSum_same hsame]
        simp
      · have hevents : db'.fundingEvents = db.fundingEvents ++ [p.row] := by
          rw [hdb]
        rw [fundedMicro_append hevents, add_zero, add_zero]
        rfl
  | collateral p v done =>
    rcases Db.collateral_ok done with hsame | ⟨_, _, _, _, -, hdb⟩
    · rw [hsame]
      exact h
    · subst hdb
      exact h.same rfl rfl rfl

/-- In every run from a start without reservations and events, every
balance stays accounted. -/
theorem run_accounted {env : Env} {w₀ w : World} {tr : List Action}
    (h₀ : Genesis w₀) (hrun : run (step env) w₀ tr = .ok w) :
    ∀ key, Accounted w₀.store.db w.store.db key := by
  intro key
  have hstart : Accounted w₀.store.db w₀.store.db key := by
    have hsum : ∀ f, w₀.store.db.reservedSum f key = 0 := by
      intro f
      unfold Db.reservedSum
      rw [h₀.reservations]
      rfl
    have hfunded : w₀.store.db.fundedMicro key = 0 := by
      unfold Db.fundedMicro
      rw [h₀.fundingEvents]
      rfl
    refine ⟨?_, ?_, ?_⟩
    · rw [hsum]
      rfl
    · rw [hsum]
      rfl
    · rw [hfunded]
      omega
  refine run_induct (I := fun w => Accounted w₀.store.db w.store.db key)
    ?_ hstart hrun
  intro a w w' h hstep
  rcases step_ok hstep with
    ⟨q, now, -, rfl⟩ | ⟨i, c, op, k, -, hi, hy⟩
  · exact h
  · obtain ⟨op', k', -, hs, -⟩ := resume_some.mp hy
    rw [hs]
    exact (perform_booked op' c w.store).accounted h

-- ==== the lane

/-- What an operation asks the kernel. -/
def Op.kernelInput : Op → Option KernelEvaluateInput
  | .evaluateKizunaKernelDecision input => some input
  | _ => none

/-- The kernel answers in the lane and the pool it is asked for. -/
def Choice.Echoes (c : Choice) (op : Op) : Prop :=
  ∀ input ∈ op.kernelInput,
    c.kernel.lane = input.lane ∧ c.kernel.poolId = input.poolId

/-- A step at which the kernel does so, if it is asked. -/
def Echoes (a : Action) (w : World) : Prop :=
  match a with
  | .arrive _ _ => True
  | .resume i c => ∀ op ∈ w.awaited i, c.Echoes op

instance : ∀ a w, Decidable (Echoes a w)
  | .arrive _ _, _ => isTrue trivial
  | .resume i c, w => inferInstanceAs (Decidable
      (∀ op ∈ w.awaited i, ∀ input ∈ op.kernelInput,
        c.kernel.lane = input.lane ∧ c.kernel.poolId = input.poolId))

variable {env : Env}

theorem fundingMode_prefunded {q : VerifyRequest}
    (h : fundingMode env q = .prefunded) : q.kizuna.lane = .enterprise := by
  unfold fundingMode at h
  by_cases hrequired : requiresPrefund env q = true
  · unfold requiresPrefund at hrequired
    simp only [Bool.and_eq_true, decide_eq_true_eq] at hrequired
    exact hrequired.1
  · rw [if_neg hrequired] at h
    split at h
    · cases h
    · cases h

/-- Where the kernel echoes, every prefunded reservation is one of the
enterprise lane. -/
theorem run_prefundedEnterprise {w₀ w : World} {tr : List Action}
    (h₀ : Genesis w₀) (hm : Meets (step env) Echoes w₀ tr)
    (hrun : run (step env) w₀ tr = .ok w) :
    w.store.db.AllRows fun r =>
      r.fundingMode = .prefunded → r.lane = .enterprise := by
  refine run_allRows (fun op c => c.Echoes op) Echoes ?_ ?_ ?_ h₀ hm hrun
  · exact fun i c w op hop hcond => hcond op hop
  · exact fun r _ _ _ h => h
  · apply rowDuty_safe
    · intro q a f account mandate collateral c id now hc hmode
      have hlane : c.kernel.lane = q.kizuna.lane := (hc _ rfl).1
      show c.kernel.lane = .enterprise
      rw [hlane]
      exact fundingMode_prefunded hmode
    · exact fun p hp now hmode => (hp hmode).1

-- ==== conservation

/-- A key's balance agrees with its reservations and funding events. -/
structure PrefundConserved (db : Db) (key : String × String) : Prop where
  /-- Nothing is lost or made: deposits less withdrawals. -/
  total : ((db.balance key).availableMicro : Int)
      + (db.balance key).reservedMicro + (db.balance key).spentMicro
    = db.fundedMicro key
  /-- Locked is what `reserved` prefunded reservations lock. -/
  reserved : (db.balance key).reservedMicro
    = db.reservedSum (fun r => if r.fundingMode = .prefunded
        ∧ r.status = .reserved then r.lockedMicro else 0) key
  /-- Spent is what `consumed` ones locked. -/
  spent : (db.balance key).spentMicro
    = db.reservedSum (fun r => if r.fundingMode = .prefunded
        ∧ r.status = .consumed then r.lockedMicro else 0) key

theorem reservedSum_congr {g : Reservation → Nat}
    (h : ∀ r ∈ db.reservations, f r = g r) :
    db.reservedSum f key = db.reservedSum g key := by
  unfold Db.reservedSum
  congr 1
  apply List.map_congr_left
  intro r hr
  unfold Reservation.at
  rw [h r hr]

/-- From empty balances on, no prefund is lost, spent twice or withdrawn
while it is locked. -/
theorem prefund_conserved {w₀ w : World} {tr : List Action}
    (h₀ : Genesis w₀) (hempty : ∀ key, w₀.store.db.balance key = ⟨0, 0, 0⟩)
    (hm : Meets (step env) Echoes w₀ tr)
    (hrun : run (step env) w₀ tr = .ok w) (key : String × String) :
    PrefundConserved w.store.db key := by
  have hacc := run_accounted h₀ hrun key
  have hrows := run_prefundedEnterprise h₀ hm hrun
  have hheld : w.store.db.reservedSum Reservation.heldMicro key
      = w.store.db.reservedSum (fun r => if r.fundingMode = .prefunded
        ∧ r.status = .reserved then r.lockedMicro else 0) key := by
    apply reservedSum_congr
    intro r hr
    unfold Reservation.heldMicro
    by_cases hmode : r.fundingMode = .prefunded
    · simp [hmode, hrows r hr hmode]
    · simp [hmode]
  have hspent : w.store.db.reservedSum Reservation.spentMicro key
      = w.store.db.reservedSum (fun r => if r.fundingMode = .prefunded
        ∧ r.status = .consumed then r.lockedMicro else 0) key := by
    apply reservedSum_congr
    intro r hr
    unfold Reservation.spentMicro Reservation.isPrefundedEnterprise
    by_cases hmode : r.fundingMode = .prefunded
    · simp [hmode, hrows r hr hmode]
    · simp [hmode]
  obtain ⟨hr, hs, ht⟩ := hacc
  rw [hempty, hheld] at hr
  rw [hempty, hspent] at hs
  rw [hempty] at ht
  dsimp only at hr hs ht
  refine ⟨?_, ?_, ?_⟩
  · omega
  · omega
  · omega

/-- A deposit, a reservation and its settlement, from empty balances. -/
theorem prefund_conserved_settled :
    ∃ w, run (step Concrete.env) Concrete.unfunded Concrete.prefundedRun = .ok w
      ∧ w.store.db.balance Concrete.key = ⟨4000000, 0, 1000000⟩
      ∧ PrefundConserved w.store.db Concrete.key := by
  obtain ⟨w, hrun, hbalance⟩ := check_ok (show Exec.check (fun w : World =>
      decide (w.store.db.balance Concrete.key = ⟨4000000, 0, 1000000⟩))
      (run (step Concrete.env) Concrete.unfunded Concrete.prefundedRun) = true
    by decide)
  have hm : Meets (step Concrete.env) Echoes Concrete.unfunded
      Concrete.prefundedRun := by
    apply meets_of_check fun a w h => of_decide_eq_true (p := Echoes a w) h
    decide
  exact ⟨w, hrun, of_decide_eq_true hbalance,
    prefund_conserved Concrete.unfunded_genesis (fun _ => rfl) hm hrun _⟩

end KamiyoProtocol.Facilitator
