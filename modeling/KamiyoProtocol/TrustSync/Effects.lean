/-
What the statements of the outbox do to its rows, and an action of a flush
to a state.

`Effect` says for every action what it did; the invariants are derived
from it.
-/
import KamiyoProtocol.TrustSync.Outbox

namespace KamiyoProtocol.TrustSync

open Exec

-- ==== rows

section Rows

variable {rows : List OutboxRow} {pass : Entry → Bool} {limit : Nat}
  {ids : List Nat} {g : OutboxRow → OutboxRow}

@[simp] theorem update_getElem? (i : Nat) :
    (update ids g rows)[i]?
      = rows[i]?.map fun r => if i ∈ ids then g r else r := by
  simp [update]

@[simp] theorem mem_entries {x : Entry} :
    x ∈ entries rows ↔ rows[x.1]? = some x.2 := by
  obtain ⟨i, r⟩ := x
  simp only [entries, List.mem_mapIdx, Prod.mk.injEq]
  constructor
  · rintro ⟨j, hj, rfl, rfl⟩
    exact List.getElem?_eq_getElem hj
  · intro h
    obtain ⟨hi, hr⟩ := List.getElem?_eq_some_iff.mp h
    exact ⟨i, hi, rfl, hr⟩

theorem entries_ids : (entries rows).map Prod.fst = List.range rows.length := by
  unfold entries
  rw [List.mapIdx_eq_zipIdx_map, List.map_map, List.range_eq_range']
  exact List.zipIdx_map_snd 0 rows

theorem mem_select {x : Entry} (h : x ∈ select pass limit rows) :
    rows[x.1]? = some x.2 ∧ pass x = true := by
  have hsorted := List.mem_of_mem_take h
  rw [List.mem_insertionSort, List.mem_filter, mem_entries] at hsorted
  exact hsorted

theorem select_nodup : ((select pass limit rows).map Prod.fst).Nodup := by
  have hids : ((entries rows).map Prod.fst).Nodup := by
    rw [entries_ids]
    exact List.nodup_range
  have hfilter : (((entries rows).filter pass).map Prod.fst).Nodup :=
    hids.sublist (List.filter_sublist.map _)
  have hsorted := ((List.perm_insertionSort Entry.before
    ((entries rows).filter pass)).map Prod.fst).nodup_iff.mpr hfilter
  exact hsorted.sublist ((List.take_sublist _ _).map _)

theorem select_ne_nil {x : Entry} (hrow : rows[x.1]? = some x.2)
    (hpass : pass x = true) (hlimit : 0 < limit) :
    select pass limit rows ≠ [] := by
  have hmem : x ∈ ((entries rows).filter pass).insertionSort Entry.before := by
    rw [List.mem_insertionSort, List.mem_filter, mem_entries]
    exact ⟨hrow, hpass⟩
  intro hnil
  rcases List.take_eq_nil_iff.mp hnil with hzero | hempty
  · omega
  · rw [hempty] at hmem
    cases hmem

@[simp] theorem update_length : (update ids g rows).length = rows.length := by
  simp [update]

theorem update_nil : update [] g rows = rows := by
  apply List.ext_getElem?
  simp

end Rows

theorem due_mono {r : OutboxRow} {now t : Nat} (h : r.Due now)
    (hle : now ≤ t) : r.Due t := by
  obtain ⟨hopen, hnext, hlease⟩ := h
  exact ⟨hopen, le_trans hnext hle, fun u hu => le_trans (hlease u hu) hle⟩

theorem mem_leaseTarget {limit now : Nat} {skipped : List Nat}
    {rows : List OutboxRow} {x : Entry}
    (h : x ∈ leaseTarget limit now skipped rows) :
    rows[x.1]? = some x.2 ∧ x.2.Due now ∧ x.1 ∉ skipped := by
  obtain ⟨hrow, hpass⟩ := mem_select h
  exact ⟨hrow, by simpa using hpass⟩

-- ==== effects

variable {cfg : Config} {w w' : World} {a : Action}

/-- The stage a flush goes to when its batch is not delivered, or was and
it does not know. -/
def after (f : Flush) : Outcome → Stage
  | .done => .ended
  | .lost | .failed => .failing f.ids

/-- An action that clears no lease of an undelivered event. -/
def Action.quiet : Action → Bool
  | .requeue _ _ => false
  | .fail _ _ _ outcome => outcome = .failed
  | _ => true

/-- What an accepted action did. -/
inductive Effect (cfg : Config) (w : World) : Action → World → Prop where
  | queued (key : String) : Effect cfg w (.queue key)
      { w with rows := queueFairscaleTrustEventOutbox key w.clock w.rows }
  | leased (skipped : List Nat) (f : Flush)
      (hids : f.ids = (leaseTarget cfg.batchSize w.clock skipped w.rows).map
        Prod.fst)
      (hbatch : ∀ x ∈ f.batch,
        x.2.leasedUntil = some (w.clock + max 1 cfg.leaseMs))
      (hopen : f.open = f.batch) (hstage : f.stage ≠ .posted) :
      Effect cfg w (.flush skipped) { w with
        rows := update ((leaseTarget cfg.batchSize w.clock skipped
          w.rows).map Prod.fst) (OutboxRow.lease cfg.leaseMs w.clock) w.rows
        flushes := w.flushes ++ [f] }
  | posted {i : Nat} {f : Flush} (hf : w.flushes[i]? = some f)
      (hstage : f.stage = .posting) : Effect cfg w (.post i true)
      { w.put i { f with stage := .posted } with posts := w.posts ++ [f.ids] }
  | moved {a : Action} {i : Nat} {f : Flush} {stage : Stage}
      (hquiet : a.quiet = true) (hf : w.flushes[i]? = some f)
      (hopen : List.Sublist ({ f with stage := stage } : Flush).open f.open)
      (hstage : stage ≠ .posted) :
      Effect cfg w a (w.put i { f with stage := stage })
  | delivered {i : Nat} {f : Flush} {outcome : Outcome}
      (hf : w.flushes[i]? = some f) (hstage : f.stage = .posted) :
      Effect cfg w (.deliver i outcome)
      { w.put i { f with stage := after f outcome } with
        rows := markFairscaleTrustEventsDelivered f.ids w.clock w.rows }
  | failed {i id dateNow : Nat} {f : Flush} {left : List Nat} {x : Entry}
      {outcome : Outcome} (hf : w.flushes[i]? = some f)
      (hstage : f.stage = .failing left)
      (hx : f.batch.find? (fun x => x.1 = id) = some x)
      (houtcome : outcome ≠ .failed) :
      Effect cfg w (.fail i id dateNow outcome)
      { w.put i { f with stage := .failing (left.filter fun j => j ≠ id) } with
        rows := markFairscaleTrustEventAttemptFailed id
          (computeNextAttemptAt cfg dateNow x.2.attemptCount) w.rows }
  | requeued (limit : Option Nat) (failedOnly : Bool) :
      Effect cfg w (.requeue limit failedOnly) { w with
        rows := requeueFairscaleTrustEvents limit failedOnly w.clock w.rows }
  | ticked (ms : Nat) :
      Effect cfg w (.tick ms) { w with clock := w.clock + ms }

theorem open_failing (f : Flush) :
    ({ f with stage := .failing f.ids } : Flush).open = f.batch := by
  show (f.batch.filter fun x => x.1 ∈ f.ids) = f.batch
  refine List.filter_eq_self.mpr ?_
  intro x hx
  exact decide_eq_true (List.mem_map_of_mem hx)

theorem open_marked (f : Flush) {left : List Nat} (id : Nat)
    (h : f.stage = .failing left) :
    List.Sublist ({ f with
      stage := .failing (left.filter fun j => j ≠ id) } : Flush).open
      f.open := by
  unfold Flush.open
  rw [h]
  refine List.monotone_filter_right _ ?_
  intro x hx
  simp only [List.mem_filter, decide_eq_true_eq] at hx ⊢
  exact hx.1

/-- A lease is always accepted, and goes to a new flush. -/
theorem flush_ok (cfg : Config) (w : World) (skipped : List Nat) :
    ∃ f : Flush, step cfg (.flush skipped) w = .ok { w with
        rows := update ((leaseTarget cfg.batchSize w.clock skipped
          w.rows).map Prod.fst) (OutboxRow.lease cfg.leaseMs w.clock) w.rows
        flushes := w.flushes ++ [f] }
      ∧ f.ids = (leaseTarget cfg.batchSize w.clock skipped w.rows).map
        Prod.fst
      ∧ (∀ x ∈ f.batch, x.2.leasedUntil = some (w.clock + max 1 cfg.leaseMs))
      ∧ f.open = f.batch ∧ f.stage ≠ .posted := by
  refine ⟨⟨_, _⟩, rfl, ?_, ?_, ?_, ?_⟩
  · unfold Flush.ids leaseFairscaleTrustEventBatch
    dsimp only
    rw [List.map_map]
    rfl
  · intro x hx
    obtain ⟨y, -, rfl⟩ := List.mem_map.mp hx
    rfl
  · unfold Flush.open
    dsimp only
    split
    · rfl
    · rfl
    · next hstage => split at hstage <;> cases hstage
    · next hstage =>
        split at hstage
        · next hnil => exact hnil.symm
        · cases hstage
  · dsimp only
    split <;> simp

theorem step_effect (h : step cfg a w = .ok w') : Effect cfg w a w' := by
  cases a with
  | queue key =>
    cases h
    exact .queued key
  | requeue limit failedOnly =>
    cases h
    exact .requeued limit failedOnly
  | tick ms =>
    cases h
    exact .ticked ms
  | flush skipped =>
    obtain ⟨f, hf, hids, hbatch, hopen, hstage⟩ := flush_ok cfg w skipped
    rw [hf] at h
    cases h
    exact .leased skipped f hids hbatch hopen hstage
  | post i ok =>
    obtain ⟨f, hf, _, hstage, h⟩ := bind_ok₂.mp h
    have hf := okOr_ok.mp hf
    have hstage := require_ok.mp hstage
    split at h
    · next hok =>
        cases h
        rw [hok]
        exact .posted hf hstage
    · cases h
      refine .moved rfl hf ?_ (by simp)
      rw [open_failing]
      unfold Flush.open
      rw [hstage]
  | deliver i outcome =>
    obtain ⟨f, hf, _, hstage, h⟩ := bind_ok₂.mp h
    have hf := okOr_ok.mp hf
    have hstage := require_ok.mp hstage
    cases outcome with
    | done =>
      cases h
      exact .delivered hf hstage
    | lost =>
      cases h
      exact .delivered hf hstage
    | failed =>
      cases h
      refine .moved rfl hf ?_ (by simp)
      rw [open_failing]
      unfold Flush.open
      rw [hstage]
  | fail i id dateNow outcome =>
    obtain ⟨f, hf, h⟩ := bind_ok.mp h
    have hf := okOr_ok.mp hf
    split at h
    · next left x hstage hx =>
        obtain ⟨_, -, h⟩ := bind_ok.mp h
        cases outcome with
        | failed =>
          cases h
          exact .moved rfl hf (open_marked f id hstage) (by simp)
        | done =>
          cases h
          exact .failed hf hstage hx (by simp)
        | lost =>
          cases h
          exact .failed hf hstage hx (by simp)
    · cases h
  | crash i =>
    obtain ⟨f, hf, h⟩ := bind_ok.mp h
    cases h
    exact .moved rfl (okOr_ok.mp hf) (List.nil_sublist _) (by simp)

end KamiyoProtocol.TrustSync
