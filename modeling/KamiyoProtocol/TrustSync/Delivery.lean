/-
What becomes of a trust event: it is marked delivered only once a `POST`
that contained it succeeded, is never leased after that, and until then
some flush to come will lease it.
-/
import KamiyoProtocol.TrustSync.Effects
import KamiyoProtocol.Lib.Keyed

namespace KamiyoProtocol.TrustSync

open Exec

variable {cfg : Config} {w w' : World} {a : Action}

-- ==== delivery

/-- The event is marked delivered. -/
def World.Delivered (w : World) (i : Nat) : Prop :=
  ∃ r, w.rows[i]? = some r ∧ r.deliveredAt.isSome

/-- Some `POST` that contained the event succeeded. -/
def World.Posted (w : World) (i : Nat) : Prop := ∃ ids ∈ w.posts, i ∈ ids

/-- What is delivered was posted. -/
structure Honest (w : World) : Prop where
  rows : ∀ i, w.Delivered i → w.Posted i
  flushes : ∀ f ∈ w.flushes, f.stage = .posted → f.ids ∈ w.posts

variable {i : Nat}

theorem delivered_update {rows : List OutboxRow} {ids : List Nat}
    {g : OutboxRow → OutboxRow}
    (hg : ∀ r, (g r).deliveredAt = r.deliveredAt) :
    (∃ r, (update ids g rows)[i]? = some r ∧ r.deliveredAt.isSome)
      ↔ ∃ r, rows[i]? = some r ∧ r.deliveredAt.isSome := by
  rw [update_getElem?]
  cases rows[i]? with
  | none => simp
  | some r => by_cases hi : i ∈ ids <;> simp [hi, hg]

theorem delivered_queue {rows : List OutboxRow} {key : String} {now i : Nat} :
    (∃ r, (queueFairscaleTrustEventOutbox key now rows)[i]? = some r
        ∧ r.deliveredAt.isSome)
      ↔ ∃ r, rows[i]? = some r ∧ r.deliveredAt.isSome := by
  unfold queueFairscaleTrustEventOutbox
  split
  · rfl
  · rcases Nat.lt_trichotomy i rows.length with hlt | rfl | hgt
    · rw [List.getElem?_append_left hlt]
    · simp
    · rw [List.getElem?_eq_none (by simpa using Nat.succ_le_of_lt hgt),
        List.getElem?_eq_none (by omega)]

theorem delivered_mark {rows : List OutboxRow} {ids : List Nat} {now i : Nat} :
    (∃ r, (markFairscaleTrustEventsDelivered ids now rows)[i]? = some r
        ∧ r.deliveredAt.isSome)
      ↔ (∃ r, rows[i]? = some r ∧ r.deliveredAt.isSome)
        ∨ i ∈ ids ∧ i < rows.length := by
  unfold markFairscaleTrustEventsDelivered
  rw [update_getElem?]
  cases hr : rows[i]? with
  | none =>
    have := List.getElem?_eq_none_iff.mp hr
    simp
    omega
  | some r =>
    obtain ⟨hlt, -⟩ := List.getElem?_eq_some_iff.mp hr
    by_cases hi : i ∈ ids <;> simp [hi, hlt]

theorem mem_put {f f' : Flush} (h : f ∈ (w.put i f').flushes) :
    f ∈ w.flushes ∨ f = f' :=
  List.mem_or_eq_of_mem_set h

theorem Honest.step (h : Honest w) (hstep : step cfg a w = .ok w') :
    Honest w' := by
  cases step_effect hstep with
  | queued key =>
    exact ⟨fun i hi => h.rows i (delivered_queue.mp hi), h.flushes⟩
  | leased skipped f hids hbatch hopen hstage =>
    refine ⟨fun i hi => h.rows i
      ((delivered_update (by intro; rfl)).mp hi), ?_⟩
    intro f' hf' hposted
    rcases List.mem_append.mp hf' with hold | hnew
    · exact h.flushes f' hold hposted
    · rw [List.mem_singleton.mp hnew] at hposted
      exact absurd hposted hstage
  | @posted i f hf hstage =>
    constructor
    · intro j hj
      obtain ⟨ids, hids, hmem⟩ := h.rows j hj
      exact ⟨ids, List.mem_append_left _ hids, hmem⟩
    · intro f' hf' hposted
      rcases mem_put hf' with hold | rfl
      · exact List.mem_append_left _ (h.flushes f' hold hposted)
      · exact List.mem_append_right _ (List.mem_singleton.mpr rfl)
  | moved hquiet hf hopen hstage =>
    refine ⟨h.rows, ?_⟩
    intro f' hf' hposted
    rcases mem_put hf' with hold | rfl
    · exact h.flushes f' hold hposted
    · exact absurd hposted hstage
  | @delivered i f outcome hf hstage =>
    have hposted := h.flushes f (List.mem_of_getElem? hf) hstage
    constructor
    · intro j hj
      rcases delivered_mark.mp hj with hold | ⟨hmem, -⟩
      · exact h.rows j hold
      · exact ⟨f.ids, hposted, hmem⟩
    · intro f' hf' hstage'
      rcases mem_put hf' with hold | rfl
      · exact h.flushes f' hold hstage'
      · exact hposted
  | failed hf hstage hx houtcome =>
    refine ⟨fun j hj => h.rows j
      ((delivered_update (by intro; rfl)).mp hj), ?_⟩
    intro f' hf' hposted
    rcases mem_put hf' with hold | rfl
    · exact h.flushes f' hold hposted
    · cases hposted
  | requeued limit failedOnly =>
    exact ⟨fun i hi => h.rows i ((delivered_update (by intro; rfl)).mp hi),
      h.flushes⟩
  | ticked ms => exact ⟨h.rows, h.flushes⟩

/-- What was delivered stays so, and is in the batch of no flush that
started since. -/
structure Since (w w' : World) : Prop where
  delivered : ∀ i, w.Delivered i → w'.Delivered i
  flushes : ∃ fresh, w'.flushes.map Flush.ids = w.flushes.map Flush.ids ++ fresh
    ∧ ∀ ids ∈ fresh, ∀ i ∈ ids, ¬ w.Delivered i

theorem Since.refl (w : World) : Since w w :=
  ⟨fun _ => id, [], by simp, fun _ h => absurd h List.not_mem_nil⟩

theorem Since.trans {u v w : World} (h : Since u v) (h' : Since v w) :
    Since u w := by
  obtain ⟨fresh, hfresh, hnot⟩ := h.flushes
  obtain ⟨fresh', hfresh', hnot'⟩ := h'.flushes
  refine ⟨fun i hi => h'.delivered i (h.delivered i hi), fresh ++ fresh', ?_,
    ?_⟩
  · rw [hfresh', hfresh, List.append_assoc]
  · intro ids hids i hi hu
    rcases List.mem_append.mp hids with hold | hnew
    · exact hnot ids hold i hi hu
    · exact hnot' ids hnew i hi (h.delivered i hu)

theorem put_ids {f f' : Flush} (hf : w.flushes[i]? = some f)
    (h : f'.ids = f.ids) :
    (w.put i f').flushes.map Flush.ids = w.flushes.map Flush.ids :=
  Keyed.map_set hf h

theorem Since.still (hdelivered : ∀ i, w.Delivered i → w'.Delivered i)
    (hids : w'.flushes.map Flush.ids = w.flushes.map Flush.ids) :
    Since w w' :=
  ⟨hdelivered, [], by simpa using hids, fun _ h => absurd h List.not_mem_nil⟩

theorem since_step (hstep : step cfg a w = .ok w') : Since w w' := by
  cases step_effect hstep with
  | queued key => exact .still (fun _ hi => delivered_queue.mpr hi) rfl
  | leased skipped f hids hbatch hopen hstage =>
    refine ⟨fun i hi => (delivered_update (by intro; rfl)).mpr hi,
      [f.ids], ?_, ?_⟩
    · simp
    · intro ids hmem i hi hdelivered
      rw [List.mem_singleton.mp hmem, hids] at hi
      obtain ⟨x, hx, rfl⟩ := List.mem_map.mp hi
      obtain ⟨hrow, hpass⟩ := mem_select hx
      obtain ⟨r, hr, hsome⟩ := hdelivered
      rw [hrow] at hr
      cases hr
      have hdue : x.2.Due w.clock ∧ x.1 ∉ skipped := by simpa using hpass
      rw [hdue.1.1] at hsome
      cases hsome
  | posted hf hstage =>
    exact .still (fun _ => id) (put_ids hf rfl)
  | moved hquiet hf hopen hstage =>
    exact .still (fun _ => id) (put_ids hf rfl)
  | delivered hf hstage =>
    exact .still (fun _ hi => delivered_mark.mpr (.inl hi)) (put_ids hf rfl)
  | failed hf hstage hx houtcome =>
    exact .still (fun _ hi => (delivered_update (by intro; rfl)).mpr hi)
      (put_ids hf rfl)
  | requeued limit failedOnly =>
    exact .still (fun _ hi => (delivered_update (by intro; rfl)).mpr hi) rfl
  | ticked ms => exact .still (fun _ => id) rfl

-- ==== progress

/-- A lease may be granted at a time. -/
def World.Grantable (w : World) (i now : Nat) : Prop :=
  ∃ r, w.rows[i]? = some r ∧ r.Due now

theorem leaseTarget_ne_nil (limit : Nat) {skipped : List Nat}
    (h : w.Grantable i w.clock) (hfree : i ∉ skipped) :
    leaseTarget limit w.clock skipped w.rows ≠ [] := by
  obtain ⟨r, hr, hdue⟩ := h
  have hpass : decide (r.Due w.clock ∧ i ∉ skipped) = true :=
    decide_eq_true ⟨hdue, hfree⟩
  exact select_ne_nil (x := (i, r)) hr hpass (by omega)

/-- The events that are due. -/
def dueIds (w : World) : List Nat :=
  ((entries w.rows).filter fun x => x.2.Due w.clock).map Prod.fst

theorem mem_dueIds : i ∈ dueIds w ↔ w.Grantable i w.clock := by
  unfold dueIds World.Grantable
  rw [List.mem_map]
  constructor
  · rintro ⟨x, hx, rfl⟩
    rw [List.mem_filter, mem_entries] at hx
    exact ⟨x.2, hx.1, of_decide_eq_true hx.2⟩
  · rintro ⟨r, hr, hdue⟩
    refine ⟨(i, r), ?_, rfl⟩
    rw [List.mem_filter, mem_entries]
    exact ⟨hr, decide_eq_true hdue⟩

theorem dueIds_nodup (w : World) : (dueIds w).Nodup := by
  have hids : ((entries w.rows).map Prod.fst).Nodup := by
    rw [entries_ids]
    exact List.nodup_range
  exact hids.sublist (List.filter_sublist.map _)

theorem dueIds_lease {ids : List Nat} (leaseMs : Nat)
    (hrows : w'.rows = update ids (OutboxRow.lease leaseMs w.clock) w.rows)
    (hclock : w'.clock = w.clock) :
    i ∈ dueIds w' ↔ i ∈ dueIds w ∧ i ∉ ids := by
  rw [mem_dueIds, mem_dueIds]
  unfold World.Grantable
  rw [hrows, hclock, update_getElem?]
  cases w.rows[i]? with
  | none => simp
  | some r =>
    by_cases hi : i ∈ ids
    · have hleased : ¬ (r.lease leaseMs w.clock).Due w.clock := by
        intro hdue
        have := hdue.2.2 _ rfl
        omega
      simp [hi, hleased]
    · simp [hi]

/-- A flush follows that leases the event, once the clock has moved on. -/
def Leasable (cfg : Config) (w : World) (i : Nat) : Prop :=
  ∃ ms n w', run (step cfg) w (.tick ms :: List.replicate n (.flush []))
      = .ok w'
    ∧ ∃ f, w'.flushes.getLast? = some f ∧ i ∈ f.ids

theorem leased_of_due (cfg : Config) : ∀ (n : Nat) (w : World),
    (dueIds w).length ≤ n → i ∈ dueIds w →
    ∃ k w', run (step cfg) w (List.replicate k (.flush [])) = .ok w'
      ∧ ∃ f, w'.flushes.getLast? = some f ∧ i ∈ f.ids := by
  intro n
  induction n with
  | zero =>
    intro w hlen hi
    have := List.length_pos_of_mem hi
    omega
  | succ n ih =>
    intro w hlen hi
    obtain ⟨f, hflush, hids, -⟩ := flush_ok cfg w []
    by_cases hmem : i ∈ f.ids
    · refine ⟨1, _, run_cons.mpr ⟨_, hflush, rfl⟩, f, ?_, hmem⟩
      simp
    · rw [← hids] at hflush
      generalize hw₁ : ({ w with
        rows := update f.ids (OutboxRow.lease cfg.leaseMs w.clock) w.rows
        flushes := w.flushes ++ [f] } : World) = w₁ at hflush
      have hdue : ∀ j, j ∈ dueIds w₁ ↔ j ∈ dueIds w ∧ j ∉ f.ids := by
        intro j
        subst hw₁
        refine dueIds_lease cfg.leaseMs ?_ ?_
        · rfl
        · rfl
      -- some due event is taken, so fewer are left
      have hne := leaseTarget_ne_nil cfg.batchSize
        (mem_dueIds.mp hi) (List.not_mem_nil (a := i))
      obtain ⟨x, hx⟩ := List.exists_mem_of_ne_nil _ hne
      have hx' : x.1 ∈ f.ids := by
        rw [hids]
        exact List.mem_map_of_mem hx
      obtain ⟨hrow, hxdue, -⟩ := mem_leaseTarget hx
      have hfewer : (x.1 :: dueIds w₁).length ≤ (dueIds w).length := by
        refine List.Subperm.length_le
          (List.subperm_of_subset (List.nodup_cons.mpr ⟨?_, ?_⟩) ?_)
        · exact fun h => ((hdue x.1).mp h).2 hx'
        · exact dueIds_nodup w₁
        · intro j hj
          rcases List.mem_cons.mp hj with rfl | hj
          · exact mem_dueIds.mpr ⟨x.2, hrow, hxdue⟩
          · exact ((hdue j).mp hj).1
      rw [List.length_cons] at hfewer
      obtain ⟨k, w', hrun, hlast⟩ := ih w₁ (by omega)
        ((hdue i).mpr ⟨hi, hmem⟩)
      exact ⟨k + 1, w', run_cons.mpr ⟨w₁, hflush, hrun⟩, hlast⟩

theorem leasable (cfg : Config) {r : OutboxRow}
    (hr : w.rows[i]? = some r) (hopen : r.deliveredAt = none) :
    Leasable cfg w i := by
  have hdue : i ∈ dueIds { w with clock := w.clock
      + (r.nextAttemptAt + r.leasedUntil.getD 0) } := by
    refine mem_dueIds.mpr ⟨r, hr, hopen, ?_, ?_⟩
    · show r.nextAttemptAt ≤ w.clock + (r.nextAttemptAt + _)
      omega
    · intro u hu
      show u ≤ w.clock + (r.nextAttemptAt + r.leasedUntil.getD 0)
      rw [Option.mem_def.mp hu]
      simp only [Option.getD_some]
      omega
  obtain ⟨n, w', hrun, hlast⟩ := leased_of_due cfg _ _ (le_refl _) hdue
  exact ⟨_, n, w', run_cons.mpr ⟨_, rfl, hrun⟩, hlast⟩

end KamiyoProtocol.TrustSync
