/-
Who holds a lease of a trust event.

A flush believes in its lease until it expires; the row forgets it when
the event is requeued, and when another flush, whose own lease may be
long over, marks the event failed. `Respects` are the terms on which
neither happens under a live lease: on them no event is leased twice at a
time (`Sound`), and a step against them lets a later flush do it
(`broken`). What becomes of the events does not depend on the terms.
-/
import KamiyoProtocol.TrustSync.Delivery

namespace KamiyoProtocol.TrustSync

open Exec

variable {cfg : Config} {w w' : World} {a : Action}

-- ==== leases

/-- No event is due before a lease on it expires. -/
structure Sound (w : World) : Prop where
  guarded : Lease.Guarded w.Grantable w.clock w.claims
  stored : ∀ c ∈ w.claims, c.key < w.rows.length

/-- No row is leased to two flushes at once. -/
def Exclusive (w : World) : Prop := Lease.Exclusive w.clock w.claims

theorem mem_claims {c : Lease.Claim Nat} :
    c ∈ w.claims ↔ ∃ f ∈ w.flushes, c ∈ f.held :=
  List.mem_flatMap

/-- The terms on which leases stay exclusive: an event is requeued only
when no lease on it is live, and marked failed only when, by the time of
its retry, no other flush's lease on it is. -/
def Respects (cfg : Config) : Action → World → Prop
  | .requeue limit failedOnly, w =>
    ∀ x ∈ requeueTarget limit failedOnly w.rows, ∀ c ∈ w.claims,
      c.key = x.1 → ¬ c.Live w.clock
  | .fail i id dateNow outcome, w =>
    outcome ≠ .failed → ¬ w.Delivered id → ∀ f x,
      w.flushes[i]? = some f → f.batch.find? (fun x => x.1 = id) = some x →
      ∀ j g, w.flushes[j]? = some g → j ≠ i → ∀ c ∈ g.held, c.key = id →
        ¬ c.Live (max w.clock
          (computeNextAttemptAt cfg dateNow x.2.attemptCount))
  | _, _ => True

theorem claims_put {i : Nat} {f f' : Flush} (hf : w.flushes[i]? = some f)
    (h : List.Sublist f'.held f.held) :
    List.Sublist (w.put i f').claims w.claims := by
  show List.Sublist ((w.flushes.set i f').flatMap Flush.held)
    (w.flushes.flatMap Flush.held)
  generalize w.flushes = flushes at hf
  induction flushes generalizing i with
  | nil => cases hf
  | cons g rest ih =>
    cases i with
    | zero =>
      cases hf
      exact h.append (List.Sublist.refl _)
    | succ i => exact (List.Sublist.refl _).append (ih hf)

theorem Sound.drop (h : Sound w) {ids : List Nat}
    {g : OutboxRow → OutboxRow} (hrows : w'.rows = update ids g w.rows)
    (hclock : w'.clock = w.clock)
    (hclaims : List.Sublist w'.claims w.claims)
    (hfree : ∀ c ∈ w'.claims, c.key ∈ ids → ∀ r, w.rows[c.key]? = some r →
      ∀ t, w.clock ≤ t → c.Live t → ¬ (g r).Due t) : Sound w' := by
  constructor
  · rw [hclock]
    refine h.guarded.drop (le_refl _) hclaims ?_
    rintro c hc t ht hlive ⟨r', hr', hdue⟩
    rw [hrows, update_getElem?] at hr'
    obtain ⟨r, hr, rfl⟩ := Option.map_eq_some_iff.mp hr'
    by_cases hid : c.key ∈ ids
    · rw [if_pos hid] at hdue
      exact absurd hdue (hfree c hc hid r hr t ht hlive)
    · rw [if_neg hid] at hdue
      exact ⟨r, hr, hdue⟩
  · intro c hc
    rw [hrows, update_length]
    exact h.stored c (hclaims.subset hc)

theorem Sound.put (h : Sound w) {i : Nat} {f f' : Flush}
    (hf : w.flushes[i]? = some f) (hopen : List.Sublist f'.open f.open)
    (hrows : w'.rows = w.rows) (hclock : w'.clock = w.clock)
    (hclaims : w'.claims = (w.put i f').claims) : Sound w' := by
  refine h.drop (g := id) (hrows.trans update_nil.symm) hclock ?_ ?_
  · rw [hclaims]
    exact claims_put hf (hopen.map claim)
  · exact fun c _ hid => absurd hid List.not_mem_nil

theorem Sound.queue (h : Sound w) (key : String) : Sound { w with
    rows := queueFairscaleTrustEventOutbox key w.clock w.rows } := by
  have hrows : ∀ k < w.rows.length,
      (queueFairscaleTrustEventOutbox key w.clock w.rows)[k]? = w.rows[k]? := by
    intro k hk
    unfold queueFairscaleTrustEventOutbox
    split
    · rfl
    · exact List.getElem?_append_left hk
  constructor
  · refine h.guarded.drop (le_refl _) (List.Sublist.refl _) ?_
    rintro c hc t - - ⟨r, hr, hdue⟩
    exact ⟨r, (hrows c.key (h.stored c hc)).symm.trans hr, hdue⟩
  · intro c hc
    have hk := h.stored c hc
    show c.key < (queueFairscaleTrustEventOutbox key w.clock w.rows).length
    unfold queueFairscaleTrustEventOutbox
    split
    · exact hk
    · rw [List.length_append]
      omega

/-- Leases are granted on events that are due. -/
theorem Sound.lease (h : Sound w) {skipped : List Nat} {f : Flush}
    (hids : f.ids = (leaseTarget cfg.batchSize w.clock skipped w.rows).map
      Prod.fst)
    (hbatch : ∀ x ∈ f.batch,
      x.2.leasedUntil = some (w.clock + max 1 cfg.leaseMs))
    (hopen : f.open = f.batch) : Sound { w with
      rows := update ((leaseTarget cfg.batchSize w.clock skipped
        w.rows).map Prod.fst) (OutboxRow.lease cfg.leaseMs w.clock) w.rows
      flushes := w.flushes ++ [f] } := by
  have hdue : ∀ i ∈ f.ids, ∃ r, w.rows[i]? = some r ∧ r.Due w.clock := by
    intro i hi
    rw [hids] at hi
    obtain ⟨x, hx, rfl⟩ := List.mem_map.mp hi
    obtain ⟨hrow, hpass⟩ := mem_select hx
    have hpass : x.2.Due w.clock ∧ x.1 ∉ skipped := by simpa using hpass
    exact ⟨x.2, hrow, hpass.1⟩
  have hheld : f.held = f.batch.map claim := by
    unfold Flush.held
    rw [hopen]
  have hnew : ∀ c ∈ f.held, c.key ∈ f.ids
      ∧ c.expiry = w.clock + max 1 cfg.leaseMs := by
    intro c hc
    rw [hheld] at hc
    obtain ⟨x, hx, rfl⟩ := List.mem_map.mp hc
    refine ⟨List.mem_map_of_mem hx, ?_⟩
    show x.2.leasedUntil.getD 0 = _
    rw [hbatch x hx]
    rfl
  have hclaims : (w.flushes ++ [f]).flatMap Flush.held
      = w.claims ++ f.held := by
    rw [List.flatMap_append, List.flatMap_singleton]
    rfl
  rw [← hids]
  constructor
  · show Lease.Guarded _ w.clock ((w.flushes ++ [f]).flatMap Flush.held)
    rw [hclaims]
    refine h.guarded.grant ?_ ?_ ?_ ?_
    · have hkeys : f.held.map Lease.Claim.key = f.ids := by
        rw [hheld, List.map_map]
        rfl
      rw [hkeys, hids]
      exact select_nodup
    · exact fun c hc => hdue c.key (hnew c hc).1
    · rintro c hc t - hlive ⟨r', hr', hdue'⟩
      obtain ⟨hmem, hexpiry⟩ := hnew c hc
      change (update f.ids _ w.rows)[c.key]? = some r' at hr'
      rw [update_getElem?] at hr'
      obtain ⟨r, hr, rfl⟩ := Option.map_eq_some_iff.mp hr'
      rw [if_pos hmem] at hdue'
      have hle := hdue'.2.2 _ rfl
      have hlt : t < c.expiry := hlive
      omega
    · rintro c hc t ht - ⟨r', hr', hdue'⟩
      change (update f.ids _ w.rows)[c.key]? = some r' at hr'
      rw [update_getElem?] at hr'
      obtain ⟨r, hr, rfl⟩ := Option.map_eq_some_iff.mp hr'
      by_cases hmem : c.key ∈ f.ids
      · obtain ⟨r₀, hr₀, hdue₀⟩ := hdue c.key hmem
        exact ⟨r₀, hr₀, due_mono hdue₀ ht⟩
      · rw [if_neg hmem] at hdue'
        exact ⟨r, hr, hdue'⟩
  · intro c hc
    change c ∈ (w.flushes ++ [f]).flatMap Flush.held at hc
    rw [hclaims] at hc
    show c.key < (update f.ids _ w.rows).length
    rw [update_length]
    rcases List.mem_append.mp hc with hold | hadded
    · exact h.stored c hold
    · obtain ⟨r, hr, -⟩ := hdue c.key (hnew c hadded).1
      exact (List.getElem?_eq_some_iff.mp hr).1

theorem open_posted {f : Flush} (h : f.stage = .posting ∨ f.stage = .posted) :
    f.open = f.batch := by
  unfold Flush.open
  rcases h with h | h
  · rw [h]
  · rw [h]

theorem open_after {f : Flush} (h : f.stage = .posted) (outcome : Outcome) :
    List.Sublist ({ f with stage := after f outcome } : Flush).open
      f.open := by
  rw [open_posted (.inr h)]
  cases outcome with
  | done => exact List.nil_sublist _
  | lost => exact (List.filter_sublist : List.Sublist (f.batch.filter _) _)
  | failed => exact (List.filter_sublist : List.Sublist (f.batch.filter _) _)

theorem marked_other {i : Nat} {f : Flush} {left : List Nat} {id : Nat}
    {c : Lease.Claim Nat}
    (hc : c ∈ (w.put i { f with
      stage := .failing (left.filter fun j => j ≠ id) }).claims)
    (hkey : c.key = id) :
    ∃ j g, w.flushes[j]? = some g ∧ j ≠ i ∧ c ∈ g.held := by
  obtain ⟨g, hg, hheld⟩ := mem_claims.mp hc
  obtain ⟨j, hj⟩ := List.getElem?_of_mem hg
  change (w.flushes.set i _)[j]? = some g at hj
  rw [List.getElem?_set] at hj
  split at hj
  · split at hj
    · cases hj
      obtain ⟨x, hx, rfl⟩ := List.mem_map.mp hheld
      change x ∈ f.batch.filter _ at hx
      rw [List.mem_filter] at hx
      have hleft := of_decide_eq_true hx.2
      rw [List.mem_filter] at hleft
      exact absurd hkey (of_decide_eq_true hleft.2)
    · cases hj
  · next hne => exact ⟨j, g, hj, fun h => hne h.symm, hheld⟩

theorem Sound.step (h : Sound w) (hok : Respects cfg a w)
    (hstep : step cfg a w = .ok w') : Sound w' := by
  cases step_effect hstep with
  | queued key => exact h.queue key
  | leased skipped f hids hbatch hopen hstage =>
    exact h.lease hids hbatch hopen
  | @posted i f hf hstage =>
    refine h.put hf ?_ rfl rfl rfl
    rw [open_posted (.inl hstage)]
    exact List.Sublist.refl f.batch
  | moved hquiet hf hopen hstage => exact h.put hf hopen rfl rfl rfl
  | @delivered i f outcome hf hstage =>
    refine h.drop rfl rfl
      (claims_put hf ((open_after hstage outcome).map claim)) ?_
    intro c hc hid r hr t ht hlive hdue
    cases hdue.1
  | @failed i id dateNow f left x outcome hf hstage hx houtcome =>
    refine h.drop rfl rfl
      (claims_put hf ((open_marked f id hstage).map claim)) ?_
    intro c hc hid r hr t ht hlive hdue
    have hkey := List.mem_singleton.mp hid
    obtain ⟨j, g, hg, hne, hheld⟩ := marked_other hc hkey
    have hopen : ¬ w.Delivered id := by
      rintro ⟨r', hr', hsome⟩
      rw [hkey, hr'] at hr
      cases hr
      rw [hdue.1] at hsome
      cases hsome
    exact hok houtcome hopen f x hf hx j g hg hne c hheld hkey
      (lt_of_le_of_lt (max_le ht hdue.2.1) hlive)
  | requeued limit failedOnly =>
    refine h.drop rfl rfl (List.Sublist.refl _) ?_
    intro c hc hid r hr t ht hlive hdue
    obtain ⟨x, hx, hkey⟩ := List.mem_map.mp hid
    exact hok x hx c hc hkey.symm (lt_of_le_of_lt ht hlive)
  | ticked ms =>
    have hle : w.clock ≤ w.clock + ms := by omega
    exact ⟨h.guarded.drop hle (List.Sublist.refl _)
      (fun c _ t _ _ hgrant => hgrant), h.stored⟩

theorem sound_run {tr : List Action} (h : Sound w)
    (hok : Meets (TrustSync.step cfg) (Respects cfg) w tr)
    (hrun : run (TrustSync.step cfg) w tr = .ok w') : Sound w' :=
  run_induct_meets (fun _ _ _ h hok hstep => h.step hok hstep) h hok hrun

-- ==== broken terms

/-- The ids of the other rows. -/
def others (w : World) (i : Nat) : List Nat :=
  (List.range w.rows.length).filter fun j => j ≠ i

/-- A live lease on an event that is due, or will be: after that time, and
with all other rows locked, a flush is granted another one. -/
theorem not_exclusive_later (cfg : Config) {c : Lease.Claim Nat}
    (hc : c ∈ w.claims) {t : Nat} (hle : w.clock ≤ t) (hlive : c.Live t)
    (hgrant : w.Grantable c.key t) :
    ∃ tr w', run (step cfg) w tr = .ok w' ∧ ¬ Exclusive w' := by
  obtain ⟨ms, rfl⟩ := Nat.exists_eq_add_of_le hle
  have hgrant' : ({ w with clock := w.clock + ms } : World).Grantable c.key
      (w.clock + ms) := hgrant
  obtain ⟨f, hflush, hids, hbatch, hopen, -⟩ :=
    flush_ok cfg { w with clock := w.clock + ms } (others w c.key)
  refine ⟨[.tick ms, .flush (others w c.key)], _,
    run_cons.mpr ⟨_, rfl, run_cons.mpr ⟨_, hflush, rfl⟩⟩, ?_⟩
  have hfree : c.key ∉ others w c.key := by simp [others]
  obtain ⟨x, hx⟩ := List.exists_mem_of_ne_nil _
    (leaseTarget_ne_nil cfg.batchSize hgrant' hfree)
  obtain ⟨hrow, -, hother⟩ := mem_leaseTarget hx
  have hkey : x.1 = c.key := by
    obtain ⟨hlt, -⟩ := List.getElem?_eq_some_iff.mp hrow
    by_contra hne
    refine hother ?_
    simpa [others, hne] using hlt
  have hmem : x.1 ∈ f.ids := by
    rw [hids]
    exact List.mem_map_of_mem hx
  obtain ⟨y, hy, hyx⟩ := List.mem_map.mp hmem
  have hclaims : (w.flushes ++ [f]).flatMap Flush.held
      = w.claims ++ f.held := by
    rw [List.flatMap_append, List.flatMap_singleton]
    rfl
  show ¬ Lease.Exclusive (w.clock + ms)
    ((w.flushes ++ [f]).flatMap Flush.held)
  rw [hclaims]
  refine Lease.not_exclusive (d := claim y) hc ?_ ?_ hlive ?_
  · unfold Flush.held
    rw [hopen]
    exact List.mem_map_of_mem hy
  · exact hkey.symm.trans hyx.symm
  · show w.clock + ms < y.2.leasedUntil.getD 0
    rw [hbatch y hy]
    show w.clock + ms < w.clock + ms + max 1 cfg.leaseMs
    omega

theorem grantable_update {ids : List Nat} {g : OutboxRow → OutboxRow}
    (hrows : w'.rows = update ids g w.rows) {i t : Nat} {r : OutboxRow}
    (hr : w.rows[i]? = some r) (hi : i ∈ ids) (hdue : (g r).Due t) :
    w'.Grantable i t := by
  refine ⟨g r, ?_, hdue⟩
  rw [hrows, update_getElem?, hr, Option.map_some, if_pos hi]

theorem respects_quiet (h : a.quiet = true) : Respects cfg a w := by
  cases a with
  | requeue limit failedOnly => cases h
  | fail i id dateNow outcome =>
    exact fun hne => absurd (of_decide_eq_true h) hne
  | _ => trivial

/-- A step against the terms lets a later flush lease what another
holds. -/
theorem broken (h : Sound w) (hbad : ¬ Respects cfg a w)
    (hstep : step cfg a w = .ok w') :
    ∃ tr w'', run (step cfg) w' tr = .ok w'' ∧ ¬ Exclusive w'' := by
  cases step_effect hstep with
  | queued | leased | posted => exact absurd trivial hbad
  | moved hquiet hf hopen hstage => exact absurd (respects_quiet hquiet) hbad
  | delivered hf hstage => exact absurd trivial hbad
  | @failed i id dateNow f left x outcome hf hstage hx houtcome =>
    by_contra hsafe
    refine hbad ?_
    intro _ hopen f' x' hf' hx' j g hg hne c hc hkey hlive
    refine hsafe (not_exclusive_later cfg (c := c) ?_ (le_max_left _ _)
      hlive ?_)
    · refine mem_claims.mpr ⟨g, List.mem_of_getElem? (i := j) ?_, hc⟩
      show (w.flushes.set i _)[j]? = some g
      rw [List.getElem?_set_ne (fun h => hne h.symm), hg]
    · rw [hf] at hf'
      cases hf'
      rw [hx] at hx'
      cases hx'
      have hstored := h.stored c (mem_claims.mpr
        ⟨g, List.mem_of_getElem? hg, hc⟩)
      have hrow := List.getElem?_eq_getElem hstored
      have hundelivered : (w.rows[c.key]).deliveredAt = none := by
        by_contra hsome
        refine hopen ⟨_, by rw [← hkey]; exact hrow, ?_⟩
        exact Option.isSome_iff_ne_none.mpr hsome
      exact grantable_update rfl hrow (List.mem_singleton.mpr hkey)
        ⟨hundelivered, le_max_right _ _, fun u hu => by cases hu⟩
  | requeued limit failedOnly =>
    by_contra hsafe
    refine hbad ?_
    intro x hx c hc hkey hlive
    obtain ⟨hrow, hpass⟩ := mem_select hx
    have hpass : x.2.deliveredAt = none
        ∧ (failedOnly = false ∨ 0 < x.2.attemptCount) := by
      simpa using hpass
    refine hsafe (not_exclusive_later cfg (c := c) hc (le_refl _) hlive ?_)
    rw [hkey]
    exact grantable_update rfl hrow (List.mem_map_of_mem hx)
      ⟨hpass.1, le_refl _, fun u hu => by cases hu⟩
  | ticked ms => exact absurd trivial hbad

-- ==== runs

theorem honest_run {w₀ : World} (h0 : Genesis w₀) {tr : List Action}
    (hrun : run (step cfg) w₀ tr = .ok w) : Honest w := by
  refine run_induct (fun _ _ _ h hstep => Honest.step h hstep) ⟨?_, ?_⟩ hrun
  · rintro i ⟨r, hr, -⟩
    rw [h0.rows] at hr
    cases hr
  · intro f hf
    rw [h0.flushes] at hf
    cases hf

theorem sound_genesis {w₀ : World} (h0 : Genesis w₀) : Sound w₀ := by
  have hclaims : w₀.claims = [] := by
    unfold World.claims
    rw [h0.flushes]
    rfl
  constructor
  · rw [hclaims]
    exact Lease.guarded_nil
  · rw [hclaims]
    exact fun c hc => absurd hc List.not_mem_nil

/-- In every run an event stays undelivered and to be leased until a
`POST` that contains it succeeds, and delivered once it is, never to be
leased again. Leases are exclusive in every state of a run whose steps
keep to the terms, and the first step against them ends that: a
continuation leases twice. -/
theorem outbox_leases {w₀ : World} {tr : List Action} (h0 : Genesis w₀)
    (hrun : run (step cfg) w₀ tr = .ok w) :
    (∀ i r, w.rows[i]? = some r → ¬ w.Posted i →
      r.deliveredAt = none ∧ Leasable cfg w i)
    ∧ (∀ tr' w', run (step cfg) w tr' = .ok w' → Since w w')
    ∧ (Meets (step cfg) (Respects cfg) w₀ tr →
      Throughout (step cfg) Exclusive w₀ tr
      ∧ ∀ a w', step cfg a w = .ok w' → ¬ Respects cfg a w →
        ∃ tr' w'', run (step cfg) w' tr' = .ok w'' ∧ ¬ Exclusive w'') := by
  refine ⟨?_, ?_, ?_⟩
  · intro i r hr hposted
    have hopen : r.deliveredAt = none := by
      by_contra hsome
      exact hposted ((honest_run h0 hrun).rows i
        ⟨r, hr, Option.isSome_iff_ne_none.mpr hsome⟩)
    exact ⟨hopen, leasable cfg hr hopen⟩
  · intro tr' w' hrun'
    exact run_rel Since.refl (fun _ _ _ => Since.trans)
      (fun _ _ _ => since_step) hrun'
  · intro hok
    constructor
    · refine throughout_iff_prefix.mpr ?_
      intro p q m hpq hp
      rw [hpq] at hok
      exact (sound_run (sound_genesis h0) (meets_append hok hp).1
        hp).guarded.exclusive
    · intro a w' hstep hbad
      exact broken (sound_run (sound_genesis h0) hok hrun) hbad hstep

namespace Concrete

def config : Config := ⟨25, 60000, 3600000⟩

def start : World := ⟨[], [], [], 1700000000000⟩

theorem start_genesis : Genesis start := ⟨rfl, rfl, rfl⟩

/-- A flush leases an event, which is requeued before the flush is done;
the next one leases it again. -/
def requeuedRun : List Action :=
  [.queue "settlement:1", .flush [], .requeue none false, .flush []]

/-- The lease of a slow flush expires and another flush leases the event;
the first then marks it failed, and once the retry is due a third leases
it as well. -/
def slowRun : List Action :=
  [.queue "settlement:1", .flush [], .tick 60000, .flush [],
    .post 0 false, .fail 0 0 1700000060000 .done, .tick 5000, .flush []]

def shared (w : World) : Bool :=
  !decide (Lease.Exclusive w.clock w.claims)

theorem shared_of_check {tr : List Action}
    (h : check shared (run (step config) start tr) = true) :
    ∃ w, run (step config) start tr = .ok w ∧ ¬ Exclusive w := by
  obtain ⟨w, hw, hshared⟩ := check_ok h
  exact ⟨w, hw, by simpa [shared, Exclusive] using hshared⟩

/-- Two flushes hold a live lease on one event. -/
theorem leases_shared :
    (∃ w, run (step config) start requeuedRun = .ok w ∧ ¬ Exclusive w)
      ∧ ∃ w, run (step config) start slowRun = .ok w ∧ ¬ Exclusive w :=
  ⟨shared_of_check (by decide), shared_of_check (by decide)⟩

/-- A post fails and its event is marked failed and requeued; the next
flush leases and delivers it, and another event is queued. -/
def deliveredRun : List Action :=
  [.queue "settlement:1", .flush [], .post 0 false,
    .fail 0 0 1700000000000 .done, .requeue none false, .flush [],
    .post 1 true, .deliver 1 .done, .queue "repayment:1"]

/-- The terms, as a test. -/
def respects (a : Action) (w : World) : Bool :=
  match a with
  | .requeue limit failedOnly =>
    (requeueTarget limit failedOnly w.rows).all fun x =>
      w.claims.all fun c => decide (c.key = x.1 → ¬ c.Live w.clock)
  | .fail i id dateNow _ =>
    (w.flushes[i]?.bind fun f => f.batch.find? fun x => x.1 = id).all fun x =>
      w.flushes.zipIdx.all fun g => decide (g.2 ≠ i → ∀ c ∈ g.1.held,
        c.key = id → ¬ c.Live (max w.clock
          (computeNextAttemptAt config dateNow x.2.attemptCount)))
  | _ => true

theorem respects_sound {a : Action} {w : World} (h : respects a w = true) :
    Respects config a w := by
  cases a with
  | requeue limit failedOnly =>
    intro x hx c hc
    exact of_decide_eq_true (List.all_eq_true.mp (List.all_eq_true.mp h x hx)
      c hc)
  | fail i id dateNow outcome =>
    intro _ _ f x hf hx j g hg hj
    rw [respects, hf, Option.bind_some, hx] at h
    exact of_decide_eq_true (List.all_eq_true.mp h (g, j)
      (List.mk_mem_zipIdx_iff_getElem?.mpr hg)) hj
  | _ => trivial

/-- The second event is there, and in no batch posted. -/
def waiting (w : World) : Bool :=
  w.rows[1]?.isSome && w.posts.all fun ids => 1 ∉ ids

theorem outbox_leases_delivered : ∃ w w',
    run (step config) start deliveredRun = .ok w
      ∧ run (step config) w [.tick 60000, .flush []] = .ok w'
      ∧ Throughout (step config) Exclusive start deliveredRun
      ∧ Leasable config w 1 ∧ Since w w' := by
  obtain ⟨w, hrun, hlast, hok⟩ := run_of_check (fun _ _ => respects_sound)
    (show checkRun (step config) respects (fun w => waiting w
        && check (fun _ => true) (run (step config) w
          [.tick 60000, .flush []])) start deliveredRun = true by decide)
  rw [Bool.and_eq_true] at hlast
  obtain ⟨hwaiting, hlater⟩ := hlast
  obtain ⟨w', hrun', -⟩ := check_ok hlater
  unfold waiting at hwaiting
  rw [Bool.and_eq_true, List.all_eq_true] at hwaiting
  obtain ⟨r, hr⟩ := Option.isSome_iff_exists.mp hwaiting.1
  obtain ⟨hopen, hsince, hleases⟩ := outbox_leases start_genesis hrun
  refine ⟨w, w', hrun, hrun', (hleases hok).1, (hopen 1 r hr ?_).2,
    hsince _ w' hrun'⟩
  rintro ⟨ids, hids, hmem⟩
  exact of_decide_eq_true (hwaiting.2 ids hids) hmem

end Concrete

end KamiyoProtocol.TrustSync
