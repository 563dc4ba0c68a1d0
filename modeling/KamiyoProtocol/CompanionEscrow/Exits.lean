/-
The exits of an escrow, and the dispute that has none.

`Sound` collects what a reachable escrow carries into its exits. From a
sound state an `Exitable` escrow is paid out by one release, after the
clock has been moved past the deadline the release waits for; and since
every settlement finds its escrow exitable, and the exits before it
leave the record alone, no other escrow is ever paid out (`exit_iff`).

A dispute with enough submissions, at least half of them outliers, is
refused by both of its exits: by the one because it has no consensus, by
the other because it has one. Once the reveal window is over no action
of anyone changes that (`stranded_forever`).
-/
import KamiyoProtocol.CompanionEscrow.Concrete
import KamiyoProtocol.CompanionEscrow.Lifecycle

namespace KamiyoProtocol.CompanionEscrow

open Solana Exec

variable {env : Env Seed} {w w' : World} {k : Pubkey} {a : Action env}

-- ==== soundness

/-- What an open escrow at `k` carries. -/
structure EscrowSound (env : Env Seed) (w : World) (k : Pubkey)
    (e : Escrow) : Prop where
  user : ∀ s, e.user ≠ env.pda s
  funded : e.amount ≤ w.lamports.bal k
  dated : e.status = .disputed → ∃ d, e.disputedAt = some d ∧ Fixed.InRange 64 d
  window : e.oracleSubmissions ≠ [] →
    ∃ config ends, w.config = some config ∧ e.commitPhaseEndsAt = some ends
      ∧ Fixed.InRange 64 (ends + config.revealDuration)

structure Sound (env : Env Seed) (k : Pubkey) (w : World) : Prop where
  clock : Fixed.InRange 64 w.now
  bounds : ∀ config, w.config = some config →
    3 ≤ config.minConsensus ∧ 300 ≤ config.revealDuration
  escrow : ∀ e, w.escrows k = some e → e.Open → EscrowSound env w k e

/-- Before the program has any account. -/
structure Genesis (w : World) : Prop where
  config : w.config = none
  escrows : ∀ k, w.escrows k = none
  clock : Fixed.InRange 64 w.now

theorem RulesStep.kept (h : RulesStep w w') {config : OracleConfig}
    (hc : w.config = some config) :
    ∃ oracles, w'.config
      = some { config with registeredOracles := oracles } := by
  cases h with
  | same hconfig _ => exact ⟨config.registeredOracles, hconfig.trans hc⟩
  | advanced hconfig _ _ =>
    exact ⟨config.registeredOracles, hconfig.trans hc⟩
  | created c hnone _ _ _ _ =>
    rw [hc] at hnone
    cases hnone
  | relisted c oracles hold hnew _ =>
    rw [hc] at hold
    cases hold
    exact ⟨oracles, hnew⟩

theorem RulesStep.bounds (h : RulesStep w w')
    (hb : ∀ config, w.config = some config →
      3 ≤ config.minConsensus ∧ 300 ≤ config.revealDuration) :
    ∀ config, w'.config = some config →
      3 ≤ config.minConsensus ∧ 300 ≤ config.revealDuration := by
  intro config hc
  cases h with
  | same hconfig _ => exact hb config (hconfig ▸ hc)
  | advanced hconfig _ _ => exact hb config (hconfig ▸ hc)
  | created c _ hsome hmin hreveal _ =>
    rw [hsome] at hc
    cases hc
    exact ⟨hmin, hreveal⟩
  | relisted c oracles hold hnew _ =>
    rw [hnew] at hc
    cases hc
    exact hb c hold

theorem RulesStep.clock (h : RulesStep w w') (hnow : Fixed.InRange 64 w.now) :
    w.now ≤ w'.now ∧ Fixed.InRange 64 w'.now := by
  cases h with
  | same _ heq => exact ⟨Int.le_of_eq heq.symm, heq ▸ hnow⟩
  | advanced _ hle hrange => exact ⟨hle, hrange⟩
  | created _ _ _ _ _ heq => exact ⟨Int.le_of_eq heq.symm, heq ▸ hnow⟩
  | relisted _ _ _ _ heq => exact ⟨Int.le_of_eq heq.symm, heq ▸ hnow⟩

/-- A record left alone stays sound while its balance does not drop. -/
theorem EscrowSound.carried {e : Escrow} (h : EscrowSound env w k e)
    (hrules : RulesStep w w')
    (hbal : w.lamports.bal k ≤ w'.lamports.bal k) :
    EscrowSound env w' k e where
  user := h.user
  funded := Nat.le_trans h.funded hbal
  dated := h.dated
  window := by
    intro hne
    obtain ⟨config, ends, hc, hends, hrange⟩ := h.window hne
    obtain ⟨oracles, hc'⟩ := hrules.kept hc
    exact ⟨_, ends, hc', hends, hrange⟩

theorem Sound.step {u : Pubkey} {id : Bytes}
    (h : Sound env (env.pda (.escrow u id)) w)
    (hstep : step env a w = .ok w') :
    Sound env (env.pda (.escrow u id)) w' := by
  have hrules := step_rules hstep
  refine ⟨(hrules.clock h.clock).2, hrules.bounds h.bounds, ?_⟩
  have hkind : EscrowStep env a (env.pda (.escrow u id)) w w' :=
    step_escrow hstep
  intro x hx hopen
  cases hkind with
  | aside hesc hbal _ =>
    rw [hesc] at hx
    exact (h.escrow x hx hopen).carried hrules hbal
  | opened e _ _ hesc hactive hsubs huser hfund =>
    rw [hesc] at hx
    cases hx
    refine ⟨huser, hfund, ?_, ?_⟩
    · intro hdisp
      rw [hactive] at hdisp
      cases hdisp
    · intro hne
      exact absurd hsubs hne
  | disputed e _ he hactive hw =>
    have hs := h.escrow e he (Or.inl hactive)
    subst hw
    rw [setEscrow_self] at hx
    cases hx
    exact ⟨hs.user, hs.funded, fun _ => ⟨_, rfl, a.tx.clock_i64⟩, hs.window⟩
  | committed e c ends _ he hdisp hends _ hw =>
    have hs := h.escrow e he (Or.inr hdisp)
    subst hw
    rw [setEscrow_self] at hx
    cases hx
    refine ⟨hs.user, hs.funded, hs.dated, ?_⟩
    intro hne
    obtain ⟨config, t, hc, ht, hrange⟩ := hs.window hne
    rw [hends t ht] at hrange
    exact ⟨config, ends, hc, rfl, hrange⟩
  | revealed e config cs s ends _ he hconfig hdisp hends hrange _ _ hw =>
    have hs := h.escrow e he (Or.inr hdisp)
    subst hw
    rw [setEscrow_self] at hx
    cases hx
    exact ⟨hs.user, hs.funded, hs.dated,
      fun _ => ⟨config, ends, hconfig, hends, hrange⟩⟩
  | settled e e' _ _ _ hesc hclosed _ =>
    rw [hesc] at hx
    cases hx
    exact absurd hopen hclosed

theorem escrow_sound (hreach : Reachable (step env) Genesis w)
    (u : Pubkey) (id : Bytes) : Sound env (env.pda (.escrow u id)) w := by
  refine reachable_induct ?_ (fun _ _ _ hI hs => hI.step hs) hreach
  intro s hs
  refine ⟨hs.clock, ?_, ?_⟩
  · intro config hc
    rw [hs.config] at hc
    cases hc
  · intro e he
    rw [hs.escrows] at he
    cases he

-- ==== taking an exit

/-- The escrow is closed, and its amount has left its account. -/
def PaidOut (w w' : World) (k : Pubkey) (e : Escrow) : Prop :=
  (∃ e', w'.escrows k = some e' ∧ ¬ e'.Open)
    ∧ w'.lamports.debited k = w.lamports.debited k + e.amount

/-- Some run of exits pays the escrow out. -/
def CanExit (env : Env Seed) (w : World) (k : Pubkey) (e : Escrow) :
    Prop :=
  ∃ tr w', (∀ a ∈ tr, ExitOp a.op) ∧ run (step env) w tr = .ok w'
    ∧ PaidOut w w' k e

/-- The transaction showing a time, signed by wallets. -/
def txAt (env : Env Seed) (t : Int) (ht : Fixed.InRange 64 t)
    (signers : List Pubkey) (hs : ∀ s, env.pda s ∉ signers) : Tx env where
  signers := signers
  clock := t
  instructions := []
  systemOwned _ := true
  clock_i64 := ht
  no_pda_signs := hs

theorem canExit_of_step (a : Action env) (w' : World) {e : Escrow}
    (hop : ExitOp a.op)
    (hstep : step env a w = .ok w') (hpaid : PaidOut w w' k e) :
    CanExit env w k e := by
  refine ⟨[a], w', ?_, run_cons.mpr ⟨w', hstep, rfl⟩, hpaid⟩
  intro b hb
  rw [List.mem_singleton.mp hb]
  exact hop

theorem canExit_later {e : Escrow} {t : Int} (hs : Sound env k w)
    (hle : w.now ≤ t) (ht : Fixed.InRange 64 t)
    (h : CanExit env { w with now := t } k e) : CanExit env w k e := by
  obtain ⟨tr, w', hops, hrun, hpaid⟩ := h
  refine ⟨⟨txAt env w.now hs.clock [] (by simp), .advanceClock t⟩ :: tr, w',
    ?_, ?_, hpaid⟩
  · intro a ha
    rcases List.mem_cons.mp ha with rfl | htail
    · trivial
    · exact hops a htail
  · refine run_cons.mpr ⟨{ w with now := t }, ?_, hrun⟩
    refine bind_ok.mpr ⟨(), require_ok.mpr rfl, ?_⟩
    exact bind_ok.mpr ⟨(), require_ok.mpr ⟨hle, ht⟩, rfl⟩

theorem Sound.later {t : Int} (hs : Sound env k w)
    (ht : Fixed.InRange 64 t) : Sound env k { w with now := t } where
  clock := ht
  bounds := hs.bounds
  escrow e he hopen := by
    obtain ⟨huser, hfund, hdated, hwindow⟩ := hs.escrow e he hopen
    exact ⟨huser, hfund, hdated, hwindow⟩

theorem payOut_isOk (dst : Pubkey) {n : Nat} (h : n ≤ w.lamports.bal k) :
    ∃ l, payOut w k dst n = .ok { w with lamports := l }
      ∧ l.debited k = w.lamports.debited k + n := by
  obtain ⟨l, hl⟩ : ∃ l, w.lamports.move k dst n = some l :=
    Ledger.move_isSome h
  refine ⟨l, ?_, ?_⟩
  · exact bind_ok.mpr ⟨l, moveLamports_ok.mpr hl, rfl⟩
  · rw [Ledger.debited_moves (Ledger.moves_single hl)]
    simp

theorem canExit_active {e : Escrow} (hs : Sound env k w)
    (he : w.escrows k = some e) (hactive : e.status = .active) :
    CanExit env w k e := by
  have hsound := hs.escrow e he (Or.inl hactive)
  obtain ⟨l, hpay, hdeb⟩ :=
    payOut_isOk e.treasury hsound.funded
  have hsigners : ∀ s, env.pda s ∉ [e.user] := by
    intro s hmem
    exact hsound.user s (List.mem_singleton.mp hmem).symm
  refine canExit_of_step ⟨txAt env w.now hs.clock [e.user] hsigners,
      .rateAndRelease ⟨e.user, e.treasury, k⟩ 3⟩
    (World.setEscrow { w with lamports := l } k
      { e with rating := some 3, status := .released }) trivial ?_ ?_
  · refine bind_ok.mpr ⟨(), require_ok.mpr rfl, ?_⟩
    refine bind_ok.mpr
      ⟨(), requireSigner_ok.mpr (List.mem_singleton.mpr rfl), ?_⟩
    refine bind_ok.mpr ⟨e, load_ok.mpr he, ?_⟩
    refine bind_ok.mpr ⟨(), ensure_ok.mpr rfl, ?_⟩
    refine bind_ok.mpr ⟨(), ensure_ok.mpr rfl, ?_⟩
    refine bind_ok.mpr ⟨(), ensure_ok.mpr (by decide), ?_⟩
    refine bind_ok.mpr ⟨(), ensure_ok.mpr hactive, ?_⟩
    exact bind_ok.mpr ⟨_, hpay, rfl⟩
  · exact ⟨⟨_, setEscrow_self _ _ _, by simp [Escrow.Open]⟩, hdeb⟩

/-- A dispute short of submissions is refunded once its timeout has
passed. -/
theorem canExit_timedOut {e : Escrow} {config : OracleConfig} {d : Int}
    (hs : Sound env k w) (he : w.escrows k = some e)
    (hc : w.config = some config) (hdisp : e.status = .disputed)
    (hfew : e.oracleSubmissions.length < config.minConsensus)
    (hd : e.disputedAt = some d)
    (hrange : Fixed.InRange 64 (d + disputeTimeout))
    (hpassed : d + disputeTimeout < w.now) : CanExit env w k e := by
  have hsound := hs.escrow e he (Or.inr hdisp)
  obtain ⟨l, hpay, hdeb⟩ := payOut_isOk e.user hsound.funded
  refine canExit_of_step ⟨txAt env w.now hs.clock [] (by simp),
      .disputedTimeoutRelease ⟨e.user, k⟩⟩
    (World.setEscrow { w with lamports := l } k
      { e with status := .refunded, refundPercentage := some 100 })
    trivial ?_ ?_
  · refine bind_ok.mpr ⟨(), require_ok.mpr rfl, ?_⟩
    refine bind_ok.mpr ⟨e, load_ok.mpr he, ?_⟩
    refine bind_ok.mpr ⟨(), ensure_ok.mpr rfl, ?_⟩
    refine bind_ok.mpr ⟨config, load_ok.mpr hc, ?_⟩
    refine bind_ok.mpr ⟨(), ensure_ok.mpr hdisp, ?_⟩
    refine bind_ok.mpr ⟨d, okOr_ok.mpr hd, ?_⟩
    refine bind_ok.mpr ⟨_, addI64_ok.mpr ⟨hrange, rfl⟩, ?_⟩
    refine bind_ok.mpr ⟨(), ensure_ok.mpr hpassed, ?_⟩
    refine bind_ok.mpr ⟨(), ensure_ok.mpr (Nat.not_le_of_lt hfew), ?_⟩
    exact bind_ok.mpr ⟨_, hpay, rfl⟩
  · exact ⟨⟨_, setEscrow_self _ _ _, by simp [Escrow.Open]⟩, hdeb⟩

theorem splitAmount_isOk {amount pct : Nat} (hamount : amount < 2 ^ 64)
    (hpct : pct ≤ 100) : ∃ s, splitAmount amount pct = .ok s := by
  have hle : amount * pct ≤ amount * 100 := Nat.mul_le_mul_left _ hpct
  have hlt : amount * pct < 2 ^ 128 := by omega
  refine ⟨(Fixed.wrap 64 (amount * pct / 100),
    amount - Fixed.wrap 64 (amount * pct / 100)), ?_⟩
  refine bind_ok.mpr ⟨amount * pct, ?_, ?_⟩
  · exact okOr_ok.mpr (Fixed.checkedMul_some.mpr ⟨hlt, rfl⟩)
  · refine bind_ok.mpr ⟨amount * pct / 100, ?_, rfl⟩
    exact okOr_ok.mpr (Fixed.checkedDiv_some.mpr ⟨by decide, rfl⟩)

/-- Refund and payment of a funded escrow go through, and debit the
amount between them. -/
theorem payLamports_both {l : Lamports} {user : Pubkey}
    (treasury : Pubkey) {split : Nat × Nat} (hne : user ≠ k)
    (hfund : split.1 + split.2 ≤ l.bal k) :
    ∃ l₁ l₂, (payLamports l k user split.1 : Outcome Lamports) = .ok l₁
      ∧ (payLamports l₁ k treasury split.2 : Outcome Lamports) = .ok l₂
      ∧ l₂.debited k = l.debited k + (split.1 + split.2) := by
  have hfirst : split.1 ≤ l.bal k := by omega
  obtain ⟨l₁, h₁⟩ : ∃ l₁,
      (payLamports l k user split.1 : Outcome Lamports) = .ok l₁ :=
    payLamports_isOk hfirst
  have hbal := Ledger.bal_moves (payLamports_ok h₁) k
  rw [outOf_payment, into_payment, if_pos rfl, if_neg hne] at hbal
  have hsecond : split.2 ≤ l₁.bal k := by omega
  obtain ⟨l₂, h₂⟩ : ∃ l₂,
      (payLamports l₁ k treasury split.2 : Outcome Lamports) = .ok l₂ :=
    payLamports_isOk hsecond
  refine ⟨l₁, l₂, h₁, h₂, ?_⟩
  rw [Ledger.debited_moves (payLamports_ok h₂),
    Ledger.debited_moves (payLamports_ok h₁), outOf_payment, outOf_payment,
    if_pos rfl, if_pos rfl, Nat.add_assoc]

/-- What finalizing a dispute checks apart from the votes. -/
structure Ready (tx : Tx env) (acc : FinalizeDisputeAccounts)
    (config : OracleConfig) (e : Escrow) : Prop where
  user : acc.user = e.user
  treasury : acc.treasury = e.treasury
  disputed : e.status = .disputed
  window : ∃ ends, e.commitPhaseEndsAt = some ends
    ∧ Fixed.InRange 64 (ends + config.revealDuration)
    ∧ (ends + config.revealDuration ≤ tx.clock
      ∨ ∀ c ∈ e.oracleCommitments, c.revealed = true)

/-- A dispute that is ready, with enough submissions and few outliers, is
resolved. -/
theorem finalizeDispute_isOk {tx : Tx env} {acc : FinalizeDisputeAccounts}
    {e : Escrow} {config : OracleConfig} (hs : Sound env acc.escrow w)
    (hk : ∃ s, acc.escrow = env.pda s)
    (he : w.escrows acc.escrow = some e) (hc : w.config = some config)
    (hready : Ready tx acc config e)
    (hmany : config.minConsensus ≤ e.oracleSubmissions.length)
    (hout : outlierCount e.scores config.maxScoreDeviation * 2
      < e.scores.length) :
    ∃ l, finalizeDispute tx acc w = .ok (World.setEscrow
        { w with lamports := l } acc.escrow
        { e with
          qualityScore := some (medianScore e.scores)
          refundPercentage := some
            (calculateRefundPercentage (medianScore e.scores))
          status := .resolved })
      ∧ l.debited acc.escrow = w.lamports.debited acc.escrow + e.amount := by
  have hsound := hs.escrow e he (Or.inr hready.disputed)
  have hamount : e.amount < 2 ^ 64 := by
    have hcap := w.lamports.bounded {acc.escrow}
    rw [Finset.sum_singleton] at hcap
    exact Nat.lt_of_le_of_lt hsound.funded hcap
  obtain ⟨split, hsplit⟩ :=
    splitAmount_isOk hamount (refund_le (medianScore e.scores))
  have hsum := splitAmount_sum (refund_le _) hsplit
  have huser : acc.user ≠ acc.escrow := by
    obtain ⟨s, hs⟩ := hk
    rw [hs, hready.user]
    exact hsound.user s
  have hfund : split.1 + split.2 ≤ w.lamports.bal acc.escrow := by
    rw [hsum]
    exact hsound.funded
  obtain ⟨l₁, l₂, h₁, h₂, hdeb⟩ :=
    payLamports_both acc.treasury huser hfund
  obtain ⟨ends, hends, hrange, hpassed⟩ := hready.window
  refine ⟨l₂, ?_, ?_⟩
  · refine bind_ok.mpr ⟨e, load_ok.mpr he, ?_⟩
    refine bind_ok.mpr ⟨(), ensure_ok.mpr hready.user, ?_⟩
    refine bind_ok.mpr ⟨(), ensure_ok.mpr hready.treasury, ?_⟩
    refine bind_ok.mpr ⟨config, load_ok.mpr hc, ?_⟩
    refine bind_ok.mpr ⟨(), ensure_ok.mpr hready.disputed, ?_⟩
    refine bind_ok.mpr ⟨(), ensure_ok.mpr hmany, ?_⟩
    refine bind_ok.mpr ⟨ends, okOr_ok.mpr hends, ?_⟩
    refine bind_ok.mpr ⟨_, addI64_ok.mpr ⟨hrange, rfl⟩, ?_⟩
    refine bind_ok.mpr ⟨(), ensure_ok.mpr hpassed, ?_⟩
    refine bind_ok.mpr ⟨(), ensure_ok.mpr hout, ?_⟩
    refine bind_ok.mpr ⟨split, hsplit, ?_⟩
    refine bind_ok.mpr ⟨l₁, h₁, ?_⟩
    exact bind_ok.mpr ⟨l₂, h₂, rfl⟩
  · rw [hdeb, hsum]

/-- A dispute with enough submissions and few outliers is resolved once
the reveal window is over. -/
theorem canExit_finalized {e : Escrow} {config : OracleConfig} {ends : Int}
    (hs : Sound env k w) (hk : ∃ s, k = env.pda s)
    (he : w.escrows k = some e) (hc : w.config = some config)
    (hdisp : e.status = .disputed)
    (hmany : config.minConsensus ≤ e.oracleSubmissions.length)
    (hout : outlierCount e.scores config.maxScoreDeviation * 2
      < e.scores.length)
    (hends : e.commitPhaseEndsAt = some ends)
    (hrange : Fixed.InRange 64 (ends + config.revealDuration))
    (hpassed : ends + config.revealDuration ≤ w.now) :
    CanExit env w k e := by
  obtain ⟨l, hok, hdeb⟩ := @finalizeDispute_isOk env w
    (txAt env w.now hs.clock [] (by simp)) ⟨e.user, e.treasury, k⟩ e config
    hs hk he hc ⟨rfl, rfl, hdisp, ends, hends, hrange, Or.inl hpassed⟩ hmany
    hout
  refine canExit_of_step ⟨txAt env w.now hs.clock [] (by simp),
      .finalizeDispute ⟨e.user, e.treasury, k⟩⟩
    (World.setEscrow { w with lamports := l } k
      { e with
        qualityScore := some (medianScore e.scores)
        refundPercentage := some
          (calculateRefundPercentage (medianScore e.scores))
        status := .resolved }) trivial ?_ ?_
  · exact bind_ok.mpr ⟨(), require_ok.mpr rfl, hok⟩
  · exact ⟨⟨_, setEscrow_self _ _ _, by simp [Escrow.Open]⟩, hdeb⟩

/-- An exitable escrow has an exit: wait for its deadline, then take
it. -/
theorem canExit_of_exitable {e : Escrow} {config : OracleConfig}
    (hs : Sound env k w) (hk : ∃ s, k = env.pda s)
    (he : w.escrows k = some e) (hc : w.config = some config)
    (h : Exitable config e) : CanExit env w k e := by
  rcases h with hactive | ⟨hdisp, hfew, d, hd, hcomes⟩
    | ⟨hdisp, hmany, hout⟩
  · exact canExit_active hs he hactive
  · -- wait past the timeout of the dispute
    obtain ⟨d', hd', hdrange⟩ := (hs.escrow e he (Or.inr hdisp)).dated hdisp
    obtain rfl : d = d' := Option.some.inj (hd.symm.trans hd')
    have htimeout : disputeTimeout = 259200 := by decide
    have hrange : Fixed.InRange 64 (d + disputeTimeout) := by
      obtain ⟨hlo, -⟩ := hdrange
      constructor
      · omega
      · omega
    have ht : Fixed.InRange 64 (max w.now (d + disputeTimeout + 1)) := by
      obtain ⟨hlo, hhi⟩ := hs.clock
      constructor
      · omega
      · omega
    refine canExit_later hs (le_max_left _ (d + disputeTimeout + 1)) ht ?_
    refine canExit_timedOut (hs.later ht) he hc hdisp hfew hd hrange ?_
    show d + disputeTimeout < max w.now (d + disputeTimeout + 1)
    omega
  · -- wait for the end of the reveal window
    have hmin := (hs.bounds config hc).1
    have hne : e.oracleSubmissions ≠ [] := by
      intro hnil
      rw [hnil, List.length_nil] at hmany
      omega
    obtain ⟨c, ends, hc', hends, hrange⟩ :=
      (hs.escrow e he (Or.inr hdisp)).window hne
    obtain rfl : config = c := Option.some.inj (hc.symm.trans hc')
    have ht : Fixed.InRange 64
        (max w.now (ends + config.revealDuration)) := by
      obtain ⟨hlo, hhi⟩ := hs.clock
      obtain ⟨hlo', hhi'⟩ := hrange
      constructor
      · omega
      · omega
    refine canExit_later hs
      (le_max_left _ (ends + config.revealDuration)) ht ?_
    exact canExit_finalized (hs.later ht) hk he hc hdisp hmany hout hends
      hrange (le_max_right _ _)

/-- Until it is settled, the exits leave the escrow and the rules alone;
and what they settle is exitable. -/
theorem untouched_or_exitable {u : Pubkey} {id : Bytes} {e : Escrow}
    {config : OracleConfig} (hop : ExitOp a.op)
    (h : Exitable config e
      ∨ (w.escrows (env.pda (.escrow u id)) = some e
        ∧ ∃ oracles, w.config
            = some { config with registeredOracles := oracles }))
    (hstep : step env a w = .ok w') :
    Exitable config e
      ∨ (w'.escrows (env.pda (.escrow u id)) = some e
        ∧ ∃ oracles, w'.config
            = some { config with registeredOracles := oracles }) := by
  rcases h with hexit | ⟨he, oracles, hc⟩
  · exact Or.inl hexit
  · have hkept := (step_rules hstep).kept hc
    have hkind : EscrowStep env a (env.pda (.escrow u id)) w w' :=
      step_escrow hstep
    cases hkind with
    | aside hesc _ _ =>
      right
      rw [hesc]
      exact ⟨he, hkept⟩
    | opened _ hno => exact absurd hop hno
    | disputed _ hno => exact absurd hop hno
    | committed _ _ _ hno => exact absurd hop hno
    | revealed _ _ _ _ _ hno => exact absurd hop hno
    | settled x _ hx _ hexit =>
      left
      rw [he] at hx
      cases hx
      have hrelisted := hexit _ hc
      exact hrelisted

/-- A reachable open escrow can be paid out, by the exits, if and only if
it is exitable. This is about the guards: the recipients are taken as
writable and above the rent minimum, which the runtime sees to. -/
theorem exit_iff {u : Pubkey} {id : Bytes} {e : Escrow} {config : OracleConfig}
    (hreach : Reachable (step env) Genesis w)
    (he : w.escrows (env.pda (.escrow u id)) = some e) (hopen : e.Open)
    (hc : w.config = some config) :
    CanExit env w (env.pda (.escrow u id)) e ↔ Exitable config e := by
  constructor
  · rintro ⟨tr, w', hops, hrun, ⟨e', he', hclosed⟩, -⟩
    have hinv : Exitable config e
        ∨ (w'.escrows (env.pda (.escrow u id)) = some e
          ∧ ∃ oracles, w'.config
              = some { config with registeredOracles := oracles }) := by
      refine run_induct_meets (I := fun s => Exitable config e
          ∨ (s.escrows (env.pda (.escrow u id)) = some e
            ∧ ∃ oracles, s.config
                = some { config with registeredOracles := oracles }))
        ?_ (Or.inr ⟨he, config.registeredOracles, hc⟩)
        (meets_of_forall hops) hrun
      intro a s s' hI hcond hs
      exact untouched_or_exitable hcond hI hs
    rcases hinv with hexit | ⟨hsame, -⟩
    · exact hexit
    · rw [hsame] at he'
      cases he'
      exact absurd hopen hclosed
  · intro h
    exact canExit_of_exitable (escrow_sound hreach u id) ⟨_, rfl⟩ he hc h

-- ==== stranded

/-- A dispute with enough submissions, at least half of them outliers,
whose reveal window is over. -/
structure Stranded (k : Pubkey) (e : Escrow) (w : World) : Prop where
  clock : Fixed.InRange 64 w.now
  escrow : w.escrows k = some e
  disputed : e.status = .disputed
  refused : ∃ config ends, w.config = some config ∧ 300 ≤ config.revealDuration
    ∧ config.minConsensus ≤ e.oracleSubmissions.length
    ∧ e.scores.length ≤ outlierCount e.scores config.maxScoreDeviation * 2
    ∧ e.commitPhaseEndsAt = some ends
    ∧ ends + config.revealDuration ≤ w.now

theorem Stranded.step {u : Pubkey} {id : Bytes} {e : Escrow}
    (h : Stranded (env.pda (.escrow u id)) e w)
    (hstep : step env a w = .ok w') :
    Stranded (env.pda (.escrow u id)) e w' := by
  obtain ⟨config, ends, hc, hreveal, hmany, hout, hends, hover⟩ := h.refused
  have hrules := step_rules hstep
  obtain ⟨oracles, hc'⟩ := hrules.kept hc
  obtain ⟨hle, hrange⟩ := hrules.clock h.clock
  have hnow := step_clock hstep
  have hkind : EscrowStep env a (env.pda (.escrow u id)) w w' :=
    step_escrow hstep
  have hdisp := h.disputed
  cases hkind with
  | aside hesc _ _ =>
    exact ⟨hrange, hesc.trans h.escrow, hdisp, _, ends, hc', hreveal,
      hmany, hout, hends, Int.le_trans hover hle⟩
  | opened x _ hnone =>
    rw [h.escrow] at hnone
    cases hnone
  | disputed x _ hx hactive =>
    rw [h.escrow] at hx
    cases hx
    rw [hdisp] at hactive
    cases hactive
  | committed x c t _ hx _ ht hclock =>
    rw [h.escrow] at hx
    cases hx
    -- the commit phase is over
    have := ht ends hends
    omega
  | revealed x config' cs s t _ hx hconfig _ ht _ hclock =>
    rw [h.escrow] at hx
    cases hx
    rw [hc] at hconfig
    cases hconfig
    rw [hends] at ht
    cases ht
    -- so is the reveal phase
    omega
  | settled x _ hx _ hexit =>
    rw [h.escrow] at hx
    cases hx
    rcases hexit config hc with hactive | ⟨-, hfew, -⟩ | ⟨-, -, hlt⟩
    · rw [hdisp] at hactive
      cases hactive
    · omega
    · omega

theorem stranded_forever {u : Pubkey} {id : Bytes} {e : Escrow}
    {tr : List (Action env)}
    (h : Stranded (env.pda (.escrow u id)) e w)
    (hrun : run (step env) w tr = .ok w') :
    Stranded (env.pda (.escrow u id)) e w' :=
  run_induct (fun _ _ _ hI hs => hI.step hs) h hrun

-- ==== instances

theorem start_genesis : Genesis Concrete.start :=
  ⟨rfl, fun _ => rfl, by decide⟩

/-- The parts of a state the instances look at: the escrow and the
configuration. -/
def atEscrow (p : OracleConfig → Escrow → Bool) (w : World) : Bool :=
  w.config.any fun config =>
    (w.escrows Concrete.escrowKey).any fun e => p config e

theorem atEscrow_ok {p : OracleConfig → Escrow → Bool}
    (h : atEscrow p w = true) :
    ∃ config e, w.config = some config
      ∧ w.escrows Concrete.escrowKey = some e ∧ p config e = true := by
  obtain ⟨config, hc, h'⟩ := (Option.any_eq_true _ _).mp h
  obtain ⟨e, he, hp⟩ := (Option.any_eq_true _ _).mp h'
  exact ⟨config, e, hc, he, hp⟩

open Concrete in
/-- Three oracles within the deviation of each other: the dispute has an
exit exactly because it is exitable, and it is. -/
theorem exit_iff_agreed :
    ∃ w e config, Reachable (step Concrete.env) Genesis w
      ∧ w.escrows escrowKey = some e ∧ w.config = some config
      ∧ Exitable config e
      ∧ (CanExit Concrete.env w escrowKey e ↔ Exitable config e) := by
  obtain ⟨w, hrun, hw⟩ := check_ok (show check (atEscrow
      fun config e => decide (e.status = .disputed)
        && (decide (config.minConsensus ≤ e.oracleSubmissions.length)
          && decide (outlierCount e.scores config.maxScoreDeviation * 2
            < e.scores.length)))
    (run (step Concrete.env) start (dispute ++ vote 50 60 65)) = true
      by decide)
  obtain ⟨config, e, hc, he, hp⟩ := atEscrow_ok hw
  rw [Bool.and_eq_true, Bool.and_eq_true, decide_eq_true_eq,
    decide_eq_true_eq, decide_eq_true_eq] at hp
  obtain ⟨hdisp, hmany, hout⟩ := hp
  have hreach : Reachable (step Concrete.env) Genesis w :=
    ⟨start, _, start_genesis, hrun⟩
  exact ⟨w, e, config, hreach, he, hc, Or.inr (Or.inr ⟨hdisp, hmany, hout⟩),
    exit_iff hreach he (Or.inr hdisp) hc⟩

open Concrete in
/-- Scores 0, 50 and 100 under a deviation of 15: the escrow is disputed
and funded, no run of exits pays it out, and no run of anything ever
changes it. -/
theorem dispute_stranded :
    ∃ w e config, Genesis start
      ∧ run (step Concrete.env) start (dispute ++ vote 0 50 100) = .ok w
      ∧ w.escrows escrowKey = some e ∧ w.config = some config
      ∧ e.status = .disputed ∧ e.amount = 1000000000
      ∧ e.amount ≤ w.lamports.bal escrowKey
      ∧ ¬ CanExit Concrete.env w escrowKey e
      ∧ ∀ tr w', run (step Concrete.env) w tr = .ok w' →
          w'.escrows escrowKey = some e := by
  obtain ⟨w, hrun, hw⟩ := check_ok (show check (fun w =>
      decide (1000000000 ≤ w.lamports.bal escrowKey)
      && (decide (w.now = 1360) && atEscrow (fun config e =>
        decide (e.status = .disputed ∧ e.amount = 1000000000
          ∧ config.revealDuration = 300
          ∧ config.minConsensus ≤ e.oracleSubmissions.length
          ∧ e.scores.length ≤ outlierCount e.scores config.maxScoreDeviation * 2
          ∧ e.commitPhaseEndsAt = some 1060)) w))
    (run (step Concrete.env) start (dispute ++ vote 0 50 100)) = true
      by decide)
  rw [Bool.and_eq_true, Bool.and_eq_true, decide_eq_true_eq,
    decide_eq_true_eq] at hw
  obtain ⟨hbal, hnow, hat⟩ := hw
  obtain ⟨config, e, hc, he, hp⟩ := atEscrow_ok hat
  obtain ⟨hdisp, hamount, hreveal, hmany, hout, hends⟩ :=
    of_decide_eq_true hp
  have hstranded : Stranded escrowKey e w := by
    refine ⟨by rw [hnow]; decide, he, hdisp, config, 1060, hc, ?_, hmany,
      hout, hends, ?_⟩
    · omega
    · omega
  have hforever : ∀ tr w', run (step Concrete.env) w tr = .ok w' →
      w'.escrows escrowKey = some e :=
    fun tr w' hrun' => (stranded_forever hstranded hrun').escrow
  refine ⟨w, e, config, start_genesis, hrun, he, hc, hdisp, hamount, ?_, ?_,
    hforever⟩
  · rw [hamount]
    exact hbal
  · rintro ⟨tr, w', -, hrun', ⟨e', he', hclosed⟩, -⟩
    rw [hforever tr w' hrun'] at he'
    cases he'
    exact hclosed (Or.inr hdisp)

end KamiyoProtocol.CompanionEscrow
