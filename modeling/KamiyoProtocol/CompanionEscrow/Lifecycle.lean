/-
The life of one escrow, seen from its address.

`step_escrow` is the inversion lemma the invariants are derived from: an
action leaves the escrow alone, opens it, disputes it, records a vote on
it, or settles it, and lamports leave the address in the last case only.
Every settlement finds the escrow `Exitable`, which is the condition on
its record under which one of the four exits is open.

`Sound` is what every reachable escrow carries: its user is a wallet, its
amount is still there, a dispute has a date, and revealed scores come
with a reveal window the clock can reach.
-/
import KamiyoProtocol.CompanionEscrow.Program

namespace KamiyoProtocol.CompanionEscrow

open Solana Exec Function

variable {env : Env Seed} {w w' : World} {k : Pubkey}

-- ==== the exits

/-- The actions the exits consist of: the clock and the four releases. -/
def ExitOp : Op → Prop
  | .advanceClock _ | .rateAndRelease _ _ | .timeoutRelease _
  | .finalizeDispute _ | .disputedTimeoutRelease _ => True
  | _ => False

/-- The timeout of the dispute is a time the clock can pass. -/
def TimeoutComes (e : Escrow) : Prop :=
  ∃ d, e.disputedAt = some d ∧ d + disputeTimeout < 2 ^ 63 - 1

/-- An exit is open to the escrow: it is not disputed, or its dispute is
short of submissions and times out, or its submissions are enough and
less than half of them are outliers. -/
def Exitable (config : OracleConfig) (e : Escrow) : Prop :=
  e.status = .active
    ∨ (e.status = .disputed ∧ e.oracleSubmissions.length < config.minConsensus
      ∧ TimeoutComes e)
    ∨ (e.status = .disputed ∧ config.minConsensus ≤ e.oracleSubmissions.length
      ∧ outlierCount e.scores config.maxScoreDeviation * 2 < e.scores.length)

-- ==== one step

/-- The escrow at `k` is paid out: its amount leaves it, for its user and
its treasury. -/
structure Settlement (k : Pubkey) (w w' : World) (e e' : Escrow) : Prop where
  user : e'.user = e.user
  treasury : e'.treasury = e.treasury
  amount : e'.amount = e.amount
  moves : ∃ ts, w.lamports.moves ts = some w'.lamports
    ∧ Transfer.outOf ts k = e.amount
    ∧ ∀ t ∈ ts, t.dst = e.user ∨ t.dst = e.treasury

/-- What one action does to the escrow at `k`. -/
inductive EscrowStep (env : Env Seed) (a : Action env) (k : Pubkey)
    (w w' : World) : Prop
  | aside (hesc : w'.escrows k = w.escrows k)
      (hbal : w.lamports.bal k ≤ w'.lamports.bal k)
      (hmoves : ∃ ts, w.lamports.moves ts = some w'.lamports
        ∧ ∀ t ∈ ts, t.src ≠ k)
  | opened (e : Escrow) (hop : ¬ ExitOp a.op)
      (hnone : w.escrows k = none) (hesc : w'.escrows k = some e)
      (hactive : e.status = .active) (hsubs : e.oracleSubmissions = [])
      (huser : ∀ s, e.user ≠ env.pda s)
      (hfund : e.amount ≤ w'.lamports.bal k)
  | disputed (e : Escrow) (hop : ¬ ExitOp a.op)
      (he : w.escrows k = some e) (hactive : e.status = .active)
      (hw : w' = w.setEscrow k
        { e with status := .disputed, disputedAt := some a.tx.clock })
  | committed (e : Escrow) (c : OracleCommitment) (ends : Int)
      (hop : ¬ ExitOp a.op) (he : w.escrows k = some e)
      (hdisp : e.status = .disputed)
      (hends : ∀ t, e.commitPhaseEndsAt = some t → t = ends)
      (hclock : a.tx.clock < ends)
      (hw : w' = w.setEscrow k
        { e with
          commitPhaseEndsAt := some ends
          oracleCommitments := e.oracleCommitments ++ [c] })
  | revealed (e : Escrow) (config : OracleConfig)
      (cs : List OracleCommitment) (s : OracleSubmission) (ends : Int)
      (hop : ¬ ExitOp a.op) (he : w.escrows k = some e)
      (hconfig : w.config = some config) (hdisp : e.status = .disputed)
      (hends : e.commitPhaseEndsAt = some ends)
      (hrange : Fixed.InRange 64 (ends + config.revealDuration))
      (hclock : a.tx.clock < ends + config.revealDuration)
      (hscore : s.qualityScore ≤ 100)
      (hw : w' = w.setEscrow k
        { e with
          oracleCommitments := cs
          oracleSubmissions := e.oracleSubmissions ++ [s] })
  | settled (e e' : Escrow) (he : w.escrows k = some e) (hopen : e.Open)
      (hexit : ∀ config, w.config = some config → Exitable config e)
      (hesc : w'.escrows k = some e') (hclosed : ¬ e'.Open)
      (hpaid : Settlement k w w' e e')

variable {a : Action env}

theorem aside_moves {ts : List (Transfer Pubkey)}
    (hesc : w'.escrows k = w.escrows k)
    (hl : w.lamports.moves ts = some w'.lamports)
    (hsrc : ∀ t ∈ ts, t.src ≠ k) : EscrowStep env a k w w' :=
  .aside hesc (Ledger.bal_mono hl hsrc) ⟨ts, hl, hsrc⟩

theorem aside_rfl (hesc : w'.escrows = w.escrows)
    (hl : w'.lamports = w.lamports) : EscrowStep env a k w w' := by
  have hnone : w.lamports.moves [] = some w'.lamports := by
    rw [hl]
    rfl
  exact aside_moves (by rw [hesc]) hnone (by simp)

/-- Settling the escrow at `j` by moves out of it, worth its amount, to
its user and its treasury: settled there, an aside elsewhere. -/
theorem settled_moves {j : Pubkey} {e e' : Escrow} {l : Lamports}
    {ts : List (Transfer Pubkey)} (he : w.escrows j = some e)
    (hopen : e.Open)
    (hexit : ∀ config, w.config = some config → Exitable config e)
    (hclosed : ¬ e'.Open) (hterms : e'.user = e.user
      ∧ e'.treasury = e.treasury ∧ e'.amount = e.amount)
    (hl : w.lamports.moves ts = some l)
    (hends : ∀ t ∈ ts, t.src = j ∧ (t.dst = e.user ∨ t.dst = e.treasury))
    (hout : Transfer.outOf ts j = e.amount) :
    EscrowStep env a k w
      (World.setEscrow { w with lamports := l } j e') := by
  by_cases hk : k = j
  · subst hk
    obtain ⟨huser, htreasury, hamount⟩ := hterms
    exact .settled e e' he hopen hexit (setEscrow_self _ _ _) hclosed
      ⟨huser, htreasury, hamount, ts, hl, hout, fun t ht => (hends t ht).2⟩
  · refine aside_moves (update_of_ne hk ..) hl ?_
    intro t ht
    rw [(hends t ht).1]
    exact Ne.symm hk

theorem payOut_ok {dst : Pubkey} {n : Nat} (h : payOut w k dst n = .ok w') :
    ∃ l, w' = { w with lamports := l }
      ∧ w.lamports.moves [⟨k, dst, n⟩] = some l := by
  simp only [payOut, bind_ok, moveLamports_ok] at h
  obtain ⟨l, hl, hw⟩ := h
  cases hw
  exact ⟨l, rfl, Ledger.moves_single hl⟩

/-- A payout of the whole amount to one of the two settles. -/
theorem settled_payOut {j dst : Pubkey} {e e' : Escrow} {m : World}
    (he : w.escrows j = some e) (hopen : e.Open)
    (hexit : ∀ config, w.config = some config → Exitable config e)
    (hclosed : ¬ e'.Open) (hterms : e'.user = e.user
      ∧ e'.treasury = e.treasury ∧ e'.amount = e.amount)
    (hdst : dst = e.user ∨ dst = e.treasury)
    (h : payOut w j dst e.amount = .ok m) :
    EscrowStep env a k w (m.setEscrow j e') := by
  obtain ⟨l, rfl, hl⟩ := payOut_ok h
  refine settled_moves he hopen hexit hclosed hterms hl ?_ ?_
  · intro t ht
    rw [List.mem_singleton] at ht
    rw [ht]
    exact ⟨rfl, hdst⟩
  · simp

/-- Writing a vote-phase change at `j`: the change there, an aside
elsewhere. -/
theorem rewritten {j : Pubkey} {e' : Escrow}
    (h : EscrowStep env a j w (w.setEscrow j e')) :
    EscrowStep env a k w (w.setEscrow j e') := by
  by_cases hk : k = j
  · rw [hk]
    exact h
  · exact aside_moves (update_of_ne hk ..) (Ledger.moves_nil _) (by simp)

theorem createEscrow_step {acc : CreateEscrowAccounts} {id : Bytes}
    {n : Nat} {u : Pubkey} {id' : Bytes} (hop : ¬ ExitOp a.op)
    (h : createEscrow env a.tx acc id n w = .ok w') :
    EscrowStep env a (env.pda (.escrow u id')) w w' := by
  simp only [createEscrow, bind_ok, requireSigner_ok, requireFresh_ok,
    systemTransfer_ok] at h
  obtain ⟨-, hsig, -, hnone, l, hl, -, -, -, -, -, -, -, -, -, -, -, -, b, -,
    l', hl', hw⟩ := h
  cases hw
  obtain ⟨ts, hts, hsrc⟩ := fundRent_moves hl
  have hmoves := Ledger.moves_append hts (Ledger.moves_single hl')
  have hne : ∀ s, acc.user ≠ env.pda s := fun s => signer_ne hsig
  by_cases hk : env.pda (.escrow u id') = env.pda (.escrow acc.user id)
  · rw [hk]
    refine .opened _ hop hnone (setEscrow_self _ _ _) rfl rfl hne ?_
    have hbal := Ledger.bal_move hl' (env.pda (.escrow acc.user id))
    rw [if_neg (hne _), if_pos rfl] at hbal
    show n ≤ l'.bal (env.pda (.escrow acc.user id))
    omega
  · refine aside_moves (update_of_ne hk ..) hmoves ?_
    intro t ht
    rcases List.mem_append.mp ht with hrent | hamount
    · rw [hsrc t hrent]
      exact hne _
    · rw [List.mem_singleton] at hamount
      rw [hamount]
      exact hne _

theorem rateAndRelease_step {acc : RateAndReleaseAccounts} {rating : Nat}
    (h : rateAndRelease a.tx acc rating w = .ok w') :
    EscrowStep env a k w w' := by
  simp only [rateAndRelease, bind_ok, load_ok, ensure_ok] at h
  obtain ⟨-, -, e, he, -, huser, -, htreasury, -, -, -, hactive, h⟩ := h
  have hexit : ∀ config, w.config = some config → Exitable config e :=
    fun _ _ => Or.inl hactive
  split at h
  · obtain ⟨m, hm, hw⟩ := bind_ok.mp h
    cases hw
    exact settled_payOut he (Or.inl hactive) hexit (by simp [Escrow.Open])
      ⟨rfl, rfl, rfl⟩ (Or.inr htreasury.symm) hm
  · obtain ⟨m, hm, hw⟩ := bind_ok.mp h
    cases hw
    exact settled_payOut he (Or.inl hactive) hexit (by simp [Escrow.Open])
      ⟨rfl, rfl, rfl⟩ (Or.inl huser.symm) hm

theorem markDisputed_step {acc : MarkDisputedAccounts}
    (hop : ¬ ExitOp a.op) (h : markDisputed a.tx acc w = .ok w') :
    EscrowStep env a k w w' := by
  simp only [markDisputed, bind_ok, load_ok, ensure_ok] at h
  obtain ⟨-, -, e, he, -, -, -, hactive, -, -, -, -, hw⟩ := h
  cases hw
  exact rewritten (.disputed e hop he hactive rfl)

theorem commitPhaseEnd_ok {tx : Tx env} {config : OracleConfig}
    {e : Escrow} {ends : Int}
    (h : commitPhaseEnd tx config e = .ok ends) :
    ∀ t, e.commitPhaseEndsAt = some t → t = ends := by
  intro t ht
  rw [commitPhaseEnd, ht] at h
  cases h
  rfl

theorem commitVote_step {acc : CommitVoteAccounts} {hash : Bytes}
    (hop : ¬ ExitOp a.op) (h : commitVote env a.tx acc hash w = .ok w') :
    EscrowStep env a k w w' := by
  simp only [commitVote, bind_ok, load_ok, ensure_ok] at h
  obtain ⟨-, -, e, he, config, -, -, hdisp, -, -, -, -, -, -, -, -, ends,
    hends, -, hclock, hw⟩ := h
  cases hw
  exact rewritten
    (.committed e _ ends hop he hdisp (commitPhaseEnd_ok hends) hclock rfl)

theorem revealVote_step {acc : RevealVoteAccounts} {score : Nat}
    {salt : Bytes} (hop : ¬ ExitOp a.op)
    (h : revealVote env a.tx acc score salt w = .ok w') :
    EscrowStep env a k w w' := by
  simp only [revealVote, bind_ok, load_ok, ensure_ok, okOr_ok, addI64_ok] at h
  obtain ⟨-, -, e, he, config, hconfig, -, hdisp, -, hscore, ends, hends, -,
    -, _, ⟨hrange, rfl⟩, -, hclock, r, -, -, -, -, -, -, -, hw⟩ := h
  cases hw
  exact rewritten (.revealed e config _ _ ends hop he hconfig hdisp hends
    hrange hclock hscore rfl)

theorem splitAmount_sum {amount pct : Nat} {s : Nat × Nat}
    (hpct : pct ≤ 100) (h : splitAmount amount pct = .ok s) :
    s.1 + s.2 = amount := by
  simp only [splitAmount, bind_ok, okOr_ok,
    Fixed.checkedMul_some, Fixed.checkedDiv_some] at h
  obtain ⟨x, ⟨-, rfl⟩, y, ⟨-, rfl⟩, hs⟩ := h
  cases hs
  have hwrap := Fixed.wrap_le 64 (amount * pct / 100)
  have hle : amount * pct / 100 ≤ amount := by
    have := Nat.mul_le_mul_left amount hpct
    omega
  show Fixed.wrap 64 (amount * pct / 100)
    + (amount - Fixed.wrap 64 (amount * pct / 100)) = amount
  omega

theorem finalizeDispute_step {acc : FinalizeDisputeAccounts}
    (h : finalizeDispute a.tx acc w = .ok w') :
    EscrowStep env a k w w' := by
  simp only [finalizeDispute, bind_ok, load_ok, ensure_ok] at h
  obtain ⟨e, he, -, huser, -, htreasury, config, hconfig, -, hdisp, -, hcons,
    ends, -, -, -, -, -, -, hout, split, hsplit, l, hl, l', hl', hw⟩ := h
  cases hw
  have hmoves := Ledger.moves_append (payLamports_ok hl)
    (payLamports_ok hl')
  refine settled_moves he (Or.inr hdisp) ?_ (by simp [Escrow.Open])
    ⟨rfl, rfl, rfl⟩ hmoves ?_ ?_
  · intro c hc
    rw [hconfig] at hc
    cases hc
    exact Or.inr (Or.inr ⟨hdisp, hcons, hout⟩)
  · intro t ht
    rcases List.mem_append.mp ht with hrefund | hpayment
    · obtain ⟨hsrc, hdst⟩ := of_mem_payment hrefund
      exact ⟨hsrc, Or.inl (hdst.trans huser)⟩
    · obtain ⟨hsrc, hdst⟩ := of_mem_payment hpayment
      exact ⟨hsrc, Or.inr (hdst.trans htreasury)⟩
  · rw [Transfer.outOf_append, outOf_payment, outOf_payment, if_pos rfl,
      if_pos rfl]
    exact splitAmount_sum (refund_le _) hsplit

theorem timeoutRelease_step {acc : TimeoutReleaseAccounts}
    (h : timeoutRelease a.tx acc w = .ok w') :
    EscrowStep env a k w w' := by
  simp only [timeoutRelease, bind_ok, load_ok, ensure_ok] at h
  obtain ⟨e, he, -, htreasury, -, hactive, -, -, -, -, m, hm, hw⟩ := h
  cases hw
  exact settled_payOut he (Or.inl hactive) (fun _ _ => Or.inl hactive)
    (by simp [Escrow.Open]) ⟨rfl, rfl, rfl⟩ (Or.inr htreasury.symm) hm

theorem disputedTimeoutRelease_step {acc : DisputedTimeoutReleaseAccounts}
    (h : disputedTimeoutRelease a.tx acc w = .ok w') :
    EscrowStep env a k w w' := by
  simp only [disputedTimeoutRelease, bind_ok, load_ok, ensure_ok,
    okOr_ok, addI64_ok] at h
  obtain ⟨e, he, -, huser, config, hconfig, -, hdisp, d, hd, _, ⟨-, rfl⟩, -,
    hclock, -, hfew, m, hm, hw⟩ := h
  cases hw
  refine settled_payOut he (Or.inr hdisp) ?_ (by simp [Escrow.Open])
    ⟨rfl, rfl, rfl⟩ (Or.inl huser) hm
  intro c hc
  rw [hconfig] at hc
  cases hc
  -- the clock passed the timeout, so the timeout was within its range
  have hcomes : d + disputeTimeout < 2 ^ 63 - 1 := by
    have := a.tx.clock_i64.2
    omega
  exact Or.inr (Or.inl ⟨hdisp, Nat.lt_of_not_le hfew, d, hd, hcomes⟩)

theorem step_clock (h : step env a w = .ok w') : a.tx.clock = w.now := by
  simp only [step, bind_ok, require_ok] at h
  obtain ⟨-, hclock, -⟩ := h
  exact hclock

theorem step_escrow {u : Pubkey} {id : Bytes} (h : step env a w = .ok w') :
    EscrowStep env a (env.pda (.escrow u id)) w w' := by
  simp only [step, bind_ok, require_ok] at h
  obtain ⟨-, -, h⟩ := h
  unfold perform at h
  split at h
  · simp only [initializeOracleConfig, bind_ok] at h
    obtain ⟨-, -, -, -, -, -, -, -, -, -, -, -, hw⟩ := h
    cases hw
    exact aside_rfl rfl rfl
  · simp only [registerOracle, bind_ok] at h
    obtain ⟨-, -, config, -, -, -, -, -, -, -, hw⟩ := h
    cases hw
    exact aside_rfl rfl rfl
  · simp only [removeOracle, bind_ok] at h
    obtain ⟨-, -, config, -, -, -, r, -, hw⟩ := h
    cases hw
    exact aside_rfl rfl rfl
  · simp only [initializeTreasury, bind_ok] at h
    obtain ⟨-, -, b, -, hw⟩ := h
    cases hw
    exact aside_rfl rfl rfl
  · next hop => exact createEscrow_step (by simp [hop, ExitOp]) h
  · exact rateAndRelease_step h
  · next hop => exact markDisputed_step (by simp [hop, ExitOp]) h
  · next hop => exact commitVote_step (by simp [hop, ExitOp]) h
  · next hop => exact revealVote_step (by simp [hop, ExitOp]) h
  · exact finalizeDispute_step h
  · exact timeoutRelease_step h
  · exact disputedTimeoutRelease_step h
  · obtain ⟨-, -, hw⟩ := bind_ok.mp h
    cases hw
    exact aside_rfl rfl rfl
  · simp only [bind_ok, requireSigner_ok, systemTransfer_ok] at h
    obtain ⟨-, hs, l, hl, hw⟩ := h
    cases hw
    refine aside_moves rfl (Ledger.moves_single hl) ?_
    intro t ht
    rw [List.mem_singleton] at ht
    rw [ht]
    exact signer_ne hs
  · obtain ⟨b, -, hw⟩ := bind_ok.mp h
    cases hw
    exact aside_rfl rfl rfl

-- ==== clock and configuration

/-- The clock moves forward, within its range; the configuration is
created once, within its bounds, and afterwards changes in its list of
oracles only. -/
inductive RulesStep (w w' : World) : Prop
  | same (hconfig : w'.config = w.config) (hnow : w'.now = w.now)
  | advanced (hconfig : w'.config = w.config) (hle : w.now ≤ w'.now)
      (hrange : Fixed.InRange 64 w'.now)
  | created (config : OracleConfig) (hnone : w.config = none)
      (hsome : w'.config = some config)
      (hmin : 3 ≤ config.minConsensus)
      (hreveal : 300 ≤ config.revealDuration) (hnow : w'.now = w.now)
  | relisted (config : OracleConfig) (oracles : List Pubkey)
      (hold : w.config = some config)
      (hnew : w'.config = some
        { config with registeredOracles := oracles })
      (hnow : w'.now = w.now)

theorem step_rules (h : step env a w = .ok w') : RulesStep w w' := by
  simp only [step, bind_ok, require_ok] at h
  obtain ⟨-, -, h⟩ := h
  unfold perform at h
  split at h
  · simp only [initializeOracleConfig, bind_ok, requireFresh_ok, ensure_ok] at h
    obtain ⟨-, -, -, hnone, -, hmin, -, -, -, -, -, hreveal, hw⟩ := h
    cases hw
    exact .created _ hnone rfl hmin hreveal rfl
  · simp only [registerOracle, bind_ok, load_ok] at h
    obtain ⟨-, -, config, hc, -, -, -, -, -, -, hw⟩ := h
    cases hw
    exact .relisted config _ hc rfl rfl
  · simp only [removeOracle, bind_ok, load_ok] at h
    obtain ⟨-, -, config, hc, -, -, r, -, hw⟩ := h
    cases hw
    exact .relisted config _ hc rfl rfl
  · simp only [initializeTreasury, bind_ok] at h
    obtain ⟨-, -, b, -, hw⟩ := h
    cases hw
    exact .same rfl rfl
  · simp only [createEscrow, bind_ok] at h
    obtain ⟨-, -, -, -, l, -, -, -, -, -, -, -, -, -, -, -, -, -, b, -, l', -,
      hw⟩ := h
    cases hw
    exact .same rfl rfl
  · simp only [rateAndRelease, bind_ok] at h
    obtain ⟨-, -, e, -, -, -, -, -, -, -, -, -, h⟩ := h
    split at h
    · obtain ⟨m, hm, hw⟩ := bind_ok.mp h
      obtain ⟨l, rfl, -⟩ := payOut_ok hm
      cases hw
      exact .same rfl rfl
    · obtain ⟨m, hm, hw⟩ := bind_ok.mp h
      obtain ⟨l, rfl, -⟩ := payOut_ok hm
      cases hw
      exact .same rfl rfl
  · simp only [markDisputed, bind_ok] at h
    obtain ⟨-, -, e, -, -, -, -, -, d, -, -, -, hw⟩ := h
    cases hw
    exact .same rfl rfl
  · simp only [commitVote, bind_ok] at h
    obtain ⟨-, -, e, -, config, -, -, -, -, -, -, -, -, -, -, -, ends, -, -,
      -, hw⟩ := h
    cases hw
    exact .same rfl rfl
  · simp only [revealVote, bind_ok] at h
    obtain ⟨-, -, e, -, config, -, -, -, -, -, ends, -, -, -, t, -, -, -, r,
      -, -, -, -, -, -, -, hw⟩ := h
    cases hw
    exact .same rfl rfl
  · simp only [finalizeDispute, bind_ok] at h
    obtain ⟨e, -, -, -, -, -, config, -, -, -, -, -, ends, -, t, -, -, -, -,
      -, split, -, l, -, l', -, hw⟩ := h
    cases hw
    exact .same rfl rfl
  · simp only [timeoutRelease, bind_ok] at h
    obtain ⟨e, -, -, -, -, -, d, -, -, -, m, hm, hw⟩ := h
    obtain ⟨l, rfl, -⟩ := payOut_ok hm
    cases hw
    exact .same rfl rfl
  · simp only [disputedTimeoutRelease, bind_ok] at h
    obtain ⟨e, -, -, -, config, -, -, -, d, -, t, -, -, -, -, -, m, hm, hw⟩ :=
      h
    obtain ⟨l, rfl, -⟩ := payOut_ok hm
    cases hw
    exact .same rfl rfl
  · simp only [bind_ok, require_ok] at h
    obtain ⟨-, ⟨hle, hrange⟩, hw⟩ := h
    cases hw
    exact .advanced rfl hle hrange
  · simp only [bind_ok] at h
    obtain ⟨-, -, l, -, hw⟩ := h
    cases hw
    exact .same rfl rfl
  · obtain ⟨b, -, hw⟩ := bind_ok.mp h
    cases hw
    exact .same rfl rfl

end KamiyoProtocol.CompanionEscrow
