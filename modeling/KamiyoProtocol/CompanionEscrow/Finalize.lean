/-
The outcome of finalizing a dispute, by what the votes are.

Revealed scores are at most 100 (`scores_le`). Of a dispute that is
`Ready`, whose votes are enough, finalizing reports a consensus that is
suspicious exactly when at least half of the scores are outliers, and
succeeds otherwise, with a score that is where most of the votes are
(`median_robust`).
-/
import KamiyoProtocol.CompanionEscrow.Exits

namespace KamiyoProtocol.CompanionEscrow

open Solana Exec Function

variable {env : Env Seed} {w w' : World} {k : Pubkey} {a : Action env}

-- ==== scores

/-- The scores revealed on the escrow at `k`, while it is open, are
percentages. -/
def Graded (k : Pubkey) (w : World) : Prop :=
  ∀ e, w.escrows k = some e → e.Open →
    ∀ s ∈ e.oracleSubmissions, s.qualityScore ≤ 100

theorem Graded.step {u : Pubkey} {id : Bytes}
    (h : Graded (env.pda (.escrow u id)) w)
    (hstep : step env a w = .ok w') :
    Graded (env.pda (.escrow u id)) w' := by
  have hkind : EscrowStep env a (env.pda (.escrow u id)) w w' :=
    step_escrow hstep
  intro x hx hopen
  cases hkind with
  | aside hesc _ _ =>
    rw [hesc] at hx
    exact h x hx hopen
  | opened e _ _ hesc _ hsubs _ _ =>
    rw [hesc] at hx
    cases hx
    rw [hsubs]
    exact fun s hs => absurd hs List.not_mem_nil
  | disputed e _ he hactive hw =>
    subst hw
    rw [setEscrow_self] at hx
    cases hx
    exact h e he (Or.inl hactive)
  | committed e c ends _ he hdisp _ _ hw =>
    subst hw
    rw [setEscrow_self] at hx
    cases hx
    exact h e he (Or.inr hdisp)
  | revealed e config cs s ends _ he _ hdisp _ _ _ hscore hw =>
    subst hw
    rw [setEscrow_self] at hx
    cases hx
    intro t ht
    rcases List.mem_append.mp ht with hold | hnew
    · exact h e he (Or.inr hdisp) t hold
    · rw [List.mem_singleton.mp hnew]
      exact hscore
  | settled e e' _ _ _ hesc hclosed _ =>
    rw [hesc] at hx
    cases hx
    exact absurd hopen hclosed

theorem scores_le (hreach : Reachable (step env) Genesis w)
    (u : Pubkey) (id : Bytes) : Graded (env.pda (.escrow u id)) w := by
  refine reachable_induct ?_ (fun _ _ _ hI hs => hI.step hs) hreach
  intro s hs e he
  rw [hs.escrows] at he
  cases he

-- ==== addresses

/-- Every escrow is at an address derived for one. -/
def Derived (env : Env Seed) (w : World) : Prop :=
  ∀ k e, w.escrows k = some e → ∃ u id, k = env.pda (.escrow u id)

theorem Derived.same (h : Derived env w) (hesc : w'.escrows = w.escrows) :
    Derived env w' := by
  intro k e he
  rw [hesc] at he
  exact h k e he

/-- Writing to an escrow that is there, or to an address derived for
one. -/
theorem Derived.written {j : Pubkey} {e' : Escrow} (h : Derived env w)
    (hj : ∃ u id, j = env.pda (.escrow u id))
    (hesc : w'.escrows = (w.setEscrow j e').escrows) : Derived env w' := by
  intro k e he
  rw [hesc] at he
  by_cases hk : k = j
  · exact hk ▸ hj
  · have hkept : (w.setEscrow j e').escrows k = w.escrows k :=
      update_of_ne hk ..
    exact h k e (hkept.symm.trans he)

theorem Derived.step (h : Derived env w) (hstep : step env a w = .ok w') :
    Derived env w' := by
  simp only [CompanionEscrow.step, bind_ok] at hstep
  obtain ⟨-, -, hstep⟩ := hstep
  unfold perform at hstep
  split at hstep
  · simp only [initializeOracleConfig, bind_ok] at hstep
    obtain ⟨-, -, -, -, -, -, -, -, -, -, -, -, hw⟩ := hstep
    cases hw
    exact h.same rfl
  · simp only [registerOracle, bind_ok] at hstep
    obtain ⟨-, -, config, -, -, -, -, -, -, -, hw⟩ := hstep
    cases hw
    exact h.same rfl
  · simp only [removeOracle, bind_ok] at hstep
    obtain ⟨-, -, config, -, -, -, r, -, hw⟩ := hstep
    cases hw
    exact h.same rfl
  · simp only [initializeTreasury, bind_ok] at hstep
    obtain ⟨-, -, b, -, hw⟩ := hstep
    cases hw
    exact h.same rfl
  · simp only [createEscrow, bind_ok] at hstep
    obtain ⟨-, -, -, -, l, -, -, -, -, -, -, -, -, -, -, -, -, -, b, -, l', -,
      hw⟩ := hstep
    cases hw
    exact h.written ⟨_, _, rfl⟩ rfl
  · simp only [rateAndRelease, bind_ok, load_ok] at hstep
    obtain ⟨-, -, e, he, -, -, -, -, -, -, -, -, hstep⟩ := hstep
    split at hstep
    · obtain ⟨m, hm, hw⟩ := bind_ok.mp hstep
      obtain ⟨l, rfl, -⟩ := payOut_ok hm
      cases hw
      exact h.written (h _ _ he) rfl
    · obtain ⟨m, hm, hw⟩ := bind_ok.mp hstep
      obtain ⟨l, rfl, -⟩ := payOut_ok hm
      cases hw
      exact h.written (h _ _ he) rfl
  · simp only [markDisputed, bind_ok, load_ok] at hstep
    obtain ⟨-, -, e, he, -, -, -, -, d, -, -, -, hw⟩ := hstep
    cases hw
    exact h.written (h _ _ he) rfl
  · simp only [commitVote, bind_ok, load_ok] at hstep
    obtain ⟨-, -, e, he, config, -, -, -, -, -, -, -, -, -, -, -, ends, -, -,
      -, hw⟩ := hstep
    cases hw
    exact h.written (h _ _ he) rfl
  · simp only [revealVote, bind_ok, load_ok] at hstep
    obtain ⟨-, -, e, he, config, -, -, -, -, -, ends, -, -, -, t, -, -, -, r,
      -, -, -, -, -, -, -, hw⟩ := hstep
    cases hw
    exact h.written (h _ _ he) rfl
  · simp only [finalizeDispute, bind_ok, load_ok] at hstep
    obtain ⟨e, he, -, -, -, -, config, -, -, -, -, -, ends, -, t, -, -, -, -,
      -, split, -, l, -, l', -, hw⟩ := hstep
    cases hw
    exact h.written (h _ _ he) rfl
  · simp only [timeoutRelease, bind_ok, load_ok] at hstep
    obtain ⟨e, he, -, -, -, -, d, -, -, -, m, hm, hw⟩ := hstep
    obtain ⟨l, rfl, -⟩ := payOut_ok hm
    cases hw
    exact h.written (h _ _ he) rfl
  · simp only [disputedTimeoutRelease, bind_ok, load_ok] at hstep
    obtain ⟨e, he, -, -, config, -, -, -, d, -, t, -, -, -, -, -, m, hm,
      hw⟩ := hstep
    obtain ⟨l, rfl, -⟩ := payOut_ok hm
    cases hw
    exact h.written (h _ _ he) rfl
  · obtain ⟨-, -, hw⟩ := bind_ok.mp hstep
    cases hw
    exact h.same rfl
  · simp only [bind_ok] at hstep
    obtain ⟨-, -, l, -, hw⟩ := hstep
    cases hw
    exact h.same rfl
  · obtain ⟨b, -, hw⟩ := bind_ok.mp hstep
    cases hw
    exact h.same rfl

theorem escrow_derived (hreach : Reachable (step env) Genesis w) :
    Derived env w := by
  refine reachable_induct ?_ (fun _ _ _ hI hs => hI.step hs) hreach
  intro s hs k e he
  rw [hs.escrows] at he
  cases he

-- ==== finalizing

variable {tx : Tx env} {acc : FinalizeDisputeAccounts} {e : Escrow}
  {config : OracleConfig}

/-- What a dispute that was finalized had, and what it became. -/
theorem finalizeDispute_ok (he : w.escrows acc.escrow = some e)
    (hc : w.config = some config)
    (h : finalizeDispute tx acc w = .ok w') :
    Ready tx acc config e ∧ config.minConsensus ≤ e.oracleSubmissions.length
      ∧ outlierCount e.scores config.maxScoreDeviation * 2 < e.scores.length
      ∧ (∃ split, splitAmount e.amount
          (calculateRefundPercentage (medianScore e.scores)) = .ok split)
      ∧ w'.escrows acc.escrow = some { e with
          qualityScore := some (medianScore e.scores)
          refundPercentage := some
            (calculateRefundPercentage (medianScore e.scores))
          status := .resolved } := by
  simp only [finalizeDispute, bind_ok, load_ok, ensure_ok,
    okOr_ok, addI64_ok] at h
  obtain ⟨x, hx, -, huser, -, htreasury, c, hconfig, -, hdisp, -, hmany, ends,
    hends, _, ⟨hrange, rfl⟩, -, hpassed, -, hout, split, hsplit, l, -, l', -,
    hw⟩ := h
  rw [he] at hx
  cases hx
  rw [hc] at hconfig
  cases hconfig
  cases hw
  exact ⟨⟨huser, htreasury, hdisp, ends, hends, hrange, hpassed⟩, hmany, hout,
    ⟨split, hsplit⟩, setEscrow_self _ _ _⟩

theorem bind_of_ok {α β : Type} {x : Outcome α} {f : α → Outcome β} {y : α}
    (h : x = .ok y) : (x >>= f) = f y := by
  rw [h]
  rfl

theorem bind_error {α β : Type} {x : Outcome α} {f : α → Outcome β}
    {err : Fault EscrowError} (h : (x >>= f) = .error err) :
    x = .error err ∨ ∃ y, x = .ok y ∧ f y = .error err := by
  cases x with
  | error e' =>
    cases h
    exact .inl rfl
  | ok y => exact .inr ⟨y, rfl, h⟩

theorem ensure_of {c : Prop} [Decidable c] (h : c) (e : EscrowError) :
    (ensure c e : Outcome Unit) = .ok () :=
  if_pos h

theorem ensure_error {c : Prop} [Decidable c] {e : EscrowError}
    {err : Fault EscrowError} (h : (ensure c e : Outcome Unit) = .error err) :
    err = .custom e := by
  unfold ensure require at h
  split at h
  · cases h
  · cases h
    rfl

theorem okOr_error {α : Type} {o : Option α} {e err : Fault EscrowError}
    (h : okOr o e = .error err) : err = e := by
  unfold okOr at h
  cases o with
  | some y => cases h
  | none =>
    cases h
    rfl

/-- The errors that say the votes make no consensus. -/
def LacksConsensus (err : Fault EscrowError) : Prop :=
  err = .custom .insufficientOracleConsensus
    ∨ err = .custom .suspiciousOracleConsensus

/-- With enough votes, finalizing fails for lack of consensus only once it
got to the scores. -/
theorem ready_of_lack (he : w.escrows acc.escrow = some e)
    (hc : w.config = some config)
    (hmany : config.minConsensus ≤ e.oracleSubmissions.length)
    {err : Fault EscrowError} (hlack : LacksConsensus err)
    (h : finalizeDispute tx acc w = .error err) : Ready tx acc config e := by
  have hother : ∀ other : EscrowError, err = .custom other →
      other = .insufficientOracleConsensus
        ∨ other = .suspiciousOracleConsensus := by
    rintro other rfl
    rcases hlack with h | h
    · cases h
      exact .inl rfl
    · cases h
      exact .inr rfl
  have hfault : ∀ c' : Fault EscrowError, err = c' → LacksConsensus c' :=
    fun c' h => h ▸ hlack
  unfold finalizeDispute at h
  rcases bind_error h with h | ⟨x, hx, h⟩
  · exact absurd (hfault _ (okOr_error h)) (by simp [LacksConsensus])
  rw [load_ok.mp hx] at he
  cases he
  rcases bind_error h with h | ⟨_, huser, h⟩
  · exact absurd (hother _ (ensure_error h)) (by simp)
  rcases bind_error h with h | ⟨_, htreasury, h⟩
  · exact absurd (hother _ (ensure_error h)) (by simp)
  rcases bind_error h with h | ⟨c, hconfig, h⟩
  · exact absurd (hfault _ (okOr_error h)) (by simp [LacksConsensus])
  rw [load_ok.mp hconfig] at hc
  cases hc
  rcases bind_error h with h | ⟨_, hdisp, h⟩
  · exact absurd (hother _ (ensure_error h)) (by simp)
  rw [bind_of_ok (ensure_of hmany _)] at h
  rcases bind_error h with h | ⟨ends, hends, h⟩
  · exact absurd (hfault _ (okOr_error h)) (by simp [LacksConsensus])
  rcases bind_error h with h | ⟨t, ht, h⟩
  · exact absurd (hfault _ (okOr_error h)) (by simp [LacksConsensus])
  rcases bind_error h with h | ⟨_, hpassed, -⟩
  · exact absurd (hother _ (ensure_error h)) (by simp)
  obtain ⟨hrange, rfl⟩ := addI64_ok.mp ht
  exact ⟨ensure_ok.mp huser, ensure_ok.mp htreasury, ensure_ok.mp hdisp, ends,
    okOr_ok.mp hends, hrange, ensure_ok.mp hpassed⟩

/-- Of a dispute that is ready, with enough votes, at least half of them
outliers, finalizing finds the consensus suspicious. -/
theorem finalizeDispute_suspicious (he : w.escrows acc.escrow = some e)
    (hc : w.config = some config) (hready : Ready tx acc config e)
    (hmany : config.minConsensus ≤ e.oracleSubmissions.length)
    (hout : e.scores.length
      ≤ outlierCount e.scores config.maxScoreDeviation * 2) :
    finalizeDispute tx acc w = .error (.custom .suspiciousOracleConsensus) := by
  obtain ⟨ends, hends, hrange, hpassed⟩ := hready.window
  have hlast : (ensure (outlierCount e.scores config.maxScoreDeviation * 2
      < e.scores.length) .suspiciousOracleConsensus : Outcome Unit)
      = .error (.custom .suspiciousOracleConsensus) :=
    if_neg (Nat.not_lt.mpr hout)
  unfold finalizeDispute
  rw [bind_of_ok (load_ok.mpr he), bind_of_ok (ensure_of hready.user _),
    bind_of_ok (ensure_of hready.treasury _), bind_of_ok (load_ok.mpr hc),
    bind_of_ok (ensure_of hready.disputed _),
    bind_of_ok (ensure_of hmany _),
    bind_of_ok (okOr_ok.mpr hends),
    bind_of_ok (addI64_ok.mpr ⟨hrange, rfl⟩),
    bind_of_ok (ensure_of hpassed _)]
  dsimp only
  rw [hlast]
  rfl

/-- A dispute with enough votes is refused for lack of consensus exactly
when it is ready and at least half of its scores are outliers. -/
theorem lack_iff (hs : Sound env acc.escrow w)
    (hk : ∃ s, acc.escrow = env.pda s)
    (he : w.escrows acc.escrow = some e) (hc : w.config = some config)
    (hmany : config.minConsensus ≤ e.oracleSubmissions.length) :
    (∃ err, LacksConsensus err ∧ finalizeDispute tx acc w = .error err)
      ↔ Ready tx acc config e
        ∧ e.scores.length
          ≤ outlierCount e.scores config.maxScoreDeviation * 2 := by
  constructor
  · rintro ⟨err, hlack, h⟩
    have hready := ready_of_lack he hc hmany hlack h
    refine ⟨hready, ?_⟩
    by_contra hless
    obtain ⟨l, hok, -⟩ := finalizeDispute_isOk hs hk he hc hready hmany
      (Nat.not_le.mp hless)
    rw [hok] at h
    cases h
  · intro h
    exact ⟨_, .inr rfl, finalizeDispute_suspicious he hc h.1 hmany h.2⟩

-- ==== most of the votes

/-- How many of the numbers lie in an interval. -/
def within (lo hi : Nat) (l : List Nat) : Nat :=
  l.countP fun x => lo ≤ x ∧ x ≤ hi

variable {lo hi : Nat} {l : List Nat}

/-- In a sorted list, what is at a place below the interval has all before
it below, and at one above it all behind. -/
theorem sorted_get_within {i x : Nat} (hs : l.Pairwise (· ≤ ·))
    (hx : l[i]? = some x) (hlow : l.length < within lo hi l + (i + 1))
    (hhigh : i < within lo hi l) : lo ≤ x ∧ x ≤ hi := by
  obtain ⟨hi', rfl⟩ := List.getElem?_eq_some_iff.mp hx
  have hbefore : ∀ y ∈ l.take (i + 1), y ≤ l[i] := by
    intro y hy
    obtain ⟨j, hj, rfl⟩ := List.mem_take_iff_getElem.mp hy
    rcases Nat.lt_or_eq_of_le (show j ≤ i by omega) with hlt | rfl
    · exact List.pairwise_iff_getElem.mp hs j i (by omega) hi' hlt
    · exact Nat.le_refl _
  have hbehind : ∀ y ∈ l.drop i, l[i] ≤ y := by
    intro y hy
    obtain ⟨j, hj, rfl⟩ := List.mem_drop_iff_getElem.mp hy
    rcases Nat.eq_zero_or_pos j with rfl | hpos
    · exact Nat.le_refl _
    · exact List.pairwise_iff_getElem.mp hs i (i + j) hi' (by omega) (by omega)
  constructor
  · by_contra hless
    have hnone : within lo hi (l.take (i + 1)) = 0 := by
      refine List.countP_eq_zero.mpr fun y hy => ?_
      have := hbefore y hy
      simp only [decide_eq_true_eq]
      omega
    have hrest : within lo hi (l.drop (i + 1)) ≤ (l.drop (i + 1)).length :=
      List.countP_le_length
    have hsplit : within lo hi l = within lo hi (l.take (i + 1))
        + within lo hi (l.drop (i + 1)) := by
      unfold within
      rw [← List.countP_append, List.take_append_drop]
    rw [List.length_drop] at hrest
    omega
  · by_contra hmore
    have hnone : within lo hi (l.drop i) = 0 := by
      refine List.countP_eq_zero.mpr fun y hy => ?_
      have := hbehind y hy
      simp only [decide_eq_true_eq]
      omega
    have hrest : within lo hi (l.take i) ≤ (l.take i).length :=
      List.countP_le_length
    have hsplit : within lo hi l = within lo hi (l.take i)
        + within lo hi (l.drop i) := by
      unfold within
      rw [← List.countP_append, List.take_append_drop]
    rw [List.length_take] at hrest
    omega

/-- The median is in every interval that holds more than half. -/
theorem medianScore_within (h : l.length < 2 * within lo hi l) :
    lo ≤ medianScore l ∧ medianScore l ≤ hi := by
  have hperm := List.perm_insertionSort (· ≤ ·) l
  have hcount : within lo hi (l.insertionSort (· ≤ ·)) = within lo hi l :=
    hperm.countP_eq _
  have hlength := hperm.length_eq
  have hle : within lo hi l ≤ l.length := List.countP_le_length
  have hsorted : (l.insertionSort (· ≤ ·)).Pairwise (· ≤ ·) :=
    List.sortedLE_insertionSort.pairwise
  unfold medianScore
  generalize l.insertionSort (· ≤ ·) = m at hcount hlength hsorted
  -- the places looked at are too close to the middle to be outside
  have hplace : ∀ i, i < within lo hi m → m.length < within lo hi m + (i + 1) →
      lo ≤ m[i]?.getD 0 ∧ m[i]?.getD 0 ≤ hi := by
    intro i hhigh hlow
    have hi' : i < m.length := by omega
    rw [List.getElem?_eq_getElem hi', Option.getD_some]
    exact sorted_get_within hsorted (List.getElem?_eq_getElem hi') hlow hhigh
  dsimp only
  split
  · have hleft := hplace (m.length / 2 - 1) (by omega) (by omega)
    have hright := hplace (m.length / 2) (by omega) (by omega)
    omega
  · exact hplace (m.length / 2) (by omega) (by omega)

theorem calculateRefundPercentage_anti {q r : Nat} (h : q ≤ r) :
    calculateRefundPercentage r ≤ calculateRefundPercentage q := by
  unfold calculateRefundPercentage qualityFullRefundThreshold
    qualityHighRefundThreshold qualityLowRefundThreshold
  split_ifs <;> omega

/-- Where more than half of the revealed scores are, the resolved score is,
and the refund between those of the ends. -/
theorem median_robust (he : w.escrows acc.escrow = some e)
    (h : finalizeDispute tx acc w = .ok w')
    (hmost : e.oracleSubmissions.length
      < 2 * (e.oracleSubmissions.filter fun s =>
        lo ≤ s.qualityScore ∧ s.qualityScore ≤ hi).length) :
    ∃ e' q pct, w'.escrows acc.escrow = some e'
      ∧ e'.qualityScore = some q ∧ e'.refundPercentage = some pct
      ∧ (lo ≤ q ∧ q ≤ hi)
      ∧ calculateRefundPercentage hi ≤ pct
      ∧ pct ≤ calculateRefundPercentage lo := by
  have hwithin : within lo hi e.scores = (e.oracleSubmissions.filter
      fun s => lo ≤ s.qualityScore ∧ s.qualityScore ≤ hi).length := by
    unfold within Escrow.scores
    rw [List.countP_map, List.countP_eq_length_filter]
    rfl
  have hmedian := @medianScore_within lo hi e.scores (by
    rw [hwithin, Escrow.scores, List.length_map]
    exact hmost)
  have hconfig := h
  simp only [finalizeDispute, bind_ok, load_ok] at hconfig
  obtain ⟨-, -, -, -, -, -, config, hc, -⟩ := hconfig
  obtain ⟨-, -, -, -, he'⟩ := finalizeDispute_ok he hc h
  exact ⟨_, _, _, he', rfl, rfl, hmedian,
    calculateRefundPercentage_anti hmedian.2,
    calculateRefundPercentage_anti hmedian.1⟩

open Concrete in
/-- Two of three score 60 and 64, the third 50. -/
theorem median_robust_two :
    ∃ w w' e' q, run (step Concrete.env) start
        (dispute ++ vote 50 60 64) = .ok w
      ∧ finalizeDispute (txOf Concrete.env coding.wallet_ne_pda [] 1360 [])
          ⟨wallet 10, wallet 11, escrowKey⟩ w = .ok w'
      ∧ w'.escrows escrowKey = some e' ∧ e'.qualityScore = some q
      ∧ 60 ≤ q ∧ q ≤ 64 := by
  obtain ⟨w, hrun, hrest⟩ := check_ok (show check (fun w =>
      (w.escrows escrowKey).any (fun e => decide (e.oracleSubmissions.length
        < 2 * (e.oracleSubmissions.filter fun s =>
          60 ≤ s.qualityScore ∧ s.qualityScore ≤ 64).length))
      && check (fun _ => true) (finalizeDispute
        (txOf Concrete.env coding.wallet_ne_pda [] 1360 [])
        ⟨wallet 10, wallet 11, escrowKey⟩ w))
    (run (step Concrete.env) start (dispute ++ vote 50 60 64)) = true
      by decide)
  rw [Bool.and_eq_true] at hrest
  obtain ⟨w', hfinal, -⟩ := check_ok hrest.2
  obtain ⟨e, he, hmost⟩ := (Option.any_eq_true _ _).mp hrest.1
  obtain ⟨e', q, pct, he', hq, -, hin, -, -⟩ :=
    median_robust he hfinal (of_decide_eq_true hmost)
  exact ⟨w, w', e', q, hrun, hfinal, he', hq, hin⟩

end KamiyoProtocol.CompanionEscrow
