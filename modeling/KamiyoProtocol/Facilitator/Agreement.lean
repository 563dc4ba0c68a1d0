/-
The facilitator and the escrow program on the same dispute.

The votes the facilitator reads are the program's submissions: scores up
to 100, as numbers. On them both find the same median, the same refund
and the same outliers (`calculateConsensus_votes`); the program refuses
when at least half are outliers, the facilitator only reports them, and
the two split the amount by different roundings (`answers_iff`).
-/
import KamiyoProtocol.Facilitator.Dispute
import KamiyoProtocol.CompanionEscrow.Finalize

namespace KamiyoProtocol.Facilitator.Dispute

open Exec Solana

-- ==== scores

section Scores

variable (scores : List Nat)

theorem insertionSort_cast :
    (scores.map (Nat.cast : Nat → ℚ)).insertionSort (· ≤ ·)
      = (scores.insertionSort (· ≤ ·)).map Nat.cast := by
  symm
  refine List.map_insertionSort _ _ _ scores ?_
  intro m _ n _
  exact Nat.cast_le.symm

theorem floor_half (m n : Nat) :
    (⌊((m : ℚ) + n) / 2⌋ : ℚ) = ((m + n) / 2 : Nat) := by
  have h := Rat.floor_natCast_div_natCast (m + n) 2
  push_cast at h
  rw [h]
  norm_cast

theorem getD_cast (i : Nat) :
    (scores.map (Nat.cast : Nat → ℚ))[i]?.getD 0
      = (scores[i]?.getD 0 : Nat) := by
  rw [List.getElem?_map]
  cases scores[i]? with
  | none => simp
  | some q => rfl

theorem calculateMedian_cast :
    calculateMedian (scores.map Nat.cast)
      = (CompanionEscrow.medianScore scores : ℚ) := by
  unfold calculateMedian CompanionEscrow.medianScore
  rw [insertionSort_cast]
  dsimp only
  rw [List.length_map]
  split
  · rw [getD_cast, getD_cast, floor_half]
  · exact getD_cast _ _

theorem calculateRefundPercentage_cast (q : Nat) :
    calculateRefundPercentage q
      = CompanionEscrow.calculateRefundPercentage q := by
  have hle : ∀ n : Nat, ((q : ℚ) ≤ n) = (q < n + 1) := by
    intro n
    rw [Nat.cast_le, Nat.lt_succ_iff]
  have h49 := hle 49
  have h64 := hle 64
  have h79 := hle 79
  push_cast at h49 h64 h79
  unfold calculateRefundPercentage CompanionEscrow.calculateRefundPercentage
  simp only [h49, h64, h79]
  rfl

theorem refund_fives (q : Nat) :
    CompanionEscrow.calculateRefundPercentage q % 5 = 0 := by
  unfold CompanionEscrow.calculateRefundPercentage
  split
  · rfl
  · split
    · rfl
    · split
      · rfl
      · rfl

theorem deviation_cast (q m : Nat) :
    maxScoreDeviation < |(q : ℚ) - m|
      ↔ 15 < (if m < q then q - m else m - q) := by
  have hdev : maxScoreDeviation = (15 : Nat) := rfl
  rw [hdev]
  split
  · next hlt =>
      rw [abs_of_nonneg (by simpa using hlt.le), ← Nat.cast_sub hlt.le,
        Nat.cast_lt]
  · next hge =>
      have hle : q ≤ m := Nat.not_lt.mp hge
      rw [abs_sub_comm, abs_of_nonneg (by simpa using hle),
        ← Nat.cast_sub hle, Nat.cast_lt]

theorem validScore_cast {q : Nat} (h : q ≤ 100) : ValidScore q :=
  ⟨rfl, Nat.cast_nonneg q, by exact_mod_cast h⟩

end Scores

-- ==== votes

/-- The revealed votes of an escrow, as the facilitator reads them. -/
def votes (text : Pubkey → String) (e : CompanionEscrow.Escrow) :
    List OracleSubmission :=
  e.oracleSubmissions.map fun s => ⟨text s.oracle, s.qualityScore⟩

variable {text : Pubkey → String} {e : CompanionEscrow.Escrow}

theorem votes_scores :
    (votes text e).map OracleSubmission.qualityScore
      = e.scores.map Nat.cast := by
  simp [votes, CompanionEscrow.Escrow.scores, Function.comp_def]

theorem outliers_length (m : Nat)
    (hm : m = CompanionEscrow.medianScore e.scores) :
    ((votes text e).filter fun s =>
        maxScoreDeviation < |s.qualityScore - (m : ℚ)|).length
      = CompanionEscrow.outlierCount e.scores 15 := by
  unfold votes CompanionEscrow.outlierCount CompanionEscrow.Escrow.scores
  dsimp only
  rw [List.filter_map, List.length_map, List.filter_map, List.length_map]
  congr 1
  refine List.filter_congr fun s _ => ?_
  rw [Function.comp_apply, Function.comp_apply, decide_eq_decide]
  rw [deviation_cast, hm]
  rfl

/-- Of three votes or more the facilitator finds the program's median,
its refund and its outliers, however many these are. -/
theorem calculateConsensus_votes (text : Pubkey → String)
    (hmany : 3 ≤ e.oracleSubmissions.length)
    (hscores : ∀ s ∈ e.oracleSubmissions, s.qualityScore ≤ 100) :
    ∃ r, calculateConsensus (votes text e) = .ok r
      ∧ r.medianScore = CompanionEscrow.medianScore e.scores
      ∧ r.refundPercentage = CompanionEscrow.calculateRefundPercentage
          (CompanionEscrow.medianScore e.scores)
      ∧ r.outliers.length = CompanionEscrow.outlierCount e.scores 15 := by
  have hmedian : calculateMedian
      ((votes text e).map OracleSubmission.qualityScore)
        = (CompanionEscrow.medianScore e.scores : ℚ) := by
    rw [votes_scores, calculateMedian_cast]
  have hvalid : ∀ s ∈ votes text e, ValidScore s.qualityScore := by
    intro s hs
    obtain ⟨t, ht, rfl⟩ := List.mem_map.mp hs
    exact validScore_cast (hscores t ht)
  refine ⟨_, bind_ok.mpr ⟨(), require_ok.mpr ?_,
    bind_ok.mpr ⟨(), require_ok.mpr hvalid, rfl⟩⟩, hmedian, ?_, ?_⟩
  · simpa [votes, minConsensusOracles] using hmany
  · dsimp only
    rw [hmedian, calculateRefundPercentage_cast]
  · dsimp only
    rw [List.length_map, hmedian]
    exact outliers_length _ rfl

-- ==== answers

/-- The facilitator's consensus and split of the escrow before (`e`) are
what the program made of it (`e'`), the record being of `amount`. -/
def SameAnswers (text : Pubkey → String) (amount : ℚ)
    (e e' : CompanionEscrow.Escrow) : Prop :=
  ∃ r split, calculateConsensus (votes text e) = .ok r
    ∧ e'.qualityScore.map Nat.cast = some r.medianScore
    ∧ e'.refundPercentage = some r.refundPercentage
    ∧ CompanionEscrow.splitAmount e.amount r.refundPercentage = .ok split
    ∧ payerRefunded (round6 amount) r.refundPercentage = usdc split.1
    ∧ merchantReceived (round6 amount) r.refundPercentage = usdc split.2

/-- The refund the scores of an escrow give. -/
def refundOf (e : CompanionEscrow.Escrow) : Nat :=
  CompanionEscrow.calculateRefundPercentage
    (CompanionEscrow.medianScore e.scores)

theorem refundOf_le (e : CompanionEscrow.Escrow) : refundOf e ≤ 100 :=
  CompanionEscrow.refund_le _

theorem splitAmount_eq {amount pct : Nat} (hamount : amount ≤ 10 ^ 15)
    (hpct : pct ≤ 100) :
    CompanionEscrow.splitAmount amount pct
      = .ok (amount * pct / 100, amount - amount * pct / 100) := by
  have hle : amount * pct ≤ amount * 100 := Nat.mul_le_mul_left _ hpct
  have hwrap : Fixed.wrap 64 (amount * pct / 100) = amount * pct / 100 :=
    Fixed.wrap_eq (by omega)
  refine bind_ok.mpr ⟨amount * pct, okOr_ok.mpr ?_, ?_⟩
  · exact Fixed.checkedMul_some.mpr ⟨by omega, rfl⟩
  · refine bind_ok.mpr ⟨amount * pct / 100, okOr_ok.mpr ?_, ?_⟩
    · exact Fixed.checkedDiv_some.mpr ⟨by decide, rfl⟩
    · rw [hwrap]

variable {amount : ℚ} {e' : CompanionEscrow.Escrow}

/-- On an escrow that the program resolved, the answers are the same
exactly when both splits are rounded alike. -/
theorem answers_iff (hvalid : ValidAmount amount)
    (hunits : amountUnits amount = e.amount)
    (hmany : 3 ≤ e.oracleSubmissions.length)
    (hscores : ∀ s ∈ e.oracleSubmissions, s.qualityScore ≤ 100)
    (hscore : e'.qualityScore = some (CompanionEscrow.medianScore e.scores))
    (hrefund : e'.refundPercentage = some (refundOf e)) :
    SameAnswers text amount e e' ↔ SplitsAlike e.amount (refundOf e) := by
  have hbound := amountUnits_le hvalid hunits
  have hsplit := splitAmount_eq hbound (refundOf_le e)
  obtain ⟨r, hok, hmedian, hpct, -⟩ :=
    calculateConsensus_votes text hmany hscores
  have hpct : r.refundPercentage = refundOf e := hpct
  unfold SameAnswers
  rw [round6_of_units hunits, ← split_iff (refundOf_le e) hbound]
  constructor
  · rintro ⟨r', split, hok', -, -, hs, hpayer, hmerchant⟩
    rw [hok] at hok'
    cases hok'
    rw [hpct] at hs hpayer hmerchant
    rw [hsplit] at hs
    cases hs
    exact ⟨hpayer, hmerchant⟩
  · rintro ⟨hpayer, hmerchant⟩
    rw [← hpct] at hpayer hmerchant hsplit hrefund
    refine ⟨r, _, hok, ?_, hrefund, hsplit, hpayer, hmerchant⟩
    rw [hscore, hmedian]
    rfl

end KamiyoProtocol.Facilitator.Dispute

namespace KamiyoProtocol.CompanionEscrow

open Exec Solana Facilitator.Dispute

section Program

variable {env : Env Seed} {w : World} {config : OracleConfig}
  {amount : ℚ} {e : Escrow}

/-- Of every escrow and record the facilitator keeps of it: what the
program finalizes the facilitator answers, and what the program refuses
for lack of consensus, under three votes and a deviation of 15, the
facilitator refuses, if and only if the dispute, once ready and with
votes enough, has few outliers and an amount that is rounded to the
program's split. -/
theorem finalized_alike_iff (text : Pubkey → String) (tx : Tx env)
    (acc : FinalizeDisputeAccounts)
    (hreach : Reachable (step env) Genesis w)
    (he : w.escrows acc.escrow = some e) (hc : w.config = some config)
    (hvalid : ValidAmount amount) (hunits : amountUnits amount = e.amount) :
    (((∀ w' e', finalizeDispute tx acc w = .ok w' →
          w'.escrows acc.escrow = some e' → SameAnswers text amount e e')
        ∧ (config.minConsensus = 3 → config.maxScoreDeviation = 15 →
          3 ≤ e.oracleSubmissions.length →
          ∀ r, calculateConsensus (votes text e) = .ok r →
            ¬ ∃ err, LacksConsensus err
              ∧ finalizeDispute tx acc w = .error err))
      ↔ (Ready tx acc config e →
          config.minConsensus ≤ e.oracleSubmissions.length →
          (outlierCount e.scores config.maxScoreDeviation * 2
              < e.scores.length → SplitsAlike e.amount (refundOf e))
            ∧ (config.minConsensus = 3 → config.maxScoreDeviation = 15 →
              outlierCount e.scores 15 * 2 < e.scores.length)))
      ∧ (e.amount ≤ 10 ^ 14 → e.amount * refundOf e % 100 ≠ 50 →
        (SplitsAlike e.amount (refundOf e)
          ↔ e.amount * refundOf e % 100 < 50)) := by
  obtain ⟨u, id, hk⟩ := escrow_derived hreach _ _ he
  have hsound : Sound env acc.escrow w := hk ▸ escrow_sound hreach u id
  have hgraded : Graded acc.escrow w := hk ▸ scores_le hreach u id
  have hmin := (hsound.bounds config hc).1
  have hanswers : ∀ {e'}, 3 ≤ e.oracleSubmissions.length →
      e.status = .disputed →
      e'.qualityScore = some (medianScore e.scores) →
      e'.refundPercentage = some (refundOf e) →
      (SameAnswers text amount e e' ↔ SplitsAlike e.amount (refundOf e)) :=
    fun hmany hdisp =>
      answers_iff hvalid hunits hmany (hgraded e he (Or.inr hdisp))
  refine ⟨⟨?_, ?_⟩, fun hm hhalf =>
    splitsAlike_iff (refundOf_le e) (refund_fives _) hm hhalf⟩
  · rintro ⟨hfinal, hrefuse⟩ hready hmany
    have hthree : 3 ≤ e.oracleSubmissions.length := Nat.le_trans hmin hmany
    constructor
    · intro hout
      obtain ⟨l, hok, -⟩ := finalizeDispute_isOk hsound ⟨_, hk⟩ he hc hready
        hmany hout
      refine (hanswers hthree hready.disputed ?_ ?_).mp
        (hfinal _ _ hok (setEscrow_self _ _ _))
      · rfl
      · rfl
    · intro h3 h15
      by_contra hge
      obtain ⟨r, hr, -⟩ := calculateConsensus_votes text hthree
        (hgraded e he (Or.inr hready.disputed))
      refine hrefuse h3 h15 hthree r hr
        ((lack_iff hsound ⟨_, hk⟩ he hc hmany).mpr ⟨hready, ?_⟩)
      rw [h15]
      exact Nat.not_lt.mp hge
  · intro h
    constructor
    · intro w' e' hok he'
      obtain ⟨hready, hmany, hout, -, hw'⟩ := finalizeDispute_ok he hc hok
      rw [hw'] at he'
      cases he'
      refine (hanswers (Nat.le_trans hmin hmany) hready.disputed ?_ ?_).mpr
        ((h hready hmany).1 hout)
      · rfl
      · rfl
    · intro h3 h15 hthree r hr hlack
      obtain ⟨hready, hge⟩ :=
        (lack_iff hsound ⟨_, hk⟩ he hc (h3 ▸ hthree)).mp hlack
      have hlt := (h hready (h3 ▸ hthree)).2 h3 h15
      rw [h15] at hge
      omega

end Program

-- ==== instances

namespace Concrete

open Solana.Concrete

/-- The finalization, after the reveal window. -/
def finalTx : Tx env :=
  (act [] 1360 (.advanceClock 1360)).tx

def finalAcc : FinalizeDisputeAccounts :=
  ⟨wallet 10, wallet 11, escrowKey⟩

/-- A dispute over a given number of units. -/
def disputeOf (units : Nat) : List (Action env) :=
  dispute.take 5
    ++ [act [10] 1000 (.createEscrow
        ⟨wallet 10, wallet 11, wallet 50, wallet 40⟩ sessionId units),
      act [10] 1000 (.markDisputed ⟨wallet 10, escrowKey⟩)]

/-- What the instances look at before the finalization. -/
def voted (units refund outliers : Nat) (config : OracleConfig)
    (e : Escrow) : Bool :=
  decide (config.minConsensus = 3 ∧ config.maxScoreDeviation = 15
    ∧ config.revealDuration = 300 ∧ e.amount = units
    ∧ e.user = wallet 10 ∧ e.treasury = wallet 11 ∧ e.status = .disputed
    ∧ e.commitPhaseEndsAt = some 1060 ∧ refundOf e = refund
    ∧ e.oracleSubmissions.length = 3
    ∧ outlierCount e.scores 15 = outliers)

/-- Such a dispute, with its state and configuration. -/
structure Voted (units refund outliers : Nat) (w : World)
    (config : OracleConfig) (e : Escrow) : Prop where
  reached : Reachable (step env) Genesis w
  escrow : w.escrows escrowKey = some e
  configured : w.config = some config
  ready : Ready finalTx finalAcc config e
  rules : config.minConsensus = 3 ∧ config.maxScoreDeviation = 15
  amount : e.amount = units
  refund : refundOf e = refund
  many : e.oracleSubmissions.length = 3
  outliers : outlierCount e.scores 15 = outliers

theorem voted_of_check (units refund outliers : Nat) (tr : List (Action env))
    (h : check (atEscrow (voted units refund outliers))
      (run (step env)
        start tr) = true) :
    ∃ w config e, Voted units refund outliers w config e := by
  obtain ⟨w, hrun, hw⟩ := check_ok h
  obtain ⟨config, e, hc, he, hp⟩ := atEscrow_ok hw
  obtain ⟨hmin, hdev, hreveal, hamount, huser, htreasury, hdisp, hends,
    hrefund, hmany, hout⟩ := of_decide_eq_true hp
  refine ⟨w, config, e, ⟨_, _, start_genesis, hrun⟩, he, hc,
    ⟨huser.symm, htreasury.symm, hdisp, 1060, hends, ?_, .inl ?_⟩,
    ⟨hmin, hdev⟩, hamount, hrefund, hmany, hout⟩
  · rw [hreveal]
    decide
  · rw [hreveal]
    decide

theorem Voted.finalized {units refund : Nat} {w : World}
    {config : OracleConfig} {e : Escrow}
    (h : Voted units refund 0 w config e) :
    ∃ w' e', finalizeDispute finalTx finalAcc w = .ok w'
      ∧ w'.escrows escrowKey = some e'
      ∧ e'.qualityScore = some (medianScore e.scores)
      ∧ e'.refundPercentage = some (refundOf e) := by
  have hsound : Sound env finalAcc.escrow w :=
    escrow_sound h.reached (wallet 10) sessionId
  have hscores : e.scores.length = 3 := by
    rw [Escrow.scores, List.length_map, h.many]
  obtain ⟨l, hok, -⟩ := finalizeDispute_isOk hsound ⟨_, rfl⟩ h.escrow
    h.configured h.ready (by rw [h.rules.1, h.many])
    (by rw [h.rules.2, h.outliers, hscores]; decide)
  exact ⟨_, _, hok, setEscrow_self _ _ _, rfl, rfl⟩

/-- A thousand USDC at three quarters: both split alike. -/
theorem finalized_alike :
    ∃ w w' e e', Reachable (step env) Genesis w ∧ w.escrows escrowKey = some e
      ∧ finalizeDispute finalTx finalAcc w = .ok w'
      ∧ w'.escrows escrowKey = some e'
      ∧ ∀ text, SameAnswers text (usdc 1000000000) e e' := by
  obtain ⟨w, config, e, h⟩ := voted_of_check 1000000000 75 0
    (dispute ++ vote 50 60 64) (by decide)
  obtain ⟨w', e', hok, he', -⟩ := h.finalized
  have hunits : amountUnits (usdc 1000000000) = e.amount := by
    rw [h.amount]
    decide +kernel
  refine ⟨w, w', e, e', h.reached, h.escrow, hok, he', fun text => ?_⟩
  obtain ⟨halike, hhalf⟩ := finalized_alike_iff text finalTx finalAcc
    h.reached h.escrow h.configured
    (by decide +kernel) hunits
  rw [h.amount, h.refund] at hhalf
  refine (halike.mpr ?_).1 w' e' hok he'
  intro _ _
  refine ⟨fun _ => ?_, fun _ _ => ?_⟩
  · rw [h.amount, h.refund]
    exact (hhalf (by decide) (by decide)).mpr (by decide)
  · rw [h.outliers, Escrow.scores, List.length_map, h.many]
    decide

/-- One micro-USDC at three quarters: the program refunds nothing, the
facilitator answers that all was refunded. Scores of 0, 50 and 100: the
program finds no consensus, the facilitator one of 50. -/
theorem finalized_apart :
    (∃ w w' e e', Reachable (step env) Genesis w ∧ w.escrows escrowKey = some e
      ∧ finalizeDispute finalTx finalAcc w = .ok w'
      ∧ w'.escrows escrowKey = some e'
      ∧ ValidAmount (usdc 1) ∧ amountUnits (usdc 1) = e.amount
      ∧ ∀ text, ¬ SameAnswers text (usdc 1) e e')
    ∧ ∃ w config e, Reachable (step env) Genesis w
      ∧ w.escrows escrowKey = some e ∧ w.config = some config
      ∧ config.minConsensus = 3 ∧ config.maxScoreDeviation = 15
      ∧ e.oracleSubmissions.length = 3
      ∧ finalizeDispute finalTx finalAcc w
        = .error (.custom .suspiciousOracleConsensus)
      ∧ ∀ text, ∃ r, calculateConsensus (votes text e) = .ok r := by
  constructor
  · obtain ⟨w, config, e, h⟩ := voted_of_check 1 75 0
      (disputeOf 1 ++ vote 50 60 64) (by decide)
    obtain ⟨w', e', hok, he', hscore, hrefund⟩ := h.finalized
    have hunits : amountUnits (usdc 1) = e.amount := by
      rw [h.amount]
      decide +kernel
    have hvalid : ValidAmount (usdc 1) := by decide +kernel
    refine ⟨w, w', e, e', h.reached, h.escrow, hok, he', hvalid, hunits, ?_⟩
    intro text
    rw [answers_iff hvalid hunits (Nat.le_of_eq h.many.symm)
      (scores_le h.reached (wallet 10) sessionId e h.escrow
        (Or.inr h.ready.disputed)) hscore hrefund, h.amount, h.refund]
    decide +kernel
  · obtain ⟨w, config, e, h⟩ := voted_of_check 1000000000 75 2
      (dispute ++ vote 0 50 100)
      (by decide +kernel)
    refine ⟨w, config, e, h.reached, h.escrow, h.configured, h.rules.1,
      h.rules.2, h.many, ?_, fun text => ?_⟩
    · refine finalizeDispute_suspicious h.escrow h.configured h.ready ?_ ?_
      · rw [h.rules.1, h.many]
      · rw [h.rules.2, h.outliers, Escrow.scores, List.length_map, h.many]
        decide
    · obtain ⟨r, hr, -⟩ := calculateConsensus_votes text
        (Nat.le_of_eq h.many.symm)
        (scores_le h.reached (wallet 10) sessionId e h.escrow
          (Or.inr h.ready.disputed))
      exact ⟨r, hr⟩

end Concrete

end KamiyoProtocol.CompanionEscrow
