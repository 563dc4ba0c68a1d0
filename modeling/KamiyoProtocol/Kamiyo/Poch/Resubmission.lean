/-
Resubmission and the commitment a proof is checked against.

`init_poch_submission` rewrites the submission, policy included.
`commit_poch_score_bundle` refreshes the challenge and the scores of the
commitment, but its owner, submission, chain and policy only when the
account is new. The first three are determined by the address
(`Named`); the policy is not. So after a resubmission the two records
agree exactly when the policy is the one first committed to.
-/
import KamiyoProtocol.Kamiyo.Poch.Concrete

namespace KamiyoProtocol.Kamiyo.Poch

open Solana Exec Function

variable {env : Env} {w w' : World} {owner : Pubkey} {chain : Bytes}

-- ==== inversion

/-- A submission overwrites one submission account, and no commitment. -/
theorem initPochSubmission_ok {tx : Tx env.toEnv}
    {asset identity policy : Bytes}
    (h : initPochSubmission env tx owner chain asset identity policy w
      = .ok w') :
    w'.commitments = w.commitments ∧ ∃ s : PoCHSubmission,
      s.policyId = policy ∧ w'.submissions = update w.submissions
        (env.pda (.pochSubmission owner chain)) (some s) := by
  simp only [initPochSubmission, bind_ok] at h
  obtain ⟨-, -, l₁, -, l₂, -, -, -, -, -, -, -, -, -, -, -, hw⟩ := h
  cases hw
  exact ⟨rfl, _, rfl, rfl⟩

/-- What a commitment writes to the two accounts of its owner and
chain. -/
theorem commitPochScoreBundle_ok {tx : Tx env.toEnv} {k : Pubkey}
    {challenge score : Bytes}
    (h : commitPochScoreBundle env tx k owner challenge score w = .ok w') :
    ∃ s, w.submissions k = some s
      ∧ k = env.pda (.pochSubmission owner s.chain) ∧ s.owner = owner
      ∧ w'.submissions = update w.submissions k (some
          { s with
            challengeId := challenge
            scoreBundleCommitment := score
            proofVerified := false
            updatedAt := tx.clock })
      ∧ w'.commitments = update w.commitments
          (env.pda (.pochCommitment owner s.chain)) (some
          { openCommitment (w.commitments
              (env.pda (.pochCommitment owner s.chain))) owner k s with
            challengeId := challenge
            scoreBundleCommitment := score
            committedAt := tx.clock }) := by
  simp only [commitPochScoreBundle, loadSubmission, bind_ok, load_ok,
    requireSeeds_ok, ensure_ok] at h
  obtain ⟨s, ⟨s', hs, -, hk, hs'⟩, status, -, l, -, -, -, -, -, -, howner,
    -, -, hw⟩ := h
  cases hs'
  cases hw
  exact ⟨s, hs, hk, howner, rfl, rfl⟩

-- ==== the invariant

/-- A commitment that names what its address is derived from. -/
def Named (env : Env) (owner : Pubkey) (chain : Bytes)
    (c : PoCHCommitment) : Prop :=
  c.owner = owner ∧ c.submission = env.pda (.pochSubmission owner chain)
    ∧ c.chain = chain

/-- Every commitment is named. -/
def AllNamed (env : Env) (w : World) : Prop :=
  ∀ owner chain c, w.commitments (env.pda (.pochCommitment owner chain))
    = some c → Named env owner chain c

theorem openCommitment_named {o : Option PoCHCommitment} {s : PoCHSubmission}
    (h : ∀ c, o = some c → Named env owner s.chain c) :
    Named env owner s.chain (openCommitment o owner
      (env.pda (.pochSubmission owner s.chain)) s) := by
  cases o with
  | none => exact ⟨rfl, rfl, rfl⟩
  | some c =>
    simp only [openCommitment]
    split
    · exact ⟨rfl, rfl, rfl⟩
    · exact h c rfl

/-- An account in use keeps its policy, a new one takes the
submission's. -/
theorem openCommitment_policy {o : Option PoCHCommitment} {k : Pubkey}
    {s : PoCHSubmission} :
    (openCommitment o owner k s).policyId = s.policyId
      ↔ ∀ c, o = some c →
          c.owner = defaultPubkey ∨ c.policyId = s.policyId := by
  cases o with
  | none => simp [openCommitment]
  | some c =>
    by_cases hdef : c.owner = defaultPubkey
    · simp [openCommitment, hdef]
    · simp [openCommitment, hdef]

/-- The action submits or commits for the owner and the chain. -/
def Rewrites (owner : Pubkey) (chain : Bytes) (a : Action env) : Prop :=
  match a.op with
  | .initPochSubmission o c _ _ _ => o = owner ∧ c = chain
  | .commitPochScoreBundle k _ _ _ =>
    k = env.pda (.pochSubmission owner chain)
  | _ => False

/-- Neither the policy submitted nor the commitment changed. -/
def Untouched (env : Env) (owner : Pubkey) (chain : Bytes)
    (w w' : World) : Prop :=
  (w'.submissions (env.pda (.pochSubmission owner chain))).map
      PoCHSubmission.policyId
    = (w.submissions (env.pda (.pochSubmission owner chain))).map
        PoCHSubmission.policyId
  ∧ w'.commitments (env.pda (.pochCommitment owner chain))
    = w.commitments (env.pda (.pochCommitment owner chain))

/-- A submission rewritten in place under its policy. -/
theorem untouched_of_put {k : Pubkey} {s s' : PoCHSubmission}
    (hs : w.submissions k = some s)
    (hsub : w'.submissions = update w.submissions k (some s'))
    (hpolicy : s'.policyId = s.policyId)
    (hcom : w'.commitments = w.commitments) :
    Untouched env owner chain w w' := by
  refine ⟨?_, by rw [hcom]⟩
  rw [hsub]
  by_cases hk : env.pda (.pochSubmission owner chain) = k
  · subst hk
    rw [update_self, hs]
    exact congrArg some hpolicy
  · rw [update_of_ne hk]

/-- One step names what it commits, and leaves the accounts of every
other owner and chain. -/
theorem step_commitments {a : Action env} (hI : AllNamed env w)
    (h : step env a w = .ok w') :
    AllNamed env w' ∧ ∀ owner chain, ¬ Rewrites owner chain a →
      Untouched env owner chain w w' := by
  have hkeep : w'.commitments = w.commitments → AllNamed env w' := by
    intro hsame owner chain c hc
    exact hI owner chain c (hsame ▸ hc)
  unfold step at h
  cases hop : a.op with
  | initPochSubmission o c asset identity policy =>
    rw [hop] at h
    obtain ⟨hcom, s, -, hsub⟩ := initPochSubmission_ok h
    refine ⟨hkeep hcom, fun owner chain hno => ⟨?_, by rw [hcom]⟩⟩
    rw [hsub, update_of_ne]
    intro hk
    cases env.pda_injective hk
    exact hno (by simp [Rewrites, hop])
  | commitPochScoreBundle k o challenge score =>
    rw [hop] at h
    obtain ⟨s, -, rfl, -, hsub, hcom⟩ := commitPochScoreBundle_ok h
    constructor
    · intro owner chain c hc
      rw [hcom] at hc
      by_cases hk : env.pda (.pochCommitment owner chain)
          = env.pda (.pochCommitment o s.chain)
      · cases env.pda_injective hk
        rw [update_self] at hc
        cases hc
        exact openCommitment_named (hI o s.chain)
      · rw [update_of_ne hk] at hc
        exact hI owner chain c hc
    · intro owner chain hno
      -- the address of the submission tells the commitment's
      have hother : (owner, chain) ≠ (o, s.chain) := by
        rintro ⟨⟩
        exact hno (by simp [Rewrites, hop])
      constructor
      · rw [hsub, update_of_ne]
        intro hk
        cases env.pda_injective hk
        exact hother rfl
      · rw [hcom, update_of_ne]
        intro hk
        cases env.pda_injective hk
        exact hother rfl
  | verifyPochProof o data =>
    rw [hop] at h
    simp only [verifyPochProof, bind_ok, load_ok] at h
    obtain ⟨args, -, seeds, -, -, -, s, hs, -, -, c, -, -, -, l, -, -, -,
      hw⟩ := h
    cases hw
    exact ⟨hkeep rfl, fun _ _ _ => untouched_of_put hs rfl rfl rfl⟩
  | finalizePoch k o oracle accepted round statement dispute =>
    rw [hop] at h
    simp only [finalizePoch, loadSubmission, bind_ok, load_ok] at h
    obtain ⟨s, ⟨s', hs, -, -, hs'⟩, status, -, c, -, -, -, -, -, -, -, -,
      -, -, -, -, -, -, -, -, -, -, -, -, -, hw⟩ := h
    cases hs'
    cases hw
    exact ⟨hkeep rfl, fun _ _ _ => untouched_of_put hs rfl rfl rfl⟩
  | setOracles oracles =>
    rw [hop] at h
    cases h
    exact ⟨hkeep rfl, fun _ _ _ => ⟨rfl, rfl⟩⟩
  | systemTransfer src dst n =>
    rw [hop] at h
    simp only [bind_ok] at h
    obtain ⟨-, -, l, -, hw⟩ := h
    cases hw
    exact ⟨hkeep rfl, fun _ _ _ => ⟨rfl, rfl⟩⟩

theorem allNamed_reachable
    (hw : Reachable (step env) Genesis w) : AllNamed env w := by
  refine reachable_induct (I := AllNamed env) ?_ ?_ hw
  · intro w₀ h0 owner chain c hc
    rw [h0.commitments] at hc
    cases hc
  · intro a s s' hI hs
    exact (step_commitments hI hs).1

theorem run_untouched {tr : List (Action env)} :
    ∀ {w w' : World}, AllNamed env w → run (step env) w tr = .ok w' →
      (∀ a ∈ tr, ¬ Rewrites owner chain a) →
      Untouched env owner chain w w' := by
  induction tr with
  | nil =>
    intro w w' _ hrun _
    cases hrun
    exact ⟨rfl, rfl⟩
  | cons a rest ih =>
    intro w w' hI hrun hno
    obtain ⟨m, ha, hrest⟩ := run_cons.mp hrun
    obtain ⟨hI', hstep⟩ := step_commitments hI ha
    obtain ⟨hsub, hcom⟩ := hstep owner chain (hno a List.mem_cons_self)
    obtain ⟨hsub', hcom'⟩ := ih hI' hrest fun b hb =>
      hno b (List.mem_cons_of_mem _ hb)
    exact ⟨hsub'.trans hsub, hcom'.trans hcom⟩

-- ==== the law

/-- The equalities `verify_poch_proof` demands of the two records of an
owner and a chain. -/
def Agree (env : Env) (owner : Pubkey) (chain challenge : Bytes)
    (w : World) : Prop :=
  ∃ s c, w.submissions (env.pda (.pochSubmission owner chain)) = some s
    ∧ w.commitments (env.pda (.pochCommitment owner chain)) = some c
    ∧ s.owner = owner ∧ c.owner = s.owner
    ∧ c.submission = env.pda (.pochSubmission owner chain)
    ∧ s.chain = chain ∧ c.chain = chain ∧ c.policyId = s.policyId
    ∧ s.challengeId = challenge ∧ c.challengeId = challenge
    ∧ c.scoreBundleCommitment = s.scoreBundleCommitment

/-- After a submission and a commitment for it, whatever happened
between the two elsewhere, the records agree exactly when the owner had
no commitment on the chain, or one under the policy now submitted. -/
theorem resubmission_agrees {m m₁ m₂ m' : World} {tx tx' : Tx env.toEnv}
    {asset identity policy challenge score : Bytes}
    {tr : List (Action env)}
    (hm : Reachable (step env) Genesis m)
    (hinit : initPochSubmission env tx owner chain asset identity policy m
      = .ok m₁)
    (hrun : run (step env) m₁ tr = .ok m₂)
    (hother : ∀ a ∈ tr, ¬ Rewrites owner chain a)
    (hcommit : commitPochScoreBundle env tx'
      (env.pda (.pochSubmission owner chain)) owner challenge score m₂
      = .ok m') :
    Agree env owner chain challenge m'
      ↔ ∀ c, m.commitments (env.pda (.pochCommitment owner chain)) = some c
          → c.owner = defaultPubkey ∨ c.policyId = policy := by
  obtain ⟨hcom₁, s₁, hpolicy, hsub₁⟩ := initPochSubmission_ok hinit
  have hnamed : AllNamed env m₁ := by
    intro o c x hx
    rw [hcom₁] at hx
    exact allNamed_reachable hm o c x hx
  obtain ⟨hsub, hcom⟩ := run_untouched hnamed hrun hother
  rw [hcom₁] at hcom
  obtain ⟨s, hs, hk, howner, hsub', hcom'⟩ :=
    commitPochScoreBundle_ok hcommit
  cases env.pda_injective hk
  -- the policy at the commitment is the one submitted
  rw [hs, hsub₁, update_self] at hsub
  have hkept : s.policyId = policy := (Option.some.inj hsub).trans hpolicy
  have hopen := openCommitment_named (s := s) fun c hc =>
    allNamed_reachable hm owner s.chain c (hcom ▸ hc)
  rw [← hcom, ← hkept, ← @openCommitment_policy owner _
    (env.pda (.pochSubmission owner s.chain)) s]
  obtain ⟨ho, hsubm, hchain⟩ := hopen
  have hs' := congrFun hsub' (env.pda (.pochSubmission owner s.chain))
  have hc' := congrFun hcom' (env.pda (.pochCommitment owner s.chain))
  rw [update_self] at hs' hc'
  constructor
  · rintro ⟨s', c, hs, hc, -, -, -, -, -, hagree, -⟩
    rw [hs'] at hs
    rw [hc'] at hc
    cases hs
    cases hc
    exact hagree
  · intro hagree
    exact ⟨_, _, hs', hc', howner, ho.trans howner.symm, hsubm, rfl, hchain,
      hagree, rfl, rfl, rfl⟩

-- ==== the runs

section Runs

open Poch.Concrete Solana.Concrete

/-- The two accounts of the owner of the runs. -/
def submissionKey : Pubkey :=
  Concrete.env.pda (.pochSubmission (wallet 10) Concrete.chain)

def commitmentKey : Pubkey :=
  Concrete.env.pda (.pochCommitment (wallet 10) Concrete.chain)

/-- The owner submits again, under the policy `policy`. -/
def resubmit (policy : Bytes) : Action Concrete.env :=
  act (.initPochSubmission (wallet 10) Concrete.chain text text policy)

/-- After a first submission and commitment, both can be repeated under
the same policy and under another; the commitment keeps its own. -/
theorem resubmit_runs {policy : Bytes} (h : policy ∈ [text, [113]]) :
    ∃ m m₁ m', run (step Concrete.env) start [submit, commit] = .ok m
      ∧ step Concrete.env (resubmit policy) m = .ok m₁
      ∧ step Concrete.env commit m₁ = .ok m'
      ∧ (m.commitments commitmentKey).map PoCHCommitment.policyId = some text
      ∧ (m'.submissions submissionKey).map PoCHSubmission.policyId = some policy
      ∧ (m'.commitments commitmentKey).map PoCHCommitment.policyId
        = some text := by
  have hall : ∀ policy ∈ [text, [113]],
      check (fun m =>
        (m.commitments commitmentKey).map PoCHCommitment.policyId
          == some text
        && check (fun w =>
            (w.submissions submissionKey).map PoCHSubmission.policyId
              == some policy
            && (w.commitments commitmentKey).map PoCHCommitment.policyId
              == some text)
          (run (step Concrete.env) m [resubmit policy, commit]))
        (run (step Concrete.env) start [submit, commit]) = true := by
    decide
  obtain ⟨m, hm, hrest⟩ := check_ok (hall policy h)
  simp only [Bool.and_eq_true, beq_iff_eq] at hrest
  obtain ⟨hfirst, hcheck⟩ := hrest
  obtain ⟨w, hw, hend⟩ := check_ok hcheck
  simp only [Bool.and_eq_true, beq_iff_eq] at hend
  obtain ⟨m₁, h₁, htail⟩ := run_cons.mp hw
  obtain ⟨m', h₂, hnil⟩ := run_cons.mp htail
  cases hnil
  exact ⟨m, m₁, w, hm, h₁, h₂, hfirst, hend.1, hend.2⟩

/-- Under the same policy the records agree. -/
theorem resubmission_agrees_again :
    ∃ w, run (step Concrete.env) start
        [submit, commit, resubmit text, commit] = .ok w
      ∧ Agree Concrete.env (wallet 10) Concrete.chain text w := by
  obtain ⟨m, m₁, m', hm, h₁, h₂, hfirst, -⟩ :=
    @resubmit_runs text (by simp)
  refine ⟨m', ?_, ?_⟩
  · exact run_append.mpr ⟨m, hm,
      run_cons.mpr ⟨m₁, h₁, run_cons.mpr ⟨m', h₂, rfl⟩⟩⟩
  · refine (resubmission_agrees ⟨start, _, start_genesis, hm⟩ h₁
      (run_nil m₁) (fun _ ha => by cases ha) h₂).mpr ?_
    intro c hc
    rw [show m.commitments commitmentKey = some c from hc] at hfirst
    exact .inr (Option.some.inj hfirst)

/-- Under another policy the commitment stays behind. -/
theorem resubmission_disagrees :
    ∃ m m₁ m', Reachable (step Concrete.env) Genesis m
      ∧ step Concrete.env (resubmit [113]) m = .ok m₁
      ∧ step Concrete.env commit m₁ = .ok m'
      ∧ ¬ Agree Concrete.env (wallet 10) Concrete.chain text m' := by
  obtain ⟨m, m₁, m', hm, h₁, h₂, -, hs, hc⟩ :=
    @resubmit_runs [113] (by simp)
  refine ⟨m, m₁, m', ⟨start, _, start_genesis, hm⟩, h₁, h₂, ?_⟩
  rintro ⟨s, c, hs', hc', -, -, -, -, -, hpolicy, -⟩
  rw [show m'.submissions submissionKey = some s from hs'] at hs
  rw [show m'.commitments commitmentKey = some c from hc'] at hc
  have hne : some c.policyId = some s.policyId := congrArg some hpolicy
  rw [show some c.policyId = some text from hc,
    show some s.policyId = some [113] from hs] at hne
  simp [text] at hne

end Runs

end KamiyoProtocol.Kamiyo.Poch
