/-
The two phases of the commit-reveal vote.

Nothing in the escrow names its phase. The end of the commit phase is
written by the first commitment and compared with the clock by every
later commitment and by every reveal; finalisation does not look at it
at all. What separates the phases is therefore a property of runs: a
submission on record means that some action taken so far had a clock at
or past the end of the commit phase, and clocks do not go back.

`Votes` is the invariant, of the actions so far and the state. Its half
about the lists (one commitment an oracle, one submission an oracle,
every submission the opening of a revealed commitment) needs no clock.
-/
import KamiyoProtocol.Kamiyo.Concrete

namespace KamiyoProtocol.Kamiyo

open Solana Exec

variable {env : Env Seed} {w w' : World}

-- ==== submissions

/-- The action reveals the submission `s` under `salt` on the escrow at
`k`. -/
def Reveals (a : Action env) (k : Pubkey) (s : OracleSubmission)
    (salt : Bytes) : Prop :=
  ∃ signature,
    a.op = .submitOracleScore ⟨k, s.oracle⟩ s.qualityScore salt signature

/-- A submission on the escrow is the opening of its oracle's revealed
commitment, by one of the actions `p`. -/
def Opens (k : Pubkey) (p : List (Action env)) (e : Escrow)
    (s : OracleSubmission) : Prop :=
  ∃ c ∈ e.oracleCommitments, ∃ salt, c.oracle = s.oracle ∧ c.revealed = true
    ∧ c.commitmentHash
      = computeCommitmentHash env e.transactionId s.qualityScore salt
    ∧ ∃ a ∈ p, Reveals a k s salt

/-- The votes recorded on an escrow after the actions `p`. -/
structure Votes (k : Pubkey) (p : List (Action env)) (e : Escrow) :
    Prop where
  committers : (e.oracleCommitments.map OracleCommitment.oracle).Nodup
  submitters : (e.oracleSubmissions.map OracleSubmission.oracle).Nodup
  opened : ∀ s ∈ e.oracleSubmissions, Opens k p e s
  /-- A submission was made at or past the end of the commit phase. -/
  closed : e.oracleSubmissions ≠ [] →
    ∃ endsAt, e.commitPhaseEndsAt = some endsAt ∧ ∃ a ∈ p, endsAt ≤ a.tx.clock

/-- A submission stays the opening of its commitment as long as revealed
commitments are kept. -/
theorem Opens.mono {k : Pubkey} {p p' : List (Action env)} {e e' : Escrow}
    {s : OracleSubmission} (h : Opens k p e s)
    (hid : e'.transactionId = e.transactionId)
    (hkeep : ∀ c ∈ e.oracleCommitments, c.revealed = true →
      c ∈ e'.oracleCommitments) (hp : ∀ a ∈ p, a ∈ p') :
    Opens k p' e' s := by
  obtain ⟨c, hc, salt, ho, hrev, hhash, a, ha, hrevs⟩ := h
  exact ⟨c, hkeep c hc hrev, salt, ho, hrev, hid ▸ hhash, a, hp a ha, hrevs⟩

theorem Votes.same {k : Pubkey} {p p' : List (Action env)} {e e' : Escrow}
    (h : Votes k p e) (hid : e'.transactionId = e.transactionId)
    (hc : e'.oracleCommitments = e.oracleCommitments)
    (hs : e'.oracleSubmissions = e.oracleSubmissions)
    (hphase : e'.commitPhaseEndsAt = e.commitPhaseEndsAt)
    (hp : ∀ a ∈ p, a ∈ p') : Votes k p' e' := by
  refine ⟨hc ▸ h.committers, hs ▸ h.submitters, ?_, ?_⟩
  · intro s hmem
    rw [hs] at hmem
    exact (h.opened s hmem).mono hid (fun c hmemc _ => hc ▸ hmemc) hp
  · intro hne
    rw [hs] at hne
    obtain ⟨endsAt, hend, a, ha, hle⟩ := h.closed hne
    exact ⟨endsAt, hphase.trans hend, a, hp a ha, hle⟩

variable {e : Escrow}

theorem commitPhaseEnd_some {clock endsAt t : Int}
    (hphase : e.commitPhaseEndsAt = some t)
    (h : commitPhaseEnd clock e = .ok endsAt) : endsAt = t ∧ clock < t := by
  unfold commitPhaseEnd at h
  rw [hphase] at h
  simp only [bind_ok, ensure_ok] at h
  obtain ⟨-, hlt, heq⟩ := h
  cases heq
  exact ⟨rfl, hlt⟩

theorem Votes.commit {k oracle : Pubkey} {p : List (Action env)}
    {hash : Bytes} {endsAt : Int} (a : Action env)
    (h : Votes k p e) (hfirst : ∀ c ∈ e.oracleCommitments, c.oracle ≠ oracle)
    (hphase : commitPhaseEnd a.tx.clock e = .ok endsAt) :
    Votes k (p ++ [a]) (e.addCommitment oracle hash a.tx.clock endsAt) := by
  refine ⟨Keyed.nodup_append h.committers hfirst, h.submitters, ?_, ?_⟩
  · intro s hs
    exact (h.opened s hs).mono rfl
      (fun c hc _ => List.mem_append_left _ hc)
      (fun b hb => List.mem_append_left _ hb)
  · intro hne
    obtain ⟨t, ht, b, hb, hle⟩ := h.closed hne
    obtain ⟨rfl, -⟩ := commitPhaseEnd_some ht hphase
    exact ⟨endsAt, rfl, b, List.mem_append_left _ hb, hle⟩

variable {a : Action env}

/-- One more submission, opening the oracle's own commitment. -/
theorem Votes.submit {k oracle : Pubkey} {p : List (Action env)}
    {i score : Nat} {c : OracleCommitment}
    {salt : Bytes} (h : Votes k p e) (hi : e.oracleCommitments[i]? = some c)
    (hown : c.oracle = oracle)
    (hhash : c.commitmentHash
      = computeCommitmentHash env e.transactionId score salt)
    (hphase : ∃ endsAt, e.commitPhaseEndsAt = some endsAt ∧ endsAt ≤ a.tx.clock)
    (honly : ∀ s ∈ e.oracleSubmissions, s.oracle ≠ oracle)
    (hrev : ∀ t, Reveals a k ⟨oracle, score, t⟩ salt) :
    Votes k (p ++ [a]) (e.addSubmission i c oracle score a.tx.clock) := by
  obtain ⟨hlt, -⟩ := List.getElem?_eq_some_iff.mp hi
  refine ⟨?_, Keyed.nodup_append h.submitters honly, ?_, ?_⟩
  · have hkeys : (e.oracleCommitments.set i { c with revealed := true }).map
        OracleCommitment.oracle
        = e.oracleCommitments.map OracleCommitment.oracle :=
      Keyed.map_set hi rfl
    exact hkeys ▸ h.committers
  · intro s hs
    rcases List.mem_append.mp hs with hs | hs
    · -- the commitment just marked is not one an earlier vote opened
      refine (h.opened s hs).mono rfl ?_
        (fun b hb => List.mem_append_left _ hb)
      intro d hd hdrev
      by_cases hdc : d = c
      · subst hdc
        refine List.mem_iff_getElem?.mpr ⟨i, ?_⟩
        rw [show (e.addSubmission i d oracle score a.tx.clock).oracleCommitments
          = e.oracleCommitments.set i { d with revealed := true } from rfl,
          List.getElem?_set_self hlt, ← hdrev]
      · obtain ⟨j, hj⟩ := List.mem_iff_getElem?.mp hd
        have hij : i ≠ j := by
          intro hij
          subst hij
          rw [hi] at hj
          exact hdc (Option.some.inj hj).symm
        exact List.mem_iff_getElem?.mpr
          ⟨j, (List.getElem?_set_ne hij).trans hj⟩
    · rw [List.mem_singleton] at hs
      subst hs
      exact ⟨_, List.mem_set hlt _, salt, hown, rfl, hhash, a,
        List.mem_append_right _ (List.mem_singleton_self a), hrev _⟩
  · intro _
    obtain ⟨endsAt, hend, hle⟩ := hphase
    exact ⟨endsAt, hend, a,
      List.mem_append_right _ (List.mem_singleton_self a), hle⟩

-- ==== the rule

/-- The votes of the escrow at `k`, when it exists. -/
def VotesAt (k : Pubkey) (p : List (Action env)) (w : World) : Prop :=
  ∀ e, w.escrows k = some e → Votes k p e

theorem VotesAt.step {agent : Pubkey} {id : Bytes} {p : List (Action env)}
    (h : VotesAt (env.pda (.escrow agent id)) p w)
    (hstep : step env a w = .ok w') :
    VotesAt (env.pda (.escrow agent id)) (p ++ [a]) w' := by
  intro e' hesc'
  have hkind : EscrowStep env a (env.pda (.escrow agent id)) w w' :=
    step_escrow hstep
  have hlog : ∀ b ∈ p, b ∈ p ++ [a] :=
    fun b hb => List.mem_append_left _ hb
  cases hkind with
  | aside ts _ _ he _ =>
    exact (h e' (he ▸ hesc')).same rfl rfl rfl rfl hlog
  | opened e ts ho _ =>
    obtain ⟨t, hw⟩ := ho.frame
    rw [hw, setEscrow_self] at hesc'
    cases hesc'
    obtain ⟨hsubs, hcomms⟩ := ho.unvoted
    refine ⟨by rw [hcomms]; exact List.nodup_nil,
      by rw [hsubs]; exact List.nodup_nil, ?_, fun hne => absurd hsubs hne⟩
    rw [hsubs]
    simp
  | marked e he _ he' _ _ =>
    rw [he'] at hesc'
    cases hesc'
    exact (h e he).same rfl rfl rfl rfl hlog
  | committed e oracle hash endsAt _ he _ hfirst hw hphase =>
    rw [hw, setEscrow_self] at hesc'
    cases hesc'
    exact (h e he).commit a hfirst hphase
  | revealed e i c oracle score salt sig hop he _ hi hown hhash hw hphase
      honly =>
    rw [hw, setEscrow_self] at hesc'
    cases hesc'
    exact (h e he).submit hi hown hhash hphase honly
      (fun _ => ⟨sig, hop⟩)
  | settled e e₁ ts us he _ he' _ hterms _ _ _ =>
    rw [he'] at hesc'
    cases hesc'
    exact (h e he).same hterms.transactionId hterms.commitments
      hterms.submissions hterms.phase hlog

/-- Every run from before the program is set up keeps the votes of every
escrow in order. -/
theorem votes_recorded {w₀ : World} {tr : List (Action env)}
    (hgen : Genesis w₀) (hrun : run (step env) w₀ tr = .ok w)
    (agent : Pubkey) (id : Bytes) :
    VotesAt (env.pda (.escrow agent id)) tr w := by
  have hstart : VotesAt (env.pda (.escrow agent id))
      ([] : List (Action env)) w₀ := by
    intro e he
    rw [hgen.escrows] at he
    cases he
  exact run_induct_log (I := VotesAt (env.pda (.escrow agent id)))
    (fun _ _ _ _ hI hs => hI.step hs) hstart hrun

theorem submitted_step {agent : Pubkey} {id : Bytes}
    (he : w.escrows (env.pda (.escrow agent id)) = some e)
    (hsub : e.oracleSubmissions ≠ []) (hstep : step env a w = .ok w') :
    ∃ e', w'.escrows (env.pda (.escrow agent id)) = some e'
      ∧ e'.oracleSubmissions ≠ [] := by
  have hkind : EscrowStep env a (env.pda (.escrow agent id)) w w' :=
    step_escrow hstep
  cases hkind with
  | aside ts _ _ hsame _ => exact ⟨e, hsame.trans he, hsub⟩
  | opened e₁ ts ho _ =>
    have hfresh := ho.fresh
    rw [he] at hfresh
    cases hfresh
  | marked e₁ he₁ _ he' _ _ =>
    obtain rfl : e = e₁ := Option.some.inj (he.symm.trans he₁)
    exact ⟨_, he', hsub⟩
  | committed e₁ oracle hash endsAt _ he₁ _ _ hw _ =>
    obtain rfl : e = e₁ := Option.some.inj (he.symm.trans he₁)
    rw [hw]
    exact ⟨_, setEscrow_self _ _ _, hsub⟩
  | revealed e₁ i c oracle score salt sig _ he₁ _ _ _ _ hw _ _ =>
    rw [hw]
    exact ⟨_, setEscrow_self _ _ _, by simp [Escrow.addSubmission]⟩
  | settled e₁ e' ts us he₁ _ he' _ hterms _ _ _ =>
    obtain rfl : e = e₁ := Option.some.inj (he.symm.trans he₁)
    exact ⟨e', he', hterms.submissions ▸ hsub⟩

-- ==== the law

/-- The phases of the vote on the escrow at `k` are kept apart in the run
`tr` from `w₀`. -/
structure PhaseSafe (k : Pubkey) (w₀ : World) (tr : List (Action env)) :
    Prop where
  /-- No commitment is accepted on an escrow with a submission. -/
  closed : ∀ p q w e, tr = p ++ q → run (step env) w₀ p = .ok w →
    w.escrows k = some e → e.oracleSubmissions ≠ [] →
    ∀ a ∈ q, ∀ oracle hash, a.op ≠ .commitOracleScore ⟨k, oracle⟩ hash
  /-- No oracle submits twice. -/
  once : ∀ p q w e, tr = p ++ q → run (step env) w₀ p = .ok w →
    w.escrows k = some e →
    (e.oracleSubmissions.map OracleSubmission.oracle).Nodup
  /-- A submitting oracle has one commitment, revealed, and to the score
  and salt it disclosed. -/
  backed : ∀ p q w e, tr = p ++ q → run (step env) w₀ p = .ok w →
    w.escrows k = some e → ∀ s ∈ e.oracleSubmissions,
      ∃ c salt, e.oracleCommitments.filter (fun d => d.oracle = s.oracle) = [c]
        ∧ c.revealed = true
        ∧ c.commitmentHash
          = computeCommitmentHash env e.transactionId s.qualityScore salt
        ∧ ∃ a ∈ p, Reveals a k s salt
  /-- Finalisation comes after the commit phase. -/
  finalised : ∀ p a q w e acc, tr = p ++ a :: q →
    run (step env) w₀ p = .ok w → w.escrows k = some e →
    a.op = .finalizeMultiOracleDispute acc → acc.escrow = k →
    ∃ endsAt, e.commitPhaseEndsAt = some endsAt ∧ endsAt ≤ a.tx.clock

/-- The end of the commit phase of an escrow with a submission is past at
every later action. -/
theorem over_later {k : Pubkey} {p q : List (Action env)}
    (hclock : (p ++ a :: q).Pairwise fun b c => b.tx.clock ≤ c.tx.clock)
    (h : Votes k p e) (hsub : e.oracleSubmissions ≠ []) :
    ∃ endsAt, e.commitPhaseEndsAt = some endsAt ∧ endsAt ≤ a.tx.clock := by
  obtain ⟨endsAt, hend, b, hb, hle⟩ := h.closed hsub
  have hba : b.tx.clock ≤ a.tx.clock :=
    (List.pairwise_append.mp hclock).2.2 b hb a List.mem_cons_self
  exact ⟨endsAt, hend, hle.trans hba⟩

/-- On a clock that does not go back, the phases of every escrow are kept
apart. -/
theorem phases_apart {w₀ : World} {tr : List (Action env)} (hgen : Genesis w₀)
    (hclock : tr.Pairwise fun a b => a.tx.clock ≤ b.tx.clock)
    (hrun : run (step env) w₀ tr = .ok w) (agent : Pubkey)
    (id : Bytes) : PhaseSafe (env.pda (.escrow agent id)) w₀ tr where
  closed := by
    intro p q m e htr hp he hsub a ha oracle hash hop
    obtain ⟨q₁, q₂, rfl⟩ := List.append_of_mem ha
    subst htr
    obtain ⟨m', hm', hq⟩ := run_append.mp hrun
    obtain rfl : m = m' := by
      rw [hp] at hm'
      cases hm'
      rfl
    obtain ⟨m₁, hq₁, hrest⟩ := run_append.mp hq
    obtain ⟨m₂, hstep, -⟩ := run_cons.mp hrest
    -- the submission is still there when the commitment is tried
    obtain ⟨e₁, he₁, hsub₁⟩ := run_induct
      (I := fun w => ∃ e, w.escrows (env.pda (.escrow agent id)) = some e
        ∧ e.oracleSubmissions ≠ [])
      (fun _ _ _ ⟨_, he, hsub⟩ hs => submitted_step he hsub hs)
      ⟨e, he, hsub⟩ hq₁
    have hpre : run (step env) w₀ (p ++ q₁) = .ok m₁ :=
      run_append.mpr ⟨m, hp, hq₁⟩
    rw [← List.append_assoc] at hclock
    obtain ⟨endsAt, hend, hle⟩ := over_later hclock
      (votes_recorded hgen hpre agent id e₁ he₁) hsub₁
    unfold step at hstep
    rw [hop] at hstep
    obtain ⟨e₂, t, he₂, -, -, -, hphase, -⟩ := commitOracleScore_ok hstep
    obtain rfl : e₁ = e₂ := Option.some.inj (he₁.symm.trans he₂)
    obtain ⟨-, hlt⟩ := commitPhaseEnd_some hend hphase
    omega
  once := by
    intro p q m e _ hp he
    exact (votes_recorded hgen hp agent id e he).submitters
  backed := by
    intro p q m e _ hp he s hs
    have hvotes := votes_recorded hgen hp agent id e he
    obtain ⟨c, hc, salt, ho, hrev, hhash, hact⟩ := hvotes.opened s hs
    have honly := Keyed.filter_eq_singleton hvotes.committers hc
    rw [ho] at honly
    exact ⟨c, salt, honly, hrev, hhash, hact⟩
  finalised := by
    intro p a q m e acc htr hp he hop hacc
    subst htr
    obtain ⟨m', hm', hq⟩ := run_append.mp hrun
    obtain rfl : m = m' := by
      rw [hp] at hm'
      cases hm'
      rfl
    obtain ⟨m₁, hstep, -⟩ := run_cons.mp hq
    unfold step at hstep
    rw [hop] at hstep
    obtain ⟨e₁, reg, reg', consensus, split, reward, ts, us, hf⟩ :=
      finalizeMultiOracleDispute_ok hstep
    have hesc := hf.escrow
    rw [hacc, he] at hesc
    cases hesc
    have hsub := (finalizeConsensus_counts hf.agreed).submitted
    exact over_later hclock (votes_recorded hgen hp agent id e he) hsub

open Concrete in
/-- Three oracles vote and a bystander finalises. -/
theorem phases_apart_vote :
    PhaseSafe escrowKey start
      (setup ++ openSol :: dispute :: vote 70 ++ [finalize true]) := by
  obtain ⟨w, hrun, -⟩ := check_ok (show check (fun _ => true)
    (run (step Concrete.env) start
      (setup ++ openSol :: dispute :: vote 70 ++ [finalize true])) = true
      by decide +kernel)
  exact phases_apart (genesis_genesis _ _ _ _) (by decide) hrun _ _

end KamiyoProtocol.Kamiyo
