/-
Independence of the commit-reveal vote.

A commitment hashes the transaction id, the score and the salt, not the
oracle, so a copied commitment opens with the copied score and salt.
What keeps two oracles' votes apart is that their commitments differ: in
a run where nobody commits a hash already committed on the escrow, no
two oracles ever have a submission accepted under one score and salt.

`Recorded` is the persistence half: a commitment, once made, stays with
its oracle and its hash. `Separate` is the freshness half: commitments
of different oracles differ.
-/
import KamiyoProtocol.Kamiyo.Concrete

namespace KamiyoProtocol.Kamiyo

open Solana Exec

variable {env : Env Seed} {w w' : World}

/-- The action submits `score` under `salt` on the escrow at `k`, as
`oracle`. -/
def Discloses (a : Action env) (k oracle : Pubkey) (score : Nat)
    (salt : Bytes) : Prop :=
  ∃ signature, a.op = .submitOracleScore ⟨k, oracle⟩ score salt signature

/-- In the run, a score and salt disclosed on the escrow at `k` are never
disclosed again by another oracle. -/
def ReplayFree (k : Pubkey) (tr : List (Action env)) : Prop :=
  ∀ p q r a b A B score salt, tr = p ++ a :: (q ++ b :: r) →
    Discloses a k A score salt → Discloses b k B score salt → A = B

/-- The action, when it commits, commits a hash no other oracle has
committed on that escrow. -/
def FreshCommit (a : Action env) (w : World) : Prop :=
  ∀ k oracle hash e, a.op = .commitOracleScore ⟨k, oracle⟩ hash →
    w.escrows k = some e →
    ∀ c ∈ e.oracleCommitments, c.oracle ≠ oracle → c.commitmentHash ≠ hash

-- ==== persistence

/-- The escrow at `k` has the transaction id `id` and records `oracle`'s
commitment to `hash`. -/
def Recorded (k : Pubkey) (id : Bytes) (oracle : Pubkey) (hash : Bytes)
    (w : World) : Prop :=
  ∃ e, w.escrows k = some e ∧ e.transactionId = id
    ∧ ∃ c ∈ e.oracleCommitments, c.oracle = oracle ∧ c.commitmentHash = hash

theorem mem_set_revealed {cs : List OracleCommitment} {i : Nat}
    {c d : OracleCommitment} (hi : cs[i]? = some c) (hd : d ∈ cs) :
    ∃ d' ∈ cs.set i { c with revealed := true }, d'.oracle = d.oracle
      ∧ d'.commitmentHash = d.commitmentHash := by
  obtain ⟨j, hj⟩ := List.mem_iff_getElem?.mp hd
  obtain ⟨hlt, -⟩ := List.getElem?_eq_some_iff.mp hi
  by_cases hij : i = j
  · subst hij
    rw [hi] at hj
    cases hj
    exact ⟨_, List.mem_set hlt _, rfl, rfl⟩
  · refine ⟨d, ?_, rfl, rfl⟩
    rw [List.mem_iff_getElem?]
    exact ⟨j, (List.getElem?_set_ne hij).trans hj⟩

theorem of_mem_set_revealed {cs : List OracleCommitment} {i : Nat}
    {c d : OracleCommitment} (hi : cs[i]? = some c)
    (hd : d ∈ cs.set i { c with revealed := true }) :
    ∃ d' ∈ cs, d'.oracle = d.oracle ∧ d'.commitmentHash = d.commitmentHash := by
  rcases List.mem_or_eq_of_mem_set hd with h | h
  · exact ⟨d, h, rfl, rfl⟩
  · rw [h]
    exact ⟨c, List.mem_of_getElem? hi, rfl, rfl⟩

theorem Recorded.step {agent : Pubkey} {id id' : Bytes} {oracle : Pubkey}
    {hash : Bytes} {a : Action env}
    (h : Recorded (env.pda (.escrow agent id)) id' oracle hash w)
    (hstep : step env a w = .ok w') :
    Recorded (env.pda (.escrow agent id)) id' oracle hash w' := by
  obtain ⟨e, hesc, hid, c, hc, ho, hh⟩ := h
  have hkind : EscrowStep env a (env.pda (.escrow agent id)) w w' :=
    step_escrow hstep
  cases hkind with
  | aside ts _ _ he _ => exact ⟨e, he.trans hesc, hid, c, hc, ho, hh⟩
  | opened e₁ ts hop _ =>
    have := hop.fresh
    rw [hesc] at this
    cases this
  | marked e₁ he _ he' _ _ =>
    obtain rfl : e = e₁ := Option.some.inj (hesc.symm.trans he)
    exact ⟨_, he', hid, c, hc, ho, hh⟩
  | committed e₁ oracle' hash' endsAt _ he _ _ hw =>
    obtain rfl : e = e₁ := Option.some.inj (hesc.symm.trans he)
    subst hw
    exact ⟨_, setEscrow_self _ _ _, hid, c, List.mem_append_left _ hc, ho, hh⟩
  | revealed e₁ i c₁ oracle' score salt sig _ he _ hi _ _ hw =>
    obtain rfl : e = e₁ := Option.some.inj (hesc.symm.trans he)
    subst hw
    obtain ⟨c', hc', ho', hh'⟩ := mem_set_revealed hi hc
    exact ⟨_, setEscrow_self _ _ _, hid, c', hc', ho'.trans ho, hh'.trans hh⟩
  | settled e₁ e' ts us he _ he' _ hterms _ _ _ =>
    obtain rfl : e = e₁ := Option.some.inj (hesc.symm.trans he)
    refine ⟨e', he', hterms.transactionId.trans hid, c, ?_, ho, hh⟩
    rw [hterms.commitments]
    exact hc

theorem Discloses.recorded {agent : Pubkey} {id : Bytes} {a : Action env}
    {oracle : Pubkey} {score : Nat} {salt : Bytes}
    (h : Discloses a (env.pda (.escrow agent id)) oracle score salt)
    (hstep : step env a w = .ok w') :
    Recorded (env.pda (.escrow agent id)) id oracle
      (computeCommitmentHash env id score salt) w := by
  obtain ⟨signature, hop⟩ := h
  unfold step at hstep
  rw [hop] at hstep
  obtain ⟨e, i, c, he, hk, -, -, hi, ho, hh, -⟩ := submitOracleScore_ok hstep
  have hseed := env.pda_injective hk
  simp only [Seed.escrow.injEq] at hseed
  rw [hseed.2]
  exact ⟨e, hseed.2 ▸ he, rfl, c, List.mem_of_getElem? hi, ho, hh⟩

-- ==== freshness

/-- Commitments of different oracles on the escrow at `k` differ. -/
def Separate (k : Pubkey) (w : World) : Prop :=
  ∀ e, w.escrows k = some e → ∀ c ∈ e.oracleCommitments,
    ∀ d ∈ e.oracleCommitments, c.commitmentHash = d.commitmentHash →
      c.oracle = d.oracle

theorem Separate.step {agent : Pubkey} {id : Bytes} {a : Action env}
    (h : Separate (env.pda (.escrow agent id)) w) (hfresh : FreshCommit a w)
    (hstep : step env a w = .ok w') :
    Separate (env.pda (.escrow agent id)) w' := by
  intro e' hesc'
  have hkind : EscrowStep env a (env.pda (.escrow agent id)) w w' :=
    step_escrow hstep
  cases hkind with
  | aside ts _ _ he _ => exact h e' (he ▸ hesc')
  | opened e ts ho _ =>
    obtain ⟨t, hw⟩ := ho.frame
    rw [hw, setEscrow_self] at hesc'
    cases hesc'
    rw [ho.unvoted.2]
    simp
  | marked e he _ he' _ _ =>
    rw [he'] at hesc'
    cases hesc'
    exact h e he
  | committed e oracle hash endsAt hop he _ _ hw =>
    rw [hw, setEscrow_self] at hesc'
    cases hesc'
    have hnew := hfresh _ oracle hash e hop he
    intro c hc d hd heq
    simp only [Escrow.addCommitment, List.mem_append,
      List.mem_singleton] at hc hd
    -- the new commitment meets only its own oracle's
    rcases hc with hc | rfl
    · rcases hd with hd | rfl
      · exact h e he c hc d hd heq
      · by_cases ho : c.oracle = oracle
        · exact ho
        · exact absurd heq (hnew c hc ho)
    · rcases hd with hd | rfl
      · by_cases ho : d.oracle = oracle
        · exact ho.symm
        · exact absurd heq.symm (hnew d hd ho)
      · rfl
  | revealed e i c₁ oracle score salt sig _ he _ hi _ _ hw =>
    rw [hw, setEscrow_self] at hesc'
    cases hesc'
    intro c hc d hd heq
    obtain ⟨c', hc', hco, hch⟩ := of_mem_set_revealed hi hc
    obtain ⟨d', hd', hdo, hdh⟩ := of_mem_set_revealed hi hd
    rw [← hco, ← hdo]
    exact h e he c' hc' d' hd' (hch.trans (heq.trans hdh.symm))
  | settled e e₁ ts us he _ he' _ hterms _ _ _ =>
    rw [he'] at hesc'
    cases hesc'
    rw [hterms.commitments]
    exact h e he

-- ==== the law

/-- In every run from before the program is set up in which no oracle
commits a hash that another has committed on the same escrow, no
submission replays the score and salt another oracle disclosed. -/
theorem replay_free {w₀ : World} {tr : List (Action env)}
    (hgen : Genesis w₀) (hfresh : Meets (step env) FreshCommit w₀ tr)
    (hrun : run (step env) w₀ tr = .ok w) (agent : Pubkey)
    (id : Bytes) : ReplayFree (env.pda (.escrow agent id)) tr := by
  intro p q r a b A B score salt htr hA hB
  subst htr
  obtain ⟨w₁, hp, hrun₁⟩ := run_append.mp hrun
  obtain ⟨w₂, ha, hrun₂⟩ := run_cons.mp hrun₁
  obtain ⟨w₃, hq, hrun₃⟩ := run_append.mp hrun₂
  obtain ⟨w₄, hb, -⟩ := run_cons.mp hrun₃
  -- the first oracle's commitment is still there at the second reveal
  have hrec : Recorded (env.pda (.escrow agent id)) id A
      (computeCommitmentHash env id score salt) w₃ :=
    run_induct (fun _ _ _ hI hs => hI.step hs)
      ((hA.recorded ha).step ha) hq
  have hsep : Separate (env.pda (.escrow agent id)) w₃ := by
    have hstart : Separate (env.pda (.escrow agent id)) w₀ := by
      intro e he
      rw [hgen.escrows] at he
      cases he
    have hpre : run (step env) w₀ (p ++ a :: q) = .ok w₃ :=
      run_append.mpr ⟨w₁, hp, run_cons.mpr ⟨w₂, ha, hq⟩⟩
    have hcut : p ++ a :: (q ++ b :: r) = (p ++ a :: q) ++ b :: r := by
      simp
    rw [hcut] at hfresh
    exact run_induct_meets (fun _ _ _ hI hc hs => hI.step hc hs)
      hstart (meets_append hfresh hpre).1 hpre
  obtain ⟨e, he, -, c, hc, hcA, hch⟩ := hrec
  obtain ⟨e', he', -, d, hd, hdB, hdh⟩ := hB.recorded hb
  rw [he] at he'
  cases he'
  rw [← hcA, ← hdB]
  exact hsep e he c hc d hd (hch.trans hdh.symm)

open Concrete in
/-- Three oracles vote the same score under their own salts. -/
theorem replay_free_vote :
    ∃ w, run (step Concrete.env) start
        (setup ++ openSol :: dispute :: vote 70) = .ok w
      ∧ ReplayFree escrowKey (setup ++ openSol :: dispute :: vote 70) := by
  obtain ⟨w, hrun, -⟩ := check_ok (show check (fun _ => true)
    (run (step Concrete.env) start
      (setup ++ openSol :: dispute :: vote 70)) = true by decide +kernel)
  have hfresh : Meets (step Concrete.env) FreshCommit start
      (setup ++ openSol :: dispute :: vote 70) := by
    refine meets_of_check ?_ (show checkMeets (step Concrete.env)
      (fun a w => match a.op with
        | .commitOracleScore acc hash =>
          (w.escrows acc.escrow).all fun e =>
            decide (∀ c ∈ e.oracleCommitments, c.oracle ≠ acc.oracle →
              c.commitmentHash ≠ hash)
        | _ => true) start _ = true by decide +kernel)
    intro a s htest k oracle hash e hop he
    rw [hop] at htest
    dsimp only at htest
    rw [he] at htest
    exact of_decide_eq_true htest
  exact ⟨w, hrun, replay_free (genesis_genesis _ _ _ _) hfresh hrun _ _⟩

/-- The commitment oracle 20 publishes. -/
def published : Bytes :=
  computeCommitmentHash Concrete.env Concrete.transactionId 70
    (Concrete.salt 20)

/-- Oracle 21 commits what oracle 20 published, and reveals what oracle 20
revealed, with its own signature. -/
def copyVote : List (Action Concrete.env) :=
  [Concrete.commit 20 70 (Concrete.salt 20),
   Concrete.act [21] 1101 (.commitOracleScore
    ⟨Concrete.escrowKey, Concrete.wallet 21⟩ published),
   Concrete.reveal 20 70 (Concrete.salt 20),
   Concrete.reveal 21 70 (Concrete.salt 20)]

open Concrete in
/-- The copied vote is accepted, under an injective hash. -/
theorem vote_copied :
    Function.Injective Concrete.env.hash ∧ Genesis start
      ∧ (∃ w e, run (step Concrete.env) start
          (setup ++ openSol :: dispute :: copyVote) = .ok w
        ∧ w.escrows escrowKey = some e
        ∧ e.oracleSubmissions = [⟨wallet 20, 70, 1500⟩, ⟨wallet 21, 70, 1500⟩])
      ∧ ¬ ReplayFree escrowKey
          (setup ++ openSol :: dispute :: copyVote) := by
  refine ⟨fun _ _ h => h, genesis_genesis _ _ _ _, ?_, ?_⟩
  · obtain ⟨w, hrun, hany⟩ := check_ok (show check (fun w =>
        (w.escrows escrowKey).any fun e => decide (e.oracleSubmissions
          = [⟨wallet 20, 70, 1500⟩, ⟨wallet 21, 70, 1500⟩]))
      (run (step Concrete.env) start
        (setup ++ openSol :: dispute :: copyVote)) = true
        by decide +kernel)
    obtain ⟨e, he, hsubs⟩ := (Option.any_eq_true _ _).mp hany
    exact ⟨w, e, hrun, he, of_decide_eq_true hsubs⟩
  · intro hfree
    have hsame := hfree
      (setup ++ [openSol, dispute, commit 20 70 (salt 20),
        act [21] 1101 (.commitOracleScore ⟨escrowKey, wallet 21⟩
          published)]) [] []
      (reveal 20 70 (salt 20)) (reveal 21 70 (salt 20)) (wallet 20)
      (wallet 21) 70 (salt 20) (by simp [copyVote]) ⟨signature, rfl⟩
      ⟨signature, rfl⟩
    revert hsame
    decide

end KamiyoProtocol.Kamiyo
