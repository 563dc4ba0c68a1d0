/-
Uniqueness of the identity nullifier.

Nothing in `verify_poch_proof` compares its nullifier with earlier ones.
Replay is left to the address of the nullifier account, which is created
and so must not exist. The address is derived from two arguments the
account validation reads by itself, and it reads them one after the
other: after the chain come not the last 32 bytes of the arguments, the
nullifier, but the next 32, where the proof starts (`readSeeds_of_args`).

So a nullifier is spent together with the first half of `proof_a`. What
the accounts record are exactly the nullifiers used (`Recorded`), and a
nullifier is used twice exactly when a later call brings a proof that
starts otherwise.
-/
import KamiyoProtocol.Kamiyo.Poch.Concrete

namespace KamiyoProtocol.Kamiyo.Poch

open Solana Exec Function

variable {env : Env} {w w' : World}

-- ==== two readings

theorem readSeeds_of_args {data rest : Bytes} {args : VerifyArgs}
    (h : readVerifyArgs data = some (args, rest)) :
    ∃ rest', readVerifySeeds data
      = some (⟨args.chain, args.proofA.take 32⟩, rest') := by
  simp only [readVerifyArgs, Borsh.bind_some] at h
  obtain ⟨chain, d₁, hchain, proofA, d₂, hA, proofB, d₃, -, proofC, d₄, -,
    policy, d₅, -, challenge, d₆, -, nullifier, d₇, -, hargs⟩ := h
  obtain ⟨rfl, -⟩ := Borsh.pure_some.mp hargs
  obtain ⟨hlen, hd₁⟩ := Borsh.fixed_some.mp hA
  refine ⟨proofA.drop 32 ++ d₂, ?_⟩
  have hseed : Borsh.fixed 32 d₁
      = some (proofA.take 32, proofA.drop 32 ++ d₂) := by
    rw [Borsh.fixed_some, hd₁, ← List.append_assoc, List.take_append_drop]
    refine ⟨?_, rfl⟩
    rw [List.length_take]
    omega
  exact Borsh.bind_some.mpr ⟨chain, d₁, hchain,
    Borsh.bind_some.mpr ⟨_, _, hseed, Borsh.pure_some.mpr ⟨rfl, rfl⟩⟩⟩

theorem decode_ok {α : Type} {r : Borsh.Reader α} {data : Bytes} {a : α} :
    decode r data = .ok a ↔ ∃ rest, r data = some (a, rest) := by
  unfold decode
  rw [okOr_ok, Option.map_eq_some_iff]
  constructor
  · rintro ⟨⟨b, rest⟩, hr, rfl⟩
    exact ⟨rest, hr⟩
  · rintro ⟨rest, hr⟩
    exact ⟨(a, rest), hr, rfl⟩

-- ==== inversion

/-- Where the account of a call with these arguments is created. -/
def nullifierKey (env : Env) (args : VerifyArgs) : Pubkey :=
  env.pda (.pochNullifier args.chain (args.proofA.take 32))

/-- An accepted verification found no account under the first half of its
proof, and leaves one there that records its nullifier. -/
theorem verifyPochProof_ok {tx : Tx env.toEnv} {owner : Pubkey}
    {data : Bytes} (h : verifyPochProof env tx owner data w = .ok w') :
    ∃ args n, decode readVerifyArgs data = .ok args
      ∧ w.nullifiers (nullifierKey env args) = none
      ∧ n.nullifier = args.identityNullifier
      ∧ w'.nullifiers
        = update w.nullifiers (nullifierKey env args) (some n) := by
  simp only [verifyPochProof, bind_ok, requireFresh_ok] at h
  obtain ⟨args, hargs, seeds, hseeds, -, -, s, -, -, -, c, -, -, hfresh, l,
    -, -, -, hw⟩ := h
  obtain ⟨rest, hread⟩ := decode_ok.mp hargs
  obtain ⟨rest', hread'⟩ := readSeeds_of_args hread
  obtain rfl : seeds = ⟨args.chain, args.proofA.take 32⟩ := by
    obtain ⟨rest₁, hread₁⟩ := decode_ok.mp hseeds
    rw [hread'] at hread₁
    cases hread₁
    rfl
  cases hw
  exact ⟨args, _, hargs, hfresh, rfl, rfl⟩

/-- The call uses the nullifier `n` on `chain`. -/
def Uses (a : Action env) (chain n : Bytes) : Prop :=
  ∃ owner data args, a.op = .verifyPochProof owner data
    ∧ decode readVerifyArgs data = .ok args
    ∧ args.chain = chain ∧ args.identityNullifier = n

/-- What one action can do to the nullifier accounts. -/
inductive NullifierStep (env : Env) (a : Action env) (w w' : World) :
    Prop where
  | kept (same : w'.nullifiers = w.nullifiers)
      (unused : ∀ chain n, ¬ Uses a chain n)
  | verified (owner : Pubkey) (data : Bytes) (args : VerifyArgs)
      (n : PoCHNullifier) (op : a.op = .verifyPochProof owner data)
      (read : decode readVerifyArgs data = .ok args)
      (fresh : w.nullifiers (nullifierKey env args) = none)
      (recorded : n.nullifier = args.identityNullifier)
      (frame : w'.nullifiers
        = update w.nullifiers (nullifierKey env args) (some n))

variable {a : Action env}

theorem not_uses (h : ∀ owner data, a.op ≠ .verifyPochProof owner data)
    (chain n : Bytes) : ¬ Uses a chain n := by
  rintro ⟨owner, data, args, hop, -⟩
  exact h owner data hop

theorem step_nullifiers (h : step env a w = .ok w') :
    NullifierStep env a w w' := by
  unfold step at h
  cases hop : a.op with
  | initPochSubmission owner chain asset identity policy =>
    rw [hop] at h
    simp only [initPochSubmission, bind_ok] at h
    obtain ⟨-, -, l₁, -, l₂, -, -, -, -, -, -, -, -, -, -, -, hw⟩ := h
    cases hw
    exact .kept rfl (not_uses (by simp [hop]))
  | commitPochScoreBundle submission owner challenge score =>
    rw [hop] at h
    simp only [commitPochScoreBundle, bind_ok] at h
    obtain ⟨s, -, status, -, l, -, -, -, -, -, -, -, -, -, hw⟩ := h
    cases hw
    exact .kept rfl (not_uses (by simp [hop]))
  | verifyPochProof owner data =>
    rw [hop] at h
    obtain ⟨args, n, hargs, hfresh, hrec, hframe⟩ := verifyPochProof_ok h
    exact .verified owner data args n hop hargs hfresh hrec hframe
  | finalizePoch submission owner oracle accepted round statement dispute =>
    rw [hop] at h
    simp only [finalizePoch, bind_ok] at h
    obtain ⟨s, -, status, -, c, -, -, -, -, -, -, -, -, -, -, -, -, -, -, -,
      -, -, -, -, -, -, hw⟩ := h
    cases hw
    exact .kept rfl (not_uses (by simp [hop]))
  | setOracles oracles =>
    rw [hop] at h
    cases h
    exact .kept rfl (not_uses (by simp [hop]))
  | systemTransfer src dst n =>
    rw [hop] at h
    simp only [bind_ok] at h
    obtain ⟨-, -, l, -, hw⟩ := h
    cases hw
    exact .kept rfl (not_uses (by simp [hop]))

-- ==== recording

/-- An account of `chain`, derived from the bytes `x`, records the
nullifier `n`. -/
def RecordsAt (env : Env) (w : World) (chain x n : Bytes) : Prop :=
  ∃ r, w.nullifiers (env.pda (.pochNullifier chain x)) = some r
    ∧ r.nullifier = n

/-- The nullifiers recorded on each chain are those the actions used. -/
def Recorded (p : List (Action env)) (w : World) : Prop :=
  ∀ chain n, (∃ x, RecordsAt env w chain x n) ↔ ∃ a ∈ p, Uses a chain n

theorem Uses.of_op {owner : Pubkey} {data chain n : Bytes}
    {args : VerifyArgs} (hop : a.op = .verifyPochProof owner data)
    (hread : decode readVerifyArgs data = .ok args) :
    Uses a chain n ↔ args.chain = chain ∧ args.identityNullifier = n := by
  constructor
  · rintro ⟨owner', data', args', hop', hread', hchain, hn⟩
    rw [hop] at hop'
    cases hop'
    rw [hread] at hread'
    cases hread'
    exact ⟨hchain, hn⟩
  · rintro ⟨hchain, hn⟩
    exact ⟨owner, data, args, hop, hread, hchain, hn⟩

/-- A new account adds its own nullifier to those recorded. -/
theorem recordsAt_put {args : VerifyArgs} {r : PoCHNullifier}
    (hfresh : w.nullifiers (nullifierKey env args) = none)
    (hrec : r.nullifier = args.identityNullifier)
    (hframe : w'.nullifiers
      = update w.nullifiers (nullifierKey env args) (some r))
    (chain n : Bytes) :
    (∃ x, RecordsAt env w' chain x n)
      ↔ (∃ x, RecordsAt env w chain x n)
        ∨ (args.chain = chain ∧ args.identityNullifier = n) := by
  constructor
  · rintro ⟨x, r', hr', hn⟩
    rw [hframe] at hr'
    by_cases hkey : env.pda (.pochNullifier chain x) = nullifierKey env args
    · rw [hkey, update_self] at hr'
      cases hr'
      have hseed := env.pda_injective hkey
      simp only [Seed.pochNullifier.injEq] at hseed
      exact .inr ⟨hseed.1.symm, hrec.symm.trans hn⟩
    · rw [update_of_ne hkey] at hr'
      exact .inl ⟨x, r', hr', hn⟩
  · rintro (⟨x, r', hr', hn⟩ | ⟨rfl, rfl⟩)
    · refine ⟨x, r', ?_, hn⟩
      rw [hframe, update_of_ne _]
      · exact hr'
      · intro hkey
        rw [hkey, hfresh] at hr'
        cases hr'
    · refine ⟨args.proofA.take 32, r, ?_, hrec⟩
      rw [hframe]
      exact update_self ..

theorem Recorded.step {p : List (Action env)}
    (h : Recorded p w) (hstep : step env a w = .ok w') :
    Recorded (p ++ [a]) w' := by
  intro chain n
  have happend : (∃ b ∈ p ++ [a], Uses b chain n)
      ↔ (∃ b ∈ p, Uses b chain n) ∨ Uses a chain n := by
    simp only [List.mem_append, List.mem_singleton, or_and_right, exists_or,
      exists_eq_left]
  rw [happend, ← h chain n]
  cases step_nullifiers hstep with
  | kept hsame hunused =>
    simp only [RecordsAt, hsame, hunused chain n, or_false]
  | verified owner data args r hop hread hfresh hrec hframe =>
    rw [Uses.of_op hop hread]
    exact recordsAt_put hfresh hrec hframe chain n

/-- In every run from before any submission, the accounts record the
nullifiers used. -/
theorem nullifiers_recorded {w₀ : World} {tr : List (Action env)}
    (hgen : Genesis w₀) (hrun : run (step env) w₀ tr = .ok w) :
    Recorded tr w := by
  have hstart : Recorded ([] : List (Action env)) w₀ := by
    intro chain n
    constructor
    · rintro ⟨x, r, hr, -⟩
      rw [hgen.nullifiers] at hr
      cases hr
    · rintro ⟨a, ha, -⟩
      cases ha
  exact run_induct_log (I := Recorded)
    (fun _ _ _ _ hI hs => hI.step hs) hstart hrun

-- ==== the law

/-- No two calls of the run use one nullifier on one chain. -/
def NullifierOnce (tr : List (Action env)) : Prop :=
  ∀ p a q b r chain n, tr = p ++ a :: (q ++ b :: r) →
    Uses a chain n → ¬ Uses b chain n

/-- The action, when it verifies a proof, brings one that starts as every
proof its nullifier was recorded with. -/
def StartsAlike (a : Action env) (w : World) : Prop :=
  ∀ owner data args x, a.op = .verifyPochProof owner data →
    decode readVerifyArgs data = .ok args →
    RecordsAt env w args.chain x args.identityNullifier →
    x = args.proofA.take 32

/-- A run uses every nullifier once on each chain exactly when no call
brings a recorded nullifier with a proof that starts otherwise. -/
theorem nullifier_once_iff {w₀ : World} {tr : List (Action env)}
    (hgen : Genesis w₀) (hrun : run (step env) w₀ tr = .ok w) :
    NullifierOnce tr ↔ Meets (step env) StartsAlike w₀ tr := by
  rw [meets_iff_cut]
  constructor
  · intro honce p b r m htr hp owner data args x hop hread hrec
    -- the recorded nullifier was used before, hence not by this call
    obtain ⟨a, ha, huse⟩ :=
      (nullifiers_recorded hgen hp args.chain args.identityNullifier).mp
        ⟨x, hrec⟩
    obtain ⟨p₁, p₂, rfl⟩ := List.append_of_mem ha
    have hnot := honce p₁ a p₂ b r args.chain args.identityNullifier
      (by rw [htr]; simp) huse
    exact absurd ((Uses.of_op hop hread).mpr ⟨rfl, rfl⟩) hnot
  · intro hmeets p a q b r chain n htr ha hb
    have hcut : tr = (p ++ a :: q) ++ b :: r := by
      rw [htr]
      simp
    rw [hcut] at hrun
    obtain ⟨m, hp, hrest⟩ := run_append.mp hrun
    obtain ⟨m', hstep, -⟩ := run_cons.mp hrest
    obtain ⟨x, hrec⟩ := (nullifiers_recorded hgen hp chain n).mpr
      ⟨a, by simp, ha⟩
    cases step_nullifiers hstep with
    | kept _ hunused => exact hunused chain n hb
    | verified owner data args s hop hread hfresh _ _ =>
      obtain ⟨rfl, rfl⟩ := (Uses.of_op hop hread).mp hb
      have hx := hmeets _ b r m hcut hp owner data args x hop hread hrec
      -- the account the call would create is already there
      subst hx
      obtain ⟨s', hs', -⟩ := hrec
      have hnone : m.nullifiers (env.pda
          (.pochNullifier args.chain (args.proofA.take 32))) = none := hfresh
      rw [hs'] at hnone
      cases hnone

-- ==== the runs

open Poch.Concrete Solana.Concrete in
/-- A run with one verification, by an owner who submitted and
committed. -/
theorem nullifier_once_single :
    Meets (step Concrete.env) StartsAlike start
      [submit, commit, verify 1] := by
  obtain ⟨w, hrun, -⟩ := check_ok (show check (fun _ => true)
    (run (step Concrete.env) start [submit, commit, verify 1]) = true
      by decide +kernel)
  refine (nullifier_once_iff start_genesis hrun).mp ?_
  intro p a q b r c n hcut ha hb
  have hsubmit : ¬ Uses submit c n := not_uses (fun _ _ h => by cases h) c n
  have hcommit : ¬ Uses commit c n := not_uses (fun _ _ h => by cases h) c n
  cases p with
  | nil =>
    obtain ⟨rfl, -⟩ := List.cons.inj hcut
    exact hsubmit ha
  | cons x p =>
    cases p with
    | nil =>
      obtain ⟨-, htail⟩ := List.cons.inj hcut
      obtain ⟨rfl, -⟩ := List.cons.inj htail
      exact hcommit ha
    | cons y p =>
      have hlen := congrArg List.length hcut
      simp only [List.length_cons, List.length_append, List.length_nil] at hlen
      omega

open Poch.Concrete Solana.Concrete in
/-- The owner verifies two randomisations of one proof, and spends one
nullifier twice. -/
theorem nullifier_reused :
    Genesis start
      ∧ (∃ w, run (step Concrete.env) start
          [submit, commit, verify 1, verify 2] = .ok w)
      ∧ ¬ NullifierOnce [submit, commit, verify 1, verify 2] := by
  refine ⟨start_genesis, ?_, ?_⟩
  · obtain ⟨w, hrun, -⟩ := check_ok (show check (fun _ => true)
      (run (step Concrete.env) start
        [submit, commit, verify 1, verify 2]) = true by decide +kernel)
    exact ⟨w, hrun⟩
  · intro honce
    refine honce [submit, commit] (verify 1) [] (verify 2) [] chain
      nullifier rfl ?_ ?_
    · exact ⟨wallet 10, data 1, args 1, rfl, by decide +kernel, rfl, rfl⟩
    · exact ⟨wallet 10, data 2, args 2, rfl, by decide +kernel, rfl, rfl⟩

end KamiyoProtocol.Kamiyo.Poch
