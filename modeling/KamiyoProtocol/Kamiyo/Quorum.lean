/-
Which oracles decide a dispute, and whether enough of them can.

Three counts meet in a finalisation. The tier of the amount and the
quorum are compared with the number of submissions; the consensus is
computed from the submissions whose oracle is still registered; and the
quorum is half the registered oracles, rounded down. The votes recorded
on an escrow are of distinct oracles (`votes_recorded`) and so is the
registry (`roster_sound`), so all three count oracles, and what is left
between them is the number of submitters who have left since.

Who has left is read off the run: `departures` notes the submitters that a
step takes off the roster (a removal, a completed withdrawal, an expulsion)
and strikes off those who are registered again (`left_known`).

The last part relates the quorum to the room for votes. An escrow
account is sized for five of each list, whatever the registry holds.
-/
import Mathlib.Data.List.Dedup
import Mathlib.Data.Finset.Card
import KamiyoProtocol.Kamiyo.Phases
import KamiyoProtocol.Kamiyo.Pools

namespace KamiyoProtocol.Kamiyo

open Solana Exec

variable {env : Env Seed} {w w' : World}

-- ==== the roster

/-- The registered oracles are distinct, and at most fifty. -/
def RosterSound (w : World) : Prop :=
  ∀ reg, w.registry = some reg →
    (roster reg.oracles).Nodup ∧ reg.oracles.length ≤ maxOracles

@[simp] theorem length_roster (os : List OracleConfig) :
    (roster os).length = os.length :=
  List.length_map _

theorem roster_sublist {os os' : List OracleConfig}
    (h : (roster os).Nodup ∧ os.length ≤ maxOracles)
    (hsub : (roster os').Sublist (roster os)) :
    (roster os').Nodup ∧ os'.length ≤ maxOracles := by
  refine ⟨h.1.sublist hsub, ?_⟩
  have hlen := hsub.length_le
  rw [length_roster, length_roster] at hlen
  exact hlen.trans h.2

theorem roster_joined {os os' : List OracleConfig}
    (h : (roster os).Nodup ∧ os.length ≤ maxOracles)
    (hjoin : Joined os os') :
    (roster os').Nodup ∧ os'.length ≤ maxOracles := by
  rcases hjoin with heq | ⟨k, hnew, hroom, heq⟩
  · exact roster_sublist h (heq ▸ List.Sublist.refl _)
  · have hlen : os'.length = os.length + 1 := by
      rw [← length_roster os', heq, List.length_append, length_roster]
      rfl
    refine ⟨?_, by omega⟩
    rw [heq, List.nodup_append]
    refine ⟨h.1, by simp, ?_⟩
    intro x hx y hy hxy
    rw [List.mem_singleton] at hy
    rw [hxy, hy] at hx
    exact hnew hx

theorem RosterSound.step {a : Action env} (h : RosterSound w)
    (hstep : step env a w = .ok w') : RosterSound w' := by
  intro reg₁ hreg₁
  cases step_pools hstep with
  | aside ts _ _ hr _ => exact h reg₁ (hr ▸ hreg₁)
  | treasuryOpened ts _ _ _ _ hr => exact h reg₁ (hr ▸ hreg₁)
  | treasuryPaid acc n _ _ hr _ _ => exact h reg₁ (hr ▸ hreg₁)
  | registryOpened reg ts _ hempty _ _ _ hr _ =>
    rw [hr] at hreg₁
    cases hreg₁
    rw [hempty]
    exact ⟨List.nodup_nil, Nat.zero_le _⟩
  | neutral reg reg' hn =>
    rw [hn.frame] at hreg₁
    cases hreg₁
    exact roster_sublist (h reg hn.registry)
      (hn.roster ▸ List.Sublist.refl _)
  | deposited reg reg' src n hd =>
    rw [hd.frame] at hreg₁
    cases hreg₁
    exact roster_joined (h reg hd.registry) hd.roster
  | removed reg reg' o dst hd =>
    rw [hd.frame] at hreg₁
    cases hreg₁
    exact roster_sublist (h reg hd.registry) hd.roster
  | withdrawn acc reg reg' i o _ _ _ hd =>
    rw [hd.frame] at hreg₁
    cases hreg₁
    exact roster_sublist (h reg hd.registry) hd.roster
  | claimed reg reg' oracle n hr _ _ _ _ hw hkeys =>
    rw [hw] at hreg₁
    cases hreg₁
    exact roster_sublist (h reg hr) (hkeys ▸ List.Sublist.refl _)
  | finalized acc e reg reg' c split reward ts us _ hf =>
    obtain ⟨t, hw, -⟩ := hf.frame
    rw [hw] at hreg₁
    cases hreg₁
    exact roster_sublist (h reg hf.registry) hf.roster

/-- In every reachable state the registered oracles are distinct and at
most fifty. -/
theorem roster_sound (h : Reachable (step env) Genesis w) :
    RosterSound w := by
  have hstart : ∀ w₀, Genesis w₀ → RosterSound w₀ := by
    intro w₀ hgen reg hreg
    rw [hgen.registry] at hreg
    cases hreg
  exact reachable_induct hstart (fun _ _ _ hI hs => hI.step hs) h

-- ==== contributors

/-- The oracles whose scores enter the consensus: the submitters still
registered. -/
def contributors (oracles : List OracleConfig)
    (subs : List OracleSubmission) : List Pubkey :=
  (subs.filter fun s => (findOracle oracles s.oracle).isSome).map
    OracleSubmission.oracle

/-- How many submitters are no longer registered. -/
def departed (oracles : List OracleConfig)
    (subs : List OracleSubmission) : Nat :=
  (subs.filter fun s => (findOracle oracles s.oracle).isNone).length

variable {oracles : List OracleConfig}

theorem findOracle_isSome {k : Pubkey} :
    (findOracle oracles k).isSome = true ↔ k ∈ roster oracles := by
  unfold findOracle roster
  rw [List.find?_isSome, List.mem_map]
  simp

theorem length_weightedScores (oracles : List OracleConfig)
    (subs : List OracleSubmission) :
    (weightedScores oracles subs).length
      = (contributors oracles subs).length := by
  induction subs with
  | nil => rfl
  | cons s rest ih =>
    unfold weightedScores contributors at ih ⊢
    cases ho : findOracle oracles s.oracle with
    | none =>
      rw [List.filterMap_cons_none (by rw [ho]; rfl),
        List.filter_cons_of_neg (by rw [ho]; decide)]
      exact ih
    | some o =>
      rw [List.filterMap_cons_some (by rw [ho]; rfl),
        List.filter_cons_of_pos (by rw [ho]; rfl), List.map_cons,
        List.length_cons, List.length_cons, ih]

theorem contributors_add_departed (oracles : List OracleConfig)
    (subs : List OracleSubmission) :
    (contributors oracles subs).length + departed oracles subs
      = subs.length := by
  induction subs with
  | nil => rfl
  | cons s rest ih =>
    unfold contributors departed at ih ⊢
    rw [List.length_map] at ih ⊢
    cases ho : findOracle oracles s.oracle with
    | none =>
      rw [List.filter_cons_of_neg (by rw [ho]; decide),
        List.filter_cons_of_pos (by rw [ho]; rfl), List.length_cons,
        List.length_cons]
      omega
    | some o =>
      rw [List.filter_cons_of_pos (by rw [ho]; rfl),
        List.filter_cons_of_neg (by rw [ho]; simp), List.length_cons,
        List.length_cons]
      omega

/-- `voters` decide for `registered`: they are among them, as many as
needed, and more than half. -/
structure Quorate {K : Type} (voters registered : Finset K)
    (needed : Nat) : Prop where
  among : voters ⊆ registered
  enough : needed ≤ voters.card
  majority : registered.card < 2 * voters.card

/-- The scores of the submissions whose oracle is still registered, each
with the oracle. -/
def namedScores (oracles : List OracleConfig)
    (subs : List OracleSubmission) : List (Pubkey × Nat × Nat) :=
  subs.filterMap fun s =>
    (findOracle oracles s.oracle).map fun o =>
      (o.pubkey, s.qualityScore, o.weight)

/-- The instruction passes to the consensus the scores of oracles that
decide for the registry. -/
def QuorumSound (tx : Tx env) (registry : OracleRegistry) (e : Escrow) :
    Prop :=
  consensusScores tx e registry = .ok
      ((namedScores registry.oracles e.oracleSubmissions).map Prod.snd)
    ∧ Quorate ((namedScores registry.oracles e.oracleSubmissions).map
        Prod.fst).toFinset
      (roster registry.oracles).toFinset (requiredOracleCount e.amount)

theorem findOracle_key {k : Pubkey}
    {o : OracleConfig} (h : findOracle oracles k = some o) : o.pubkey = k := by
  have := List.find?_some h
  simpa using this

theorem namedScores_scores (oracles : List OracleConfig)
    (subs : List OracleSubmission) :
    (namedScores oracles subs).map Prod.snd = weightedScores oracles subs := by
  unfold namedScores weightedScores
  rw [List.map_filterMap]
  refine List.filterMap_congr fun s _ => ?_
  rw [Option.map_map]
  rfl

theorem namedScores_oracles (oracles : List OracleConfig)
    (subs : List OracleSubmission) :
    (namedScores oracles subs).map Prod.fst = contributors oracles subs := by
  induction subs with
  | nil => rfl
  | cons s rest ih =>
    unfold namedScores contributors at ih ⊢
    cases ho : findOracle oracles s.oracle with
    | none =>
      rw [List.filterMap_cons_none (by rw [ho]; rfl),
        List.filter_cons_of_neg (by rw [ho]; decide)]
      exact ih
    | some o =>
      rw [List.filterMap_cons_some (by rw [ho]; rfl),
        List.filter_cons_of_pos (by rw [ho]; rfl), List.map_cons,
        List.map_cons]
      exact congrArg₂ List.cons (findOracle_key ho) ih

theorem contributors_subset (oracles : List OracleConfig)
    (subs : List OracleSubmission) :
    ∀ k ∈ contributors oracles subs, k ∈ roster oracles := by
  intro k hk
  obtain ⟨s, hs, rfl⟩ := List.mem_map.mp hk
  exact findOracle_isSome.mp (List.mem_filter.mp hs).2

/-- Few enough submitters have left: if any has, the others are the tier of
the amount, beyond the minimum; and the others are more than half the
registry. -/
def FewLeft (registry : OracleRegistry) (e : Escrow) (left : Nat) : Prop :=
  (0 < left → minConsensusOracles < requiredOracleCount e.amount →
    requiredOracleCount e.amount + left ≤ e.oracleSubmissions.length)
  ∧ registry.oracles.length + 2 * left < 2 * e.oracleSubmissions.length
  deriving Decidable

variable {e : Escrow}

/-- Where the checks pass, and among distinct oracles and distinct
submitters, the scores are of a quorum exactly if few have departed. -/
theorem quorumSound_iff {tx : Tx env} {registry : OracleRegistry}
    {c : Nat} (hroster : (roster registry.oracles).Nodup)
    (hsubs : (e.oracleSubmissions.map OracleSubmission.oracle).Nodup)
    (hagreed : finalizeConsensus tx e registry = .ok c) :
    QuorumSound tx registry e ↔ FewLeft registry e
      (departed registry.oracles e.oracleSubmissions) := by
  have hnodup : (contributors registry.oracles e.oracleSubmissions).Nodup :=
    hsubs.sublist (List.filter_sublist.map _)
  have hvoters := List.toFinset_card_of_nodup hnodup
  have horacles := List.toFinset_card_of_nodup hroster
  have hsum := contributors_add_departed registry.oracles e.oracleSubmissions
  rw [length_roster] at horacles
  obtain ⟨scores, hscores, -⟩ := bind_ok.mp hagreed
  obtain ⟨hpassed, -, hcounts⟩ := consensusScores_ok hscores
  -- what the checks of the instruction leave to ask
  have htier := hcounts.tier
  have hmin := hcounts.registered
  rw [length_weightedScores] at hmin
  unfold QuorumSound
  rw [namedScores_scores, namedScores_oracles, hscores, hpassed]
  constructor
  · rintro ⟨-, h⟩
    have henough := h.enough
    have hmajority := h.majority
    exact ⟨fun _ _ => by omega, by omega⟩
  · rintro ⟨hleft, hmajority⟩
    refine ⟨rfl, ?_, ?_, by omega⟩
    · intro k hk
      rw [List.mem_toFinset] at hk ⊢
      exact contributors_subset _ _ k hk
    · rw [hvoters]
      by_cases hnone : 0 < departed registry.oracles e.oracleSubmissions
      · by_cases hlow :
            minConsensusOracles < requiredOracleCount e.amount
        · have := hleft hnone hlow
          omega
        · omega
      · omega

-- ==== who has left

/-- The registered oracles. -/
def registered (w : World) : List Pubkey :=
  match w.registry with
  | some registry => roster registry.oracles
  | none => []

/-- The oracles with a submission on the escrow. -/
def submitters (w : World) (k : Pubkey) : List Pubkey :=
  match w.escrows k with
  | some e => e.oracleSubmissions.map OracleSubmission.oracle
  | none => []

/-- For each escrow, the submitters that the run has taken off the roster:
a step adds those it takes off, and strikes off those registered again. -/
def departures (a : Action env) (w : World) (left : Pubkey → List Pubkey)
    (k : Pubkey) : List Pubkey :=
  match step env a w with
  | .error _ => left k
  | .ok w' => (left k).filter (fun o => o ∉ registered w')
      ++ (submitters w k).filter fun o =>
        o ∈ registered w ∧ o ∉ registered w'

/-- An action leaves the submitters of an escrow, or adds one who is
registered. -/
theorem submitters_step (agent : Pubkey) (id : Bytes) {a : Action env}
    (h : step env a w = .ok w') :
    submitters w' (env.pda (.escrow agent id))
        = submitters w (env.pda (.escrow agent id))
      ∨ ∃ o ∈ registered w, registered w' = registered w
        ∧ o ∉ submitters w (env.pda (.escrow agent id))
        ∧ submitters w' (env.pda (.escrow agent id))
          = submitters w (env.pda (.escrow agent id)) ++ [o] := by
  have hkind : EscrowStep env a (env.pda (.escrow agent id)) w w' :=
    step_escrow h
  cases hkind with
  | aside ts _ _ hsame _ =>
    left
    rw [submitters, hsame]
    rfl
  | opened e ts ho _ =>
    obtain ⟨t, hw⟩ := ho.frame
    left
    rw [submitters, submitters, hw, setEscrow_self, ho.fresh]
    dsimp only
    rw [ho.unvoted.1]
    rfl
  | marked e he _ he' _ _ =>
    left
    rw [submitters, submitters, he', he]
  | committed e oracle hash endsAt _ he _ _ hw _ =>
    left
    rw [submitters, submitters, hw, setEscrow_self, he]
    rfl
  | revealed e i c oracle score salt sig hop he _ _ _ _ hw _ honly =>
    right
    unfold step at h
    rw [hop] at h
    obtain ⟨registry, o, hreg, ho⟩ := submitOracleScore_registered h
    refine ⟨oracle, ?_, ?_, ?_, ?_⟩
    · rw [registered, hreg]
      exact findOracle_isSome.mp (by rw [ho]; rfl)
    · rw [hw]
      rfl
    · rw [submitters, he]
      intro hmem
      obtain ⟨s, hs, hso⟩ := List.mem_map.mp hmem
      exact honly s hs hso
    · rw [submitters, submitters, hw, setEscrow_self, he]
      exact List.map_append ..
  | settled e e' ts us he _ he' _ hterms _ _ _ =>
    left
    rw [submitters, submitters, he', he]
    dsimp only
    rw [hterms.submissions]

/-- The departures on an escrow are its submitters who are not
registered. -/
structure LeftKnown (k : Pubkey) (w : World) (left : List Pubkey) :
    Prop where
  voted : (submitters w k).Nodup
  distinct : left.Nodup
  known : ∀ o, o ∈ left ↔ o ∈ submitters w k ∧ o ∉ registered w

theorem LeftKnown.next {agent : Pubkey} {id : Bytes} {a : Action env}
    {left : Pubkey → List Pubkey}
    (h : LeftKnown (env.pda (.escrow agent id)) w
      (left (env.pda (.escrow agent id))))
    (hstep : step env a w = .ok w') :
    LeftKnown (env.pda (.escrow agent id)) w'
      (departures a w left (env.pda (.escrow agent id))) := by
  have hmem : ∀ o, o ∈ departures a w left (env.pda (.escrow agent id))
      ↔ o ∈ submitters w (env.pda (.escrow agent id)) ∧ o ∉ registered w' := by
    intro o
    simp only [departures, hstep, List.mem_append, List.mem_filter, h.known,
      decide_eq_true_eq]
    tauto
  have hleft : (departures a w left (env.pda (.escrow agent id))).Nodup := by
    simp only [departures, hstep]
    refine List.Nodup.append (h.distinct.filter _) (h.voted.filter _) ?_
    intro o hold hnew
    have hout := ((h.known o).mp (List.mem_filter.mp hold).1).2
    exact hout (of_decide_eq_true (List.mem_filter.mp hnew).2).1
  rcases submitters_step agent id hstep with hsame
    | ⟨o, ho, hroster, hnew, happend⟩
  · refine ⟨hsame ▸ h.voted, hleft, ?_⟩
    rw [hsame]
    exact hmem
  · refine ⟨?_, hleft, ?_⟩
    · rw [happend, List.nodup_append]
      refine ⟨h.voted, List.nodup_singleton o, ?_⟩
      intro x hx y hy hxy
      rw [List.mem_singleton.mp hy] at hxy
      exact hnew (hxy ▸ hx)
    · intro x
      rw [hmem, happend, hroster, List.mem_append, List.mem_singleton]
      constructor
      · rintro ⟨hx, hout⟩
        exact ⟨Or.inl hx, hout⟩
      · rintro ⟨hx | rfl, hout⟩
        · exact ⟨hx, hout⟩
        · exact absurd ho hout

/-- What a run notes of an escrow is who of its submitters is not
registered at the end. -/
theorem left_known {w₀ : World} {tr : List (Action env)}
    {left : Pubkey → List Pubkey} (hgen : Genesis w₀)
    (hrun : run (tracked (step env) departures)
      (w₀, fun _ => []) tr = .ok (w, left)) (agent : Pubkey) (id : Bytes) :
    LeftKnown (env.pda (.escrow agent id)) w
      (left (env.pda (.escrow agent id))) := by
  refine run_induct (I := fun x =>
    LeftKnown (env.pda (.escrow agent id)) x.1
      (x.2 (env.pda (.escrow agent id)))) ?_ ?_ hrun
  · intro a x y hx hs
    obtain ⟨hstep, hleft⟩ := tracked_ok.mp hs
    rw [hleft]
    exact hx.next hstep
  · have hnone : submitters w₀ (env.pda (.escrow agent id)) = [] := by
      rw [submitters, hgen.escrows]
    refine ⟨hnone ▸ List.nodup_nil, List.nodup_nil, ?_⟩
    intro o
    rw [hnone]
    simp

theorem LeftKnown.length {k : Pubkey} {left : List Pubkey}
    {registry : OracleRegistry} (h : LeftKnown k w left)
    (hreg : w.registry = some registry) (he : w.escrows k = some e) :
    left.length = departed registry.oracles e.oracleSubmissions := by
  have hsubs : submitters w k
      = e.oracleSubmissions.map OracleSubmission.oracle := by
    rw [submitters, he]
  have hroster : registered w = roster registry.oracles := by
    rw [registered, hreg]
  have hgone : (e.oracleSubmissions.filter fun s =>
      (findOracle registry.oracles s.oracle).isNone).map
        OracleSubmission.oracle
      = (submitters w k).filter fun o => o ∉ registered w := by
    rw [hsubs, hroster, List.filter_map]
    congr 1
    refine List.filter_congr fun s _ => ?_
    have hiff : s.oracle ∈ roster registry.oracles
        ↔ (findOracle registry.oracles s.oracle).isSome = true :=
      findOracle_isSome.symm
    simp [hiff]
  have hperm : left.Perm ((submitters w k).filter
      fun o => o ∉ registered w) := by
    refine (List.perm_ext_iff_of_nodup h.distinct (h.voted.filter _)).mpr ?_
    intro o
    rw [h.known, List.mem_filter, decide_eq_true_eq]
  rw [hperm.length_eq, ← hgone, List.length_map]
  rfl

-- ==== soundness

/-- Every finalisation of the run is decided by a quorum. -/
def QuorumSafe (w₀ : World) (tr : List (Action env)) : Prop :=
  ∀ p a q w acc, tr = p ++ a :: q → run (step env) w₀ p = .ok w →
    a.op = .finalizeMultiOracleDispute acc →
    ∃ registry e, w.registry = some registry
      ∧ w.escrows acc.escrow = some e ∧ QuorumSound a.tx registry e

/-- The action, when it finalises, does so with few submitters gone. -/
def FinalizesFull (a : Action env)
    (x : World × (Pubkey → List Pubkey)) : Prop :=
  ∀ acc registry e, a.op = .finalizeMultiOracleDispute acc →
    x.1.registry = some registry → x.1.escrows acc.escrow = some e →
    FewLeft registry e (x.2 acc.escrow).length

/-- A run's finalisations are decided by quorums exactly when, at each of
them, few enough of the escrow's submitters have left in the run. -/
theorem quorum_safe_iff {w₀ : World} {tr : List (Action env)}
    (hgen : Genesis w₀) (hrun : run (step env) w₀ tr = .ok w) :
    QuorumSafe w₀ tr
      ↔ Meets (tracked (step env) departures) FinalizesFull
        (w₀, fun _ => []) tr := by
  -- what an accepted finalisation at a cut of the run finds
  have hstep : ∀ p a q m left acc, tr = p ++ a :: q →
      run (tracked (step env) departures) (w₀, fun _ => []) p = .ok (m, left) →
      a.op = .finalizeMultiOracleDispute acc →
      ∃ registry e, m.registry = some registry ∧ m.escrows acc.escrow = some e
        ∧ (QuorumSound a.tx registry e
          ↔ FewLeft registry e (left acc.escrow).length) := by
    intro p a q m left acc htr hp hop
    have hplain := run_of_tracked hp
    subst htr
    obtain ⟨m', hm', hq⟩ := run_append.mp hrun
    obtain rfl : m = m' := Except.ok.inj (hplain.symm.trans hm')
    obtain ⟨m₁, ha, -⟩ := run_cons.mp hq
    unfold step at ha
    rw [hop] at ha
    obtain ⟨e, registry, reg', c, split, reward, ts, us, hf⟩ :=
      finalizeMultiOracleDispute_ok ha
    refine ⟨registry, e, hf.registry, hf.escrow, ?_⟩
    have hroster := roster_sound ⟨w₀, p, hgen, hplain⟩ registry hf.registry
    have hvotes := votes_recorded hgen hplain e.agent e.transactionId
    have hleft := left_known hgen hp e.agent e.transactionId
    rw [← hf.address] at hvotes hleft
    rw [hleft.length hf.registry hf.escrow]
    exact quorumSound_iff hroster.1 (hvotes e hf.escrow).submitters hf.agreed
  rw [meets_iff_cut]
  constructor
  · rintro h p a q ⟨m, left⟩ htr hp acc registry e hop hreg he
    obtain ⟨r, f, hr, hf, hiff⟩ := hstep p a q m left acc htr hp hop
    obtain ⟨r', f', hr', hf', hsound⟩ :=
      h p a q m acc htr (run_of_tracked hp) hop
    cases hreg.symm.trans hr
    cases he.symm.trans hf
    cases hr.symm.trans hr'
    cases hf.symm.trans hf'
    exact hiff.mp hsound
  · intro h p a q m acc htr hp hop
    obtain ⟨left, hleft⟩ := run_tracked departures (fun _ => []) hp
    obtain ⟨registry, e, hreg, he, hiff⟩ :=
      hstep p a q m left acc htr hleft hop
    exact ⟨registry, e, hreg, he,
      hiff.mpr (h p a q (m, left) htr hleft acc registry e hop hreg he)⟩

open Concrete in
/-- Three of three registered oracles vote. -/
theorem quorum_safe_vote :
    QuorumSafe start
      (setup ++ openSol :: dispute :: vote 70 ++ [finalize true]) := by
  obtain ⟨w, hrun, -⟩ := check_ok (show check (fun _ => true)
    (run (step Concrete.env) start
      (setup ++ openSol :: dispute :: vote 70 ++ [finalize true])) = true
      by decide +kernel)
  refine (quorum_safe_iff (genesis_genesis _ _ _ _) hrun).mpr ?_
  refine meets_of_check ?_ (show checkMeets
    (tracked (step Concrete.env) departures)
    (fun a x => match a.op with
      | .finalizeMultiOracleDispute acc =>
        x.1.registry.all fun r => (x.1.escrows acc.escrow).all fun e =>
          decide (FewLeft r e (x.2 acc.escrow).length)
      | _ => true) (start, fun _ => []) _ = true by decide +kernel)
  intro a x htest acc registry e hop hreg he
  rw [hop] at htest
  dsimp only at htest
  rw [hreg, Option.all_some, he, Option.all_some] at htest
  exact of_decide_eq_true htest

/-- Set up the protocol with the oracles given, and an escrow of
`amount`. -/
def enlist (oracles : List UInt8) (amount : Nat) :
    List (Action Concrete.env) :=
  [Concrete.act [1] 1000
      (.initializeProtocol ⟨Concrete.wallet 1⟩ (Concrete.wallet 2)
        (Concrete.wallet 3)),
   Concrete.act [1] 1000 (.initializeTreasury ⟨Concrete.wallet 1⟩),
   Concrete.act [1] 1000
      (.initializeOracleRegistry ⟨Concrete.wallet 1⟩ 3 10)]
    ++ oracles.map Concrete.enrol
    ++ [Concrete.act [1] 1000
      (.initReputation ⟨Concrete.wallet 10, Concrete.wallet 1⟩),
   Concrete.act [1] 1000
      (.initReputation ⟨Concrete.wallet 11, Concrete.wallet 1⟩),
   Concrete.act [10] 1000 (.initializeEscrow Concrete.solAccounts amount
      3600 Concrete.transactionId false)]

/-- Fourteen wallets to register. -/
def crowdKeys : List UInt8 :=
  [20, 21, 22, 23, 24, 25, 26, 27, 28, 29, 30, 31, 32, 33]

/-- The accounts at the start: an admin, the agent and the crowd. -/
def crowd : World :=
  Concrete.genesis ((Concrete.wallet 1, 10000000000)
    :: (Concrete.wallet 10, 20000000000)
    :: crowdKeys.map fun i => (Concrete.wallet i, 10000000000))
    (by decide) [] []

/-- Eight oracles are registered; four of them vote on ten SOL, and the
admin removes one of the four before the dispute is finalised. -/
def removedVoter : List (Action Concrete.env) :=
  enlist (crowdKeys.take 8) 10000000000 ++ Concrete.dispute
    :: (crowdKeys.take 4).map
      (fun i => Concrete.commit i 70 (Concrete.salt i))
    ++ (crowdKeys.take 4).map
      (fun i => Concrete.reveal i 70 (Concrete.salt i))
    ++ [Concrete.act [1] 1550
      (.removeOracle ⟨Concrete.wallet 1, Concrete.wallet 23⟩
        (Concrete.wallet 23))]

open Concrete in
/-- Ten SOL are decided by three scores where the tier asks for four, by
three oracles of seven. -/
theorem quorum_departed :
    Genesis crowd
      ∧ (∃ w, run (step Concrete.env) crowd
          (removedVoter ++ [finalize true]) = .ok w)
      ∧ ¬ QuorumSafe crowd (removedVoter ++ [finalize true]) := by
  refine ⟨genesis_genesis _ _ _ _, ?_, ?_⟩
  · obtain ⟨w, hrun, -⟩ := check_ok (show check (fun _ => true)
      (run (step Concrete.env) crowd
        (removedVoter ++ [finalize true])) = true by decide +kernel)
    exact ⟨w, hrun⟩
  · intro hsafe
    obtain ⟨w, hrun, hany⟩ := check_ok (show check (fun w =>
        w.registry.any fun r => (w.escrows escrowKey).any fun e =>
          decide ((contributors r.oracles e.oracleSubmissions).length
              < requiredOracleCount e.amount
            ∧ 2 * (contributors r.oracles e.oracleSubmissions).length
              < r.oracles.length))
      (run (step Concrete.env) crowd removedVoter) = true
        by decide +kernel)
    obtain ⟨r, hreg, hany⟩ := (Option.any_eq_true _ _).mp hany
    obtain ⟨e, he, hfew⟩ := (Option.any_eq_true _ _).mp hany
    obtain ⟨hfew, -⟩ := of_decide_eq_true hfew
    obtain ⟨r', e', hreg', he', -, hquorate⟩ :=
      hsafe removedVoter (finalize true) [] w _ rfl hrun rfl
    cases hreg.symm.trans hreg'
    cases he.symm.trans he'
    have hsound := hquorate.enough
    rw [namedScores_oracles] at hsound
    have hcard := List.toFinset_card_le
      (contributors r.oracles e.oracleSubmissions)
    omega

-- ==== attainability

/-- Votes by registered oracles: one commitment and one submission an
oracle at most, and no submission without its commitment. -/
structure Ballot (oracles : List OracleConfig)
    (cs : List OracleCommitment) (ss : List OracleSubmission) : Prop where
  committers : (cs.map OracleCommitment.oracle).Nodup
  submitters : (ss.map OracleSubmission.oracle).Nodup
  registered : ∀ c ∈ cs, c.oracle ∈ roster oracles
  backed : ∀ s ∈ ss, s.oracle ∈ cs.map OracleCommitment.oracle

/-- The escrow as a finalisation to `consensus` stores it, with the votes
`cs` and `ss`. -/
def Escrow.decided (e : Escrow) (cs : List OracleCommitment)
    (ss : List OracleSubmission) (disputedAt endsAt : Int)
    (consensus : Nat) : Escrow :=
  Escrow.resolve { e with
    oracleCommitments := cs
    oracleSubmissions := ss
    disputedAt := some disputedAt
    commitPhaseEndsAt := some endsAt } consensus

/-- Some votes by registered oracles fit the account and pass every
oracle-count check. -/
def Attainable (oracles : List OracleConfig) (e : Escrow) : Prop :=
  ∃ cs ss, Ballot oracles cs ss
    ∧ (∀ disputedAt endsAt consensus,
        (e.decided cs ss disputedAt endsAt consensus).serializedSize
          ≤ escrowSpace)
    ∧ OracleCounts oracles e.amount ss

/-- Size of a decided escrow without its votes. -/
def Escrow.bareSize (e : Escrow) : Nat :=
  (e.decided [] [] 0 0 0).serializedSize

theorem size_decided (e : Escrow) (cs : List OracleCommitment)
    (ss : List OracleSubmission) (disputedAt endsAt : Int)
    (consensus : Nat) :
    (e.decided cs ss disputedAt endsAt consensus).serializedSize
      = e.bareSize + ss.length * 41 + cs.length * 73 := by
  simp only [Escrow.bareSize, Escrow.decided, Escrow.resolve,
    Escrow.serializedSize, optionSize, List.length_nil]
  omega

/-- The account has room for five of each, and then at most 128 bytes to
spare. -/
theorem bareSize_bounds (hid : e.transactionId.length ≤ 64) :
    e.bareSize + 5 * 114 ≤ escrowSpace
      ∧ escrowSpace ≤ e.bareSize + 5 * 114 + 128 := by
  have hmint := optionSize_bounds e.tokenMint 32
  have hta := optionSize_bounds e.escrowTokenAccount 32
  have hbare : e.bareSize
      = 133 + e.transactionId.length + optionSize e.tokenMint 32
        + optionSize e.escrowTokenAccount 32 := by
    simp only [Escrow.bareSize, Escrow.decided, Escrow.resolve,
      Escrow.serializedSize, List.length_nil, optionSize_some]
    omega
  unfold escrowSpace
  omega

theorem requiredOracleCount_bounds (amount : Nat) :
    3 ≤ requiredOracleCount amount ∧ requiredOracleCount amount ≤ 5 := by
  unfold requiredOracleCount minConsensusOracles
  split
  · omega
  · split
    · omega
    · omega

theorem quorumRequired_le {amount n : Nat}
    (h : requiredOracleCount amount ≤ n) : quorumRequired amount n ≤ n := by
  unfold quorumRequired
  omega

theorem length_le_of_nodup {K : Type} {l m : List K} (h : l.Nodup)
    (hsub : ∀ k ∈ l, k ∈ m) : l.length ≤ m.length :=
  (h.subperm hsub).length_le

theorem ballot_take (h : (roster oracles).Nodup) (n : Nat) :
    Ballot oracles
      ((oracles.take n).map fun o => ⟨o.pubkey, [], 0, true⟩)
      ((oracles.take n).map fun o => ⟨o.pubkey, 0, 0⟩) := by
  have hkeys : ((oracles.take n).map OracleConfig.pubkey).Nodup :=
    h.sublist ((List.take_sublist n oracles).map _)
  refine ⟨?_, ?_, ?_, ?_⟩
  · rw [List.map_map]
    exact hkeys
  · rw [List.map_map]
    exact hkeys
  · intro c hc
    obtain ⟨o, ho, rfl⟩ := List.mem_map.mp hc
    exact List.mem_map_of_mem (List.mem_of_mem_take ho)
  · intro s hs
    obtain ⟨o, ho, rfl⟩ := List.mem_map.mp hs
    rw [List.map_map]
    exact List.mem_map_of_mem (f := OracleConfig.pubkey) ho

theorem contributors_registered {ss : List OracleSubmission}
    (h : ∀ s ∈ ss, s.oracle ∈ roster oracles) :
    contributors oracles ss = ss.map OracleSubmission.oracle := by
  unfold contributors
  rw [List.filter_eq_self.mpr]
  intro s hs
  exact findOracle_isSome.mpr (h s hs)

/-- The count checks can be passed exactly when the tier is registered
and the account holds a quorum of votes. -/
theorem attainable_iff (hroster : (roster oracles).Nodup) :
    Attainable oracles e
      ↔ requiredOracleCount e.amount ≤ oracles.length
        ∧ e.bareSize + quorumRequired e.amount oracles.length * 114
          ≤ escrowSpace := by
  constructor
  · rintro ⟨cs, ss, hb, hfits, hcounts⟩
    have hsubs : ss.length ≤ cs.length := by
      have h := length_le_of_nodup hb.submitters (m := cs.map _) (by
        intro k hk
        obtain ⟨s, hs, rfl⟩ := List.mem_map.mp hk
        exact hb.backed s hs)
      rwa [List.length_map, List.length_map] at h
    have hcomms : cs.length ≤ oracles.length := by
      have h := length_le_of_nodup hb.committers (m := roster oracles) (by
        intro k hk
        obtain ⟨c, hc, rfl⟩ := List.mem_map.mp hk
        exact hb.registered c hc)
      rwa [List.length_map, length_roster] at h
    have hsize := hfits 0 0 0
    rw [size_decided] at hsize
    have htier := hcounts.tier
    have hquorum := hcounts.quorum
    exact ⟨by omega, by omega⟩
  · rintro ⟨htier, hroom⟩
    have hle := quorumRequired_le htier
    generalize hq : quorumRequired e.amount oracles.length = q at hle hroom
    have hqtier : requiredOracleCount e.amount ≤ q := by
      rw [← hq]
      exact Nat.le_max_right _ _
    have hmin := (requiredOracleCount_bounds e.amount).1
    have hlen : (oracles.take q).length = q := by
      rw [List.length_take]
      omega
    refine ⟨_, _, ballot_take hroster q, ?_, ?_⟩
    · intro disputedAt endsAt consensus
      rw [size_decided, List.length_map, List.length_map, hlen]
      omega
    · refine ⟨?_, ?_, ?_⟩
      · rw [List.length_map, hlen]
        exact hqtier
      · rw [List.length_map, hlen, hq]
      · have hreg : ∀ s ∈ (oracles.take q).map
            (fun o => (⟨o.pubkey, 0, 0⟩ : OracleSubmission)),
            s.oracle ∈ roster oracles := by
          intro s hs
          obtain ⟨o, ho, rfl⟩ := List.mem_map.mp hs
          exact List.mem_map_of_mem (List.mem_of_mem_take ho)
        rw [length_weightedScores, contributors_registered hreg,
          List.length_map, List.length_map, hlen]
        exact hmin.trans hqtier

/-- With at most eleven oracles registered the quorum is at most five, and
the checks can be passed exactly when the tier of the amount is
registered. -/
theorem attainable_small (h : Reachable (step env) Genesis w)
    {registry : OracleRegistry} (hreg : w.registry = some registry)
    (hsmall : registry.oracles.length ≤ 11) (e : Escrow)
    (hid : e.transactionId.length ≤ 64) :
    Attainable registry.oracles e
      ↔ requiredOracleCount e.amount ≤ registry.oracles.length := by
  rw [attainable_iff (roster_sound h registry hreg).1]
  have hroom := (bareSize_bounds hid).1
  have htier := (requiredOracleCount_bounds e.amount).2
  have hquorum : quorumRequired e.amount registry.oracles.length ≤ 5 := by
    unfold quorumRequired
    omega
  constructor
  · rintro ⟨h, -⟩
    exact h
  · intro h
    exact ⟨h, by omega⟩

open Concrete in
/-- Three registered oracles can decide an escrow of one SOL. -/
theorem attainable_small_three :
    ∃ w registry e, Reachable (step Concrete.env) Genesis w
      ∧ w.registry = some registry ∧ w.escrows escrowKey = some e
      ∧ Attainable registry.oracles e := by
  obtain ⟨w, hrun, hany⟩ := check_ok (show check (fun w =>
      w.registry.any fun r => (w.escrows escrowKey).any fun e =>
        decide (r.oracles.length = 3 ∧ e.amount = 1000000000
          ∧ e.transactionId.length = 1))
    (run (step Concrete.env) start (setup ++ [openSol])) = true
      by decide)
  obtain ⟨r, hreg, hany⟩ := (Option.any_eq_true _ _).mp hany
  obtain ⟨e, he, hall⟩ := (Option.any_eq_true _ _).mp hany
  obtain ⟨hlen, hamount, hid⟩ := of_decide_eq_true hall
  have hreach : Reachable (step Concrete.env) Genesis w :=
    ⟨start, _, genesis_genesis _ _ _ _, hrun⟩
  refine ⟨w, r, e, hreach, hreg, he, ?_⟩
  refine (attainable_small hreach hreg (by omega) e (by omega)).mpr ?_
  rw [hamount, hlen]
  decide

/-- From fourteen registered oracles on the quorum is seven, and no account
holds seven votes. -/
theorem unattainable_large
    (hroster : (roster oracles).Nodup) (hlarge : 14 ≤ oracles.length)
    (hid : e.transactionId.length ≤ 64) : ¬ Attainable oracles e := by
  rw [attainable_iff hroster]
  rintro ⟨-, hroom⟩
  have hspare := (bareSize_bounds hid).2
  have hquorum : 7 ≤ quorumRequired e.amount oracles.length := by
    unfold quorumRequired
    omega
  omega

/-- Some reachable registry of `n` oracles and some escrow of one SOL
admit no votes that pass the checks. -/
def Unattainable (n : Nat) : Prop :=
  ∃ w registry e, Reachable (step Concrete.env) Genesis w
    ∧ w.registry = some registry
    ∧ w.escrows Concrete.escrowKey = some e
    ∧ registry.oracles.length = n ∧ e.amount = 1000000000
    ∧ ¬ Attainable registry.oracles e

/-- The state the crowd's first `n` reach, with what the checks depend
on. -/
theorem enlisted {n : Nat}
    (h : check (fun w => w.registry.any fun r =>
        (w.escrows Concrete.escrowKey).any fun e =>
          decide (r.oracles.length = n ∧ e.amount = 1000000000
            ∧ e.transactionId.length = 1))
      (run (step Concrete.env) crowd
        (enlist (crowdKeys.take n) 1000000000)) = true) :
    ∃ w registry e, Reachable (step Concrete.env) Genesis w
      ∧ w.registry = some registry
      ∧ w.escrows Concrete.escrowKey = some e
      ∧ registry.oracles.length = n ∧ e.amount = 1000000000
      ∧ e.transactionId.length = 1 := by
  obtain ⟨w, hrun, hany⟩ := check_ok h
  obtain ⟨r, hreg, hany⟩ := (Option.any_eq_true _ _).mp hany
  obtain ⟨e, he, hall⟩ := (Option.any_eq_true _ _).mp hany
  obtain ⟨hlen, hamount, hid⟩ := of_decide_eq_true hall
  exact ⟨w, r, e,
    ⟨crowd, _, Concrete.genesis_genesis _ _ _ _, hrun⟩, hreg, he, hlen,
    hamount, hid⟩

/-- Two oracles are fewer than the tier, fourteen ask for more votes than
an account holds. -/
theorem unattainable_registries : Unattainable 2 ∧ Unattainable 14 := by
  constructor
  · obtain ⟨w, r, e, hreach, hreg, he, hlen, hamount, -⟩ :=
      enlisted (n := 2) (by decide)
    refine ⟨w, r, e, hreach, hreg, he, hlen, hamount, ?_⟩
    rw [attainable_iff (roster_sound hreach r hreg).1]
    rintro ⟨htier, -⟩
    rw [hlen, hamount] at htier
    exact absurd htier (by decide)
  · obtain ⟨w, r, e, hreach, hreg, he, hlen, hamount, hid⟩ :=
      enlisted (n := 14) (by decide)
    refine ⟨w, r, e, hreach, hreg, he, hlen, hamount, ?_⟩
    exact unattainable_large (roster_sound hreach r hreg).1 (by omega)
      (by omega)

end KamiyoProtocol.Kamiyo
