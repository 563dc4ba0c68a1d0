/-
The legitimacy of an executed swarm action.

The proposer's implicit yes starts the weighted tally at 10000, and a
revealed vote adds one to either side; the execution test reads the
weighted tally only. Votes that are to count alike so count alike except
for the proposer's, and an action passes against more votes than the
threshold allows. It is legitimate exactly when the votes against are not
in the window between what one yes and what 10000 of them outweigh.
-/
import KamiyoProtocol.Hive.Concrete
import KamiyoProtocol.Hive.SwarmMoves

namespace KamiyoProtocol.Hive.Swarm

open Solana Exec Function

variable {env : Env Seed} {zk : Zk} {w w' : World} {a : Action env}
  {j k : Pubkey}

-- ==== the votes

/-- A revealed vote on the action. -/
def isVote (k : Pubkey) (voteValue : Bool) (r : Pubkey × VoteRecord) :
    Bool :=
  decide (r.2.swarmAction = k) && r.2.revealed
    && decide (r.2.voteValue = voteCode voteValue)

/-- The revealed votes on the action with the value. -/
def revealedVotes (w : World) (k : Pubkey) (voteValue : Bool) : Nat :=
  w.records.countP (isVote k voteValue)

/-- Of the proposer's yes and the revealed votes, one each, at least
`threshold` percent are yes. -/
def Approved (w : World) (k : Pubkey) (threshold : Nat) : Prop :=
  threshold * (1 + revealedVotes w k true + revealedVotes w k false)
    ≤ 100 * (1 + revealedVotes w k true)
  deriving Decidable

/-- The votes against lie between what the yes votes outweigh when the
proposer's counts once and when it counts 10000 times. -/
def InWindow (w : World) (k : Pubkey) (threshold : Nat) : Prop :=
  (100 - threshold) * (1 + revealedVotes w k true)
      < threshold * revealedVotes w k false
    ∧ threshold * revealedVotes w k false
      ≤ (100 - threshold) * (10000 + revealedVotes w k true)
  deriving Decidable

/-- An execution is of an approved action. -/
def ExecutesApproved (a : Action env) (w : World) : Prop :=
  ∀ k act, a.op = .executeSwarmAction k → w.actions k = some act →
    Approved w k act.threshold

/-- No execution is of an action in the window. -/
def ExecutesOutside (a : Action env) (w : World) : Prop :=
  ∀ k act, a.op = .executeSwarmAction k → w.actions k = some act →
    ¬ InWindow w k act.threshold

-- ==== invariant

/-- The weighted tallies of one action. -/
structure Tallied (w : World) (k : Pubkey) (act : SwarmAction) : Prop where
  threshold : 0 < act.threshold ∧ act.threshold ≤ 100
  weightedFor : act.weightedVotesFor = 10000 + revealedVotes w k true
  weightedAgainst : act.weightedVotesAgainst = revealedVotes w k false

/-- Every action is tallied, and votes are on existing actions. -/
structure Kept (w : World) : Prop where
  tallied : ∀ k act, w.actions k = some act → Tallied w k act
  known : ∀ r ∈ w.records, w.actions r.2.swarmAction ≠ none

theorem kept_genesis (h : Genesis w) : Kept w := by
  constructor
  · intro k act hact
    rw [h.actions] at hact
    cases hact
  · intro r hr
    rw [h.records] at hr
    cases hr

theorem kept_aside (h : Kept w) (ha : w'.actions = w.actions)
    (hr : w'.records = w.records) : Kept w' := by
  have hsame : ∀ k v, revealedVotes w' k v = revealedVotes w k v := by
    intro k v
    rw [revealedVotes, revealedVotes, hr]
  constructor
  · intro k act hact
    rw [ha] at hact
    obtain ⟨ht, hf, hg⟩ := h.tallied k act hact
    exact ⟨ht, by rw [hf, hsame], by rw [hg, hsame]⟩
  · intro r hmem
    rw [hr] at hmem
    rw [ha]
    exact h.known r hmem

variable {act : SwarmAction}

theorem kept_set (h : Kept w) (ha : w'.actions = update w.actions k (some act))
    (hself : Tallied w' k act)
    (hothers : ∀ j, j ≠ k → ∀ v, revealedVotes w' j v = revealedVotes w j v)
    (hrecords : ∀ r ∈ w'.records, r ∈ w.records ∨ r.2.swarmAction = k) :
    Kept w' := by
  constructor
  · intro j act' hact'
    by_cases hj : j = k
    · subst hj
      rw [ha, update_self] at hact'
      cases hact'
      exact hself
    · rw [ha, update_of_ne hj] at hact'
      obtain ⟨ht, hf, hg⟩ := h.tallied j act' hact'
      exact ⟨ht, by rw [hf, hothers j hj], by rw [hg, hothers j hj]⟩
  · intro r hr
    by_cases hk : r.2.swarmAction = k
    · rw [ha, hk, update_self]
      simp
    · rw [ha, update_of_ne hk]
      rcases hrecords r hr with hold | hnew
      · exact h.known r hold
      · exact absurd hnew hk

theorem revealedVotes_unknown (h : Kept w) (hk : w.actions k = none)
    (v : Bool) : revealedVotes w k v = 0 := by
  unfold revealedVotes
  rw [List.countP_eq_zero]
  intro r hr hvote
  simp only [isVote, Bool.and_eq_true, decide_eq_true_eq] at hvote
  obtain ⟨⟨hof, -⟩, -⟩ := hvote
  have hknown := h.known r hr
  rw [hof] at hknown
  exact hknown hk

theorem kept_created (h : Kept w) (hc : Created w w' k act) : Kept w' := by
  obtain ⟨b, r, rfl⟩ := hc.after
  have hzero : ∀ v, revealedVotes w k v = 0 :=
    revealedVotes_unknown h hc.fresh
  refine kept_set h rfl ⟨hc.threshold, ?_, ?_⟩ (fun _ _ _ => rfl)
    (fun _ hr => .inl hr)
  · show act.weightedVotesFor = 10000 + revealedVotes w k true
    rw [hc.weightedFor, hzero]
  · show act.weightedVotesAgainst = revealedVotes w k false
    rw [hc.weightedAgainst, hzero]

variable {r : VoteRecord}

theorem isVote_hidden (kr : Pubkey)
    (hr : r.revealed = false) (k : Pubkey) (v : Bool) :
    isVote k v (kr, r) = false := by
  simp [isVote, hr]

theorem kept_voted {kr : Pubkey}
    (h : Kept w) (hv : Voted w w' kr r act) : Kept w' := by
  obtain ⟨ns, votes, rfl⟩ := hv.after
  have hsame : ∀ k v, (w.records ++ [(kr, r)]).countP (isVote k v)
      = revealedVotes w k v := by
    intro k v
    rw [List.countP_append, List.countP_singleton, isVote_hidden kr hv.hidden]
    rfl
  obtain ⟨ht, hf, hg⟩ := h.tallied _ act hv.action
  refine kept_set h rfl ⟨ht, ?_, ?_⟩ (fun j _ v => hsame j v) ?_
  · exact hf.trans (congrArg (10000 + ·) (hsame _ true).symm)
  · exact hg.trans (hsame _ false).symm
  · intro r' hr'
    rcases List.mem_append.mp hr' with hold | hnew
    · exact .inl hold
    · rw [List.mem_singleton] at hnew
      subst hnew
      exact .inr rfl

/-- A reveal adds one to the votes it is one of. -/
theorem countP_reveal {i : Nat} {kr : Pubkey}
    (hi : w.records[i]? = some (kr, r)) (hr : r.revealed = false)
    (v : Bool) (k : Pubkey) (u : Bool) :
    (w.records.set i (kr,
      { r with revealed := true, voteValue := voteCode v })).countP
        (isVote k u)
      = revealedVotes w k u + if r.swarmAction = k ∧ v = u then 1 else 0 := by
  obtain ⟨hlt, hget⟩ := List.getElem?_eq_some_iff.mp hi
  have hnew : isVote k u (kr,
      { r with revealed := true, voteValue := voteCode v })
        = decide (r.swarmAction = k ∧ v = u) := by
    cases v with
    | true => cases u with
      | true => simp [isVote]
      | false => simp [isVote, voteCode]
    | false => cases u with
      | true => simp [isVote, voteCode]
      | false => simp [isVote]
  rw [List.countP_set hlt, hget, isVote_hidden kr hr, hnew]
  simp [revealedVotes]

theorem countReveal_ok {act act' : SwarmAction} {v : Bool}
    (h : countReveal act v = .ok act') :
    act'.threshold = act.threshold
      ∧ act'.weightedVotesFor
        = act.weightedVotesFor + (if v = true then 1 else 0)
      ∧ act'.weightedVotesAgainst
        = act.weightedVotesAgainst + (if v = false then 1 else 0) := by
  cases v with
  | true =>
    simp only [countReveal, if_true, bind_ok, okOr_ok,
      Fixed.checkedAdd_some] at h
    obtain ⟨_, ⟨-, rfl⟩, hout⟩ := h
    cases hout
    exact ⟨rfl, rfl, rfl⟩
  | false =>
    rw [countReveal, if_neg (by decide)] at h
    simp only [bind_ok, okOr_ok, Fixed.checkedAdd_some] at h
    obtain ⟨_, ⟨-, rfl⟩, _, -, hout⟩ := h
    cases hout
    exact ⟨rfl, rfl, rfl⟩

theorem kept_revealed {i : Nat} {kr : Pubkey}
    {act act' : SwarmAction} {v : Bool} (h : Kept w)
    (hv : Revealed w w' i kr r act act' v) : Kept w' := by
  have hcount := countP_reveal hv.record hv.hidden v
  have hafter := hv.after
  subst hafter
  obtain ⟨hthreshold, hfor, hagainst⟩ := countReveal_ok hv.counted
  obtain ⟨ht, hf, hg⟩ := h.tallied _ act hv.action
  refine kept_set h rfl ⟨hthreshold ▸ ht, ?_, ?_⟩ ?_ ?_
  · have htrue := hcount r.swarmAction true
    simp only [true_and] at htrue
    rw [hfor, hf, Nat.add_assoc, ← htrue]
    rfl
  · have hfalse := hcount r.swarmAction false
    simp only [true_and] at hfalse
    rw [hagainst, hg, ← hfalse]
    rfl
  · intro j hj u
    refine (hcount j u).trans ?_
    rw [if_neg fun hr => hj hr.1.symm, Nat.add_zero]
  · intro r' hr'
    rcases List.mem_or_eq_of_mem_set hr' with hold | rfl
    · exact .inl hold
    · exact .inr rfl

theorem kept_executed (h : Kept w) (he : Executed w w' k act) : Kept w' := by
  have hafter := he.after
  subst hafter
  obtain ⟨ht, hf, hg⟩ := h.tallied _ act he.action
  exact kept_set h rfl ⟨ht, hf, hg⟩ (fun _ _ _ => rfl)
    (fun _ hr => .inl hr)

theorem kept_step (h : Kept w) (hs : step env zk a w = .ok w') :
    Kept w' := by
  rcases step_moved hs with ⟨k, act, hc⟩ | ⟨kr, r, act, hv⟩
    | ⟨i, kr, r, act, act', v, hr⟩ | ⟨k, act, -, he⟩ | ⟨k, act, hc⟩
    | ⟨kr, r, act, hv⟩ | ⟨i, kr, r, act, act', acc, reveal, -, -, hr⟩
    | ⟨k, act, -, he⟩ | ha
  · exact kept_created h hc
  · exact kept_voted h hv
  · exact kept_revealed h hr
  · exact kept_executed h he
  · rw [hc.after]
    exact kept_aside h rfl rfl
  · obtain ⟨ns, hw⟩ := hv.after
    rw [hw]
    exact kept_aside h rfl rfl
  · rw [hr.after]
    exact kept_aside h rfl rfl
  · rw [he.after]
    exact kept_aside h rfl rfl
  · exact kept_aside h ha.actions ha.records

-- ==== result

theorem outweighs_iff {t : Nat} (ht : t ≤ 100) (proposer yes no : Nat) :
    t * (proposer + yes + no) ≤ 100 * (proposer + yes)
      ↔ t * no ≤ (100 - t) * (proposer + yes) := by
  have hsplit : 100 * (proposer + yes)
      = t * (proposer + yes) + (100 - t) * (proposer + yes) := by
    rw [← Nat.add_mul, Nat.add_sub_cancel' ht]
  rw [hsplit, Nat.mul_add]
  omega

/-- What the execution test allows: the votes against are outweighed when
the proposer counts 10000 times. -/
theorem executed_outweighs (h : Kept w) (he : Executed w w' k act) :
    act.threshold * revealedVotes w k false
      ≤ (100 - act.threshold) * (10000 + revealedVotes w k true) := by
  obtain ⟨⟨-, hle⟩, hf, hg⟩ := h.tallied k act he.action
  have happroved := he.approved
  rw [Nat.le_div_iff_mul_le he.votes, hf, hg] at happroved
  exact (outweighs_iff hle 10000 _ _).mp (by omega)

/-- Equal weights ask for the votes against to be outweighed when the
proposer counts once. -/
theorem approved_iff {t : Nat} (ht : t ≤ 100) :
    Approved w k t ↔ t * revealedVotes w k false
      ≤ (100 - t) * (1 + revealedVotes w k true) :=
  outweighs_iff ht 1 _ _

/-- One execution is of an approved action exactly when it is of none in
the window. -/
theorem executesApproved_iff (h : Kept w) (hs : step env zk a w = .ok w') :
    ExecutesApproved a w ↔ ExecutesOutside a w := by
  have hiff : ∀ k act, a.op = .executeSwarmAction k → w.actions k = some act →
      (Approved w k act.threshold ↔ ¬ InWindow w k act.threshold) := by
    intro k act hop hact
    rw [step, hop] at hs
    obtain ⟨act', he⟩ := executeSwarmAction_executed hs
    have hact' := he.action
    rw [hact] at hact'
    cases hact'
    have hbound := executed_outweighs h he
    rw [approved_iff (h.tallied k act hact).threshold.2]
    constructor
    · rintro hle ⟨hlt, -⟩
      omega
    · intro hout
      by_contra hlt
      exact hout ⟨by omega, hbound⟩
  constructor
  · intro happ k act hop hact
    exact (hiff k act hop hact).mp (happ k act hop hact)
  · intro hout k act hop hact
    exact (hiff k act hop hact).mpr (hout k act hop hact)

/-- In every run, every executed action is approved exactly when no
execution is of an action in the window. -/
theorem executions_approved_iff {tr : List (Action env)} (h : Genesis w)
    (hrun : run (step env zk) w tr = .ok w') :
    Meets (step env zk) ExecutesApproved w tr
      ↔ Meets (step env zk) ExecutesOutside w tr := by
  rw [meets_iff_cut, meets_iff_cut]
  have hcut : ∀ p a q m, tr = p ++ a :: q → run (step env zk) w p = .ok m →
      (ExecutesApproved a m ↔ ExecutesOutside a m) := by
    intro p a q m htr hp
    rw [htr] at hrun
    obtain ⟨m', hm', hrest⟩ := run_append.mp hrun
    rw [hp] at hm'
    cases hm'
    obtain ⟨m'', hs, -⟩ := run_cons.mp hrest
    exact executesApproved_iff
      (run_induct (fun _ _ _ => kept_step) (kept_genesis h) hp) hs
  constructor
  · intro happ p a q m htr hp
    exact (hcut p a q m htr hp).mp (happ p a q m htr hp)
  · intro hout p a q m htr hp
    exact (hcut p a q m htr hp).mpr (hout p a q m htr hp)

end KamiyoProtocol.Hive.Swarm

-- ==== examples

namespace KamiyoProtocol.Hive.Swarm.Concrete

open Solana Solana.Concrete Exec Hive.Concrete

/-- The action the agents vote on. -/
def actionHash : Bytes := List.replicate 32 77

def actionKey : Pubkey := Hive.Concrete.env.pda (.swarmAction actionHash)

/-- Agent 1 proposes, at a threshold of `t` percent. -/
def propose (t : Nat) : Action Hive.Concrete.env :=
  act (.createSwarmAction (feeFrom 1) actionHash ⟨secret 1, [], []⟩
    (nullifierOf (secret 1) (be32 0)) t)

def vote (i : UInt8) (v : Bool) : Action Hive.Concrete.env :=
  act (.voteSwarmAction ⟨actionKey, wallet 1⟩
    (nullifierOf (secret i) actionHash) (opening i v ++ actionHash)
    ⟨secret i, opening i v, []⟩)

def reveal (i : UInt8) (v : Bool) : Action Hive.Concrete.env :=
  act (.revealVote
    ⟨Hive.Concrete.env.pda
      (.voteRecord actionKey (nullifierOf (secret i) actionHash)),
      actionKey⟩ v (secret i))

/-- A run in which agents 2 and 3 vote, and the action is executed. -/
def decided (t : Nat) (v₂ v₃ : Bool) : List (Action Hive.Concrete.env) :=
  [propose t, vote 2 v₂, vote 3 v₃, reveal 2 v₂, reveal 3 v₃,
    act (.advanceSlot 4501), act (.executeSwarmAction actionKey)]

/-- The condition, evaluated. -/
def outside (a : Action Hive.Concrete.env) (w : World) : Bool :=
  match a.op with
  | .executeSwarmAction k =>
    match w.actions k with
    | some act => decide (¬ InWindow w k act.threshold)
    | none => true
  | _ => true

theorem outside_sound (a : Action Hive.Concrete.env) (w : World)
    (h : outside a w = true) : ExecutesOutside a w := by
  intro k act hop hact
  rw [outside, hop] at h
  dsimp only at h
  rw [hact] at h
  exact of_decide_eq_true h

/-- One yes and one no beside the proposer's yes. -/
theorem executions_approved_iff_split :
    ∃ w, run (step Hive.Concrete.env zk) start (decided 51 true false) = .ok w
      ∧ (Meets (step Hive.Concrete.env zk) ExecutesApproved start
          (decided 51 true false)
        ↔ Meets (step Hive.Concrete.env zk) ExecutesOutside start
          (decided 51 true false))
      ∧ Meets (step Hive.Concrete.env zk) ExecutesApproved start
        (decided 51 true false) := by
  have hcheck : checkRun (step Hive.Concrete.env zk) outside
      (fun _ => true) start (decided 51 true false) = true := by
    decide
  obtain ⟨w, hrun, -, hmeets⟩ := run_of_check outside_sound hcheck
  have hiff := executions_approved_iff start_genesis hrun
  exact ⟨w, hrun, hiff, hiff.mpr hmeets⟩

/-- Both agents vote no, and the action is executed all the same: one yes
of three votes. -/
theorem outvoted_execution :
    ∃ w, run (step Hive.Concrete.env zk) start (decided 51 false false) = .ok w
      ∧ ¬ Meets (step Hive.Concrete.env zk) ExecutesApproved start
        (decided 51 false false) := by
  obtain ⟨w, hrun, -⟩ := check_ok
    (show check (fun _ => true) (run (step Hive.Concrete.env zk) start
      (decided 51 false false)) = true by decide)
  refine ⟨w, hrun, ?_⟩
  intro hmeets
  obtain ⟨m, hm, htest⟩ := check_ok
    (show check (fun m => match m.actions actionKey with
        | some act => decide (¬ Approved m actionKey act.threshold)
        | none => false)
      (run (step Hive.Concrete.env zk) start
        ((decided 51 false false).take 6)) = true by decide)
  have happ := meets_iff_cut.mp hmeets ((decided 51 false false).take 6)
    (act (.executeSwarmAction actionKey)) [] m rfl hm
  cases hact : m.actions actionKey with
  | none =>
    rw [hact] at htest
    cases htest
  | some act =>
    rw [hact] at htest
    exact of_decide_eq_true htest (happ actionKey act rfl hact)

end KamiyoProtocol.Hive.Swarm.Concrete
