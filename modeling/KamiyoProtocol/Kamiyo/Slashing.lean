/-
What the loops of a finalisation do to the oracles, record by record.

The source walks the submissions, replacing a record at a time, notes the
keys to remove, and removes them one by one. Where keys are distinct and no
oracle submits twice, the first loop is a map over the records (`judgeAll`)
and the second a filter (`SettledBy`), and the two subtractions from the
total stake take off what the records lost.

Who counts in the average is measured from the median of the scores, who is
slashed from the average itself (`slashed_off_consensus`).
-/
import KamiyoProtocol.Kamiyo.Quorum

namespace KamiyoProtocol.Kamiyo

open Solana Exec

variable {env : Env Seed} {tx : Tx env} {w w' : World}

-- ==== one record

/-- What a score makes of the record of its oracle. -/
def judge (consensus maxDeviation rewardPerOracle score : Nat)
    (o : OracleConfig) : OracleConfig :=
  if absDiff score consensus ≤ maxDeviation then
    if 0 < rewardPerOracle then
      { o with
        totalRewards := Fixed.saturatingAdd 64 o.totalRewards rewardPerOracle }
    else o
  else
    let slash := percentOf o.stakeAmount oracleSlashPercent
    if 0 < slash ∧ slash ≤ o.stakeAmount then
      { o with
        stakeAmount := o.stakeAmount - slash
        violationCount := Fixed.saturatingAdd 8 o.violationCount 1 }
    else o

/-- The score has its oracle slashed and noted for removal. -/
def Strikes (consensus maxDeviation score : Nat) (o : OracleConfig) : Prop :=
  maxDeviation < absDiff score consensus
    ∧ 0 < percentOf o.stakeAmount oracleSlashPercent
    ∧ maxOracleSlashViolations ≤ Fixed.saturatingAdd 8 o.violationCount 1

/-- The slash is at most the stake. -/
theorem slash_le (stake : Nat) :
    percentOf stake oracleSlashPercent ≤ stake :=
  percentOf_le (by decide)

section Judge

variable (consensus dev rpo score : Nat) (o : OracleConfig)

@[simp] theorem judge_pubkey :
    (judge consensus dev rpo score o).pubkey = o.pubkey := by
  unfold judge
  dsimp only
  split_ifs <;> rfl

@[simp] theorem judge_status :
    (judge consensus dev rpo score o).status = o.status := by
  unfold judge
  dsimp only
  split_ifs <;> rfl

@[simp] theorem judge_withdrawalRequestedAt :
    (judge consensus dev rpo score o).withdrawalRequestedAt
      = o.withdrawalRequestedAt := by
  unfold judge
  dsimp only
  split_ifs <;> rfl

/-- No score raises a stake. -/
theorem judge_stake_le :
    (judge consensus dev rpo score o).stakeAmount ≤ o.stakeAmount := by
  unfold judge
  dsimp only
  split_ifs
  · exact Nat.le_refl _
  · exact Nat.le_refl _
  · exact Nat.sub_le _ _
  · exact Nat.le_refl _

/-- A score by the consensus costs nothing. -/
theorem judge_near (h : absDiff score consensus ≤ dev) :
    (judge consensus dev rpo score o).stakeAmount = o.stakeAmount
      ∧ (judge consensus dev rpo score o).violationCount
        = o.violationCount := by
  unfold judge
  rw [if_pos h]
  split_ifs
  · exact ⟨rfl, rfl⟩
  · exact ⟨rfl, rfl⟩

/-- A score off the consensus costs the slash and is a violation, if there
is anything to slash. -/
theorem judge_far (h : dev < absDiff score consensus) :
    (0 < percentOf o.stakeAmount oracleSlashPercent
      ∧ (judge consensus dev rpo score o).stakeAmount
        = o.stakeAmount - percentOf o.stakeAmount oracleSlashPercent
      ∧ (judge consensus dev rpo score o).violationCount
        = Fixed.saturatingAdd 8 o.violationCount 1)
    ∨ (percentOf o.stakeAmount oracleSlashPercent = 0
      ∧ judge consensus dev rpo score o = o) := by
  have hle := slash_le o.stakeAmount
  unfold judge
  rw [if_neg (by omega)]
  dsimp only
  by_cases hpos : 0 < percentOf o.stakeAmount oracleSlashPercent
  · rw [if_pos ⟨hpos, hle⟩]
    exact .inl ⟨hpos, rfl, rfl⟩
  · rw [if_neg fun h => hpos h.1]
    exact .inr ⟨by omega, rfl⟩

end Judge

/-- What the submissions make of a record. -/
def judgeAll (consensus maxDeviation rewardPerOracle : Nat)
    (subs : List OracleSubmission) (o : OracleConfig) : OracleConfig :=
  match subs.find? fun s => s.oracle = o.pubkey with
  | none => o
  | some s => judge consensus maxDeviation rewardPerOracle s.qualityScore o

@[simp] theorem judgeAll_pubkey (consensus dev rpo : Nat)
    (subs : List OracleSubmission) (o : OracleConfig) :
    (judgeAll consensus dev rpo subs o).pubkey = o.pubkey := by
  unfold judgeAll
  split
  · rfl
  · exact judge_pubkey ..

/-- The submissions leave a record its status and its withdrawal. -/
theorem judgeAll_kept (consensus dev rpo : Nat)
    (subs : List OracleSubmission) (o : OracleConfig) :
    (judgeAll consensus dev rpo subs o).status = o.status
      ∧ (judgeAll consensus dev rpo subs o).withdrawalRequestedAt
        = o.withdrawalRequestedAt
      ∧ (judgeAll consensus dev rpo subs o).stakeAmount ≤ o.stakeAmount := by
  unfold judgeAll
  split
  · exact ⟨rfl, rfl, Nat.le_refl _⟩
  · exact ⟨judge_status .., judge_withdrawalRequestedAt .., judge_stake_le ..⟩

/-- Where no oracle submits twice, its one score judges it. -/
theorem judgeAll_of_mem (consensus dev rpo : Nat) {subs : List OracleSubmission}
    (hsubs : (subs.map OracleSubmission.oracle).Nodup)
    {s : OracleSubmission} (hs : s ∈ subs) {o : OracleConfig}
    (ho : s.oracle = o.pubkey) :
    judgeAll consensus dev rpo subs o
      = judge consensus dev rpo s.qualityScore o := by
  unfold judgeAll
  cases hfind : subs.find? fun s => s.oracle = o.pubkey with
  | none =>
    rw [List.find?_eq_none] at hfind
    exact absurd (decide_eq_true ho) (hfind s hs)
  | some s' =>
    have hkey : s'.oracle = o.pubkey := by
      simpa using List.find?_some hfind
    obtain rfl : s' = s := List.inj_on_of_nodup_map hsubs
      (List.mem_of_find?_eq_some hfind) hs (hkey.trans ho.symm)
    rfl

/-- An oracle that submitted nothing is left alone. -/
theorem judgeAll_of_not_mem (consensus dev rpo : Nat)
    {subs : List OracleSubmission} {o : OracleConfig}
    (ho : ∀ s ∈ subs, s.oracle ≠ o.pubkey) :
    judgeAll consensus dev rpo subs o = o := by
  have hnone : (subs.find? fun s => s.oracle = o.pubkey) = none := by
    rw [List.find?_eq_none]
    intro s hs
    simpa using ho s hs
  unfold judgeAll
  rw [hnone]

-- ==== both loops

/-- What the loop over the submissions has made of a tally. -/
structure Judged (consensus maxDeviation rewardPerOracle : Nat)
    (subs : List OracleSubmission) (t t' : Tally) : Prop where
  oracles : t'.oracles
    = t.oracles.map (judgeAll consensus maxDeviation rewardPerOracle subs)
  marked : ∀ k, k ∈ t'.oraclesToRemove ↔ k ∈ t.oraclesToRemove
    ∨ ∃ s ∈ subs, ∃ o ∈ t.oracles, s.oracle = k ∧ o.pubkey = k
      ∧ Strikes consensus maxDeviation s.qualityScore o
  slashed : stakeSum t.oracles + t.totalSlashedStake < 2 ^ 64 →
    stakeSum t'.oracles + t'.totalSlashedStake
      = stakeSum t.oracles + t.totalSlashedStake

/-- A submission whose oracle is found at `i`. -/
theorem tallySubmission_at {dest : Pubkey} {consensus dev rpo i : Nat}
    {s : OracleSubmission} {o : OracleConfig} {t t' : Tally}
    (hloc : Keyed.locate OracleConfig.pubkey t.oracles s.oracle = some (i, o))
    (h : tallySubmission env dest consensus dev rpo s t = .ok t') :
    t'.oracles = t.oracles.set i (judge consensus dev rpo s.qualityScore o)
      ∧ (∀ k, k ∈ t'.oraclesToRemove ↔ k ∈ t.oraclesToRemove
        ∨ k = o.pubkey ∧ Strikes consensus dev s.qualityScore o)
      ∧ (t.totalSlashedStake + o.stakeAmount < 2 ^ 64 →
        t'.totalSlashedStake
            + (judge consensus dev rpo s.qualityScore o).stakeAmount
          = t.totalSlashedStake + o.stakeAmount) := by
  obtain ⟨hi, -⟩ := Keyed.locate_some hloc
  have hle := slash_le o.stakeAmount
  unfold tallySubmission at h
  rw [hloc] at h
  dsimp only at h
  unfold judge Strikes
  by_cases hnear : absDiff s.qualityScore consensus ≤ dev
  · rw [if_pos hnear] at h ⊢
    have hnot : ¬ dev < absDiff s.qualityScore consensus := by omega
    obtain rfl := Except.ok.inj h
    unfold rewardOracle
    by_cases hreward : 0 < rpo
    · rw [if_pos hreward, if_pos hreward]
      exact ⟨rfl, by simp [hnot], fun _ => rfl⟩
    · rw [if_neg hreward, if_neg hreward]
      exact ⟨(Keyed.set_same hi).symm, by simp [hnot], fun _ => rfl⟩
  · rw [if_neg hnear] at h ⊢
    have hfar : dev < absDiff s.qualityScore consensus := by omega
    unfold slashOracle at h
    dsimp only at h ⊢
    by_cases hslash : 0 < percentOf o.stakeAmount oracleSlashPercent
        ∧ percentOf o.stakeAmount oracleSlashPercent ≤ o.stakeAmount
    · rw [if_pos hslash] at h
      rw [if_pos hslash]
      simp only [bind_ok] at h
      obtain ⟨l, -, ht⟩ := h
      obtain rfl := Except.ok.inj ht
      refine ⟨rfl, fun k => ?_, fun hfits => ?_⟩
      · dsimp only
        split
        next hviolations => simp [hfar, hslash.1, hviolations]
        next hviolations => simp [hviolations]
      · dsimp only
        rw [Fixed.saturatingAdd_eq (by omega)]
        omega
    · rw [if_neg hslash] at h
      rw [if_neg hslash]
      obtain rfl := Except.ok.inj h
      have hnone : ¬ 0 < percentOf o.stakeAmount oracleSlashPercent :=
        fun hpos => hslash ⟨hpos, hle⟩
      exact ⟨(Keyed.set_same hi).symm, by simp [hnone], fun _ => rfl⟩

/-- The loop: by induction on the submissions, none of which is by the
oracle of another. -/
theorem tallySubmissions_judged {dest : Pubkey} {consensus dev rpo : Nat}
    {subs : List OracleSubmission} :
    ∀ {t t' : Tally}, (subs.map OracleSubmission.oracle).Nodup →
      (roster t.oracles).Nodup →
      tallySubmissions env dest consensus dev rpo subs t = .ok t' →
      Judged consensus dev rpo subs t t' := by
  induction subs with
  | nil =>
    intro t t' _ _ h
    obtain rfl := Except.ok.inj h
    refine ⟨?_, by simp, fun _ => rfl⟩
    exact (List.map_id _).symm
  | cons s rest ih =>
    intro t t' hsubs hn h
    simp only [tallySubmissions, bind_ok] at h
    obtain ⟨m, hm, hrest⟩ := h
    have hnew : ∀ x ∈ rest, x.oracle ≠ s.oracle :=
      fun x hx => Keyed.key_ne_head hsubs hx
    have hrestsubs := (List.nodup_cons.mp hsubs).2
    have hone : m.oracles = t.oracles.map (fun o => if o.pubkey = s.oracle
          then judge consensus dev rpo s.qualityScore o else o)
        ∧ (∀ k, k ∈ m.oraclesToRemove ↔ k ∈ t.oraclesToRemove
          ∨ ∃ o ∈ t.oracles, s.oracle = k ∧ o.pubkey = k
            ∧ Strikes consensus dev s.qualityScore o)
        ∧ (stakeSum t.oracles + t.totalSlashedStake < 2 ^ 64 →
          stakeSum m.oracles + m.totalSlashedStake
            = stakeSum t.oracles + t.totalSlashedStake) := by
      cases hloc : Keyed.locate OracleConfig.pubkey t.oracles s.oracle with
      | none =>
        have hnone := Keyed.locate_none.mp hloc
        unfold tallySubmission at hm
        rw [hloc] at hm
        obtain rfl := Except.ok.inj hm
        refine ⟨?_, fun k => ?_, fun _ => rfl⟩
        · refine ((List.map_congr_left fun o ho => ?_).trans
            (List.map_id _)).symm
          rw [if_neg (hnone o ho)]
          rfl
        · constructor
          · exact .inl
          · rintro (hk | ⟨o, ho, rfl, hkey, -⟩)
            · exact hk
            · exact absurd hkey (hnone o ho)
      | some r =>
        obtain ⟨i, o⟩ := r
        obtain ⟨hi, hkey⟩ := Keyed.locate_some hloc
        obtain ⟨hset, hmarks, hslashed⟩ := tallySubmission_at hloc hm
        refine ⟨?_, fun k => ?_, fun hfits => ?_⟩
        · rw [hset, ← hkey]
          exact Keyed.set_apply hn hi _
        · rw [hmarks]
          refine or_congr_right ⟨?_, ?_⟩
          · rintro ⟨rfl, hstrikes⟩
            exact ⟨o, List.mem_of_getElem? hi, hkey.symm, rfl, hstrikes⟩
          · rintro ⟨x, hx, rfl, hxkey, hstrikes⟩
            obtain rfl : x = o := List.inj_on_of_nodup_map hn hx
              (List.mem_of_getElem? hi) (hxkey.trans hkey.symm)
            exact ⟨hkey.symm, hstrikes⟩
        · have hsum := Keyed.sum_set OracleConfig.stakeAmount hi
            (judge consensus dev rpo s.qualityScore o)
          have hpart := Keyed.le_sum OracleConfig.stakeAmount hi
          rw [hset]
          unfold stakeSum at hfits ⊢
          have hmoved := hslashed (by omega)
          omega
    obtain ⟨horacles, hmarks, hslashed⟩ := hone
    have hroster : roster m.oracles = roster t.oracles := by
      rw [horacles]
      unfold roster
      rw [List.map_map]
      refine List.map_congr_left fun o _ => ?_
      dsimp only [Function.comp_apply]
      split
      · exact judge_pubkey ..
      · rfl
    have hlater := ih hrestsubs (hroster ▸ hn) hrest
    refine ⟨?_, fun k => ?_, fun hfits => ?_⟩
    · rw [hlater.oracles, horacles, List.map_map]
      refine List.map_congr_left fun o _ => ?_
      dsimp only [Function.comp_apply]
      by_cases hkey : o.pubkey = s.oracle
      · rw [if_pos hkey, judgeAll_of_not_mem,
          judgeAll_of_mem _ _ _ hsubs List.mem_cons_self hkey.symm]
        intro x hx
        rw [judge_pubkey, hkey]
        exact hnew x hx
      · rw [if_neg hkey]
        unfold judgeAll
        rw [List.find?_cons_of_neg (by simpa using Ne.symm hkey)]
    · rw [hlater.marked, hmarks, or_assoc]
      refine or_congr_right ⟨?_, ?_⟩
      · rintro (⟨o, ho, hk⟩ | ⟨x, hx, o, ho, hkx, hko, hstrikes⟩)
        · exact ⟨s, List.mem_cons_self, o, ho, hk⟩
        · rw [horacles] at ho
          obtain ⟨o', ho', rfl⟩ := List.mem_map.mp ho
          have hne : o'.pubkey ≠ s.oracle := by
            intro hsame
            rw [if_pos hsame, judge_pubkey, hsame] at hko
            exact hnew x hx (hkx.trans hko.symm)
          rw [if_neg hne] at hko hstrikes
          exact ⟨x, List.mem_cons_of_mem s hx, o', ho', hkx, hko, hstrikes⟩
      · rintro ⟨x, hx, o, ho, hkx, hko, hstrikes⟩
        rcases List.mem_cons.mp hx with rfl | hx
        · exact .inl ⟨o, ho, hkx, hko, hstrikes⟩
        · have hne : o.pubkey ≠ s.oracle := by
            rw [hko, ← hkx]
            exact hnew x hx
          refine .inr ⟨x, hx, o, ?_, hkx, hko, hstrikes⟩
          rw [horacles]
          exact List.mem_map.mpr ⟨o, ho, if_neg hne⟩
    · have hfirst := hslashed hfits
      have hnext := hlater.slashed (by omega)
      omega

variable {acc : FinalizeAccounts}

/-- The second loop filters the records, and the total stake with them. -/
theorem removeViolators_dropped {keys : List Pubkey} :
    ∀ {r r' : Removal}, (roster r.oracles).Nodup →
      removeViolators env acc keys r = .ok r' →
      r'.oracles = r.oracles.filter (fun o => o.pubkey ∉ keys)
        ∧ (r.totalStake = stakeSum r.oracles →
          r'.totalStake = stakeSum r'.oracles) := by
  induction keys with
  | nil =>
    intro r r' _ h
    obtain rfl := Except.ok.inj h
    exact ⟨by simp, id⟩
  | cons k rest ih =>
    intro r r' hn h
    simp only [removeViolators, bind_ok] at h
    obtain ⟨m, hm, hrest⟩ := h
    have hone : m.oracles = r.oracles.filter (fun o => o.pubkey ≠ k)
        ∧ (r.totalStake = stakeSum r.oracles →
          m.totalStake = stakeSum m.oracles) := by
      unfold removeViolator at hm
      cases hloc : Keyed.locate OracleConfig.pubkey r.oracles k with
      | none =>
        rw [hloc] at hm
        obtain rfl := Except.ok.inj hm
        refine ⟨(List.filter_eq_self.mpr fun o ho => ?_).symm, id⟩
        exact decide_eq_true (Keyed.locate_none.mp hloc o ho)
      | some x =>
        obtain ⟨i, o⟩ := x
        obtain ⟨hi, rfl⟩ := Keyed.locate_some hloc
        rw [hloc] at hm
        simp only [bind_ok] at hm
        obtain ⟨l, -, hm⟩ := hm
        obtain rfl := Except.ok.inj hm
        refine ⟨Keyed.eraseIdx_eq_filter hn hi, fun htotal => ?_⟩
        have hsum := Keyed.sum_eraseIdx OracleConfig.stakeAmount hi
        unfold stakeSum at htotal ⊢
        dsimp only
        omega
    obtain ⟨horacles, htotal⟩ := hone
    have hm' : (roster m.oracles).Nodup := by
      rw [horacles]
      exact hn.sublist (List.filter_sublist.map _)
    obtain ⟨hlater, hsum⟩ := ih hm' hrest
    refine ⟨?_, fun h => hsum (htotal h)⟩
    rw [hlater, horacles, List.filter_filter]
    refine List.filter_congr fun o _ => ?_
    simp [Bool.and_comm]

/-- What a finalisation with this consensus makes of the registry: the
submissions judge the records, and those in `removed` are dropped. -/
structure SettledBy (consensus rewardPerOracle : Nat)
    (subs : List OracleSubmission) (removed : List Pubkey)
    (reg reg' : OracleRegistry) : Prop where
  rest : reg' = { reg with
    oracles := reg'.oracles
    totalStake := reg'.totalStake }
  oracles : reg'.oracles = (reg.oracles.map (judgeAll consensus
      reg.maxScoreDeviation rewardPerOracle subs)).filter
    fun o => o.pubkey ∉ removed
  removed : ∀ k, k ∈ removed ↔ ∃ s ∈ subs, ∃ o ∈ reg.oracles, s.oracle = k
    ∧ o.pubkey = k ∧ Strikes consensus reg.maxScoreDeviation s.qualityScore o
  total : reg.totalStake = stakeSum reg.oracles → reg.totalStake < 2 ^ 64 →
    reg'.totalStake = stakeSum reg'.oracles

/-- Both loops together: the records judged, the noted ones dropped. -/
theorem settleOracles_settled {e : Escrow}
    {reg : OracleRegistry} {consensus rpo : Nat} {o : OracleOutcome}
    (hsubs : (e.oracleSubmissions.map OracleSubmission.oracle).Nodup)
    (hn : (roster reg.oracles).Nodup)
    (h : settleOracles env acc e reg consensus rpo w = .ok o) :
    ∃ reg' removed, o.world.registry = some reg'
      ∧ SettledBy consensus rpo e.oracleSubmissions removed reg reg' := by
  simp only [settleOracles, bind_ok] at h
  obtain ⟨t, ht, r, hr, ho⟩ := h
  obtain rfl := Except.ok.inj ho
  have hjudged := tallySubmissions_judged hsubs hn ht
  have hroster : (roster t.oracles).Nodup := by
    rw [hjudged.oracles]
    unfold roster
    rw [List.map_map]
    refine (List.map_congr_left fun o _ => ?_) ▸ hn
    exact (judgeAll_pubkey ..).symm
  obtain ⟨hdropped, htotal⟩ := removeViolators_dropped hroster hr
  refine ⟨_, t.oraclesToRemove, rfl,
    { rest := rfl
      oracles := ?_
      removed := fun k => ?_
      total := fun hbooks hfits => htotal ?_ }⟩
  · exact hdropped.trans (congrArg _ hjudged.oracles)
  · rw [hjudged.marked]
    simp [Tally.start]
  · have hslashed := hjudged.slashed
    simp only [Tally.start, Nat.add_zero] at hslashed
    have hsum := hslashed (hbooks ▸ hfits)
    show reg.totalStake - t.totalSlashedStake = stakeSum t.oracles
    omega

-- ==== the instruction

@[simp] theorem bookTreasury_registry (treasury : Option Treasury)
    (f a s v : Nat) :
    (bookTreasury tx treasury f a s v w).registry = w.registry := by
  unfold bookTreasury
  split
  · rfl
  · rfl

/-- Paying the parties does not touch the registry. -/
theorem payout_registry {k : Pubkey} {e : Escrow}
    {parties : Parties} {treasuryTa : Option (Pubkey × TokenAccount)}
    {split : Split} {reward : Nat}
    (h : (match e.tokenMint with
      | some mint =>
        finalizeSpl w k mint e parties treasuryTa split reward
      | none => finalizeSol env w k e acc split reward) = .ok w') :
    w'.registry = w.registry := by
  split at h
  · obtain ⟨us, -, hw, -⟩ := finalizeSpl_ok h
    rw [hw]
    rfl
  · simp only [finalizeSol, bind_ok] at h
    obtain ⟨-, -, l₁, -, l₂, -, l₃, -, l₄, -, hw⟩ := h
    obtain rfl := Except.ok.inj hw
    rfl

/-- A finalisation settles the registry by the consensus of the dispute's
submissions. -/
theorem finalizeMultiOracleDispute_settles
    (hroster : ∀ reg, w.registry = some reg → (roster reg.oracles).Nodup)
    (hvotes : ∀ e, w.escrows acc.escrow = some e →
      (e.oracleSubmissions.map OracleSubmission.oracle).Nodup)
    (h : finalizeMultiOracleDispute env tx acc w = .ok w') :
    ∃ e reg reg' consensus rpo removed, w.escrows acc.escrow = some e
      ∧ w.registry = some reg ∧ w'.registry = some reg'
      ∧ finalizeConsensus tx e reg = .ok consensus
      ∧ SettledBy consensus rpo e.oracleSubmissions removed reg reg' := by
  simp only [finalizeMultiOracleDispute, bind_ok, loadEscrow_ok, load_ok] at h
  obtain ⟨e, ⟨he, -⟩, reg, hreg, -, -, -, -, identity, -, -, -, treasury, -,
    parties, -, treasuryTa, -, -, -, consensus, hcons, w₁, -, slash, -, o, ho,
    hpay⟩ := h
  obtain ⟨reg', removed, hworld, hsettled⟩ :=
    settleOracles_settled (hvotes e he) (hroster reg hreg) ho
  refine ⟨e, reg, reg', consensus, _, removed, he, hreg, ?_, hcons, hsettled⟩
  rw [payout_registry hpay, bookTreasury_registry, hworld]

-- ==== who is hit

/-- The record of `o` has its stake and its violations still. -/
def Spared (reg' : OracleRegistry) (o : OracleConfig) : Prop :=
  ∃ o' ∈ reg'.oracles, o'.pubkey = o.pubkey
    ∧ o'.stakeAmount = o.stakeAmount ∧ o'.violationCount = o.violationCount
  deriving Decidable

/-- The oracle is slashed once, and is off the list with the violation that
is one too many. -/
def Punished (reg' : OracleRegistry) (o : OracleConfig) : Prop :=
  let violations := Fixed.saturatingAdd 8 o.violationCount 1
  (maxOracleSlashViolations ≤ violations →
    ∀ o' ∈ reg'.oracles, o'.pubkey ≠ o.pubkey)
  ∧ (violations < maxOracleSlashViolations →
    ∃ o' ∈ reg'.oracles, o'.pubkey = o.pubkey
      ∧ o'.stakeAmount
        = o.stakeAmount - percentOf o.stakeAmount oracleSlashPercent
      ∧ o'.violationCount = violations)

/-- Ten lamports is the least stake with a slash. -/
theorem slash_pos_iff {stake : Nat} (h : stake < 2 ^ 64) :
    0 < percentOf stake oracleSlashPercent ↔ 10 ≤ stake := by
  unfold percentOf oracleSlashPercent
  rw [Fixed.wrap_eq (by omega)]
  omega

section Settled

variable {consensus rpo : Nat} {subs : List OracleSubmission}
  {removed : List Pubkey} {reg reg' : OracleRegistry} {o : OracleConfig}

/-- Who is left: the judged records that were not noted. -/
theorem SettledBy.mem_iff
    (h : SettledBy consensus rpo subs removed reg reg') {o' : OracleConfig} :
    o' ∈ reg'.oracles ↔ ∃ o ∈ reg.oracles, o.pubkey ∉ removed
      ∧ judgeAll consensus reg.maxScoreDeviation rpo subs o = o' := by
  rw [h.oracles]
  simp only [List.mem_filter, List.mem_map, decide_eq_true_eq]
  constructor
  · rintro ⟨⟨o, ho, rfl⟩, hkept⟩
    exact ⟨o, ho, by simpa using hkept, rfl⟩
  · rintro ⟨o, ho, hkept, rfl⟩
    exact ⟨⟨o, ho, rfl⟩, by simpa using hkept⟩

/-- Who is removed: the oracles a score strikes. -/
theorem SettledBy.removed_iff
    (h : SettledBy consensus rpo subs removed reg reg')
    (hn : (roster reg.oracles).Nodup) (ho : o ∈ reg.oracles) :
    o.pubkey ∈ removed ↔ ∃ s ∈ subs, s.oracle = o.pubkey
      ∧ Strikes consensus reg.maxScoreDeviation s.qualityScore o := by
  rw [h.removed]
  refine exists_congr fun s => and_congr_right fun _ => ⟨?_, ?_⟩
  · rintro ⟨x, hx, hs, hkey, hstrikes⟩
    obtain rfl : x = o := List.inj_on_of_nodup_map hn hx ho hkey
    exact ⟨hs, hstrikes⟩
  · rintro ⟨hs, hstrikes⟩
    exact ⟨o, ho, hs, rfl, hstrikes⟩

/-- Scores by the consensus leave stake, violations and place. -/
theorem SettledBy.spared (h : SettledBy consensus rpo subs removed reg reg')
    (hsubs : (subs.map OracleSubmission.oracle).Nodup)
    (hn : (roster reg.oracles).Nodup) (ho : o ∈ reg.oracles)
    (hnear : ∀ s ∈ subs, s.oracle = o.pubkey →
      absDiff s.qualityScore consensus ≤ reg.maxScoreDeviation
        ∨ o.stakeAmount < 10) : Spared reg' o := by
  have hsmall : o.stakeAmount < 10 →
      percentOf o.stakeAmount oracleSlashPercent = 0 := by
    intro hlt
    have hiff := @slash_pos_iff o.stakeAmount (by omega)
    omega
  have hkept : o.pubkey ∉ removed := by
    rw [h.removed_iff hn ho]
    rintro ⟨s, hs, hkey, hfar, hpos, -⟩
    rcases hnear s hs hkey with hle | hlt
    · omega
    · have := hsmall hlt
      omega
  refine ⟨_, h.mem_iff.mpr ⟨o, ho, hkept, rfl⟩, judgeAll_pubkey .., ?_⟩
  by_cases hvoted : ∃ s ∈ subs, s.oracle = o.pubkey
  · obtain ⟨s, hs, hkey⟩ := hvoted
    rw [judgeAll_of_mem _ _ _ hsubs hs hkey]
    by_cases hle : absDiff s.qualityScore consensus ≤ reg.maxScoreDeviation
    · exact judge_near _ _ _ _ _ hle
    · have hlt := (hnear s hs hkey).resolve_left hle
      rcases judge_far consensus reg.maxScoreDeviation rpo s.qualityScore o
        (by omega) with ⟨hpos, -⟩ | ⟨-, hsame⟩
      · have := hsmall hlt
        omega
      · rw [hsame]
        exact ⟨rfl, rfl⟩
  · rw [judgeAll_of_not_mem]
    · exact ⟨rfl, rfl⟩
    · exact fun s hs hkey => hvoted ⟨s, hs, hkey⟩

/-- A score off the consensus takes a tenth and may take the place. -/
theorem SettledBy.punished (h : SettledBy consensus rpo subs removed reg reg')
    (hsubs : (subs.map OracleSubmission.oracle).Nodup)
    (hn : (roster reg.oracles).Nodup) (ho : o ∈ reg.oracles)
    {s : OracleSubmission} (hs : s ∈ subs) (hkey : s.oracle = o.pubkey)
    (hfar : reg.maxScoreDeviation < absDiff s.qualityScore consensus)
    (hstake : 10 ≤ o.stakeAmount) (hfits : o.stakeAmount < 2 ^ 64) :
    Punished reg' o := by
  have hpos := (slash_pos_iff hfits).mpr hstake
  have hremoved : o.pubkey ∈ removed ↔ maxOracleSlashViolations
      ≤ Fixed.saturatingAdd 8 o.violationCount 1 := by
    rw [h.removed_iff hn ho]
    constructor
    · rintro ⟨-, -, -, -, -, hmany⟩
      exact hmany
    · exact fun hmany => ⟨s, hs, hkey, hfar, hpos, hmany⟩
  constructor
  · intro hmany o' ho' hkey'
    obtain ⟨x, hx, hkept, rfl⟩ := h.mem_iff.mp ho'
    rw [judgeAll_pubkey] at hkey'
    exact hkept (hkey' ▸ hremoved.mpr hmany)
  · intro hfew
    have hkept : o.pubkey ∉ removed := by
      rw [hremoved]
      omega
    refine ⟨_, h.mem_iff.mpr ⟨o, ho, hkept, rfl⟩, judgeAll_pubkey .., ?_⟩
    rw [judgeAll_of_mem _ _ _ hsubs hs hkey]
    rcases judge_far consensus reg.maxScoreDeviation rpo s.qualityScore o hfar
      with ⟨-, hless, hmore⟩ | ⟨hzero, -⟩
    · exact ⟨hless, hmore⟩
    · omega

end Settled

/-- Those are slashed whose score is off the consensus, if they have ten
lamports of stake, and nobody else is. -/
def SlashedOff (consensus : Nat) (subs : List OracleSubmission)
    (reg reg' : OracleRegistry) : Prop :=
  ∀ o ∈ reg.oracles,
    ((∀ s ∈ subs, s.oracle = o.pubkey →
      absDiff s.qualityScore consensus ≤ reg.maxScoreDeviation
        ∨ o.stakeAmount < 10) → Spared reg' o)
    ∧ ∀ s ∈ subs, s.oracle = o.pubkey →
      reg.maxScoreDeviation < absDiff s.qualityScore consensus →
      10 ≤ o.stakeAmount → o.stakeAmount < 2 ^ 64 → Punished reg' o

/-- A finalisation slashes by the consensus it pays out by, wherever the
median is. -/
theorem slashed_off_consensus {w₀ : World} {tr : List (Action env)}
    {acc : FinalizeAccounts} (hgen : Genesis w₀)
    (hrun : run (step env) w₀ tr = .ok w)
    (h : finalizeMultiOracleDispute env tx acc w = .ok w') :
    ∃ e reg reg' consensus, w.escrows acc.escrow = some e
      ∧ w.registry = some reg ∧ w'.registry = some reg'
      ∧ finalizeConsensus tx e reg = .ok consensus
      ∧ SlashedOff consensus e.oracleSubmissions reg reg' := by
  have hroster : ∀ reg, w.registry = some reg → (roster reg.oracles).Nodup :=
    fun reg hreg => (roster_sound ⟨w₀, tr, hgen, hrun⟩ reg hreg).1
  have hvotes : ∀ e, w.escrows acc.escrow = some e →
      (e.oracleSubmissions.map OracleSubmission.oracle).Nodup := by
    obtain ⟨_, _, _, _, _, _, _, _, hd⟩ := finalizeMultiOracleDispute_ok h
    rw [hd.address]
    exact fun e he => (votes_recorded hgen hrun _ _ e he).submitters
  obtain ⟨e, reg, reg', consensus, rpo, removed, he, hreg, hreg', hcons,
    hsettled⟩ := finalizeMultiOracleDispute_settles hroster hvotes h
  refine ⟨e, reg, reg', consensus, he, hreg, hreg', hcons, fun o ho =>
    ⟨hsettled.spared (hvotes e he) (hroster reg hreg) ho, ?_⟩⟩
  intro s hs hkey hfar hstake hfits
  exact hsettled.punished (hvotes e he) (hroster reg hreg) ho hs hkey hfar
    hstake hfits

-- ==== a heavy third voter

open Concrete

/-- A bystander's accounts for a finalisation. -/
def bystander : FinalizeAccounts where
  escrow := escrowKey
  agent := wallet 10
  api := wallet 11
  agentIdentity := false
  caller := wallet 30
  treasury := true
  parties := ⟨none, none, none, false⟩
  treasuryTokenAccount := none

/-- Two oracles of weight one score 50 and 60, one of weight 100 scores
70. -/
def heavyVote : List (Action Concrete.env) :=
  enlist [20, 21] 1000000000
    ++ [act [1, 22] 1000 (.addOracle ⟨wallet 1, wallet 22⟩ (wallet 22)
        .ed25519 100 1000000000),
      dispute, commit 20 50 (salt 20), commit 21 60 (salt 21),
      commit 22 70 (salt 22), reveal 20 50 (salt 20), reveal 21 60 (salt 21),
      reveal 22 70 (salt 22)]

/-- The score is counted in the average. -/
def Counted (reg : OracleRegistry) (e : Escrow) (s : OracleSubmission) :
    Prop :=
  absDiff s.qualityScore (medianScore
    ((weightedScores reg.oracles e.oracleSubmissions).map Prod.fst))
      ≤ reg.maxScoreDeviation

/-- Those whose score is counted are spared, and those whose is not are
slashed. -/
def SlashesUncounted (e : Escrow) (reg reg' : OracleRegistry) : Prop :=
  ∀ o ∈ reg.oracles, ∀ s ∈ e.oracleSubmissions, s.oracle = o.pubkey →
    (Counted reg e s → Spared reg' o)
    ∧ (¬ Counted reg e s → 10 ≤ o.stakeAmount → ¬ Spared reg' o)

instance (reg : OracleRegistry) (e : Escrow) (s : OracleSubmission) :
    Decidable (Counted reg e s) :=
  inferInstanceAs (Decidable (_ ≤ _))

/-- The consensus is 70, and costs the 50 a tenth of its stake, though it
was counted. -/
theorem heavyVote_runs :
    ∃ w w', run (step Concrete.env) start heavyVote = .ok w
      ∧ finalizeMultiOracleDispute Concrete.env (Concrete.tx [30] 1600 [])
          bystander w = .ok w'
      ∧ (w.registry.any fun reg => w'.registry.any fun reg' =>
          (w.escrows escrowKey).any fun e => decide (∃ o ∈ reg.oracles,
            ∃ s ∈ e.oracleSubmissions, s.oracle = o.pubkey
              ∧ Counted reg e s ∧ ¬ Spared reg' o)) = true := by
  obtain ⟨w, hrun, hrest⟩ := check_ok (show check (fun w =>
      check (fun w' =>
        w.registry.any fun reg => w'.registry.any fun reg' =>
          (w.escrows escrowKey).any fun e => decide (∃ o ∈ reg.oracles,
            ∃ s ∈ e.oracleSubmissions, s.oracle = o.pubkey
              ∧ Counted reg e s ∧ ¬ Spared reg' o))
      (finalizeMultiOracleDispute Concrete.env (Concrete.tx [30] 1600 [])
        bystander w))
    (run (step Concrete.env) start heavyVote) = true by decide +kernel)
  obtain ⟨w', hfinal, htest⟩ := check_ok hrest
  exact ⟨w, w', hrun, hfinal, htest⟩

/-- The heavy oracle pulls the consensus to its own score. -/
theorem slashed_off_consensus_heavy :
    ∃ w w' e reg reg' consensus, run (step Concrete.env) start heavyVote = .ok w
      ∧ finalizeMultiOracleDispute Concrete.env (Concrete.tx [30] 1600 [])
          bystander w = .ok w'
      ∧ w.escrows escrowKey = some e ∧ w.registry = some reg
      ∧ w'.registry = some reg'
      ∧ finalizeConsensus (Concrete.tx [30] 1600 []) e reg = .ok consensus
      ∧ SlashedOff consensus e.oracleSubmissions reg reg' := by
  obtain ⟨w, w', hrun, hfinal, -⟩ := heavyVote_runs
  obtain ⟨e, reg, reg', c, he⟩ :=
    slashed_off_consensus (genesis_genesis _ _ _ _) hrun hfinal
  exact ⟨w, w', e, reg, reg', c, hrun, hfinal, he⟩

/-- A score the average counts, slashed all the same. -/
theorem counted_slashed :
    ∃ w w' e reg reg', Genesis start
      ∧ run (step Concrete.env) start heavyVote = .ok w
      ∧ finalizeMultiOracleDispute Concrete.env (Concrete.tx [30] 1600 [])
          bystander w = .ok w'
      ∧ w.escrows escrowKey = some e ∧ w.registry = some reg
      ∧ w'.registry = some reg' ∧ ¬ SlashesUncounted e reg reg' := by
  obtain ⟨w, w', hrun, hfinal, htest⟩ := heavyVote_runs
  obtain ⟨reg, hreg, htest⟩ := (Option.any_eq_true _ _).mp htest
  obtain ⟨reg', hreg', htest⟩ := (Option.any_eq_true _ _).mp htest
  obtain ⟨e, he, htest⟩ := (Option.any_eq_true _ _).mp htest
  obtain ⟨o, ho, s, hs, hkey, hcounted, hslashed⟩ := of_decide_eq_true htest
  refine ⟨w, w', e, reg, reg', genesis_genesis _ _ _ _, hrun, hfinal, he,
    hreg, hreg', fun hagree => ?_⟩
  exact hslashed ((hagree o ho s hs hkey).1 hcounted)

end KamiyoProtocol.Kamiyo
