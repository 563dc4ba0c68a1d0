/-
What a finalisation does, as accounting.

The proofs follow the instruction's phases. Each loop gets a step lemma
about one iteration and a run lemma by induction on the list it walks;
both say the same thing, that the lamports moved out of the registry are
exactly what the recorded stakes lost (`StakesFollow`), and the tally
adds how far the recorded rewards can have grown.

`splitAmount_bounds` is the arithmetic the payout rests on: the refund
and the payment make up the amount, the fee fits the payment, and the
rewards of all participating oracles fit what is left. With it the
saturating operations of the payout never clamp.
-/
import KamiyoProtocol.Kamiyo.Finalize

namespace KamiyoProtocol.Kamiyo

open Solana Exec Function

variable {env : Env Seed} {tx : Tx env} {w w' : World}

-- ==== the split

theorem percentOf_lt (amount percentage : Nat) :
    percentOf amount percentage < 2 ^ 64 :=
  Fixed.wrap_lt 64 _

theorem refund_le_hundred (q : Nat) :
    calculateRefundFromQuality q ≤ 100 := by
  rcases refund_tiers q with ⟨-, h⟩ | ⟨-, h | h | h⟩
  all_goals omega

/-- The split of an amount: refund and payment make it up, the fee fits
the payment, the rewards fit the rest, and none are paid when they are
disabled. -/
structure SplitBounds (amount count : Nat) (rewardsEnabled : Bool)
    (s : Split) : Prop where
  whole : s.refundAmount + s.paymentAmount = amount
  fee : s.protocolFee ≤ s.paymentAmount
  rewards : count * s.rewardPerOracle ≤ s.paymentAmount - s.protocolFee
  width : count * s.rewardPerOracle < 2 ^ 64
  disabled : rewardsEnabled = false → s.rewardPerOracle = 0

theorem splitAmount_bounds (amount consensus : Nat) (rewardsEnabled : Bool)
    (count : Nat) :
    SplitBounds amount count rewardsEnabled
      (splitAmount amount consensus rewardsEnabled count) := by
  have hrefund : percentOf amount (calculateRefundFromQuality consensus)
      ≤ amount := percentOf_le (refund_le_hundred consensus)
  have hdiv : ∀ n : Nat, count * (if 0 < count then n / count else 0) ≤ n := by
    intro n
    split
    · exact Nat.mul_div_le n count
    · simp
  have hbase : (if rewardsEnabled then percentOf amount oracleRewardPercent
      else 0) < 2 ^ 64 := by
    have := percentOf_lt amount oracleRewardPercent
    split
    · exact this
    · omega
  refine { whole := ?_, fee := Nat.min_le_right _ _, rewards := ?_,
           width := ?_, disabled := ?_ }
  · show percentOf amount (calculateRefundFromQuality consensus)
      + (amount - percentOf amount (calculateRefundFromQuality consensus))
      = amount
    omega
  · refine Nat.le_trans (hdiv _) ?_
    exact Nat.min_le_right _ _
  · refine Nat.lt_of_le_of_lt (hdiv _) ?_
    exact Nat.lt_of_le_of_lt (Nat.min_le_left _ _) hbase
  · rintro rfl
    simp [splitAmount]

-- ==== the tally

/-- Stake of all listed oracles. -/
def stakeSum (oracles : List OracleConfig) : Nat :=
  (oracles.map OracleConfig.stakeAmount).sum

/-- Rewards recorded for all listed oracles. -/
def rewardSum (oracles : List OracleConfig) : Nat :=
  (oracles.map OracleConfig.totalRewards).sum

/-- The keys of the listed oracles. -/
def roster (oracles : List OracleConfig) : List Pubkey :=
  oracles.map OracleConfig.pubkey

/-- Lamports `ts` left the registry for `dest` exactly as the stakes went
from `os` to `os'`, and no oracle was added. -/
structure StakesFollow (env : Env Seed) (dest : Pubkey)
    (l l' : Lamports) (os os' : List OracleConfig)
    (ts : List (Transfer Pubkey)) : Prop where
  lamports : l.moves ts = some l'
  ends : ∀ t ∈ ts, t.src = env.pda .oracleRegistry ∧ t.dst = dest
  stakes : stakeSum os' + Transfer.outOf ts (env.pda .oracleRegistry)
    = stakeSum os
  roster : (roster os').Sublist (roster os)

theorem StakesFollow.refl {dest : Pubkey} {l : Lamports}
    {os : List OracleConfig} : StakesFollow env dest l l os os [] :=
  ⟨rfl, by simp, by simp, List.Sublist.refl _⟩

theorem StakesFollow.trans {dest : Pubkey} {l m l' : Lamports}
    {os om os' : List OracleConfig} {ts us : List (Transfer Pubkey)}
    (h : StakesFollow env dest l m os om ts)
    (h' : StakesFollow env dest m l' om os' us) :
    StakesFollow env dest l l' os os' (ts ++ us) := by
  refine ⟨Ledger.moves_append h.lamports h'.lamports, ?_, ?_,
    h'.roster.trans h.roster⟩
  · intro t ht
    rcases List.mem_append.mp ht with ht | ht
    · exact h.ends t ht
    · exact h'.ends t ht
  · have h₁ := h.stakes
    have h₂ := h'.stakes
    rw [Transfer.outOf_append]
    omega

/-- Recorded rewards grew by at most what the tally counted, and the
tally by at most `n`. -/
structure RewardsFollow (t t' : Tally) (n : Nat) : Prop where
  recorded : rewardSum t'.oracles + t.actualOracleReward
    ≤ rewardSum t.oracles + t'.actualOracleReward
  counted : t'.actualOracleReward ≤ t.actualOracleReward + n

theorem rewardOracle_follow {rpo i : Nat} {o : OracleConfig} {t : Tally}
    (hi : t.oracles[i]? = some o)
    (hw : t.actualOracleReward + rpo < 2 ^ 64) :
    stakeSum (rewardOracle rpo i o t).oracles = stakeSum t.oracles
      ∧ roster (rewardOracle rpo i o t).oracles = roster t.oracles
      ∧ (rewardOracle rpo i o t).lamports = t.lamports
      ∧ RewardsFollow t (rewardOracle rpo i o t) rpo := by
  unfold rewardOracle
  split
  · have hstake := Keyed.sum_set OracleConfig.stakeAmount hi { o with
      totalRewards := Fixed.saturatingAdd 64 o.totalRewards rpo }
    have hreward := Keyed.sum_set OracleConfig.totalRewards hi { o with
      totalRewards := Fixed.saturatingAdd 64 o.totalRewards rpo }
    have hle := Fixed.saturatingAdd_le 64 o.totalRewards rpo
    have heq := Fixed.saturatingAdd_eq hw
    refine ⟨?_, Keyed.map_set hi rfl, rfl, ?_, ?_⟩
    · unfold stakeSum
      dsimp only at hstake ⊢
      omega
    · unfold rewardSum
      dsimp only at hreward ⊢
      omega
    · dsimp only
      omega
  · exact ⟨rfl, rfl, rfl, Nat.le_refl _, Nat.le_add_right _ _⟩

theorem slashOracle_follow {dest : Pubkey} {i : Nat} {o : OracleConfig}
    {t t' : Tally} (hi : t.oracles[i]? = some o)
    (h : slashOracle env dest i o t = .ok t') :
    (∃ ts, StakesFollow env dest t.lamports t'.lamports t.oracles
        t'.oracles ts)
      ∧ RewardsFollow t t' 0 := by
  unfold slashOracle at h
  dsimp only at h
  split at h
  · next hslash =>
      simp only [bind_ok, moveLamports_ok] at h
      obtain ⟨l, hl, ht⟩ := h
      cases ht
      have hstake := Keyed.sum_set OracleConfig.stakeAmount hi { o with
        stakeAmount := o.stakeAmount
          - percentOf o.stakeAmount oracleSlashPercent
        violationCount := Fixed.saturatingAdd 8 o.violationCount 1 }
      have hreward := Keyed.sum_set OracleConfig.totalRewards hi { o with
        stakeAmount := o.stakeAmount
          - percentOf o.stakeAmount oracleSlashPercent
        violationCount := Fixed.saturatingAdd 8 o.violationCount 1 }
      have hkeys : roster (t.oracles.set i { o with
          stakeAmount := o.stakeAmount
            - percentOf o.stakeAmount oracleSlashPercent
          violationCount := Fixed.saturatingAdd 8 o.violationCount 1 })
          = roster t.oracles := Keyed.map_set hi rfl
      refine ⟨⟨_, Ledger.moves_single hl, ?_, ?_, ?_⟩, ?_, Nat.le_refl _⟩
      · intro x hx
        rw [List.mem_singleton] at hx
        rw [hx]
        exact ⟨rfl, rfl⟩
      · rw [Transfer.outOf_cons, if_pos rfl, Transfer.outOf_nil]
        unfold stakeSum
        dsimp only at hstake ⊢
        omega
      · exact hkeys ▸ List.Sublist.refl _
      · unfold rewardSum
        dsimp only at hreward ⊢
        omega
  · cases h
    exact ⟨⟨[], StakesFollow.refl⟩, Nat.le_refl _, Nat.le_refl _⟩

theorem tallySubmission_follow {dest : Pubkey} {consensus dev rpo : Nat}
    {s : OracleSubmission} {t t' : Tally}
    (hw : t.actualOracleReward + rpo < 2 ^ 64)
    (h : tallySubmission env dest consensus dev rpo s t = .ok t') :
    (∃ ts, StakesFollow env dest t.lamports t'.lamports t.oracles
        t'.oracles ts)
      ∧ RewardsFollow t t' rpo := by
  unfold tallySubmission at h
  split at h
  · cases h
    exact ⟨⟨[], StakesFollow.refl⟩, Nat.le_refl _, Nat.le_add_right _ _⟩
  · next i o hloc =>
      obtain ⟨hi, -⟩ := Keyed.locate_some hloc
      split at h
      · cases h
        obtain ⟨hstake, hkeys, hl, hr⟩ := rewardOracle_follow hi hw
        refine ⟨⟨[], ?_, by simp, ?_, hkeys ▸ List.Sublist.refl _⟩, hr⟩
        · rw [hl]
          rfl
        · rw [hstake]
          rfl
      · obtain ⟨hs, hr⟩ := slashOracle_follow hi h
        exact ⟨hs, hr.recorded, Nat.le_add_right_of_le hr.counted⟩

/-- The loop: by induction on the submissions still to walk, with room
for their rewards left in the tally. -/
theorem tallySubmissions_follow {dest : Pubkey} {consensus dev rpo : Nat}
    {subs : List OracleSubmission} :
    ∀ {t t' : Tally}, t.actualOracleReward + subs.length * rpo < 2 ^ 64 →
      tallySubmissions env dest consensus dev rpo subs t = .ok t' →
      (∃ ts, StakesFollow env dest t.lamports t'.lamports t.oracles
          t'.oracles ts)
        ∧ RewardsFollow t t' (subs.length * rpo) := by
  induction subs with
  | nil =>
    intro t t' _ h
    cases h
    exact ⟨⟨[], StakesFollow.refl⟩, Nat.le_refl _, Nat.le_add_right _ _⟩
  | cons s rest ih =>
    intro t t' hw h
    have hlen : (s :: rest).length * rpo = rpo + rest.length * rpo := by
      rw [List.length_cons, Nat.add_mul]
      omega
    rw [hlen] at hw ⊢
    simp only [tallySubmissions, bind_ok] at h
    obtain ⟨m, hm, hrest⟩ := h
    obtain ⟨⟨ts, hts⟩, hr⟩ := tallySubmission_follow (by omega) hm
    have hcount := hr.counted
    obtain ⟨⟨us, hus⟩, hr'⟩ := ih (by omega) hrest
    refine ⟨⟨ts ++ us, hts.trans hus⟩, ?_, ?_⟩
    · have h₁ := hr.recorded
      have h₂ := hr'.recorded
      omega
    · have h₂ := hr'.counted
      omega

-- ==== the removal

theorem removeViolator_follow {acc : FinalizeAccounts} {o : Pubkey}
    {r r' : Removal} (h : removeViolator env acc o r = .ok r') :
    (∃ ts, StakesFollow env (sink env acc) r.lamports r'.lamports
        r.oracles r'.oracles ts)
      ∧ rewardSum r'.oracles ≤ rewardSum r.oracles := by
  unfold removeViolator at h
  split at h
  · cases h
    exact ⟨⟨[], StakesFollow.refl⟩, Nat.le_refl _⟩
  · next i c hloc =>
      obtain ⟨hi, -⟩ := Keyed.locate_some hloc
      simp only [bind_ok] at h
      obtain ⟨l, hl, hr⟩ := h
      cases hr
      have hstake := Keyed.sum_eraseIdx OracleConfig.stakeAmount hi
      have hreward := Keyed.sum_eraseIdx OracleConfig.totalRewards hi
      refine ⟨⟨_, payLamports_ok hl, fun t ht => of_mem_payment ht, ?_, ?_⟩, ?_⟩
      · rw [outOf_payment, if_pos rfl]
        exact hstake
      · exact (List.eraseIdx_sublist _ _).map _
      · unfold rewardSum
        dsimp only
        omega

theorem removeViolators_follow {acc : FinalizeAccounts} {os : List Pubkey} :
    ∀ {r r' : Removal}, removeViolators env acc os r = .ok r' →
      (∃ ts, StakesFollow env (sink env acc) r.lamports r'.lamports
          r.oracles r'.oracles ts)
        ∧ rewardSum r'.oracles ≤ rewardSum r.oracles := by
  induction os with
  | nil =>
    intro r r' h
    cases h
    exact ⟨⟨[], StakesFollow.refl⟩, Nat.le_refl _⟩
  | cons o rest ih =>
    intro r r' h
    simp only [removeViolators, bind_ok] at h
    obtain ⟨m, hm, hrest⟩ := h
    obtain ⟨⟨ts, hts⟩, hr⟩ := removeViolator_follow hm
    obtain ⟨⟨us, hus⟩, hr'⟩ := ih hrest
    exact ⟨⟨ts ++ us, hts.trans hus⟩, Nat.le_trans hr' hr⟩

-- ==== the oracle side

/-- The oracle side of a finalisation: the registry is rewritten, the
stakes follow the lamports, and the rewards recorded are the returned
ones at most. -/
theorem settleOracles_ok {acc : FinalizeAccounts} {e : Escrow}
    {registry : OracleRegistry} {consensus rpo : Nat} {o : OracleOutcome}
    (hw : e.oracleSubmissions.length * rpo < 2 ^ 64)
    (h : settleOracles env acc e registry consensus rpo w = .ok o) :
    ∃ registry' ts,
      o.world = (w.setLamports o.world.lamports).setRegistry registry'
        ∧ StakesFollow env (sink env acc) w.lamports o.world.lamports
            registry.oracles registry'.oracles ts
        ∧ rewardSum registry'.oracles ≤ rewardSum registry.oracles + o.reward
        ∧ o.reward ≤ e.oracleSubmissions.length * rpo := by
  simp only [settleOracles, bind_ok] at h
  obtain ⟨t, ht, r, hr, ho⟩ := h
  cases ho
  have hroom : (Tally.start registry w.lamports).actualOracleReward
      + e.oracleSubmissions.length * rpo < 2 ^ 64 := by
    show 0 + _ < _
    omega
  obtain ⟨⟨ts, hts⟩, hrew⟩ := tallySubmissions_follow hroom ht
  obtain ⟨⟨us, hus⟩, hrem⟩ := removeViolators_follow hr
  refine ⟨_, ts ++ us, rfl, hts.trans hus, ?_, ?_⟩
  · have hrec : rewardSum t.oracles + 0
        ≤ rewardSum registry.oracles + t.actualOracleReward :=
      hrew.recorded
    exact Nat.le_trans hrem hrec
  · have hcount : t.actualOracleReward
        ≤ 0 + e.oracleSubmissions.length * rpo := hrew.counted
    show t.actualOracleReward ≤ _
    omega

/-- Slashing the agent moves lamports out of its identity account only,
and rewrites nothing but that account. -/
theorem slashAgent_ok {acc : FinalizeAccounts} {pct : Nat}
    {identity : Option AgentIdentity} {r : World × Nat}
    (h : slashAgent env acc pct identity w = .ok r) :
    ∃ ts, w.lamports.moves ts = some r.1.lamports
      ∧ (∀ t ∈ ts, t.src = env.pda (.agent acc.agent) ∧ t.dst = sink env acc)
      ∧ r.1 = { w with
          lamports := r.1.lamports
          agents := r.1.agents } := by
  unfold slashAgent at h
  split at h
  · cases h
    exact ⟨[], rfl, by simp, rfl⟩
  · dsimp only at h
    split at h
    · split at h
      · simp only [bind_ok, moveLamports_ok] at h
        obtain ⟨l, hl, hr⟩ := h
        cases hr
        refine ⟨_, Ledger.moves_single hl, ?_, rfl⟩
        intro t ht
        rw [List.mem_singleton] at ht
        rw [ht]
        exact ⟨rfl, rfl⟩
      · cases h
        exact ⟨[], rfl, by simp, rfl⟩
    · cases h
      exact ⟨[], rfl, by simp, rfl⟩

/-- Booking touches the treasury record only, and only when there is
one. -/
theorem bookTreasury_frame {treasury : Option Treasury} {f a s v : Nat}
    (ht : treasury.isSome = true → w.treasury.isSome = true) :
    ∃ t, bookTreasury tx treasury f a s v w = { w with treasury := t }
      ∧ t.isSome = w.treasury.isSome := by
  unfold bookTreasury
  cases treasury with
  | none => exact ⟨w.treasury, rfl, rfl⟩
  | some t => exact ⟨_, rfl, (ht rfl).symm⟩

-- ==== the payout

/-- The SOL payout settles the escrow, and the rewards reach the
treasury. -/
theorem finalizeSol_ok {k : Pubkey} {e : Escrow} {acc : FinalizeAccounts}
    {split : Split} {reward : Nat}
    (hwhole : split.refundAmount + split.paymentAmount = e.amount)
    (hfee : split.protocolFee ≤ split.paymentAmount)
    (hreward : reward ≤ split.paymentAmount - split.protocolFee)
    (hoff : acc.treasury = false → reward = 0)
    (h : finalizeSol env w k e acc split reward = .ok w') :
    ∃ ts, Paid w w' k e ts []
      ∧ reward ≤ Transfer.into ts (env.pda .treasury) := by
  simp only [finalizeSol, bind_ok, ensure_ok] at h
  obtain ⟨-, -, l₁, h₁, l₂, h₂, l₃, h₃, l₄, h₄, hw⟩ := h
  cases hw
  have hrew : (if acc.treasury then reward else 0) = reward := by
    cases hb : acc.treasury with
    | false => rw [hoff hb]; rfl
    | true => rfl
  rw [hrew] at h₄
  refine ⟨_, ⟨Ledger.moves_append (Ledger.moves_append
      (Ledger.moves_append (payLamports_ok h₁) (payLamports_ok h₂))
      (payLamports_ok h₃)) (payLamports_ok h₄), rfl, rfl, ?_, ?_⟩, ?_⟩
  · intro t ht
    simp only [List.mem_append] at ht
    rcases ht with ((ht | ht) | ht) | ht
    all_goals exact (of_mem_payment ht).1
  · intro _
    simp only [Transfer.outOf_append, outOf_payment, if_true]
    omega
  · simp only [Transfer.into_append, into_payment, if_true]
    omega

/-- A list of token transfers that pays only into accounts satisfying
`P`. -/
def PaysOnly (P : Pubkey → Prop) (us : List (Transfer Pubkey)) : Prop :=
  ∀ t ∈ us, P t.dst

theorem PaysOnly.append {P : Pubkey → Prop} {us vs : List (Transfer Pubkey)}
    (hu : PaysOnly P us) (hv : PaysOnly P vs) : PaysOnly P (us ++ vs) := by
  intro t ht
  rcases List.mem_append.mp ht with ht | ht
  · exact hu t ht
  · exact hv t ht

theorem PaysOnly.mono {P Q : Pubkey → Prop} {us : List (Transfer Pubkey)}
    (hu : PaysOnly P us) (hPQ : ∀ k, P k → Q k) : PaysOnly Q us :=
  fun t ht => hPQ _ (hu t ht)

/-- `dst` is the account passed as `ta`, and its record satisfies `P`. -/
def Passed (ta : Option (Pubkey × TokenAccount)) (P : TokenAccount → Prop)
    (dst : Pubkey) : Prop :=
  ∃ a, ta = some (dst, a) ∧ P a

theorem transferTokens_single {b b' : Tokens} {src dst authority : Pubkey}
    {n : Nat}
    (h : (transferTokens b src dst authority n : Outcome Tokens) = .ok b') :
    b.transfers authority [⟨src, dst, n⟩] = some b' :=
  Tokens.transfers_cons.mpr ⟨b', transferTokens_ok.mp h, rfl⟩

theorem paysOnly_single {P : Pubkey → Prop} {src dst : Pubkey} {n : Nat}
    (h : P dst) : PaysOnly P [⟨src, dst, n⟩] := by
  intro t ht
  rw [List.mem_singleton] at ht
  rw [ht]
  exact h

theorem payPartyTokens_ok {b b' : Tokens} {src authority owner mint : Pubkey}
    {ta : Option (Pubkey × TokenAccount)} {n : Nat}
    (h : payPartyTokens b src authority owner mint ta n = .ok b') :
    ∃ us, b.transfers authority us = some b'
      ∧ PaysOnly (Passed ta fun a => a.owner = owner) us
      ∧ (0 < n → ∃ k, Passed ta (fun a => a.owner = owner) k) := by
  unfold payPartyTokens at h
  split at h
  · simp only [bind_ok, okOr_ok, ensure_ok] at h
    obtain ⟨⟨dst, a⟩, hta, -, -, -, ho, ht⟩ := h
    have hp : Passed ta (fun a => a.owner = owner) dst := ⟨a, hta, ho⟩
    exact ⟨_, transferTokens_single ht, paysOnly_single hp, fun _ => ⟨dst, hp⟩⟩
  · next hn =>
      cases h
      exact ⟨[], rfl, by simp [PaysOnly], fun hpos => absurd hpos hn⟩

/-- The fee goes to the treasury token account when one is passed, and
to the api's account when none is. -/
theorem payFeeTokens_ok {b b' : Tokens} {src authority mint : Pubkey}
    {treasuryTa apiTa : Option (Pubkey × TokenAccount)} {n : Nat}
    (h : payFeeTokens b src authority mint treasuryTa apiTa n = .ok b') :
    ∃ us, b.transfers authority us = some b'
      ∧ PaysOnly (fun k => 0 < n ∧ (Passed treasuryTa (fun _ => True) k
          ∨ treasuryTa = none ∧ Passed apiTa (fun _ => True) k)) us
      ∧ (0 < n → ∀ k a, treasuryTa = some (k, a) → ∃ t ∈ us, t.dst = k) := by
  unfold payFeeTokens at h
  split at h
  · next hn =>
      split at h
      · next ta =>
          simp only [bind_ok, ensure_ok] at h
          obtain ⟨-, -, ht⟩ := h
          refine ⟨_, transferTokens_single ht,
            paysOnly_single ⟨hn, .inl ⟨ta.2, rfl, trivial⟩⟩, ?_⟩
          intro _ k a hka
          cases hka
          exact ⟨_, List.mem_singleton_self _, rfl⟩
      · simp only [bind_ok, okOr_ok] at h
        obtain ⟨ta, hta, ht⟩ := h
        refine ⟨_, transferTokens_single ht,
          paysOnly_single ⟨hn, .inr ⟨rfl, ta.2, hta, trivial⟩⟩, ?_⟩
        intro _ k a hka
        cases hka
  · next hn =>
      cases h
      exact ⟨[], rfl, by simp [PaysOnly], fun hpos => absurd hpos hn⟩

theorem payRewardTokens_ok {b b' : Tokens} {src authority mint : Pubkey}
    {treasuryTa : Option (Pubkey × TokenAccount)} {n : Nat}
    (h : payRewardTokens b src authority mint treasuryTa n = .ok b') :
    ∃ us, b.transfers authority us = some b'
      ∧ PaysOnly (fun k => 0 < n ∧ Passed treasuryTa (fun _ => True) k)
          us := by
  unfold payRewardTokens at h
  split at h
  · next hn =>
      split at h
      · next ta =>
          simp only [bind_ok, ensure_ok] at h
          obtain ⟨-, -, ht⟩ := h
          exact ⟨_, transferTokens_single ht,
            paysOnly_single ⟨hn, ta.2, rfl, trivial⟩⟩
      · cases h
        exact ⟨[], rfl, by simp [PaysOnly]⟩
  · cases h
    exact ⟨[], rfl, by simp [PaysOnly]⟩

/-- Who a token payout can reach: the agent's and the api's own
accounts, the treasury token account as passed, and the api's account as
passed when there is no treasury account to take the fee. -/
def Payee (e : Escrow) (parties : Parties)
    (treasuryTa : Option (Pubkey × TokenAccount)) (fee reward : Nat)
    (k : Pubkey) : Prop :=
  Passed parties.agentTokenAccount (fun a => a.owner = e.agent) k
    ∨ Passed parties.apiTokenAccount (fun a => a.owner = e.api) k
    ∨ (0 < fee + reward ∧ Passed treasuryTa (fun _ => True) k)
    ∨ (0 < fee ∧ treasuryTa = none
        ∧ Passed parties.apiTokenAccount (fun _ => True) k)

/-- The token payout moves tokens on the escrow's authority, to payees
only. The api's own account is validated whenever the api is due
anything, and a positive fee reaches the treasury account passed. -/
theorem finalizeSpl_ok {k mint : Pubkey} {e : Escrow} {parties : Parties}
    {treasuryTa : Option (Pubkey × TokenAccount)} {split : Split}
    {reward : Nat}
    (h : finalizeSpl w k mint e parties treasuryTa split reward = .ok w') :
    ∃ us, w.tokens.transfers k us = some w'.tokens ∧ w' = w.setTokens w'.tokens
      ∧ PaysOnly (Payee e parties treasuryTa split.protocolFee reward) us
      ∧ (0 < split.paymentAmount - split.protocolFee - reward →
          ∃ j, Passed parties.apiTokenAccount (fun a => a.owner = e.api) j)
      ∧ (0 < split.protocolFee → ∀ j a, treasuryTa = some (j, a) →
          ∃ t ∈ us, t.dst = j) := by
  simp only [finalizeSpl, bind_ok, okOr_ok, ensure_ok] at h
  obtain ⟨eta, -, -, -, -, -, b₁, h₁, b₂, h₂, b₃, h₃, b₄, h₄, hw⟩ := h
  cases hw
  obtain ⟨us₁, hu₁, hp₁, -⟩ := payPartyTokens_ok h₁
  obtain ⟨us₂, hu₂, hp₂, hapi⟩ := payPartyTokens_ok h₂
  obtain ⟨us₃, hu₃, hp₃, hfee⟩ := payFeeTokens_ok h₃
  obtain ⟨us₄, hu₄, hp₄⟩ := payRewardTokens_ok h₄
  refine ⟨us₁ ++ us₂ ++ us₃ ++ us₄, Tokens.transfers_append
    (Tokens.transfers_append (Tokens.transfers_append hu₁ hu₂) hu₃) hu₄,
    rfl, ?_, hapi, ?_⟩
  · refine ((PaysOnly.append ?_ ?_).append ?_).append ?_
    · exact hp₁.mono fun j hj => .inl hj
    · exact hp₂.mono fun j hj => .inr (.inl hj)
    · refine hp₃.mono ?_
      rintro j ⟨hn, hj | hj⟩
      · exact .inr (.inr (.inl ⟨by omega, hj⟩))
      · exact .inr (.inr (.inr ⟨hn, hj⟩))
    · refine hp₄.mono ?_
      rintro j ⟨hn, hj⟩
      exact .inr (.inr (.inl ⟨by omega, hj⟩))
  · intro hpos j a hja
    obtain ⟨t, ht, hdst⟩ := hfee hpos j a hja
    exact ⟨t, by simp [ht], hdst⟩

-- ==== the instruction

/-- The escrow record a finalisation leaves. -/
def Escrow.resolve (e : Escrow) (consensus : Nat) : Escrow :=
  { e with
    status := .resolved
    qualityScore := some consensus
    refundPercentage := some (calculateRefundFromQuality consensus) }

/-- The token side of a finalisation, in terms of the accounts passed. -/
structure TokenPayout (acc : FinalizeAccounts) (w : World) (e : Escrow)
    (split : Split) (reward : Nat) (us : List (Transfer Pubkey))
    (parties : Parties) (treasuryTa : Option (Pubkey × TokenAccount)) :
    Prop where
  loaded : loadParties w.tokens acc.parties = .ok parties
  treasury : (loadTokenAccount w.tokens acc.treasuryTokenAccount
    : Outcome _) = .ok treasuryTa
  payees : PaysOnly (Payee e parties treasuryTa split.protocolFee reward) us
  apiOwn : 0 < split.paymentAmount - split.protocolFee - reward →
    ∃ j, Passed parties.apiTokenAccount (fun a => a.owner = e.api) j
  feeSent : 0 < split.protocolFee →
    ∀ j a, treasuryTa = some (j, a) → ∃ t ∈ us, t.dst = j

/-- What a successful finalisation checked, computed and moved: `ts` the
lamports, `us` the tokens, `reward` the rewards recorded. -/
structure Finalized (env : Env Seed) (tx : Tx env)
    (acc : FinalizeAccounts) (w w' : World) (e : Escrow)
    (reg reg' : OracleRegistry) (consensus : Nat) (split : Split)
    (reward : Nat) (ts us : List (Transfer Pubkey)) : Prop where
  escrow : w.escrows acc.escrow = some e
  address : acc.escrow = env.pda (.escrow e.agent e.transactionId)
  status : e.status = .disputed
  registry : w.registry = some reg
  treasury : acc.treasury = true → w.treasury.isSome = true
  agreed : finalizeConsensus tx e reg = .ok consensus
  shares : split = splitAmount e.amount consensus
    (oracleRewardsEnabled e acc) e.oracleSubmissions.length
  lamports : w.lamports.moves ts = some w'.lamports
  tokens : w.tokens.transfers acc.escrow us = some w'.tokens
  sources : ∀ t ∈ ts, t.src = acc.escrow
    ∨ t.src = env.pda .oracleRegistry ∨ t.src = env.pda (.agent e.agent)
  total : e.tokenMint = none → Transfer.outOf ts acc.escrow = e.amount
  stakes : stakeSum reg'.oracles
    + Transfer.outOf ts (env.pda .oracleRegistry) = stakeSum reg.oracles
  rewards : rewardSum reg'.oracles ≤ rewardSum reg.oracles + reward
  roster : (roster reg'.oracles).Sublist (roster reg.oracles)
  budget : reward ≤ e.oracleSubmissions.length * split.rewardPerOracle
  funded : e.tokenMint = none → reward ≤ Transfer.into ts (env.pda .treasury)
  token : e.tokenMint ≠ none →
    ∃ parties treasuryTa, TokenPayout acc w e split reward us parties treasuryTa
  frame : ∃ t, w' = { w with
      lamports := w'.lamports
      tokens := w'.tokens
      agents := w'.agents
      treasury := t
      registry := some reg'
      escrows := update w.escrows acc.escrow
        (some (e.resolve consensus)) }
    ∧ t.isSome = w.treasury.isSome

theorem outOf_eq_zero_of_ends {ts : List (Transfer Pubkey)}
    {src dst k : Pubkey} (h : ∀ t ∈ ts, t.src = src ∧ t.dst = dst)
    (hne : src ≠ k) : Transfer.outOf ts k = 0 :=
  Transfer.outOf_eq_zero fun t ht => (h t ht).1 ▸ hne

theorem loadOptional_isSome {α : Type} {given : Bool} {o r : Option α}
    (h : loadOptional given o = .ok r) : r.isSome = true → o.isSome = true := by
  unfold loadOptional at h
  split at h
  · simp only [bind_ok, load_ok] at h
    obtain ⟨a, ha, -⟩ := h
    rw [ha]
    exact fun _ => rfl
  · cases h
    intro hn
    cases hn

theorem loadOptional_given {α : Type} {given : Bool} {o r : Option α}
    (h : loadOptional given o = .ok r) : given = true → o.isSome = true := by
  rintro rfl
  simp only [loadOptional, if_true, bind_ok, load_ok] at h
  obtain ⟨a, ha, -⟩ := h
  rw [ha]
  rfl

/-- The payout of either asset, from the world the oracle side left. -/
theorem finalizePayout_ok {acc : FinalizeAccounts} {k : Pubkey}
    {e : Escrow} {parties : Parties}
    {treasuryTa : Option (Pubkey × TokenAccount)} {split : Split}
    {reward : Nat} {enabled : Bool}
    (hs : SplitBounds e.amount e.oracleSubmissions.length enabled split)
    (hreward : reward ≤ e.oracleSubmissions.length * split.rewardPerOracle)
    (hon : enabled = oracleRewardsEnabled e acc)
    (h : (match e.tokenMint with
      | some mint =>
        finalizeSpl w k mint e parties treasuryTa split reward
      | none => finalizeSol env w k e acc split reward) = .ok w') :
    ∃ ts us, Paid w w' k e ts us
      ∧ (e.tokenMint = none → reward ≤ Transfer.into ts (env.pda .treasury))
      ∧ (e.tokenMint ≠ none →
          PaysOnly (Payee e parties treasuryTa split.protocolFee reward) us
          ∧ (0 < split.paymentAmount - split.protocolFee - reward →
              ∃ j, Passed parties.apiTokenAccount
                (fun a => a.owner = e.api) j)
          ∧ (0 < split.protocolFee → ∀ j a, treasuryTa = some (j, a) →
              ∃ t ∈ us, t.dst = j)) := by
  have hrew := hs.rewards
  split at h
  · next mint hmint =>
      obtain ⟨us, hus, hw, hpay⟩ := finalizeSpl_ok h
      refine ⟨[], us, ⟨by rw [hw]; rfl, hus, by rw [hw]; rfl, by simp, ?_⟩,
        ?_, fun _ => hpay⟩
      · rw [hmint]
        simp
      · rw [hmint]
        simp
  · next hmint =>
      have hoff : acc.treasury = false → reward = 0 := by
        intro hb
        have hzero : split.rewardPerOracle = 0 := by
          refine hs.disabled ?_
          rw [hon, oracleRewardsEnabled, hmint]
          exact hb
        rw [hzero] at hreward
        omega
      obtain ⟨ts, hpaid, hinto⟩ := finalizeSol_ok hs.whole hs.fee
        (by omega) hoff h
      exact ⟨ts, [], hpaid, fun _ => hinto, fun hne => absurd hmint hne⟩

theorem finalizeMultiOracleDispute_ok {acc : FinalizeAccounts}
    (h : finalizeMultiOracleDispute env tx acc w = .ok w') :
    ∃ e reg reg' consensus split reward ts us,
      Finalized env tx acc w w' e reg reg' consensus split reward ts
        us := by
  simp only [finalizeMultiOracleDispute, bind_ok, loadEscrow_ok,
    load_ok, requireSigner_ok, requireUnpaused_ok, ensure_ok,
    storeEscrow_ok] at h
  obtain ⟨e, ⟨he, hk⟩, reg, hreg, -, hagent, -, hapi, identity, -, -, -,
    treasury, htr, parties, hparties, treasuryTa, hta, -, -, consensus, hcons,
    w₁, ⟨-, hw₁⟩, slash, hslash, o, ho, hpay⟩ := h
  have hs := splitAmount_bounds e.amount consensus
    (oracleRewardsEnabled e acc) e.oracleSubmissions.length
  have hstatus : e.status = .disputed := by
    obtain ⟨scores, hscores, -⟩ := bind_ok.mp hcons
    exact (consensusScores_ok hscores).2.1
  generalize hsplit : splitAmount e.amount consensus
    (oracleRewardsEnabled e acc) e.oracleSubmissions.length = split
    at hs hpay ho hslash hw₁
  obtain ⟨ts₁, hts₁, hends₁, hf₁⟩ := slashAgent_ok hslash
  obtain ⟨reg', ts₂, hf₂, hstakes, hrewards, hbudget⟩ :=
    settleOracles_ok hs.width ho
  have hkept : treasury.isSome = true → o.world.treasury.isSome = true := by
    intro hgiven
    rw [hf₂, hf₁, hw₁]
    exact loadOptional_isSome htr hgiven
  have hframe : ∃ t, bookTreasury tx treasury split.protocolFee slash.2
      o.slashed o.forfeited o.world = { o.world with treasury := t }
        ∧ t.isSome = o.world.treasury.isSome :=
    bookTreasury_frame hkept
  obtain ⟨t, hbook, hsome⟩ := hframe
  rw [hbook] at hpay
  obtain ⟨ts₃, us, hpaid, hfunded, htoken⟩ :=
    finalizePayout_ok hs hbudget rfl hpay
  subst hw₁
  have hpct : split.refundPercentage
      = calculateRefundFromQuality consensus := by rw [← hsplit]; rfl
  -- the three sources are distinct accounts
  have hne₁ : env.pda (.agent acc.agent) ≠ acc.escrow := by
    rw [hk]
    exact pda_ne (by simp)
  have hne₂ : env.pda .oracleRegistry ≠ acc.escrow := by
    rw [hk]
    exact pda_ne (by simp)
  have hne₃ : env.pda (.agent acc.agent) ≠ env.pda .oracleRegistry :=
    pda_ne (by simp)
  have hlam : w.lamports.moves (ts₁ ++ ts₂ ++ ts₃) = some w'.lamports :=
    Ledger.moves_append (Ledger.moves_append hts₁ hstakes.lamports)
      hpaid.lamports
  have htok : w.tokens.transfers acc.escrow us = some w'.tokens := by
    have := hpaid.tokens
    rw [hf₂, hf₁] at this
    exact this
  refine ⟨e, reg, reg', consensus, split, o.reward, ts₁ ++ ts₂ ++ ts₃, us,
    { escrow := he
      address := hk
      status := hstatus
      registry := hreg
      treasury := loadOptional_given htr
      agreed := hcons
      shares := hsplit.symm
      lamports := hlam
      tokens := htok
      sources := ?_
      total := ?_
      stakes := ?_
      rewards := hrewards
      roster := hstakes.roster
      budget := hbudget
      funded := ?_
      token := ?_
      frame := ⟨t, ?_, ?_⟩ }⟩
  · intro x hx
    simp only [List.mem_append] at hx
    rcases hx with (hx | hx) | hx
    · exact .inr (.inr (hagent ▸ (hends₁ x hx).1))
    · exact .inr (.inl (hstakes.ends x hx).1)
    · exact .inl (hpaid.sources x hx)
  · intro hmint
    rw [Transfer.outOf_append, Transfer.outOf_append,
      outOf_eq_zero_of_ends hends₁ hne₁,
      outOf_eq_zero_of_ends hstakes.ends hne₂, hpaid.total hmint]
    omega
  · have hpay0 : Transfer.outOf ts₃ (env.pda .oracleRegistry) = 0 :=
      Transfer.outOf_eq_zero fun x hx =>
        (hpaid.sources x hx) ▸ hne₂.symm
    rw [Transfer.outOf_append, Transfer.outOf_append,
      outOf_eq_zero_of_ends hends₁ hne₃, hpay0]
    have := hstakes.stakes
    omega
  · intro hmint
    have := hfunded hmint
    rw [Transfer.into_append]
    omega
  · intro hmint
    obtain ⟨hp, ha, hf⟩ := htoken hmint
    exact ⟨parties, treasuryTa, hparties, hta, hp, ha, hf⟩
  · rw [hpaid.frame, hf₂, hf₁]
    simp only [Escrow.resolve, ← hpct]
    rfl
  · rw [hsome, hf₂, hf₁]
    rfl

end KamiyoProtocol.Kamiyo
