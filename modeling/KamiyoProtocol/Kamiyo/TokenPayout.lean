/-
Who a token finalisation pays.

The instruction validates the agent's and the api's token accounts for
mint and owner, and the treasury token account for its mint alone, while
the caller is anyone. The protocol fee goes to that account, so the
tokens stay with the parties exactly when the account passed belongs to
one of them, or when there is no fee to send: the consensus refunds the
agent in full.
-/
import KamiyoProtocol.Kamiyo.TokenCustody

namespace KamiyoProtocol.Kamiyo

open Solana Exec

variable {env : Env Seed} {tx : Tx env} {w w' : World}

-- ==== the split

theorem splitAmount_full {amount c count : Nat} {enabled : Bool}
    {split : Split} (hs : split = splitAmount amount c enabled count)
    (h : amount ≤ maxEscrowAmount) (hc : c < 50) :
    split.protocolFee = 0 ∧ split.rewardPerOracle = 0 := by
  have hpct : calculateRefundFromQuality c = 100 := by
    rcases refund_tiers c with ⟨-, ht⟩ | ⟨hge, -⟩
    · exact ht
    · omega
  have hrefund : percentOf amount (calculateRefundFromQuality c) = amount := by
    rw [hpct, percentOf_eq h (Nat.le_refl _)]
    exact Nat.mul_div_cancel amount (by decide)
  rw [hs, splitAmount]
  simp only [hrefund, Nat.sub_self, Nat.min_zero, Nat.zero_div, ite_self]
  exact ⟨trivial, trivial⟩

theorem splitAmount_owes {amount c count : Nat} {enabled : Bool}
    {split : Split} (hs : split = splitAmount amount c enabled count)
    (hmin : minEscrowAmount ≤ amount) (hmax : amount ≤ maxEscrowAmount)
    (hc : ¬ c < 50) :
    0 < split.protocolFee ∧ split.protocolFee < split.paymentAmount := by
  have hfee : percentOf amount protocolFeePercent = amount * 1 / 100 :=
    percentOf_eq hmax (by decide)
  have hrefund : percentOf amount (calculateRefundFromQuality c)
      ≤ amount * 75 / 100 := by
    rcases refund_tiers c with ⟨hlt, -⟩ | ⟨-, ht | ht | ht⟩
    · exact absurd hlt hc
    · rw [ht, percentOf_eq hmax (by decide)]
    · rw [ht, percentOf_eq hmax (by decide)]
      omega
    · rw [ht, percentOf_eq hmax (by decide)]
      omega
  unfold minEscrowAmount at hmin
  rw [hs]
  show 0 < min (percentOf amount protocolFeePercent)
      (amount - percentOf amount (calculateRefundFromQuality c))
    ∧ min (percentOf amount protocolFeePercent)
        (amount - percentOf amount (calculateRefundFromQuality c))
      < amount - percentOf amount (calculateRefundFromQuality c)
  rw [hfee]
  omega

-- ==== the parties

/-- The token account at `k` belongs to the agent, to the api or to the
treasury. -/
def PartyOwned (env : Env Seed) (w : World) (e : Escrow) (k : Pubkey) :
    Prop :=
  ∃ a, w.tokens.accounts k = some a
    ∧ (a.owner = e.agent ∨ a.owner = e.api ∨ a.owner = env.pda .treasury)

/-- The token transfers made on the way from `w` to `w'`. -/
def transfersMade (w w' : World) : List (Transfer Pubkey) :=
  w'.tokens.journal.drop w.tokens.journal.length

/-- Every token moved went to an account of a party. -/
def PaysParties (env : Env Seed) (w w' : World) (e : Escrow) : Prop :=
  ∀ t ∈ transfersMade w w', PartyOwned env w e t.dst

/-- The revealed scores agree on the tier that refunds everything. -/
def FullRefund (e : Escrow) (reg : OracleRegistry) : Prop :=
  ∃ c, calculateWeightedConsensus
      (weightedScores reg.oracles e.oracleSubmissions)
      reg.maxScoreDeviation = .ok c ∧ c < 50

theorem transfersMade_eq {authority : Pubkey} {us : List (Transfer Pubkey)}
    (h : w.tokens.transfers authority us = some w'.tokens) :
    transfersMade w w' = us := by
  rw [transfersMade, Tokens.journal_transfers h, List.drop_left]

theorem finalizeConsensus_ok {e : Escrow} {reg : OracleRegistry} {c : Nat}
    (h : finalizeConsensus tx e reg = .ok c) :
    calculateWeightedConsensus
      (weightedScores reg.oracles e.oracleSubmissions)
      reg.maxScoreDeviation = .ok c := by
  obtain ⟨scores, hscores, h⟩ := bind_ok.mp h
  rwa [(consensusScores_ok hscores).1] at h

/-- In every reachable state, whatever accounts the caller passes, a
finalisation of a token escrow pays the parties only, if and only if the
treasury token account passed is a party's or the refund is full. -/
theorem finalize_pays_parties_iff {acc : FinalizeAccounts} {e : Escrow}
    {reg : OracleRegistry}
    (hreach : Reachable (step env) Genesis w)
    (he : w.escrows acc.escrow = some e) (hmint : e.tokenMint ≠ none)
    (hreg : w.registry = some reg)
    (h : finalizeMultiOracleDispute env tx acc w = .ok w') :
    PaysParties env w w' e
      ↔ (∀ k, acc.treasuryTokenAccount = some k → PartyOwned env w e k)
        ∨ FullRefund e reg := by
  obtain ⟨e₁, reg₁, reg', c, split, reward, ts, us, hf⟩ :=
    finalizeMultiOracleDispute_ok h
  obtain rfl : e = e₁ := Option.some.inj (he.symm.trans hf.escrow)
  obtain rfl : reg = reg₁ := Option.some.inj (hreg.symm.trans hf.registry)
  obtain ⟨parties, treasuryTa, hpay⟩ := hf.token hmint
  obtain ⟨hmin, hmax⟩ := amount_in_range hreach (hf.address ▸ he)
  have hcons := finalizeConsensus_ok hf.agreed
  have hmade := transfersMade_eq hf.tokens
  have hbudget := hf.budget
  constructor
  · intro hall
    by_cases hc : c < 50
    · exact .inr ⟨c, hcons, hc⟩
    · left
      intro k hk
      -- the fee is positive, and it went to the account passed
      have hfee := (splitAmount_owes hf.shares hmin hmax hc).1
      have hload := hpay.treasury
      rw [hk] at hload
      cases hta : treasuryTa with
      | none =>
        rw [hta] at hload
        cases loadTokenAccount_none hload
      | some p =>
        obtain ⟨j, a⟩ := p
        rw [hta] at hload
        obtain rfl : k = j :=
          Option.some.inj (loadTokenAccount_some hload).1
        obtain ⟨t, ht, hdst⟩ := hpay.feeSent hfee k a hta
        rw [← hdst]
        exact hall t (hmade ▸ ht)
  · intro hcond t ht
    rw [hmade] at ht
    rcases hpay.payees t ht with hp | hp | ⟨hdue, hp⟩ | ⟨hfee, hnone, hp⟩
    · obtain ⟨a, ha, ho⟩ := hp
      exact ⟨a, (loadParties_ok hpay.loaded).agent _ _ ha, .inl ho⟩
    · obtain ⟨a, ha, ho⟩ := hp
      exact ⟨a, (loadParties_ok hpay.loaded).api _ _ ha, .inr (.inl ho)⟩
    · obtain ⟨a, ha, -⟩ := hp
      have hload := hpay.treasury
      rw [ha] at hload
      rcases hcond with hown | ⟨c', hc', hlow⟩
      · exact hown _ (loadTokenAccount_some hload).1
      · rw [hcons] at hc'
        cases hc'
        obtain ⟨hf₀, hr₀⟩ := splitAmount_full hf.shares hmax hlow
        rw [hr₀] at hbudget
        omega
    · -- a fee with no treasury account: the api's account was validated
      have hc : ¬ c < 50 := by
        intro hlow
        have hf₀ := (splitAmount_full hf.shares hmax hlow).1
        omega
      have hoff : oracleRewardsEnabled e acc = false := by
        have hload := hpay.treasury
        rw [hnone] at hload
        unfold oracleRewardsEnabled
        split
        · rw [loadTokenAccount_none hload]
          rfl
        · next hsol => exact absurd hsol hmint
      have hrpo : split.rewardPerOracle = 0 := by
        have hb := splitAmount_bounds e.amount c
          (oracleRewardsEnabled e acc) e.oracleSubmissions.length
        rw [hf.shares]
        exact hb.disabled hoff
      have hpos := (splitAmount_owes hf.shares hmin hmax hc).2
      rw [hrpo] at hbudget
      obtain ⟨j, b, hb, ho⟩ := hpay.apiOwn (by omega)
      obtain ⟨a, ha, -⟩ := hp
      rw [hb] at ha
      cases ha
      exact ⟨b, (loadParties_ok hpay.loaded).api _ _ hb, .inr (.inl ho)⟩

open Concrete in
/-- A bystander names the api's own token account for the fee: the
condition holds, and the parties are paid. -/
theorem finalize_pays_parties_api :
    ∃ w w' e reg, Reachable (step Concrete.env) Genesis w
      ∧ w.escrows escrowKey = some e ∧ e.api = wallet 11
      ∧ step Concrete.env (finalizeTokens (wallet 43)) w = .ok w'
      ∧ (PaysParties Concrete.env w w' e
        ↔ (∀ k, some (wallet 43) = some k → PartyOwned Concrete.env w e k)
          ∨ FullRefund e reg) := by
  obtain ⟨w, hrun, hw⟩ := check_ok (show check (fun w =>
      check (fun _ => true)
        (step Concrete.env (finalizeTokens (wallet 43)) w)
      && (w.registry.isSome && (w.escrows escrowKey).any fun e =>
        decide (e.tokenMint = some (wallet 50) ∧ e.api = wallet 11)))
    (run (step Concrete.env) startSpl
      (setup ++ openSpl escrowAta :: dispute :: vote 70)) = true
      by decide +kernel)
  simp only [Bool.and_eq_true] at hw
  obtain ⟨hfin, hsome, hany⟩ := hw
  obtain ⟨w', hstep, -⟩ := check_ok hfin
  obtain ⟨reg, hreg⟩ := Option.isSome_iff_exists.mp hsome
  obtain ⟨e, he, hterms⟩ := (Option.any_eq_true _ _).mp hany
  rw [decide_eq_true_eq] at hterms
  have hreach : Reachable (step Concrete.env) Genesis w :=
    ⟨startSpl, _, genesis_genesis _ _ _ _, hrun⟩
  refine ⟨w, w', e, reg, hreach, he, hterms.2, hstep, ?_⟩
  refine finalize_pays_parties_iff hreach he ?_ hreg hstep
  rw [hterms.1]
  simp

open Concrete in
/-- The bystander names its own token account, and the fee is its. -/
theorem finalize_pays_bystander :
    ∃ w w' e, Reachable (step Concrete.env) Genesis w
      ∧ w.escrows escrowKey = some e ∧ e.tokenMint = some (wallet 50)
      ∧ step Concrete.env (finalizeTokens (wallet 44)) w = .ok w'
      ∧ w.tokens.accounts (wallet 44) = some ⟨wallet 50, wallet 30, 0⟩
      ∧ ⟨escrowAta, wallet 44, 10000000⟩ ∈ transfersMade w w'
      ∧ ¬ PaysParties Concrete.env w w' e := by
  obtain ⟨w, hrun, hw⟩ := check_ok (show check (fun w =>
      check (fun w' => decide
          (⟨escrowAta, wallet 44, 10000000⟩ ∈ transfersMade w w'))
        (step Concrete.env (finalizeTokens (wallet 44)) w)
      && (decide (w.tokens.accounts (wallet 44)
          = some ⟨wallet 50, wallet 30, 0⟩)
        && (w.escrows escrowKey).any fun e =>
          decide (e.tokenMint = some (wallet 50)
            ∧ e.agent = wallet 10 ∧ e.api = wallet 11)))
    (run (step Concrete.env) startSpl
      (setup ++ openSpl escrowAta :: dispute :: vote 70)) = true
      by decide +kernel)
  simp only [Bool.and_eq_true, decide_eq_true_eq] at hw
  obtain ⟨hfin, hta, hany⟩ := hw
  obtain ⟨w', hstep, hmem⟩ := check_ok hfin
  obtain ⟨e, he, hterms⟩ := (Option.any_eq_true _ _).mp hany
  rw [decide_eq_true_eq] at hterms hmem
  obtain ⟨hmint, hagent, hapi⟩ := hterms
  refine ⟨w, w', e, ⟨startSpl, _, genesis_genesis _ _ _ _, hrun⟩, he, hmint,
    hstep, hta, hmem, ?_⟩
  intro hall
  obtain ⟨a, ha, howner⟩ := hall _ hmem
  dsimp only at ha
  rw [hta] at ha
  cases ha
  rw [hagent, hapi] at howner
  rcases howner with ho | ho | ho
  · revert ho
    decide
  · revert ho
    decide
  · exact coding.wallet_ne_pda 30 _ ho.symm

end KamiyoProtocol.Kamiyo
