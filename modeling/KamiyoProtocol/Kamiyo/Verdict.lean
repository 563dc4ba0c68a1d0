/-
What a verifier's signature binds.

`resolve_dispute` is authorised by a signature over the transaction id
and the quality score; the refund percentage is an argument of whoever
calls it, and a reveal in the multi-oracle vote signs the same message.

The first half says exactly when the instruction succeeds: its checks
that do not involve the percentage (`Admitted`), funds at hand, and a
token account for each party that is due something. The percentage is
free within that, so the split is fixed by the signature only where no
two percentages can both be paid.
-/
import KamiyoProtocol.Kamiyo.TokenPayout

namespace KamiyoProtocol.Kamiyo

open Solana Exec

variable {env : Env Seed} {tx : Tx env} {w w' : World}

-- ==== the payout

/-- The escrow's funds are at hand: the lamports above the rent minimum,
or the tokens in the passed account under the escrow's authority. -/
def AtHand (env : Env Seed) (w : World) (k : Pubkey) (e : Escrow)
    (parties : Parties) : Prop :=
  match e.tokenMint with
  | none => env.minimumBalance escrowSpace + e.amount ≤ w.lamports.bal k
  | some mint => parties.tokenProgram = true
      ∧ ∃ src s, parties.escrowTokenAccount = some (src, s)
          ∧ s.mint = mint ∧ s.owner = k ∧ e.amount ≤ s.amount

/-- A party can be paid: for a token escrow, its own token account of the
mint was passed. -/
def CanTake (e : Escrow) (owner : Pubkey)
    (ta : Option (Pubkey × TokenAccount)) : Prop :=
  ∀ mint, e.tokenMint = some mint →
    ∃ k a, ta = some (k, a) ∧ a.owner = owner ∧ a.mint = mint

/-- A funded token payment to an account of the mint goes through, and
leaves the rest. -/
theorem payTokens_isOk {b : Tokens} {src authority owner mint : Pubkey}
    {ta : Option (Pubkey × TokenAccount)} {n m : Nat}
    (hsrc : b.Held src mint authority (n + m))
    (hta : 0 < n → ∃ k a d, ta = some (k, a) ∧ a.owner = owner
      ∧ b.accounts k = some d ∧ d.mint = mint) :
    ∃ b', payTokens b src authority owner ta n = .ok b'
      ∧ b'.Held src mint authority m
      ∧ ∀ k d, b.accounts k = some d →
          ∃ d', b'.accounts k = some d' ∧ d'.mint = d.mint := by
  unfold payTokens
  obtain ⟨s, hs, hsm, hso, hn⟩ := hsrc
  split
  · next hpos =>
      obtain ⟨k, a, d, hka, hao, hd, hdm⟩ := hta hpos
      obtain ⟨b', hb'⟩ := Tokens.transfer_isSome hs hd (hsm.trans hdm.symm)
        hso (Nat.le_trans (Nat.le_add_right n m) hn)
      obtain ⟨-, -, -, -, -, -, -, hacc, -⟩ := Tokens.transfer_some hb'
      refine ⟨b', ?_, ?_, ?_⟩
      · simp only [bind_ok, okOr_ok, ensure_ok, transferTokens_ok]
        exact ⟨(k, a), hka, (), hao, hb'⟩
      · refine ⟨_, (congrFun hacc src).trans (Tokens.adjust_some hs), hsm,
          hso, ?_⟩
        dsimp only
        rw [if_pos rfl]
        omega
      · intro j x hx
        exact ⟨_, (congrFun hacc j).trans (Tokens.adjust_some hx), rfl⟩
  · exact ⟨b, rfl, ⟨s, hs, hsm, hso, by omega⟩, fun k d hd => ⟨d, hd, rfl⟩⟩

/-- Conversely, a positive token payment was funded by the source, on its
authority, and taken by an account of the source's mint. -/
theorem payTokens_inv {b b' : Tokens} {src authority owner : Pubkey}
    {ta : Option (Pubkey × TokenAccount)} {n : Nat} {s : TokenAccount}
    (h : payTokens b src authority owner ta n = .ok b') (hn : 0 < n)
    (hs : b.accounts src = some s) :
    s.owner = authority ∧ n ≤ s.amount
      ∧ ∃ k a d, ta = some (k, a) ∧ a.owner = owner
        ∧ b.accounts k = some d ∧ d.mint = s.mint
        ∧ b'.accounts = b.adjust src k n := by
  unfold payTokens at h
  rw [if_pos hn] at h
  simp only [bind_ok, okOr_ok, ensure_ok, transferTokens_ok] at h
  obtain ⟨⟨k, a⟩, hka, -, hao, ht⟩ := h
  obtain ⟨s', d, hs', hd, hm, ho, hle, hacc, -⟩ := Tokens.transfer_some ht
  rw [hs] at hs'
  cases hs'
  exact ⟨ho, hle, k, a, d, hka, hao, hd, hm.symm, hacc⟩

/-- A token payout succeeds exactly when the tokens are at hand and every
party due something can take it. -/
theorem payPartiesSpl_iff {k mint : Pubkey} {e : Escrow}
    {parties : Parties} {r a : Nat} (hin : parties.In w.tokens)
    (hmint : e.tokenMint = some mint) (hne : e.agent ≠ k)
    (hsum : r + a = e.amount) (hpos : 0 < e.amount) :
    (∃ w', payPartiesSpl w k mint e parties r a = .ok w')
      ↔ AtHand env w k e parties
        ∧ (0 < r → CanTake e e.agent parties.agentTokenAccount)
        ∧ (0 < a → CanTake e e.api parties.apiTokenAccount) := by
  have htake : ∀ {owner : Pubkey} {ta : Option (Pubkey × TokenAccount)},
      (∃ j x, ta = some (j, x) ∧ x.owner = owner ∧ x.mint = mint) →
        CanTake e owner ta := by
    intro owner ta hx m hm
    rw [hmint] at hm
    cases hm
    exact hx
  constructor
  · rintro ⟨w', h⟩
    simp only [payPartiesSpl, bind_ok, okOr_ok, ensure_ok] at h
    obtain ⟨⟨src, s⟩, hsrc, -, hprog, -, hsm, b, hb, b', hb', -⟩ := h
    have hs := hin.escrow src s hsrc
    have hagent : 0 < r → s.owner = k ∧ r ≤ s.amount
        ∧ CanTake e e.agent parties.agentTokenAccount
        ∧ b.accounts src = some { s with amount := s.amount - r } := by
      intro hr
      obtain ⟨ho, hle, j, x, d, hjx, hxo, hd, hdm, hacc⟩ :=
        payTokens_inv hb hr hs
      have hx := hin.agent j x hjx
      rw [hd] at hx
      cases hx
      have hjs : src ≠ j := by
        rintro rfl
        rw [hs] at hd
        cases hd
        exact hne (hxo.symm.trans ho)
      refine ⟨ho, hle, htake ⟨j, _, hjx, hxo, hdm.trans hsm⟩, ?_⟩
      rw [hacc, Tokens.adjust_some hs, if_pos rfl, if_neg hjs]
      rfl
    have hapi : 0 < a → s.owner = k ∧ a ≤ s.amount - r
        ∧ CanTake e e.api parties.apiTokenAccount := by
      intro ha
      have hbs : b.accounts src = some { s with amount := s.amount - r } := by
        by_cases hr : 0 < r
        · exact (hagent hr).2.2.2
        · have hr0 : r = 0 := by omega
          subst hr0
          cases hb
          exact hs
      obtain ⟨ho, hle, j, x, d, hjx, hxo, hd, hdm, -⟩ :=
        payTokens_inv hb' ha hbs
      refine ⟨ho, hle, htake ⟨j, x, hjx, hxo, ?_⟩⟩
      -- the first payment kept the mint of the api's account
      have hx := hin.api j x hjx
      by_cases hr : 0 < r
      · obtain ⟨-, -, i, y, -, -, -, -, -, hacc⟩ := payTokens_inv hb hr hs
        rw [hacc] at hd
        obtain ⟨d', hd', hdm', -⟩ := Tokens.adjust_inv hd
        rw [hx] at hd'
        cases hd'
        exact hdm'.symm.trans (hdm.trans hsm)
      · have hr0 : r = 0 := by omega
        subst hr0
        cases hb
        rw [hx] at hd
        cases hd
        exact hdm.trans hsm
    refine ⟨?_, fun hr => (hagent hr).2.2.1, fun ha => (hapi ha).2.2⟩
    rw [AtHand, hmint]
    refine ⟨hprog, src, s, hsrc, hsm, ?_⟩
    by_cases ha : 0 < a
    · obtain ⟨ho, hle, -⟩ := hapi ha
      exact ⟨ho, by omega⟩
    · obtain ⟨ho, hle, -⟩ := hagent (by omega)
      exact ⟨ho, by omega⟩
  · rintro ⟨hhand, hagent, hapi⟩
    rw [AtHand, hmint] at hhand
    obtain ⟨hprog, src, s, hsrc, hsm, hso, hle⟩ := hhand
    have hheld : w.tokens.Held src mint k (r + a) :=
      ⟨s, hin.escrow src s hsrc, hsm, hso, by omega⟩
    have hfirst : 0 < r → ∃ j x d, parties.agentTokenAccount = some (j, x)
        ∧ x.owner = e.agent ∧ w.tokens.accounts j = some d
        ∧ d.mint = mint := by
      intro hr
      obtain ⟨j, x, hjx, hxo, hxm⟩ := hagent hr mint hmint
      exact ⟨j, x, x, hjx, hxo, hin.agent j x hjx, hxm⟩
    obtain ⟨b, hb, hrest, hkeep⟩ := payTokens_isOk hheld hfirst
    have hheld' : b.Held src mint k (a + 0) := hrest
    have hsecond : 0 < a → ∃ j x d, parties.apiTokenAccount = some (j, x)
        ∧ x.owner = e.api ∧ b.accounts j = some d ∧ d.mint = mint := by
      intro ha
      obtain ⟨j, x, hjx, hxo, hxm⟩ := hapi ha mint hmint
      obtain ⟨d, hd, hdm⟩ := hkeep j x (hin.api j x hjx)
      exact ⟨j, x, d, hjx, hxo, hd, hdm.trans hxm⟩
    obtain ⟨b', hb', -, -⟩ := payTokens_isOk hheld' hsecond
    refine ⟨w.setTokens b', ?_⟩
    simp only [payPartiesSpl, bind_ok, okOr_ok, ensure_ok]
    exact ⟨(src, s), hsrc, (), hprog, (), hsm, b, hb, b', hb', rfl⟩

theorem payPartiesSol_iff {k : Pubkey} {e : Escrow} {r a : Nat}
    (hsum : r + a = e.amount) (hpos : 0 < e.amount)
    (hmax : e.amount < 2 ^ 64) :
    (∃ w', payPartiesSol env w k e r a = .ok w')
      ↔ env.minimumBalance escrowSpace + e.amount ≤ w.lamports.bal k := by
  have hsat : Fixed.saturatingAdd 64 r a = e.amount := by
    rw [Fixed.saturatingAdd_eq (by omega), hsum]
  constructor
  · rintro ⟨w', h⟩
    simp only [payPartiesSol, bind_ok, ensure_ok] at h
    obtain ⟨-, hle, -⟩ := h
    rw [hsat] at hle
    omega
  · intro hle
    have hr : r ≤ w.lamports.bal k := by omega
    obtain ⟨l, hl⟩ : ∃ l, (payLamports w.lamports k e.agent r
        : Outcome Lamports) = .ok l := payLamports_isOk hr
    have hbal := Ledger.bal_moves (payLamports_ok hl) k
    rw [outOf_payment, if_pos rfl] at hbal
    have ha : a ≤ l.bal k := by omega
    obtain ⟨l', hl'⟩ : ∃ l', (payLamports l k e.api a
        : Outcome Lamports) = .ok l' := payLamports_isOk ha
    refine ⟨w.setLamports l', ?_⟩
    simp only [payPartiesSol, bind_ok, ensure_ok]
    exact ⟨(), by rw [hsat]; omega, l, hl, l', hl', rfl⟩

/-- The payout of either asset. -/
theorem payParties_iff {k : Pubkey} {e : Escrow} {parties : Parties}
    {r a : Nat} (hin : parties.In w.tokens) (hne : e.agent ≠ k)
    (hsum : r + a = e.amount) (hpos : 0 < e.amount)
    (hmax : e.amount < 2 ^ 64) :
    (∃ w', payParties env w k e parties r a = .ok w')
      ↔ AtHand env w k e parties
        ∧ (0 < r → CanTake e e.agent parties.agentTokenAccount)
        ∧ (0 < a → CanTake e e.api parties.apiTokenAccount) := by
  unfold payParties
  cases hmint : e.tokenMint with
  | some mint =>
    dsimp only
    exact payPartiesSpl_iff hin hmint hne hsum hpos
  | none =>
    dsimp only
    rw [payPartiesSol_iff hsum hpos hmax, AtHand, hmint]
    have hany : ∀ owner ta, CanTake e owner ta := by
      intro owner ta m hm
      rw [hmint] at hm
      cases hm
    constructor
    · intro h
      exact ⟨h, fun _ => hany _ _, fun _ => hany _ _⟩
    · exact fun h => h.1

-- ==== the instruction

/-- The record a resolution leaves. -/
def Escrow.resolveAt (e : Escrow) (score percentage : Nat) : Escrow :=
  { e with
    status := .resolved
    qualityScore := some score
    refundPercentage := some percentage }

/-- Every check of `resolve_dispute` that does not involve the refund
percentage. -/
structure Admitted (env : Env Seed) (tx : Tx env)
    (acc : ResolveDisputeAccounts) (signature : Bytes) (w : World)
    (score : Nat) (e : Escrow) (parties : Parties) : Prop where
  escrow : w.escrows acc.escrow = some e
  address : acc.escrow = env.pda (.escrow e.agent e.transactionId)
  agent : acc.agent = e.agent
  wallet : tx.systemOwned acc.agent = true
  api : acc.api = e.api
  verifier : ∃ reg, w.registry = some reg
    ∧ ∃ o ∈ reg.oracles, o.pubkey = acc.verifier
  agentReputation :
    ∃ r, w.reputations (env.pda (.reputation acc.agent)) = some r
  apiReputation :
    ∃ r, w.reputations (env.pda (.reputation acc.api)) = some r
  loaded : loadParties w.tokens acc.parties = .ok parties
  unpaused : w.Unpaused
  opened : e.Open
  range : score ≤ 100
  signed : verifyEd25519Signature tx.instructions signature acc.verifier
    (scoreMessage e.transactionId score) = .ok ()
  fits : (e.resolveAt score 0).serializedSize ≤ escrowSpace

/-- A successful resolution was admitted, and split by the percentage it
was called with. -/
theorem resolveDispute_admitted {acc : ResolveDisputeAccounts}
    {score percentage : Nat} {signature : Bytes}
    {r : World × DisputeResolved}
    (h : resolveDispute env tx acc score percentage signature w = .ok r) :
    ∃ e parties, Admitted env tx acc signature w score e parties
      ∧ percentage ≤ 100
      ∧ (∃ w₁ w₂, w₁.tokens = w.tokens ∧ w₁.lamports = w.lamports
          ∧ payParties env w₁ acc.escrow e parties r.2.refundAmount
            r.2.paymentAmount = .ok w₂)
      ∧ r.2.refundAmount = percentOf e.amount percentage
      ∧ r.2.paymentAmount = e.amount - percentOf e.amount percentage := by
  simp only [resolveDispute, bind_ok, loadEscrow_ok, load_ok,
    requireUnpaused_ok, ensure_ok, require_ok, storeEscrow_ok] at h
  obtain ⟨e, ⟨he, hk⟩, -, hagent, -, hwallet, -, hapi, reg, hreg, -, hver, ar,
    har, pr, hpr, parties, hload, -, hun, -, hopen, -, hscore, -, hpct, u,
    hsig, w₁, ⟨hfits, rfl⟩, w₃, hpay, hr⟩ := h
  cases hr
  refine ⟨e, parties, ⟨he, hk, hagent, hwallet, hapi, ⟨reg, hreg, hver⟩,
    ⟨ar, har⟩, ⟨pr, hpr⟩, hload, hun, hopen, hscore, hsig, hfits⟩, hpct,
    ⟨_, w₃, ?_, ?_, hpay⟩, rfl, rfl⟩
  · rfl
  · rfl

/-- Conversely, an admitted resolution succeeds for every percentage
whose two shares can be paid. -/
theorem resolveDispute_isOk {acc : ResolveDisputeAccounts}
    {score percentage : Nat} {signature : Bytes} {e : Escrow}
    {parties : Parties}
    (h : Admitted env tx acc signature w score e parties)
    (hpct : percentage ≤ 100)
    (hpay : ∀ w₁, w₁.tokens = w.tokens → w₁.lamports = w.lamports →
      ∃ w₂, payParties env w₁ acc.escrow e parties
        (percentOf e.amount percentage)
        (e.amount - percentOf e.amount percentage) = .ok w₂) :
    ∃ r, resolveDispute env tx acc score percentage signature w = .ok r
      ∧ r.2.refundAmount = percentOf e.amount percentage := by
  obtain ⟨reg, hreg, hver⟩ := h.verifier
  obtain ⟨ar, har⟩ := h.agentReputation
  obtain ⟨pr, hpr⟩ := h.apiReputation
  obtain ⟨w₃, hpaid⟩ := hpay
    (((w.setEscrow acc.escrow (e.resolveAt score percentage)).setReputation
      (env.pda (.reputation acc.agent))
      (ar.countTransaction tx.clock)).setReputation
      (env.pda (.reputation acc.api)) (pr.countTransaction tx.clock))
    rfl rfl
  refine ⟨(w₃, ⟨acc.escrow, e.transactionId, score, percentage,
    percentOf e.amount percentage,
    e.amount - percentOf e.amount percentage, acc.verifier⟩), ?_, rfl⟩
  simp only [resolveDispute, bind_ok, loadEscrow_ok, load_ok,
    requireUnpaused_ok, ensure_ok, require_ok, storeEscrow_ok]
  exact ⟨e, ⟨h.escrow, h.address⟩, (), h.agent, (), h.wallet, (), h.api, reg,
    hreg, (), hver, ar, har, pr, hpr, parties, h.loaded, (), h.unpaused, (),
    h.opened, (), h.range, (), hpct, (), h.signed, _, ⟨h.fits, rfl⟩, w₃, hpaid,
    rfl⟩

-- ==== the law

/-- The signature was disclosed by `verifier` in a submission on the
escrow at `k`. -/
def Revealed (tr : List (Action env)) (k verifier : Pubkey)
    (signature : Bytes) : Prop :=
  ∃ a ∈ tr, ∃ score salt,
    a.op = .submitOracleScore ⟨k, verifier⟩ score salt signature

/-- The signature decides the split: all arguments the call succeeds with
split alike, and a signature disclosed in the vote makes none succeed. -/
structure VerdictBound (env : Env Seed) (tx : Tx env)
    (acc : ResolveDisputeAccounts) (signature : Bytes)
    (tr : List (Action env)) (w : World) : Prop where
  split : ∀ q p r q' p' r', resolveDispute env tx acc q p signature w = .ok r →
    resolveDispute env tx acc q' p' signature w = .ok r' →
    r.2.refundAmount = r'.2.refundAmount
      ∧ r.2.paymentAmount = r'.2.paymentAmount
  revealed : Revealed tr acc.escrow acc.verifier signature →
    ∀ q p r, resolveDispute env tx acc q p signature w ≠ .ok r

/-- No admitted call has room for two splits, nor for any once the
signature was disclosed: the funds are not at hand, or a party cannot be
paid. -/
def SplitFixed (env : Env Seed) (tx : Tx env)
    (acc : ResolveDisputeAccounts) (signature : Bytes)
    (tr : List (Action env)) (w : World) : Prop :=
  ∀ q e parties, Admitted env tx acc signature w q e parties →
    AtHand env w acc.escrow e parties →
    ¬ (CanTake e e.agent parties.agentTokenAccount
        ∧ CanTake e e.api parties.apiTokenAccount)
      ∧ (Revealed tr acc.escrow acc.verifier signature →
        ¬ CanTake e e.agent parties.agentTokenAccount
          ∧ ¬ CanTake e e.api parties.apiTokenAccount)

section Reached

variable {w₀ : World} {tr : List (Action env)}
  {acc : ResolveDisputeAccounts} {signature : Bytes} {e : Escrow}
  {parties : Parties} {q p : Nat}

/-- In a reachable state, an admitted call with funds at hand refunds
everything when the agent can be paid. -/
theorem Admitted.refunds (h : Admitted env tx acc signature w q e parties)
    (hsound : SoundAt env acc.escrow w)
    (hhand : AtHand env w acc.escrow e parties)
    (htake : CanTake e e.agent parties.agentTokenAccount) :
    ∃ r, resolveDispute env tx acc q 100 signature w = .ok r
      ∧ r.2.refundAmount = e.amount := by
  obtain ⟨hmin, hmax⟩ := hsound.amount e h.escrow
  unfold minEscrowAmount at hmin
  have hall : percentOf e.amount 100 = e.amount := by
    rw [percentOf_eq hmax (Nat.le_refl _)]
    exact Nat.mul_div_cancel _ (by decide)
  unfold maxEscrowAmount at hmax
  obtain ⟨r, hr, hamount⟩ := resolveDispute_isOk h (Nat.le_refl 100) (by
    intro w₁ htok hlam
    rw [hall, Nat.sub_self]
    refine (payParties_iff (htok ▸ loadParties_ok h.loaded)
      (h.address ▸ hsound.agent e h.escrow _) (Nat.add_zero _)
      (by omega) (by omega)).mpr ⟨?_, fun _ => htake, ?_⟩
    · unfold AtHand
      rw [hlam]
      exact hhand
    · intro hpos
      omega)
  exact ⟨r, hr, hamount.trans hall⟩

theorem Admitted.pays (h : Admitted env tx acc signature w q e parties)
    (hsound : SoundAt env acc.escrow w)
    (hhand : AtHand env w acc.escrow e parties)
    (htake : CanTake e e.api parties.apiTokenAccount) :
    ∃ r, resolveDispute env tx acc q 0 signature w = .ok r
      ∧ r.2.refundAmount = 0 := by
  obtain ⟨hmin, hmax⟩ := hsound.amount e h.escrow
  unfold minEscrowAmount at hmin
  unfold maxEscrowAmount at hmax
  have hnone : percentOf e.amount 0 = 0 := by
    rw [percentOf, Nat.mul_zero]
    rfl
  obtain ⟨r, hr, hamount⟩ := resolveDispute_isOk h (Nat.zero_le 100) (by
    intro w₁ htok hlam
    rw [hnone, Nat.sub_zero]
    refine (payParties_iff (htok ▸ loadParties_ok h.loaded)
      (h.address ▸ hsound.agent e h.escrow _) (Nat.zero_add _)
      (by omega) (by omega)).mpr ⟨?_, ?_, fun _ => htake⟩
    · unfold AtHand
      rw [hlam]
      exact hhand
    · intro hpos
      omega)
  exact ⟨r, hr, hamount.trans hnone⟩

/-- A successful call had the funds at hand, and could pay whoever it
owed. -/
theorem resolveDispute_paid {r : World × DisputeResolved}
    (hsound : SoundAt env acc.escrow w)
    (h : resolveDispute env tx acc q p signature w = .ok r) :
    ∃ e parties, Admitted env tx acc signature w q e parties
      ∧ AtHand env w acc.escrow e parties
      ∧ r.2.refundAmount + r.2.paymentAmount = e.amount ∧ 0 < e.amount
      ∧ (0 < r.2.refundAmount → CanTake e e.agent parties.agentTokenAccount)
      ∧ (0 < r.2.paymentAmount → CanTake e e.api parties.apiTokenAccount) := by
  obtain ⟨e, parties, hadm, hpct, ⟨w₁, w₂, htok, hlam, hpay⟩, hr, ha⟩ :=
    resolveDispute_admitted h
  obtain ⟨hmin, hmax⟩ := hsound.amount e hadm.escrow
  unfold minEscrowAmount at hmin
  unfold maxEscrowAmount at hmax
  have hle : percentOf e.amount p ≤ e.amount := percentOf_le hpct
  have hsum : r.2.refundAmount + r.2.paymentAmount = e.amount := by omega
  obtain ⟨hhand, hagent, hapi⟩ := (payParties_iff
    (htok ▸ loadParties_ok hadm.loaded)
    (hadm.address ▸ hsound.agent e hadm.escrow _) hsum (by omega)
    (by omega)).mp ⟨w₂, hpay⟩
  refine ⟨e, parties, hadm, ?_, hsum, by omega, hagent, hapi⟩
  unfold AtHand at hhand ⊢
  rw [hlam] at hhand
  exact hhand

/-- In every state a run reaches: the verdict is bound to the signature
if and only if no admitted call has room for two splits, or for any once
the signature was disclosed. -/
theorem verdict_bound_iff (hgen : Genesis w₀)
    (hrun : run (step env) w₀ tr = .ok w) :
    VerdictBound env tx acc signature tr w
      ↔ SplitFixed env tx acc signature tr w := by
  have hreach : Reachable (step env) Genesis w := ⟨w₀, tr, hgen, hrun⟩
  have hsound : ∀ {q e parties},
      Admitted env tx acc signature w q e parties →
        SoundAt env acc.escrow w := by
    intro q e parties h
    rw [h.address]
    exact escrow_sound hreach _ _
  constructor
  · intro hbound q e parties hadm hhand
    obtain ⟨hmin, -⟩ := (hsound hadm).amount e hadm.escrow
    unfold minEscrowAmount at hmin
    refine ⟨?_, ?_⟩
    · rintro ⟨hagent, hapi⟩
      obtain ⟨r, hr, hfull⟩ := hadm.refunds (hsound hadm) hhand hagent
      obtain ⟨r', hr', hzero⟩ := hadm.pays (hsound hadm) hhand hapi
      have hsame := (hbound.split _ _ _ _ _ _ hr hr').1
      omega
    · intro hrev
      refine ⟨?_, ?_⟩
      · intro hagent
        obtain ⟨r, hr, -⟩ := hadm.refunds (hsound hadm) hhand hagent
        exact hbound.revealed hrev _ _ _ hr
      · intro hapi
        obtain ⟨r, hr, -⟩ := hadm.pays (hsound hadm) hhand hapi
        exact hbound.revealed hrev _ _ _ hr
  · intro hfixed
    have hadmitted : ∀ {q p r},
        resolveDispute env tx acc q p signature w = .ok r →
          SoundAt env acc.escrow w := by
      intro q p r h
      obtain ⟨e, parties, hadm, -⟩ := resolveDispute_admitted h
      exact hsound hadm
    constructor
    · intro q p r q' p' r' h h'
      obtain ⟨e, parties, hadm, hhand, hsum, hpos, hagent, hapi⟩ :=
        resolveDispute_paid (hadmitted h) h
      obtain ⟨e₁, parties₁, hadm₁, -, hsum₁, -, hagent₁, hapi₁⟩ :=
        resolveDispute_paid (hadmitted h') h'
      obtain rfl : e = e₁ :=
        Option.some.inj (hadm.escrow.symm.trans hadm₁.escrow)
      obtain rfl : parties = parties₁ := by
        have := hadm.loaded.symm.trans hadm₁.loaded
        cases this
        rfl
      have hone := (hfixed q e parties hadm hhand).1
      -- only one party can be paid, so it gets everything, twice
      by_cases hcan : CanTake e e.agent parties.agentTokenAccount
      · have hno : ¬ CanTake e e.api parties.apiTokenAccount :=
          fun hb => hone ⟨hcan, hb⟩
        have hz : ¬ 0 < r.2.paymentAmount := fun hp => hno (hapi hp)
        have hz' : ¬ 0 < r'.2.paymentAmount := fun hp => hno (hapi₁ hp)
        omega
      · have hz : ¬ 0 < r.2.refundAmount := fun hp => hcan (hagent hp)
        have hz' : ¬ 0 < r'.2.refundAmount := fun hp => hcan (hagent₁ hp)
        omega
    · intro hrev q p r h
      obtain ⟨e, parties, hadm, hhand, hsum, hpos, hagent, hapi⟩ :=
        resolveDispute_paid (hadmitted h) h
      obtain ⟨hno, hno'⟩ := (hfixed q e parties hadm hhand).2 hrev
      have hz : ¬ 0 < r.2.refundAmount := fun hp => hno (hagent hp)
      have hz' : ¬ 0 < r.2.paymentAmount := fun hp => hno' (hapi hp)
      omega

end Reached

/-- A call that resolves the disputed SOL escrow on oracle 20's word. -/
def resolveAccounts : ResolveDisputeAccounts :=
  { escrow := Concrete.escrowKey
    agent := Concrete.wallet 10
    api := Concrete.wallet 11
    verifier := Concrete.wallet 20
    parties := ⟨none, none, none, false⟩ }

/-- A bystander's transaction repeating oracle 20's signature of 70. -/
def repeatedTx : Tx Concrete.env :=
  Concrete.tx [30] 1550
    [Concrete.attest 20 (scoreMessage Concrete.transactionId 70)]

open Concrete in
/-- The equivalence in the state three votes have led to, for a
transaction that carries no signature. -/
theorem verdict_bound_unsigned :
    ∃ w, run (step Concrete.env) start
        (setup ++ openSol :: dispute :: vote 70) = .ok w
      ∧ (VerdictBound Concrete.env (Concrete.tx [30] 1550 [])
          resolveAccounts signature
          (setup ++ openSol :: dispute :: vote 70) w
        ↔ SplitFixed Concrete.env (Concrete.tx [30] 1550 [])
          resolveAccounts signature
          (setup ++ openSol :: dispute :: vote 70) w) := by
  obtain ⟨w, hrun, -⟩ := check_ok (show check (fun _ => true)
    (run (step Concrete.env) start
      (setup ++ openSol :: dispute :: vote 70)) = true by decide +kernel)
  exact ⟨w, hrun, verdict_bound_iff (genesis_genesis _ _ _ _) hrun⟩

open Concrete in
/-- After the vote, the bystander repeats the signature oracle 20 revealed
its score with, and settles the escrow: all to the api, or all to the
agent, as it likes. -/
theorem verdict_unbound :
    ∃ w r r', Reachable (step Concrete.env) Genesis w
      ∧ run (step Concrete.env) start
        (setup ++ openSol :: dispute :: vote 70) = .ok w
      ∧ resolveDispute Concrete.env repeatedTx resolveAccounts 70 0
        signature w = .ok r
      ∧ resolveDispute Concrete.env repeatedTx resolveAccounts 70 100
        signature w = .ok r'
      ∧ r.2.refundAmount = 0 ∧ r'.2.refundAmount = 1000000000
      ∧ Revealed (setup ++ openSol :: dispute :: vote 70) escrowKey
        (wallet 20) signature
      ∧ ¬ VerdictBound Concrete.env repeatedTx resolveAccounts signature
        (setup ++ openSol :: dispute :: vote 70) w := by
  obtain ⟨w, hrun, hboth⟩ := check_ok (show check (fun w =>
      check (fun r => decide (r.2.refundAmount = 0))
        (resolveDispute Concrete.env repeatedTx resolveAccounts 70 0
          signature w)
      && check (fun r => decide (r.2.refundAmount = 1000000000))
        (resolveDispute Concrete.env repeatedTx resolveAccounts 70 100
          signature w))
    (run (step Concrete.env) start
      (setup ++ openSol :: dispute :: vote 70)) = true by decide +kernel)
  rw [Bool.and_eq_true] at hboth
  obtain ⟨r, hr, hzero⟩ := check_ok hboth.1
  obtain ⟨r', hr', hfull⟩ := check_ok hboth.2
  rw [decide_eq_true_eq] at hzero hfull
  have hrev : Revealed (setup ++ openSol :: dispute :: vote 70) escrowKey
      (wallet 20) signature :=
    ⟨reveal 20 70 (salt 20), by simp [vote], 70, salt 20, rfl⟩
  refine ⟨w, r, r', ⟨start, _, genesis_genesis _ _ _ _, hrun⟩, hrun, hr, hr',
    hzero, hfull, hrev, ?_⟩
  intro hbound
  exact hbound.revealed hrev _ _ _ hr

end KamiyoProtocol.Kamiyo
