/-
The kamiyo program as a transition system.

An action is one instruction with the transaction around it. Besides the
program's own instructions the system has the moves everyone else can
make: lamport transfers by their owner, and the operations of the SPL
token program. A run is any sequence of accepted actions, by any
callers, with any accounts and any clock values.

`step_escrow` is the inversion lemma every escrow invariant is derived
from: seen from one escrow address, an action leaves the escrow alone,
opens it, records a vote-phase change on it, or settles it; and lamports
leave the address in the last case only.
-/
import KamiyoProtocol.Kamiyo.Protocol

namespace KamiyoProtocol.Kamiyo

open Solana Exec Function

/-- The instructions of the program, and the moves of its
environment. -/
inductive Op where
  | initializeProtocol (acc : InitializeProtocolAccounts)
      (secondarySigner tertiarySigner : Pubkey)
  | pauseProtocol (pair : SignerPair)
  | unpauseProtocol (pair : SignerPair)
  | transferProtocolAuthority (pair : SignerPair)
      (signerToReplace newSigner : Pubkey)
  | initializeTreasury (acc : InitializeTreasuryAccounts)
  | withdrawTreasury (acc : WithdrawTreasuryAccounts) (amount : Nat)
  | createAgent (acc : AgentAccounts) (name : Bytes)
      (agentType : AgentType) (stakeAmount : Nat)
  | deactivateAgent (acc : AgentAccounts)
  | initReputation (acc : InitReputationAccounts)
  | initializeOracleRegistry (acc : InitializeOracleRegistryAccounts)
      (minConsensus maxScoreDeviation : Nat)
  | addOracle (acc : AddOracleAccounts) (oraclePubkey : Pubkey)
      (oracleType : OracleType) (weight : UInt16) (stakeAmount : Nat)
  | registerOracle (acc : RegisterOracleAccounts) (stakeAmount : Nat)
  | removeOracle (acc : RemoveOracleAccounts) (oraclePubkey : Pubkey)
  | transferAdmin (acc : ManageOracleAccounts) (newAdmin : Pubkey)
  | setPublicRegistration (acc : ManageOracleAccounts) (enabled : Bool)
  | requestOracleWithdrawal (acc : OracleAccounts)
  | completeOracleWithdrawal (acc : OracleAccounts)
  | cancelOracleWithdrawal (acc : OracleAccounts)
  | increaseOracleStake (acc : OracleAccounts) (additionalStake : Nat)
  | claimOracleRewards (acc : OracleAccounts)
  | initializeEscrow (acc : InitializeEscrowAccounts) (amount : Nat)
      (timeLock : Int) (transactionId : Bytes) (useSplToken : Bool)
  | releaseFunds (acc : ReleaseFundsAccounts)
  | markDisputed (acc : MarkDisputedAccounts)
  | resolveDispute (acc : ResolveDisputeAccounts)
      (qualityScore refundPercentage : Nat) (signature : Bytes)
  | commitOracleScore (acc : CommitOracleScoreAccounts)
      (commitmentHash : Bytes)
  | submitOracleScore (acc : SubmitOracleScoreAccounts)
      (qualityScore : Nat) (salt signature : Bytes)
  | finalizeMultiOracleDispute (acc : FinalizeAccounts)
  | claimExpiredEscrow (acc : ClaimExpiredEscrowAccounts)
  | systemTransfer (src dst : Pubkey) (amount : Nat)
  | createMint (k : Pubkey) (decimals : Nat)
  | tokenTransfer (src dst authority : Pubkey) (amount : Nat)
  | setTokenOwner (k newOwner : Pubkey)
  | mintTo (k : Pubkey) (amount : Nat)
  | openTokenAccount (k mint owner : Pubkey)
  | createAta (wallet mint : Pubkey)
  | closeTokenAccount (k : Pubkey)

/-- One instruction in its transaction. -/
structure Action (env : Env Seed) where
  tx : Tx env
  op : Op

/-- Lift an operation of the token program. -/
def viaTokens (w : World) (o : Option Tokens) : Outcome World := do
  let b ← okOr o .tokenProgramError
  .ok (w.setTokens b)

/-- The transition function. -/
def step (env : Env Seed) (a : Action env) (w : World) : Outcome World :=
  match a.op with
  | .initializeProtocol acc s t => initializeProtocol env a.tx acc s t w
  | .pauseProtocol pair => pauseProtocol a.tx pair w
  | .unpauseProtocol pair => unpauseProtocol a.tx pair w
  | .transferProtocolAuthority pair o n =>
    transferProtocolAuthority a.tx pair o n w
  | .initializeTreasury acc => initializeTreasury env a.tx acc w
  | .withdrawTreasury acc n => withdrawTreasury env a.tx acc n w
  | .createAgent acc name type n => createAgent env a.tx acc name type n w
  | .deactivateAgent acc => deactivateAgent env a.tx acc w
  | .initReputation acc => initReputation env a.tx acc w
  | .initializeOracleRegistry acc c d =>
    initializeOracleRegistry env a.tx acc c d w
  | .addOracle acc o type weight n =>
    addOracle env a.tx acc o type weight n w
  | .registerOracle acc n => registerOracle env a.tx acc n w
  | .removeOracle acc o => removeOracle env a.tx acc o w
  | .transferAdmin acc new => transferAdmin a.tx acc new w
  | .setPublicRegistration acc b => setPublicRegistration a.tx acc b w
  | .requestOracleWithdrawal acc => requestOracleWithdrawal a.tx acc w
  | .completeOracleWithdrawal acc =>
    completeOracleWithdrawal env a.tx acc w
  | .cancelOracleWithdrawal acc => cancelOracleWithdrawal a.tx acc w
  | .increaseOracleStake acc n => increaseOracleStake env a.tx acc n w
  | .claimOracleRewards acc => claimOracleRewards env a.tx acc w
  | .initializeEscrow acc n lock id spl =>
    initializeEscrow env a.tx acc n lock id spl w
  | .releaseFunds acc => releaseFunds env a.tx acc w
  | .markDisputed acc => markDisputed env a.tx acc w
  | .resolveDispute acc score pct sig => do
      let r ← resolveDispute env a.tx acc score pct sig w
      .ok r.1
  | .commitOracleScore acc hash => commitOracleScore env a.tx acc hash w
  | .submitOracleScore acc score salt sig =>
    submitOracleScore env a.tx acc score salt sig w
  | .finalizeMultiOracleDispute acc =>
    finalizeMultiOracleDispute env a.tx acc w
  | .claimExpiredEscrow acc => claimExpiredEscrow env a.tx acc w
  | .systemTransfer src dst n => do
      requireSigner a.tx src
      let l ← systemTransfer w.lamports src dst n
      .ok (w.setLamports l)
  | .createMint k decimals => do
      requireSigner a.tx k
      requireFresh (w.mints k)
      .ok (w.setMint k decimals)
  | .tokenTransfer src dst authority n => do
      requireSigner a.tx authority
      viaTokens w (w.tokens.transfer src dst authority n)
  | .setTokenOwner k owner =>
    viaTokens w (w.tokens.setOwner a.tx.signers k owner)
  | .mintTo k n => viaTokens w (w.tokens.mintTo k n)
  | .openTokenAccount k mint owner => do
      requireSigner a.tx k
      let _ ← load (w.mints mint)
      viaTokens w (w.tokens.openAccount k mint owner)
  | .createAta wallet mint => do
      let _ ← load (w.mints mint)
      viaTokens w
        (w.tokens.openAccount (env.ata wallet mint) mint wallet)
  | .closeTokenAccount k =>
    viaTokens w (w.tokens.closeAccount a.tx.signers k)

/-- Before the program is set up: no account of it exists. Balances,
mints and token accounts are arbitrary. -/
structure Genesis (w : World) : Prop where
  config : w.config = none
  treasury : w.treasury = none
  registry : w.registry = none
  escrows : ∀ k, w.escrows k = none
  agents : ∀ k, w.agents k = none
  reputations : ∀ k, w.reputations k = none

variable {env : Env Seed} {w w' : World}

-- ==== aside of escrows

/-- An action that leaves escrows and tokens alone: lamports leave
signers and the program's other accounts only. -/
structure Aside (env : Env Seed) (tx : Tx env) (w w' : World)
    (ts : List (Transfer Pubkey)) : Prop where
  lamports : w.lamports.moves ts = some w'.lamports
  sources : ∀ t ∈ ts, t.src ∈ tx.signers
    ∨ t.src = env.pda .oracleRegistry ∨ t.src = env.pda .treasury
    ∨ ∃ owner, t.src = env.pda (.agent owner)
  escrows : w'.escrows = w.escrows
  tokens : w'.tokens = w.tokens

variable {agent : Pubkey} {id : Bytes} {tx : Tx env}

theorem Aside.spares {ts : List (Transfer Pubkey)} (h : Aside env tx w w' ts) :
    ∀ t ∈ ts, t.src ≠ env.pda (.escrow agent id) := by
  intro t ht
  rcases h.sources t ht with hs | hs | hs | ⟨owner, hs⟩
  · exact signer_ne hs
  · rw [hs]
    exact pda_ne (by simp)
  · rw [hs]
    exact pda_ne (by simp)
  · rw [hs]
    exact pda_ne (by simp)

theorem Neutral.aside {reg reg' : OracleRegistry}
    (h : Neutral w w' reg reg') : Aside env tx w w' [] := by
  rw [h.frame]
  exact ⟨rfl, by simp, rfl, rfl⟩

theorem Deposited.aside {reg reg' : OracleRegistry}
    {src : Pubkey} {n : Nat} (h : Deposited env tx w w' reg reg' src n) :
    Aside env tx w w' [⟨src, env.pda .oracleRegistry, n⟩] := by
  refine ⟨h.lamports, ?_, by rw [h.frame]; rfl, by rw [h.frame]; rfl⟩
  intro t ht
  rw [List.mem_singleton] at ht
  rw [ht]
  exact .inl h.signer

theorem Departed.aside {reg reg' : OracleRegistry}
    {o : OracleConfig} {dst : Pubkey} {n : Nat}
    (h : Departed env w w' reg reg' o dst n) :
    Aside env tx w w' (payment (env.pda .oracleRegistry) dst n) := by
  refine ⟨h.lamports, ?_, by rw [h.frame]; rfl, by rw [h.frame]; rfl⟩
  intro t ht
  exact .inr (.inl (of_mem_payment ht).1)

theorem aside_single {src dst : Pubkey} {n : Nat}
    (hl : w.lamports.moves [⟨src, dst, n⟩] = some w'.lamports)
    (hsrc : src ∈ tx.signers ∨ src = env.pda .oracleRegistry
      ∨ src = env.pda .treasury ∨ ∃ owner, src = env.pda (.agent owner))
    (he : w'.escrows = w.escrows) (hb : w'.tokens = w.tokens) :
    Aside env tx w w' [⟨src, dst, n⟩] := by
  refine ⟨hl, ?_, he, hb⟩
  intro t ht
  rw [List.mem_singleton] at ht
  rw [ht]
  exact hsrc

-- ==== one escrow's view

/-- Token accounts under `owner`'s authority keep what they hold. -/
def Spares (b b' : Tokens) (owner : Pubkey) : Prop :=
  ∀ j mint n, b.Held j mint owner n → b'.Held j mint owner n

theorem Spares.rfl' {b b' : Tokens} {owner : Pubkey} (h : b' = b) :
    Spares b b' owner := by
  rw [h]
  exact fun _ _ _ hh => hh

/-- A settlement rewrites status, score and percentage; the terms and
the votes stay. -/
structure Escrow.SameTerms (e e' : Escrow) : Prop where
  agent : e'.agent = e.agent
  amount : e'.amount = e.amount
  tokenMint : e'.tokenMint = e.tokenMint
  transactionId : e'.transactionId = e.transactionId
  commitments : e'.oracleCommitments = e.oracleCommitments
  submissions : e'.oracleSubmissions = e.oracleSubmissions
  phase : e'.commitPhaseEndsAt = e.commitPhaseEndsAt

/-- What one action can do to the escrow at `k`. -/
inductive EscrowStep (env : Env Seed) (a : Action env) (k : Pubkey)
    (w w' : World) : Prop where
  /-- Nothing: no lamports leave it and its tokens are spared. -/
  | aside (ts : List (Transfer Pubkey))
      (lamports : w.lamports.moves ts = some w'.lamports)
      (sources : ∀ t ∈ ts, t.src ≠ k)
      (escrow : w'.escrows k = w.escrows k)
      (spares : Spares w.tokens w'.tokens k)
  | opened (e : Escrow) (ts : List (Transfer Pubkey))
      (opened : Opened w w' k e ts) (payer : e.agent ∈ a.tx.signers)
  | marked (e : Escrow) (escrow : w.escrows k = some e)
      (status : e.status = .active)
      (escrow' : w'.escrows k = some { e with
        status := .disputed, disputedAt := some a.tx.clock })
      (lamports : w'.lamports = w.lamports)
      (tokens : w'.tokens = w.tokens)
  | committed (e : Escrow) (oracle : Pubkey) (hash : Bytes) (endsAt : Int)
      (op : a.op = .commitOracleScore ⟨k, oracle⟩ hash)
      (escrow : w.escrows k = some e) (status : e.status = .disputed)
      (first : ∀ c ∈ e.oracleCommitments, c.oracle ≠ oracle)
      (frame : w' = w.setEscrow k
        (e.addCommitment oracle hash a.tx.clock endsAt))
      (phase : commitPhaseEnd a.tx.clock e = .ok endsAt)
  | revealed (e : Escrow) (i : Nat) (c : OracleCommitment)
      (oracle : Pubkey) (score : Nat) (salt signature : Bytes)
      (op : a.op = .submitOracleScore ⟨k, oracle⟩ score salt signature)
      (escrow : w.escrows k = some e) (status : e.status = .disputed)
      (found : e.oracleCommitments[i]? = some c)
      (own : c.oracle = oracle)
      (hash : c.commitmentHash
        = computeCommitmentHash env e.transactionId score salt)
      (frame : w' = w.setEscrow k
        (e.addSubmission i c oracle score a.tx.clock))
      (phase : ∃ endsAt, e.commitPhaseEndsAt = some endsAt
        ∧ endsAt ≤ a.tx.clock)
      (only : ∀ s ∈ e.oracleSubmissions, s.oracle ≠ oracle)
  | settled (e e' : Escrow) (ts us : List (Transfer Pubkey))
      (escrow : w.escrows k = some e) (wasOpen : e.Open)
      (escrow' : w'.escrows k = some e') (closed : ¬ e'.Open)
      (terms : e.SameTerms e')
      (lamports : w.lamports.moves ts = some w'.lamports)
      (total : e.tokenMint = none → Transfer.outOf ts k = e.amount)
      (tokens : w.tokens.transfers k us = some w'.tokens)

variable {a : Action env}

theorem Aside.escrowStep {ts : List (Transfer Pubkey)}
    (h : Aside env a.tx w w' ts) :
    EscrowStep env a (env.pda (.escrow agent id)) w w' :=
  .aside ts h.lamports h.spares (by rw [h.escrows]) (.rfl' h.tokens)

variable {k : Pubkey}

theorem escrowStep_quiet
    (hl : w'.lamports = w.lamports) (hb : w'.tokens = w.tokens)
    (he : w'.escrows = w.escrows) : EscrowStep env a k w w' :=
  .aside [] (by rw [hl]; rfl) (by simp) (by rw [he]) (.rfl' hb)

/-- An action paid for by signers that leaves tokens and escrows
alone. -/
theorem aside_funded {ts : List (Transfer Pubkey)}
    (hl : w.lamports.moves ts = some w'.lamports)
    (hsig : ∀ t ∈ ts, t.src ∈ tx.signers)
    (he : w'.escrows = w.escrows) (hb : w'.tokens = w.tokens) :
    Aside env tx w w' ts :=
  ⟨hl, fun t ht => .inl (hsig t ht), he, hb⟩

theorem escrowStep_tokens {o : Option Tokens} (h : viaTokens w o = .ok w')
    (hs : ∀ b, o = some b → Spares w.tokens b k) :
    EscrowStep env a k w w' := by
  simp only [viaTokens, bind_ok, okOr_ok] at h
  obtain ⟨b, hb, hw⟩ := h
  cases hw
  exact .aside [] rfl (by simp) rfl (hs b hb)

/-- A settlement of the escrow at `j`, seen from `k`. -/
theorem escrowStep_paid {j k : Pubkey} {w₁ : World}
    {e e' : Escrow} {ts us : List (Transfer Pubkey)}
    (h : Paid w₁ w' j e ts us) (he : w.escrows j = some e)
    (hopen : e.Open) (hl : w₁.lamports = w.lamports) (hb : w₁.tokens = w.tokens)
    (hset : w₁.escrows = update w.escrows j (some e'))
    (hclosed : ¬ e'.Open)
    (hterms : e.SameTerms e') :
    EscrowStep env a k w w' := by
  have hlam : w.lamports.moves ts = some w'.lamports := by
    rw [← hl]
    exact h.lamports
  have htok : w.tokens.transfers j us = some w'.tokens := by
    rw [← hb]
    exact h.tokens
  have hesc : w'.escrows = update w.escrows j (some e') := by
    rw [h.frame]
    exact hset
  by_cases hjk : j = k
  · subst hjk
    exact .settled e e' ts us he hopen
      (by rw [hesc]; exact update_self ..) hclosed hterms hlam
      h.total htok
  · refine .aside ts hlam ?_ ?_ ?_
    · intro t ht
      rw [h.sources t ht]
      exact hjk
    · rw [hesc]
      exact update_of_ne (Ne.symm hjk) ..
    · intro i mint n hh
      exact hh.transfers hjk htok

theorem not_open_released {e : Escrow} :
    ¬ Escrow.Open { e with status := .released } := by
  rintro (h | h) <;> cases h

theorem not_open_resolved {e : Escrow} {q p : Option Nat} :
    ¬ Escrow.Open { e with
      status := .resolved, qualityScore := q, refundPercentage := p } := by
  rintro (h | h) <;> cases h

/-- Readying a token account touches no held account: it is created only
where there is none. -/
theorem spares_ataReady {escrow mint j owner : Pubkey} :
    Spares w.tokens (ataReady w escrow mint j) owner := by
  unfold ataReady
  split
  · next hempty =>
      intro i m n hh
      refine hh.put_ne ?_
      rintro rfl
      obtain ⟨x, hx, -⟩ := hh
      rw [hempty.1] at hx
      cases hx
  · exact fun _ _ _ hh => hh

theorem escrowStep_initialize
    {acc : InitializeEscrowAccounts} {n : Nat} {lock : Int} {id' : Bytes}
    {spl : Bool}
    (h : initializeEscrow env a.tx acc n lock id' spl w = .ok w') :
    EscrowStep env a (env.pda (.escrow agent id)) w w' := by
  obtain ⟨e, ts, hsig, hrec, hopened, hsol, hspl⟩ := initializeEscrow_ok h
  by_cases hk : env.pda (.escrow acc.agent id') = env.pda (.escrow agent id)
  · exact .opened e ts (hk ▸ hopened) (hrec.agent ▸ hsig)
  · refine .aside ts hopened.lamports ?_ ?_ ?_
    · intro t ht
      rw [hopened.sources t ht, hrec.agent]
      exact signer_ne hsig
    · obtain ⟨t, hw⟩ := hopened.frame
      rw [hw]
      exact update_of_ne (Ne.symm hk) ..
    · cases spl with
      | false => exact .rfl' (hsol rfl).2.1
      | true =>
        obtain ⟨mint, ta, src, hfund⟩ := hspl rfl
        intro j m q hh
        exact (spares_ataReady j m q hh).transfer
          (signer_ne hsig) hfund.paid

theorem escrowStep_mark {acc : MarkDisputedAccounts}
    (h : markDisputed env a.tx acc w = .ok w') :
    EscrowStep env a k w w' := by
  obtain ⟨e, r, he, -, hstatus, rfl⟩ := markDisputed_ok h
  by_cases hk : acc.escrow = k
  · subst hk
    exact .marked e he hstatus (setEscrow_self _ _ _) rfl rfl
  · exact .aside [] rfl (by simp) (update_of_ne (Ne.symm hk) ..)
      (.rfl' rfl)

theorem escrowStep_commit {acc : CommitOracleScoreAccounts} {hash : Bytes}
    (hop : a.op = .commitOracleScore acc hash)
    (h : commitOracleScore env a.tx acc hash w = .ok w') :
    EscrowStep env a k w w' := by
  obtain ⟨e, endsAt, he, -, hstatus, hfirst, hend, rfl⟩ :=
    commitOracleScore_ok h
  by_cases hk : acc.escrow = k
  · subst hk
    exact .committed e acc.oracle hash endsAt hop he hstatus hfirst rfl
      hend
  · exact .aside [] rfl (by simp) (update_of_ne (Ne.symm hk) ..)
      (.rfl' rfl)

theorem escrowStep_reveal
    {acc : SubmitOracleScoreAccounts} {score : Nat} {salt sig : Bytes}
    (hop : a.op = .submitOracleScore acc score salt sig)
    (h : submitOracleScore env a.tx acc score salt sig w = .ok w') :
    EscrowStep env a k w w' := by
  obtain ⟨e, i, c, he, -, hstatus, -, hi, hc, hhash, hover, honly, rfl⟩ :=
    submitOracleScore_ok h
  by_cases hk : acc.escrow = k
  · subst hk
    exact .revealed e i c acc.oracle score salt sig hop he hstatus hi hc
      hhash rfl hover honly
  · exact .aside [] rfl (by simp) (update_of_ne (Ne.symm hk) ..)
      (.rfl' rfl)

theorem escrowStep_finalize {acc : FinalizeAccounts}
    (h : finalizeMultiOracleDispute env a.tx acc w = .ok w') :
    EscrowStep env a (env.pda (.escrow agent id)) w w' := by
  obtain ⟨e, reg, reg', consensus, split, reward, ts, us, hf⟩ :=
    finalizeMultiOracleDispute_ok h
  obtain ⟨t, hframe, -⟩ := hf.frame
  have hesc : w'.escrows = update w.escrows acc.escrow
      (some (e.resolve consensus)) := by
    rw [hframe]
  by_cases hk : acc.escrow = env.pda (.escrow agent id)
  · refine .settled e (e.resolve consensus) ts us (hk ▸ hf.escrow)
      (.inr hf.status) ?_ not_open_resolved ⟨rfl, rfl, rfl, rfl, rfl, rfl, rfl⟩ hf.lamports
      (hk ▸ hf.total) (hk ▸ hf.tokens)
    rw [hesc, hk]
    exact update_self ..
  · refine .aside ts hf.lamports ?_ ?_ ?_
    · intro x hx
      rcases hf.sources x hx with hs | hs | hs
      · rw [hs]
        exact hk
      · rw [hs]
        exact pda_ne (by simp)
      · rw [hs]
        exact pda_ne (by simp)
    · rw [hesc]
      exact update_of_ne (Ne.symm hk) ..
    · intro j m n hh
      exact hh.transfers hk hf.tokens

/-- Every accepted action is one of the six kinds, seen from any escrow
address. -/
theorem step_escrow (h : step env a w = .ok w') :
    EscrowStep env a (env.pda (.escrow agent id)) w w' := by
  unfold step at h
  obtain ⟨tx, op⟩ := a
  cases op with
  | initializeProtocol acc s t =>
    obtain ⟨c, ts, hl, hsig, hw⟩ := initializeProtocol_ok h
    exact (aside_funded hl hsig (by rw [hw]; rfl)
      (by rw [hw]; rfl)).escrowStep
  | pauseProtocol pair =>
    obtain ⟨c, rfl⟩ := pauseProtocol_ok h
    exact escrowStep_quiet rfl rfl rfl
  | unpauseProtocol pair =>
    obtain ⟨c, rfl⟩ := unpauseProtocol_ok h
    exact escrowStep_quiet rfl rfl rfl
  | transferProtocolAuthority pair old new =>
    obtain ⟨c, rfl⟩ := transferProtocolAuthority_ok h
    exact escrowStep_quiet rfl rfl rfl
  | initializeTreasury acc =>
    obtain ⟨t, ts, -, hl, hsig, -, hw⟩ := initializeTreasury_ok h
    exact (aside_funded hl hsig (by rw [hw]; rfl)
      (by rw [hw]; rfl)).escrowStep
  | withdrawTreasury acc n =>
    obtain ⟨t, -, -, -, hl, hw⟩ := withdrawTreasury_ok h
    exact (aside_single hl (.inr (.inr (.inl rfl))) (by rw [hw]; rfl)
      (by rw [hw]; rfl)).escrowStep
  | createAgent acc name type n =>
    obtain ⟨x, ts, hl, hsig, hw⟩ := createAgent_ok h
    exact (aside_funded hl hsig (by rw [hw]; rfl)
      (by rw [hw]; rfl)).escrowStep
  | deactivateAgent acc =>
    obtain ⟨x, n, hl, hw⟩ := deactivateAgent_ok h
    exact (aside_single hl (.inr (.inr (.inr ⟨_, rfl⟩)))
      (by rw [hw]; rfl) (by rw [hw]; rfl)).escrowStep
  | initReputation acc =>
    obtain ⟨r, ts, hl, hsig, hw⟩ := initReputation_ok h
    exact (aside_funded hl hsig (by rw [hw]; rfl)
      (by rw [hw]; rfl)).escrowStep
  | initializeOracleRegistry acc c d =>
    obtain ⟨reg, ts, -, -, hl, hsig, -, hw⟩ :=
      initializeOracleRegistry_ok h
    exact (aside_funded hl hsig (by rw [hw]; rfl)
      (by rw [hw]; rfl)).escrowStep
  | addOracle acc o type weight n =>
    obtain ⟨reg, reg', src, q, hd⟩ := addOracle_ok h
    exact hd.aside.escrowStep
  | registerOracle acc n =>
    obtain ⟨reg, reg', src, q, hd⟩ := registerOracle_ok h
    exact hd.aside.escrowStep
  | removeOracle acc o =>
    obtain ⟨reg, reg', x, hd⟩ := removeOracle_ok h
    exact hd.aside.escrowStep
  | transferAdmin acc new =>
    obtain ⟨reg, reg', hn⟩ := transferAdmin_ok h
    exact hn.aside.escrowStep
  | setPublicRegistration acc b =>
    obtain ⟨reg, reg', hn⟩ := setPublicRegistration_ok h
    exact hn.aside.escrowStep
  | requestOracleWithdrawal acc =>
    obtain ⟨reg, reg', hn⟩ := requestOracleWithdrawal_ok h
    exact hn.aside.escrowStep
  | completeOracleWithdrawal acc =>
    obtain ⟨reg, reg', i, x, -, -, hd⟩ := completeOracleWithdrawal_ok h
    exact hd.aside.escrowStep
  | cancelOracleWithdrawal acc =>
    obtain ⟨reg, reg', hn⟩ := cancelOracleWithdrawal_ok h
    exact hn.aside.escrowStep
  | increaseOracleStake acc n =>
    obtain ⟨reg, reg', src, q, hd⟩ := increaseOracleStake_ok h
    exact hd.aside.escrowStep
  | claimOracleRewards acc =>
    obtain ⟨reg, reg', n, -, -, -, hl, -, -, -, hw⟩ :=
      claimOracleRewards_ok h
    exact (aside_single hl (.inr (.inr (.inl rfl))) (by rw [hw]; rfl)
      (by rw [hw]; rfl)).escrowStep
  | initializeEscrow acc n lock id' spl =>
    exact escrowStep_initialize h
  | releaseFunds acc =>
    obtain ⟨e, ts, us, he, -, hstatus, hpaid⟩ := releaseFunds_ok h
    exact escrowStep_paid hpaid he (.inl hstatus) rfl rfl rfl
      not_open_released ⟨rfl, rfl, rfl, rfl, rfl, rfl, rfl⟩
  | markDisputed acc =>
    exact escrowStep_mark h
  | resolveDispute acc score pct sig =>
    simp only [bind_ok] at h
    obtain ⟨⟨w₁, ev⟩, hr, hw⟩ := h
    cases hw
    obtain ⟨e, ar, pr, ts, us, he, -, hopen, hpaid⟩ := resolveDispute_ok hr
    exact escrowStep_paid hpaid he hopen rfl rfl rfl not_open_resolved
      ⟨rfl, rfl, rfl, rfl, rfl, rfl, rfl⟩
  | commitOracleScore acc hash =>
    exact escrowStep_commit rfl h
  | submitOracleScore acc score salt sig =>
    exact escrowStep_reveal rfl h
  | finalizeMultiOracleDispute acc =>
    exact escrowStep_finalize h
  | claimExpiredEscrow acc =>
    obtain ⟨e, pct, ts, us, he, -, hopen, hpaid⟩ := claimExpiredEscrow_ok h
    exact escrowStep_paid hpaid he hopen rfl rfl rfl not_open_resolved
      ⟨rfl, rfl, rfl, rfl, rfl, rfl, rfl⟩
  | systemTransfer src dst n =>
    simp only [bind_ok, requireSigner_ok, systemTransfer_ok] at h
    obtain ⟨-, hsig, l, hl, hw⟩ := h
    cases hw
    have hmoved : w.lamports.moves [⟨src, dst, n⟩]
        = some (w.setLamports l).lamports := Ledger.moves_single hl
    exact (aside_single hmoved (.inl hsig) rfl rfl).escrowStep
  | createMint k decimals =>
    simp only [bind_ok] at h
    obtain ⟨-, -, -, -, hw⟩ := h
    cases hw
    exact escrowStep_quiet rfl rfl rfl
  | tokenTransfer src dst authority n =>
    simp only [bind_ok, requireSigner_ok] at h
    obtain ⟨-, hsig, h⟩ := h
    exact escrowStep_tokens h fun b hb j m q hh =>
      hh.transfer (signer_ne hsig) hb
  | setTokenOwner j owner =>
    exact escrowStep_tokens h fun b hb i m q hh =>
      hh.setOwner (tx.no_pda_signs _) hb
  | mintTo j n =>
    exact escrowStep_tokens h fun b hb i m q hh => hh.mintTo hb
  | openTokenAccount j mint owner =>
    simp only [bind_ok] at h
    obtain ⟨-, -, -, -, h⟩ := h
    exact escrowStep_tokens h fun b hb i m q hh => hh.openAccount hb
  | createAta wallet mint =>
    simp only [bind_ok] at h
    obtain ⟨-, -, h⟩ := h
    exact escrowStep_tokens h fun b hb i m q hh => hh.openAccount hb
  | closeTokenAccount j =>
    exact escrowStep_tokens h fun b hb i m q hh =>
      hh.closeAccount (tx.no_pda_signs _) hb

-- ==== all escrows

/-- The escrow at this address, if any, was created by a wallet, for an
amount the program accepts. -/
structure SoundAt (env : Env Seed) (k : Pubkey) (w : World) : Prop where
  amount : ∀ e, w.escrows k = some e →
    minEscrowAmount ≤ e.amount ∧ e.amount ≤ maxEscrowAmount
  agent : ∀ e, w.escrows k = some e → ∀ s, e.agent ≠ env.pda s

theorem SoundAt.rewritten {e e' : Escrow}
    (h : SoundAt env k w) (he : w.escrows k = some e)
    (he' : w'.escrows k = some e') (hagent : e'.agent = e.agent)
    (hamount : e'.amount = e.amount) : SoundAt env k w' := by
  constructor
  · intro x hx
    obtain rfl : e' = x := Option.some.inj (he'.symm.trans hx)
    rw [hamount]
    exact h.amount e he
  · intro x hx s
    obtain rfl : e' = x := Option.some.inj (he'.symm.trans hx)
    rw [hagent]
    exact h.agent e he s

theorem SoundAt.step (h : SoundAt env (env.pda (.escrow agent id)) w)
    (hstep : step env a w = .ok w') :
    SoundAt env (env.pda (.escrow agent id)) w' := by
  have hkind : EscrowStep env a (env.pda (.escrow agent id)) w w' :=
    step_escrow hstep
  cases hkind with
  | aside ts _ _ he _ =>
    exact ⟨fun e he' => h.amount e (he ▸ he'),
      fun e he' => h.agent e (he ▸ he')⟩
  | opened e ts ho hpayer =>
    obtain ⟨t, hw⟩ := ho.frame
    have hesc : w'.escrows (env.pda (.escrow agent id)) = some e := by
      rw [hw]
      exact setEscrow_self _ _ _
    constructor
    · intro x hx
      obtain rfl : e = x := Option.some.inj (hesc.symm.trans hx)
      exact ho.range
    · intro x hx s
      obtain rfl : e = x := Option.some.inj (hesc.symm.trans hx)
      exact signer_ne hpayer
  | marked e he _ hset _ _ => exact h.rewritten he hset rfl rfl
  | committed e oracle hash endsAt _ he _ _ hw =>
    subst hw
    exact h.rewritten he (setEscrow_self _ _ _) rfl rfl
  | revealed e i c oracle score salt sig _ he _ _ _ _ hw =>
    subst hw
    exact h.rewritten he (setEscrow_self _ _ _) rfl rfl
  | settled e e₁ ts us he _ hset _ hterms _ _ _ =>
    exact h.rewritten he hset hterms.agent hterms.amount

theorem escrow_sound (hreach : Reachable (step env) Genesis w)
    (agent : Pubkey) (id : Bytes) :
    SoundAt env (env.pda (.escrow agent id)) w := by
  refine reachable_induct ?_ (fun a s s' hI hs => hI.step hs) hreach
  intro s hs
  constructor
  · intro e he
    rw [hs.escrows] at he
    cases he
  · intro e he
    rw [hs.escrows] at he
    cases he

theorem amount_in_range {e : Escrow} (hreach : Reachable (step env) Genesis w)
    (he : w.escrows (env.pda (.escrow agent id)) = some e) :
    minEscrowAmount ≤ e.amount ∧ e.amount ≤ maxEscrowAmount :=
  (escrow_sound hreach agent id).amount e he

end KamiyoProtocol.Kamiyo
