/-
The life of one escrow: creation, release, dispute, the single-verifier
resolution and the claim after expiry.

Each instruction validates its accounts, checks, writes the escrow and
then pays. The two settlements that pay an agent share and an api share
(`resolve_dispute` and `claim_expired_escrow`) run the same payout code,
`payParties`; `release_funds` pays the api alone and validates its token
accounts a little further.

Each instruction is followed by its inversion lemma: what an accepted
call checked, the transfers it made, and the whole state it left. The
invariants are derived from these and never unfold an instruction.
-/
import KamiyoProtocol.Kamiyo.Consensus
import KamiyoProtocol.Kamiyo.Introspection

namespace KamiyoProtocol.Kamiyo

open Solana Exec

variable {env : Env Seed} {tx : Tx env} {w w' : World}

/-- The pause check every escrow instruction starts with. -/
def requireUnpaused (w : World) : Outcome Unit := do
  let config ← load w.config
  ensure (config.paused = false) .protocolPaused

/-- The protocol is set up and not paused. -/
def World.Unpaused (w : World) : Prop :=
  ∃ config, w.config = some config ∧ config.paused = false

theorem requireUnpaused_ok {u : Unit} :
    requireUnpaused w = .ok u ↔ w.Unpaused := by
  simp only [requireUnpaused, bind_ok, load_ok, ensure_ok]
  rfl

-- ==== creation

structure InitializeEscrowAccounts where
  agent : Pubkey
  api : Pubkey
  tokenMint : Option Pubkey
  escrowTokenAccount : Option Pubkey
  agentTokenAccount : Option Pubkey
  tokenProgram : Bool
  associatedTokenProgram : Bool

/-- Creation fee: a flat 5000 lamports for token escrows, 0.1% with the
same minimum for SOL escrows. -/
def creationFee (amount : Nat) (useSplToken : Bool) : Nat :=
  if useSplToken then 5000
  else max (Fixed.wrap 64 (amount * escrowCreationFeeBps / 10000)) 5000

/-- `Option<Account<'info, Mint>>`. -/
def loadMint (w : World) (o : Option Pubkey) :
    Outcome (Option (Pubkey × Nat)) :=
  match o with
  | none => .ok none
  | some k =>
    match w.mints k with
    | some decimals => .ok (some (k, decimals))
    | none => .error .accountNotInitialized

/-- `data_is_empty()` of an unchecked account: nothing stored by address
lives there. The three singletons are left out: a non-empty account that
is no token account fails the transfer that follows either way. -/
def World.DataIsEmpty (w : World) (k : Pubkey) : Prop :=
  w.tokens.accounts k = none ∧ w.mints k = none ∧ w.escrows k = none
    ∧ w.agents k = none ∧ w.reputations k = none
  deriving Decidable

/-- The CPI that creates the escrow's associated token account: the
account passed must be the canonical one. -/
def createEscrowAta (env : Env Seed) (w : World) (payer escrow mint
    k : Pubkey) : Outcome World := do
  require (k = env.ata escrow mint) .tokenProgramError
  let l ← fundRent env w.lamports payer k tokenAccountSpace
  .ok ((w.setLamports l).setTokens
    (w.tokens.put k (some ⟨mint, escrow, 0⟩)))

/-- The token account is created only when it holds no data. -/
def ensureEscrowAta (env : Env Seed) (w : World) (payer escrow mint
    k : Pubkey) : Outcome World :=
  if w.DataIsEmpty k then createEscrowAta env w payer escrow mint k
  else .ok w

/-- The token fields of the record. -/
def Escrow.withToken (e : Escrow) (mint ta : Pubkey) (decimals : Nat) :
    Escrow :=
  { e with
    tokenMint := some mint
    escrowTokenAccount := some ta
    tokenDecimals := decimals }

/-- The token branch of `initialize_escrow`. -/
def fundWithTokens (env : Env Seed) (acc : InitializeEscrowAccounts)
    (k : Pubkey) (e : Escrow) (mint : Option (Pubkey × Nat))
    (agentTa : Option (Pubkey × TokenAccount)) (w : World) :
    Outcome World := do
  let mint ← okOr mint (.custom .missingTokenMint)
  let ta ← okOr acc.escrowTokenAccount (.custom .missingTokenAccount)
  let agentTa ← okOr agentTa (.custom .missingTokenAccount)
  ensure (acc.tokenProgram = true) .missingTokenProgram
  ensure (acc.associatedTokenProgram = true) .missingTokenProgram
  ensure (agentTa.2.mint = mint.1) .tokenMintMismatch
  ensure (agentTa.2.owner = acc.agent) .unauthorized
  let w₁ ← ensureEscrowAta env w acc.agent k mint.1 ta
  let b ← transferTokens w₁.tokens agentTa.1 ta acc.agent e.amount
  storeEscrow (w₁.setTokens b) k (e.withToken mint.1 ta mint.2)

/-- The SOL branch of `initialize_escrow`. -/
def fundWithSol (agent k : Pubkey) (e : Escrow) (w : World) :
    Outcome World := do
  let l ← systemTransfer w.lamports agent k e.amount
  storeEscrow (w.setLamports l) k e

/-- The escrow record `initialize_escrow` writes before funding. -/
def newEscrow (tx : Tx env) (acc : InitializeEscrowAccounts)
    (amount : Nat) (expiresAt : Int) (transactionId : Bytes) : Escrow :=
  { agent := acc.agent
    api := acc.api
    amount := amount
    status := .active
    createdAt := tx.clock
    expiresAt := expiresAt
    transactionId := transactionId
    qualityScore := none
    refundPercentage := none
    oracleSubmissions := []
    oracleCommitments := []
    tokenMint := none
    escrowTokenAccount := none
    tokenDecimals := 9
    disputedAt := none
    commitPhaseEndsAt := none }

def initializeEscrow (env : Env Seed) (tx : Tx env)
    (acc : InitializeEscrowAccounts) (amount : Nat) (timeLock : Int)
    (transactionId : Bytes) (useSplToken : Bool) (w : World) :
    Outcome World := do
  requireSigner tx acc.agent
  let treasury ← load w.treasury
  let k := env.pda (.escrow acc.agent transactionId)
  require (transactionId.length ≤ 32) .maxSeedLengthExceeded
  requireFresh (w.escrows k)
  let l₀ ← fundRent env w.lamports acc.agent k escrowSpace
  let mint ← loadMint w acc.tokenMint
  let agentTa ← loadTokenAccount w.tokens acc.agentTokenAccount
  requireUnpaused w
  ensure (minEscrowAmount ≤ amount ∧ amount ≤ maxEscrowAmount)
    .invalidAmount
  ensure (minTimeLock ≤ timeLock ∧ timeLock ≤ maxTimeLock)
    .invalidTimeLock
  ensure (transactionId ≠ [] ∧ transactionId.length ≤ 64)
    .invalidTransactionId
  let fee := creationFee amount useSplToken
  let l₁ ← systemTransfer l₀ acc.agent (env.pda .treasury) fee
  let treasury' := { treasury with
    totalFeesCollected :=
      Fixed.saturatingAdd 64 treasury.totalFeesCollected fee
    updatedAt := tx.clock }
  let expiresAt ← okOr (Fixed.checkedAddI 64 tx.clock timeLock)
    (.custom .arithmeticOverflow)
  let e := newEscrow tx acc amount expiresAt transactionId
  let w₁ := (w.setLamports l₁).setTreasury treasury'
  if useSplToken then fundWithTokens env acc k e mint agentTa w₁
  else fundWithSol acc.agent k e w₁

/-- Creating the token account moves its rent from the payer and opens
an empty account under the escrow's authority at the canonical
address. -/
theorem createEscrowAta_ok {payer escrow mint k : Pubkey}
    (h : createEscrowAta env w payer escrow mint k = .ok w') :
    k = env.ata escrow mint
      ∧ ∃ ts l, w.lamports.moves ts = some l ∧ (∀ t ∈ ts, t.src = payer)
        ∧ w' = (w.setLamports l).setTokens
            (w.tokens.put k (some ⟨mint, escrow, 0⟩)) := by
  simp only [createEscrowAta, bind_ok, require_ok] at h
  obtain ⟨-, hk, l, hl, hw⟩ := h
  obtain ⟨ts, hts, hsrc⟩ := fundRent_moves hl
  cases hw
  exact ⟨hk, ts, l, hts, hsrc, rfl⟩

/-- The token account after it was made sure to exist: as it stood, or
the fresh one. -/
def ataReady (w : World) (escrow mint k : Pubkey) : Tokens :=
  if w.DataIsEmpty k then w.tokens.put k (some ⟨mint, escrow, 0⟩)
  else w.tokens

theorem ensureEscrowAta_ok {payer escrow mint k : Pubkey}
    (h : ensureEscrowAta env w payer escrow mint k = .ok w') :
    ∃ ts l, w.lamports.moves ts = some l ∧ (∀ t ∈ ts, t.src = payer)
      ∧ w' = (w.setLamports l).setTokens (ataReady w escrow mint k) := by
  unfold ensureEscrowAta at h
  unfold ataReady
  split at h
  · next hempty =>
      obtain ⟨-, ts, l, hts, hsrc, hw⟩ := createEscrowAta_ok h
      rw [if_pos hempty]
      exact ⟨ts, l, hts, hsrc, hw⟩
  · next hfull =>
      cases h
      rw [if_neg hfull]
      exact ⟨[], w.lamports, rfl, by simp, rfl⟩

/-- What `initialize_escrow` did, whatever the asset: a fresh active
escrow at a fresh address, paid for by the agent alone. -/
structure Opened (w w' : World) (k : Pubkey) (e : Escrow)
    (ts : List (Transfer Pubkey)) : Prop where
  treasury : ∃ t, w.treasury = some t
  fresh : w.escrows k = none
  lamports : w.lamports.moves ts = some w'.lamports
  sources : ∀ t ∈ ts, t.src = e.agent
  frame : ∃ t, w' = (((w.setLamports w'.lamports).setTokens
    w'.tokens).setTreasury t).setEscrow k e
  range : minEscrowAmount ≤ e.amount ∧ e.amount ≤ maxEscrowAmount
  status : e.status = .active
  unvoted : e.oracleSubmissions = [] ∧ e.oracleCommitments = []

/-- The token side of the creation of a token escrow. -/
structure FundedSpl (w w' : World) (acc : InitializeEscrowAccounts)
    (k : Pubkey) (e : Escrow) (mint ta src : Pubkey) : Prop where
  passed : acc.escrowTokenAccount = some ta
  recorded : e.tokenMint = some mint ∧ e.escrowTokenAccount = some ta
  source : ∃ a, w.tokens.accounts src = some a ∧ a.mint = mint
  paid : (ataReady w k mint ta).transfer src ta acc.agent e.amount
    = some w'.tokens

/-- What `initialize_escrow` recorded of its arguments. -/
structure Records (acc : InitializeEscrowAccounts) (amount : Nat)
    (transactionId : Bytes) (e : Escrow) : Prop where
  agent : e.agent = acc.agent
  api : e.api = acc.api
  amount : e.amount = amount
  transactionId : e.transactionId = transactionId

theorem fundWithSol_ok {agent k : Pubkey} {e : Escrow}
    (h : fundWithSol agent k e w = .ok w') :
    ∃ l, w.lamports.moves [⟨agent, k, e.amount⟩] = some l
      ∧ w' = (w.setLamports l).setEscrow k e := by
  simp only [fundWithSol, bind_ok, systemTransfer_ok, storeEscrow_ok] at h
  obtain ⟨l, hl, -, hw⟩ := h
  exact ⟨l, Ledger.moves_single hl, hw⟩

/-- The token branch: the token account is readied, then funded on the
agent's signature. -/
theorem fundWithTokens_ok {acc : InitializeEscrowAccounts} {k : Pubkey}
    {e : Escrow} {mint : Option (Pubkey × Nat)}
    {agentTa : Option (Pubkey × TokenAccount)}
    (hload : (loadTokenAccount w.tokens acc.agentTokenAccount
      : Outcome _) = .ok agentTa)
    (h : fundWithTokens env acc k e mint agentTa w = .ok w') :
    ∃ ts m ta decimals src, w.lamports.moves ts = some w'.lamports
      ∧ (∀ t ∈ ts, t.src = acc.agent)
      ∧ FundedSpl w w' acc k (e.withToken m ta decimals) m ta src
      ∧ w' = ((w.setLamports w'.lamports).setTokens w'.tokens).setEscrow k
          (e.withToken m ta decimals) := by
  simp only [fundWithTokens, bind_ok, okOr_ok, ensure_ok,
    transferTokens_ok, storeEscrow_ok] at h
  obtain ⟨⟨m, decimals⟩, -, ta, hta, ⟨src, a⟩, hsrc, -, -, -, -, -, hmint,
    -, -, w₁, hw₁, b, hb, -, hw⟩ := h
  obtain ⟨ts, l, hts, hfrom, rfl⟩ := ensureEscrowAta_ok hw₁
  subst hsrc
  have hacc := (loadTokenAccount_some hload).2
  subst hw
  exact ⟨ts, m, ta, decimals, src, hts, hfrom,
    { passed := hta
      recorded := ⟨rfl, rfl⟩
      source := ⟨a, hacc, hmint⟩
      paid := hb }, rfl⟩

/-- `initialize_escrow` opens a fresh active escrow for its arguments,
backed by lamports or through a token account. -/
theorem initializeEscrow_ok {acc : InitializeEscrowAccounts}
    {amount : Nat} {timeLock : Int} {transactionId : Bytes}
    {useSplToken : Bool}
    (h : initializeEscrow env tx acc amount timeLock transactionId
      useSplToken w = .ok w') :
    ∃ e ts, acc.agent ∈ tx.signers ∧ Records acc amount transactionId e
      ∧ Opened w w' (env.pda (.escrow acc.agent transactionId)) e ts
      ∧ (useSplToken = false → e.tokenMint = none ∧ w'.tokens = w.tokens
          ∧ env.minimumBalance escrowSpace + amount
            ≤ w'.lamports.bal
                (env.pda (.escrow acc.agent transactionId)))
      ∧ (useSplToken = true → ∃ mint ta src,
          FundedSpl w w' acc (env.pda (.escrow acc.agent transactionId))
            e mint ta src) := by
  simp only [initializeEscrow, bind_ok, requireSigner_ok, load_ok,
    require_ok, requireFresh_ok, ensure_ok, systemTransfer_ok,
    okOr_ok] at h
  obtain ⟨-, hsig, treasury, htr, -, -, -, hfresh, l₀, hl₀, mint, -, agentTa,
    hload, -, -, -, hamount, -, -, -, -, l₁, hl₁, expiresAt, -, h⟩ := h
  obtain ⟨ts, hts, hfrom⟩ := fundRent_moves hl₀
  have hrent := fundRent_covers (signer_ne hsig) hl₀
  have hfee := Ledger.moves_append hts (Ledger.moves_single hl₁)
  have hfrom' : ∀ t ∈ ts ++ [⟨acc.agent, env.pda .treasury,
      creationFee amount useSplToken⟩], t.src = acc.agent := by
    intro t ht
    rcases List.mem_append.mp ht with ht | ht
    · exact hfrom t ht
    · rw [List.mem_singleton] at ht
      rw [ht]
  cases useSplToken with
  | false =>
    obtain ⟨l, hl, rfl⟩ := fundWithSol_ok h
    have hall := Ledger.moves_append hfee hl
    refine ⟨newEscrow tx acc amount expiresAt transactionId, _, hsig,
      ⟨rfl, rfl, rfl, rfl⟩,
      { treasury := ⟨treasury, htr⟩
        fresh := hfresh
        lamports := hall
        sources := ?_
        frame := ⟨_, rfl⟩
        range := hamount
        status := rfl
        unvoted := ⟨rfl, rfl⟩ }, ?_, by simp⟩
    · intro t ht
      rcases List.mem_append.mp ht with ht | ht
      · exact hfrom' t ht
      · rw [List.mem_singleton] at ht
        rw [ht]
        rfl
    · intro _
      refine ⟨rfl, rfl, ?_⟩
      -- the fee leaves the agent, never the escrow
      have hkept : l₀.bal (env.pda (.escrow acc.agent transactionId))
          ≤ l₁.bal (env.pda (.escrow acc.agent transactionId)) := by
        refine Ledger.bal_mono (Ledger.moves_single hl₁) ?_
        intro t ht
        rw [List.mem_singleton] at ht
        rw [ht]
        exact signer_ne hsig
      have hin : l.bal (env.pda (.escrow acc.agent transactionId)) + _
          = l₁.bal (env.pda (.escrow acc.agent transactionId)) + _ :=
        Ledger.bal_moves hl _
      rw [Transfer.outOf_cons, Transfer.into_cons,
        if_neg (signer_ne hsig), if_pos rfl] at hin
      simp only [Transfer.outOf_nil, Transfer.into_nil, newEscrow] at hin
      show _ ≤ l.bal _
      omega
  | true =>
    obtain ⟨us, m, ta, decimals, src, hus, hfrom'', hfund, hw⟩ :=
      fundWithTokens_ok (w := (w.setLamports l₁).setTreasury _) hload h
    have hall := Ledger.moves_append hfee hus
    refine ⟨(newEscrow tx acc amount expiresAt transactionId).withToken m
        ta decimals, _, hsig, ⟨rfl, rfl, rfl, rfl⟩,
      { treasury := ⟨treasury, htr⟩
        fresh := hfresh
        lamports := hall
        sources := ?_
        frame := ⟨_, hw⟩
        range := hamount
        status := rfl
        unvoted := ⟨rfl, rfl⟩ }, by simp, ?_⟩
    · intro t ht
      rcases List.mem_append.mp ht with ht | ht
      · exact hfrom' t ht
      · exact hfrom'' t ht
    · intro _
      exact ⟨m, ta, src, hfund.passed, hfund.recorded, hfund.source, hfund.paid⟩

-- ==== payouts

/-- The optional token accounts of a settlement. -/
structure PartyAccounts where
  escrowTokenAccount : Option Pubkey
  agentTokenAccount : Option Pubkey
  apiTokenAccount : Option Pubkey
  tokenProgram : Bool

/-- The same accounts as validated at the start of the instruction. -/
structure Parties where
  escrowTokenAccount : Option (Pubkey × TokenAccount)
  agentTokenAccount : Option (Pubkey × TokenAccount)
  apiTokenAccount : Option (Pubkey × TokenAccount)
  tokenProgram : Bool

def loadParties (b : Tokens) (acc : PartyAccounts) : Outcome Parties := do
  let escrowTa ← loadTokenAccount b acc.escrowTokenAccount
  let agentTa ← loadTokenAccount b acc.agentTokenAccount
  let apiTa ← loadTokenAccount b acc.apiTokenAccount
  .ok ⟨escrowTa, agentTa, apiTa, acc.tokenProgram⟩

/-- The token accounts of the parties stand in the bank as loaded. -/
structure Parties.In (p : Parties) (b : Tokens) : Prop where
  escrow : ∀ k a, p.escrowTokenAccount = some (k, a) → b.accounts k = some a
  agent : ∀ k a, p.agentTokenAccount = some (k, a) → b.accounts k = some a
  api : ∀ k a, p.apiTokenAccount = some (k, a) → b.accounts k = some a

theorem loadParties_ok {b : Tokens} {acc : PartyAccounts} {p : Parties}
    (h : loadParties b acc = .ok p) : p.In b := by
  simp only [loadParties, bind_ok] at h
  obtain ⟨eta, heta, ata, hata, pta, hpta, hp⟩ := h
  cases hp
  refine ⟨?_, ?_, ?_⟩
  · intro k a hk
    dsimp only at hk
    rw [hk] at heta
    exact (loadTokenAccount_some heta).2
  · intro k a hk
    dsimp only at hk
    rw [hk] at hata
    exact (loadTokenAccount_some hata).2
  · intro k a hk
    dsimp only at hk
    rw [hk] at hpta
    exact (loadTokenAccount_some hpta).2

/-- A guarded token payment to one party, whose account must be its
own. -/
def payTokens (b : Tokens) (src authority owner : Pubkey)
    (ta : Option (Pubkey × TokenAccount)) (n : Nat) : Outcome Tokens :=
  if 0 < n then do
    let ta ← okOr ta (.custom .missingTokenAccount)
    ensure (ta.2.owner = owner) .unauthorized
    transferTokens b src ta.1 authority n
  else .ok b

/-- Pay the agent and the api their shares out of a token escrow. -/
def payPartiesSpl (w : World) (k mint : Pubkey) (e : Escrow)
    (parties : Parties) (agentAmount apiAmount : Nat) :
    Outcome World := do
  let escrowTa ← okOr parties.escrowTokenAccount
    (.custom .missingTokenAccount)
  ensure (parties.tokenProgram = true) .missingTokenProgram
  ensure (escrowTa.2.mint = mint) .tokenMintMismatch
  let b ← payTokens w.tokens escrowTa.1 k e.agent
    parties.agentTokenAccount agentAmount
  let b' ← payTokens b escrowTa.1 k e.api parties.apiTokenAccount
    apiAmount
  .ok (w.setTokens b')

/-- Pay the agent and the api their shares out of a SOL escrow, keeping
it rent exempt. -/
def payPartiesSol (env : Env Seed) (w : World) (k : Pubkey) (e : Escrow)
    (agentAmount apiAmount : Nat) : Outcome World := do
  let maxTransferable :=
    w.lamports.bal k - env.minimumBalance escrowSpace
  ensure (Fixed.saturatingAdd 64 agentAmount apiAmount
    ≤ maxTransferable) .insufficientDisputeFunds
  let l ← payLamports w.lamports k e.agent agentAmount
  let l' ← payLamports l k e.api apiAmount
  .ok (w.setLamports l')

/-- The payout of `resolve_dispute` and of `claim_expired_escrow`. -/
def payParties (env : Env Seed) (w : World) (k : Pubkey) (e : Escrow)
    (parties : Parties) (agentAmount apiAmount : Nat) : Outcome World :=
  match e.tokenMint with
  | some mint => payPartiesSpl w k mint e parties agentAmount apiAmount
  | none => payPartiesSol env w k e agentAmount apiAmount

/-- What a settlement of escrow `k` moved: lamports out of the escrow
only, tokens on the escrow's authority only, and for a SOL escrow
exactly its amount. -/
structure Paid (w w' : World) (k : Pubkey) (e : Escrow)
    (ts us : List (Transfer Pubkey)) : Prop where
  lamports : w.lamports.moves ts = some w'.lamports
  tokens : w.tokens.transfers k us = some w'.tokens
  frame : w' = (w.setLamports w'.lamports).setTokens w'.tokens
  sources : ∀ t ∈ ts, t.src = k
  total : e.tokenMint = none → Transfer.outOf ts k = e.amount

/-- A guarded token payment is at most one transfer, into the party's
own account. -/
theorem payTokens_ok {b b' : Tokens} {src authority owner : Pubkey}
    {ta : Option (Pubkey × TokenAccount)} {n : Nat}
    (h : payTokens b src authority owner ta n = .ok b') :
    ∃ us, b.transfers authority us = some b'
      ∧ ∀ t ∈ us, ∃ a, ta = some (t.dst, a) ∧ a.owner = owner := by
  unfold payTokens at h
  split at h
  · simp only [bind_ok, okOr_ok, ensure_ok, transferTokens_ok] at h
    obtain ⟨⟨dst, a⟩, hta, -, ho, ht⟩ := h
    refine ⟨[⟨src, dst, n⟩], Tokens.transfers_cons.mpr ⟨b', ht, rfl⟩, ?_⟩
    intro t hmem
    rw [List.mem_singleton] at hmem
    subst hmem
    exact ⟨a, hta, ho⟩
  · cases h
    exact ⟨[], rfl, by simp⟩

theorem payParties_ok {k : Pubkey} {e : Escrow} {parties : Parties}
    {agentAmount apiAmount : Nat}
    (h : payParties env w k e parties agentAmount apiAmount = .ok w')
    (hsum : agentAmount + apiAmount = e.amount) :
    ∃ ts us, Paid w w' k e ts us := by
  unfold payParties at h
  split at h
  · next mint hmint =>
      simp only [payPartiesSpl, bind_ok, okOr_ok, ensure_ok] at h
      obtain ⟨eta, -, -, -, -, -, b, hb, b', hb', hw⟩ := h
      cases hw
      obtain ⟨us, hus, -⟩ := payTokens_ok hb
      obtain ⟨vs, hvs, -⟩ := payTokens_ok hb'
      refine ⟨[], us ++ vs, rfl, Tokens.transfers_append hus hvs, rfl, ?_, ?_⟩
      · simp
      · rw [hmint]
        simp
  · simp only [payPartiesSol, bind_ok, ensure_ok] at h
    obtain ⟨-, -, l, hl, l', hl', hw⟩ := h
    cases hw
    refine ⟨_, [], Ledger.moves_append (payLamports_ok hl)
      (payLamports_ok hl'), rfl, rfl, ?_, ?_⟩
    · intro t ht
      rcases List.mem_append.mp ht with ht | ht
      · exact (of_mem_payment ht).1
      · exact (of_mem_payment ht).1
    · intro _
      simp [hsum]

-- ==== release

structure ReleaseFundsAccounts where
  escrow : Pubkey
  caller : Pubkey
  api : Pubkey
  escrowTokenAccount : Option Pubkey
  apiTokenAccount : Option Pubkey
  tokenProgram : Bool

/-- The token branch of `release_funds`. -/
def releaseSpl (w : World) (mint : Pubkey) (e : Escrow)
    (acc : ReleaseFundsAccounts)
    (escrowTa apiTa : Option (Pubkey × TokenAccount)) :
    Outcome World := do
  let escrowTa ← okOr escrowTa (.custom .missingTokenAccount)
  let apiTa ← okOr apiTa (.custom .missingTokenAccount)
  ensure (acc.tokenProgram = true) .missingTokenProgram
  ensure (escrowTa.2.mint = mint) .tokenMintMismatch
  ensure (apiTa.2.mint = mint) .tokenMintMismatch
  ensure (apiTa.2.owner = e.api) .unauthorized
  let b ← transferTokens w.tokens escrowTa.1 apiTa.1 acc.escrow e.amount
  .ok (w.setTokens b)

/-- The SOL branch of `release_funds`, which has no rent check. -/
def releaseSol (w : World) (e : Escrow) (acc : ReleaseFundsAccounts) :
    Outcome World := do
  let l ← moveLamports w.lamports acc.escrow acc.api e.amount
    (.custom .arithmeticOverflow)
  .ok (w.setLamports l)

def releaseFunds (env : Env Seed) (tx : Tx env)
    (acc : ReleaseFundsAccounts) (w : World) : Outcome World := do
  let e ← loadEscrow env w acc.escrow
  ensure (acc.api = e.api) .unauthorized
  requireSigner tx acc.caller
  let escrowTa ← loadTokenAccount w.tokens acc.escrowTokenAccount
  let apiTa ← loadTokenAccount w.tokens acc.apiTokenAccount
  requireUnpaused w
  ensure (e.status = .active) .invalidStatus
  ensure (acc.caller = e.agent
    ∨ (acc.caller = e.api ∧ e.expiresAt ≤ tx.clock)) .unauthorized
  let w₁ ← storeEscrow w acc.escrow { e with status := .released }
  match e.tokenMint with
  | some mint => releaseSpl w₁ mint e acc escrowTa apiTa
  | none => releaseSol w₁ e acc

theorem releaseFunds_ok {acc : ReleaseFundsAccounts}
    (h : releaseFunds env tx acc w = .ok w') :
    ∃ e ts us, w.escrows acc.escrow = some e
      ∧ acc.escrow = env.pda (.escrow e.agent e.transactionId)
      ∧ e.status = .active
      ∧ Paid (w.setEscrow acc.escrow { e with status := .released }) w'
          acc.escrow e ts us := by
  simp only [releaseFunds, bind_ok, loadEscrow_ok, requireSigner_ok,
    requireUnpaused_ok, ensure_ok, storeEscrow_ok] at h
  obtain ⟨e, ⟨he, hk⟩, -, hapi, -, -, eta, -, ata, -, -, -, -, hstatus, -, -,
    w₁, ⟨-, rfl⟩, h⟩ := h
  split at h
  · next mint hmint =>
      simp only [releaseSpl, bind_ok, okOr_ok, ensure_ok,
        transferTokens_ok] at h
      obtain ⟨eta', -, ata', -, -, -, -, -, -, -, -, -, b, hb, hw⟩ := h
      cases hw
      refine ⟨e, [], [⟨eta'.1, ata'.1, e.amount⟩], he, hk, hstatus, rfl,
        Tokens.transfers_cons.mpr ⟨b, hb, rfl⟩, rfl, by simp, ?_⟩
      rw [hmint]
      simp
  · simp only [releaseSol, bind_ok, moveLamports_ok] at h
    obtain ⟨l, hl, hw⟩ := h
    cases hw
    refine ⟨e, _, [], he, hk, hstatus, Ledger.moves_single hl, rfl, rfl, ?_, ?_⟩
    · intro t ht
      rw [List.mem_singleton] at ht
      rw [ht]
    · intro _
      simp

-- ==== dispute

structure MarkDisputedAccounts where
  escrow : Pubkey
  agent : Pubkey

def markDisputed (env : Env Seed) (tx : Tx env)
    (acc : MarkDisputedAccounts) (w : World) : Outcome World := do
  let e ← loadEscrow env w acc.escrow
  let k := env.pda (.reputation acc.agent)
  let reputation ← load (w.reputations k)
  requireSigner tx acc.agent
  requireUnpaused w
  ensure (e.status = .active) .invalidStatus
  ensure (acc.agent = e.agent) .unauthorized
  ensure (tx.clock < e.expiresAt) .disputeWindowExpired
  ensure (calculateDisputeCost reputation ≤ w.lamports.bal acc.agent)
    .insufficientDisputeFunds
  let reputation' := { reputation with
    disputesFiled := Fixed.saturatingAdd 64 reputation.disputesFiled 1 }
  storeEscrow (w.setReputation k reputation') acc.escrow
    { e with status := .disputed, disputedAt := some tx.clock }

/-- Marking moves no funds: an active escrow becomes disputed. -/
theorem markDisputed_ok {acc : MarkDisputedAccounts}
    (h : markDisputed env tx acc w = .ok w') :
    ∃ e r, w.escrows acc.escrow = some e
      ∧ acc.escrow = env.pda (.escrow e.agent e.transactionId)
      ∧ e.status = .active
      ∧ w' = (w.setReputation (env.pda (.reputation acc.agent)) r).setEscrow
          acc.escrow
          { e with status := .disputed, disputedAt := some tx.clock } := by
  simp only [markDisputed, bind_ok, loadEscrow_ok, requireSigner_ok,
    requireUnpaused_ok, load_ok, ensure_ok, storeEscrow_ok] at h
  obtain ⟨e, ⟨he, hk⟩, reputation, -, -, -, -, -, -, hstatus, -, -, -, -, -,
    -, -, hw⟩ := h
  exact ⟨e, _, he, hk, hstatus, hw⟩

-- ==== resolution

structure ResolveDisputeAccounts where
  escrow : Pubkey
  agent : Pubkey
  api : Pubkey
  verifier : Pubkey
  parties : PartyAccounts

/-- The event `DisputeResolved`. -/
structure DisputeResolved where
  escrow : Pubkey
  transactionId : Bytes
  qualityScore : Nat
  refundPercentage : Nat
  refundAmount : Nat
  paymentAmount : Nat
  verifier : Pubkey

/-- One more transaction on an entity's record. -/
def EntityReputation.countTransaction (r : EntityReputation)
    (clock : Int) : EntityReputation :=
  let r' := { r with
    totalTransactions := Fixed.saturatingAdd 64 r.totalTransactions 1 }
  { r' with
    reputationScore := calculateReputationScore r'
    lastUpdated := clock }

/-- `amount * percentage / 100` through u128, cast back to u64. -/
def percentOf (amount percentage : Nat) : Nat :=
  Fixed.wrap 64 (amount * percentage / 100)

/-- `resolve_dispute`, with the event it emits. The verifier is no
signer; its word is the signature found in the transaction. -/
def resolveDispute (env : Env Seed) (tx : Tx env)
    (acc : ResolveDisputeAccounts) (qualityScore refundPercentage : Nat)
    (signature : Bytes) (w : World) :
    Outcome (World × DisputeResolved) := do
  let e ← loadEscrow env w acc.escrow
  ensure (acc.agent = e.agent) .unauthorized
  require (tx.systemOwned acc.agent = true) .constraintSystemAccount
  ensure (acc.api = e.api) .unauthorized
  let registry ← load w.registry
  ensure (∃ o ∈ registry.oracles, o.pubkey = acc.verifier)
    .unregisteredOracle
  let agentKey := env.pda (.reputation acc.agent)
  let apiKey := env.pda (.reputation acc.api)
  let agentReputation ← load (w.reputations agentKey)
  let apiReputation ← load (w.reputations apiKey)
  let parties ← loadParties w.tokens acc.parties
  requireUnpaused w
  ensure (e.status = .active ∨ e.status = .disputed) .invalidStatus
  ensure (qualityScore ≤ 100) .invalidQualityScore
  ensure (refundPercentage ≤ 100) .invalidRefundPercentage
  verifyEd25519Signature tx.instructions signature acc.verifier
    (scoreMessage e.transactionId qualityScore)
  let refundAmount := percentOf e.amount refundPercentage
  let paymentAmount := e.amount - refundAmount
  let w₁ ← storeEscrow w acc.escrow { e with
    status := .resolved
    qualityScore := some qualityScore
    refundPercentage := some refundPercentage }
  let w₂ := (w₁.setReputation agentKey
    (agentReputation.countTransaction tx.clock)).setReputation apiKey
      (apiReputation.countTransaction tx.clock)
  let w₃ ← payParties env w₂ acc.escrow e parties refundAmount
    paymentAmount
  .ok (w₃,
    { escrow := acc.escrow
      transactionId := e.transactionId
      qualityScore := qualityScore
      refundPercentage := refundPercentage
      refundAmount := refundAmount
      paymentAmount := paymentAmount
      verifier := acc.verifier })

theorem percentOf_le {amount percentage : Nat} (h : percentage ≤ 100) :
    percentOf amount percentage ≤ amount := by
  have hmul : amount * percentage ≤ amount * 100 :=
    Nat.mul_le_mul_left amount h
  have hwrap := Fixed.wrap_le 64 (amount * percentage / 100)
  unfold percentOf
  omega

theorem percentOf_eq {amount percentage : Nat}
    (h : amount ≤ maxEscrowAmount) (hp : percentage ≤ 100) :
    percentOf amount percentage = amount * percentage / 100 := by
  have hmul : amount * percentage ≤ maxEscrowAmount * 100 :=
    Nat.mul_le_mul h hp
  unfold maxEscrowAmount at hmul
  apply Fixed.wrap_eq
  omega

/-- A resolution settles an open escrow, on a registered verifier's
signature over its transaction id and the score. -/
theorem resolveDispute_ok {acc : ResolveDisputeAccounts}
    {qualityScore refundPercentage : Nat} {signature : Bytes}
    {ev : DisputeResolved}
    (h : resolveDispute env tx acc qualityScore refundPercentage signature
      w = .ok (w', ev)) :
    ∃ e ar pr ts us, w.escrows acc.escrow = some e
      ∧ acc.escrow = env.pda (.escrow e.agent e.transactionId)
      ∧ e.Open
      ∧ Paid (((w.setEscrow acc.escrow { e with
            status := .resolved
            qualityScore := some qualityScore
            refundPercentage := some refundPercentage }).setReputation
              (env.pda (.reputation acc.agent)) ar).setReputation
              (env.pda (.reputation acc.api)) pr)
          w' acc.escrow e ts us := by
  simp only [resolveDispute, bind_ok, loadEscrow_ok, load_ok,
    requireUnpaused_ok, ensure_ok, require_ok, storeEscrow_ok] at h
  obtain ⟨e, ⟨he, hk⟩, -, -, -, -, -, -, reg, -, -, -, ar, -, pr, -, parties,
    -, -, -, -, hopen, -, -, -, hpct, -, -, w₁, ⟨-, rfl⟩, w₃, hpay, hw⟩ := h
  cases hw
  have hle : percentOf e.amount refundPercentage ≤ e.amount :=
    percentOf_le hpct
  obtain ⟨ts, us, hpaid⟩ := payParties_ok hpay (by omega)
  exact ⟨e, _, _, ts, us, he, hk, hopen, hpaid⟩

-- ==== expiry

structure ClaimExpiredEscrowAccounts where
  escrow : Pubkey
  agent : Pubkey
  api : Pubkey
  caller : Pubkey
  parties : PartyAccounts

/-- The agent's share of an expired escrow: everything while Active,
half while Disputed. -/
def expiredAgentShare (e : Escrow) : Nat :=
  if e.status = .active then e.amount else e.amount / 2

def claimExpiredEscrow (env : Env Seed) (tx : Tx env)
    (acc : ClaimExpiredEscrowAccounts) (w : World) : Outcome World := do
  let e ← loadEscrow env w acc.escrow
  ensure (acc.agent = e.agent) .unauthorized
  ensure (acc.api = e.api) .unauthorized
  requireSigner tx acc.caller
  let parties ← loadParties w.tokens acc.parties
  requireUnpaused w
  ensure (Fixed.saturatingAddI 64 e.expiresAt gracePeriodSeconds
    ≤ tx.clock) .escrowNotExpired
  ensure (e.status = .active ∨ e.status = .disputed)
    .escrowAlreadyClaimed
  let agentAmount := expiredAgentShare e
  let apiAmount := e.amount - agentAmount
  let w₁ ← storeEscrow w acc.escrow { e with
    status := .resolved
    qualityScore := some 50
    refundPercentage :=
      some (if agentAmount = e.amount then 100 else 50) }
  payParties env w₁ acc.escrow e parties agentAmount apiAmount

/-- A claim settles an open escrow that outlived its grace period. -/
theorem claimExpiredEscrow_ok {acc : ClaimExpiredEscrowAccounts}
    (h : claimExpiredEscrow env tx acc w = .ok w') :
    ∃ e pct ts us, w.escrows acc.escrow = some e
      ∧ acc.escrow = env.pda (.escrow e.agent e.transactionId)
      ∧ e.Open
      ∧ Paid (w.setEscrow acc.escrow { e with
            status := .resolved
            qualityScore := some 50
            refundPercentage := some pct }) w' acc.escrow e ts us := by
  simp only [claimExpiredEscrow, bind_ok, loadEscrow_ok,
    requireSigner_ok, requireUnpaused_ok, ensure_ok, storeEscrow_ok] at h
  obtain ⟨e, ⟨he, hk⟩, -, -, -, -, -, -, parties, -, -, -, -, -, -, hopen, w₁,
    ⟨-, rfl⟩, hpay⟩ := h
  have hle : expiredAgentShare e ≤ e.amount := by
    unfold expiredAgentShare
    split
    · exact Nat.le_refl _
    · omega
  obtain ⟨ts, us, hpaid⟩ := payParties_ok hpay (by omega)
  exact ⟨e, _, ts, us, he, hk, hopen, hpaid⟩

end KamiyoProtocol.Kamiyo
