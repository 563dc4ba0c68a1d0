/-
Protocol configuration, treasury, agent identities and reputations.

Three keys govern the protocol and any two of them act: they pause and
resume it, replace one of themselves, and withdraw from the treasury.
The treasury account holds creation fees, protocol fees, slashed stake
and the oracle rewards; a withdrawal keeps its rent and nothing else.
-/
import KamiyoProtocol.Kamiyo.Registry

namespace KamiyoProtocol.Kamiyo

open Solana Exec

variable {env : Env Seed} {tx : Tx env} {w w' : World}

-- ==== configuration

structure InitializeProtocolAccounts where
  authority : Pubkey

def initializeProtocol (env : Env Seed) (tx : Tx env)
    (acc : InitializeProtocolAccounts)
    (secondarySigner tertiarySigner : Pubkey) (w : World) :
    Outcome World := do
  requireSigner tx acc.authority
  requireFresh w.config
  let l ← fundRent env w.lamports acc.authority (env.pda .protocolConfig)
    protocolConfigSpace
  ensure (acc.authority ≠ secondarySigner ∧ acc.authority ≠ tertiarySigner
    ∧ secondarySigner ≠ tertiarySigner) .duplicateMultiSigSigner
  ensure (secondarySigner ≠ defaultPubkey
    ∧ tertiarySigner ≠ defaultPubkey) .invalidAuthority
  .ok ((w.setLamports l).setConfig
    { authority := acc.authority
      secondarySigner := secondarySigner
      tertiarySigner := tertiarySigner
      paused := false
      createdAt := tx.clock
      updatedAt := tx.clock })

/-- The signer pair of a governed instruction. -/
structure SignerPair where
  signerOne : Pubkey
  signerTwo : Pubkey

/-- The authority set of the configuration. -/
def ProtocolConfig.validSigners (c : ProtocolConfig) : List Pubkey :=
  [c.authority, c.secondarySigner, c.tertiarySigner]

/-- The 2-of-3 check. -/
def requireMultiSig (c : ProtocolConfig) (pair : SignerPair) :
    Outcome Unit := do
  ensure (pair.signerOne ≠ pair.signerTwo) .duplicateMultiSigSigner
  ensure (pair.signerOne ∈ c.validSigners
    ∧ pair.signerTwo ∈ c.validSigners) .invalidMultiSigSigner

/-- Both signers of the pair signed. -/
def requirePair (tx : Tx env) (pair : SignerPair) : Outcome Unit := do
  requireSigner tx pair.signerOne
  requireSigner tx pair.signerTwo

def pauseProtocol (tx : Tx env) (pair : SignerPair) (w : World) :
    Outcome World := do
  let config ← load w.config
  requirePair tx pair
  ensure (config.paused = false) .protocolAlreadyPaused
  requireMultiSig config pair
  .ok (w.setConfig { config with paused := true, updatedAt := tx.clock })

def unpauseProtocol (tx : Tx env) (pair : SignerPair) (w : World) :
    Outcome World := do
  let config ← load w.config
  requirePair tx pair
  ensure (config.paused = true) .protocolNotPaused
  requireMultiSig config pair
  .ok (w.setConfig { config with paused := false, updatedAt := tx.clock })

/-- The authority set with one key replaced, the first match of the
three. -/
def ProtocolConfig.replaceSigner (c : ProtocolConfig)
    (old new : Pubkey) : Outcome ProtocolConfig :=
  if old = c.authority then .ok { c with authority := new }
  else if old = c.secondarySigner then .ok { c with secondarySigner := new }
  else if old = c.tertiarySigner then .ok { c with tertiarySigner := new }
  else .error (.custom .invalidAuthority)

def transferProtocolAuthority (tx : Tx env) (pair : SignerPair)
    (signerToReplace newSigner : Pubkey) (w : World) : Outcome World := do
  let config ← load w.config
  requirePair tx pair
  ensure (newSigner ≠ defaultPubkey) .invalidAuthority
  requireMultiSig config pair
  ensure (newSigner ∉ config.validSigners) .duplicateMultiSigSigner
  let config' ← config.replaceSigner signerToReplace newSigner
  .ok (w.setConfig { config' with updatedAt := tx.clock })

-- ==== treasury

structure InitializeTreasuryAccounts where
  admin : Pubkey

def initializeTreasury (env : Env Seed) (tx : Tx env)
    (acc : InitializeTreasuryAccounts) (w : World) : Outcome World := do
  requireSigner tx acc.admin
  requireFresh w.treasury
  let l ← fundRent env w.lamports acc.admin (env.pda .treasury)
    treasurySpace
  .ok ((w.setLamports l).setTreasury
    { admin := acc.admin
      totalFeesCollected := 0
      totalSlashedCollected := 0
      totalWithdrawn := 0
      createdAt := tx.clock
      updatedAt := tx.clock })

structure WithdrawTreasuryAccounts where
  pair : SignerPair
  recipient : Pubkey

/-- `withdraw_treasury`: anything above the rent minimum. -/
def withdrawTreasury (env : Env Seed) (tx : Tx env)
    (acc : WithdrawTreasuryAccounts) (amount : Nat) (w : World) :
    Outcome World := do
  let config ← load w.config
  let treasury ← load w.treasury
  requirePair tx acc.pair
  ensure (0 < amount) .invalidAmount
  requireMultiSig config acc.pair
  let maxWithdrawable :=
    w.lamports.bal (env.pda .treasury) - env.minimumBalance treasurySpace
  ensure (amount ≤ maxWithdrawable) .insufficientTreasuryBalance
  let l ← moveLamports w.lamports (env.pda .treasury) acc.recipient amount
    .arithmeticPanic
  .ok ((w.setLamports l).setTreasury { treasury with
    totalWithdrawn := Fixed.saturatingAdd 64 treasury.totalWithdrawn amount
    updatedAt := tx.clock })

-- ==== agents

structure AgentAccounts where
  owner : Pubkey

def createAgent (env : Env Seed) (tx : Tx env) (acc : AgentAccounts)
    (name : Bytes) (agentType : AgentType) (stakeAmount : Nat)
    (w : World) : Outcome World := do
  requireSigner tx acc.owner
  let k := env.pda (.agent acc.owner)
  requireFresh (w.agents k)
  let l ← fundRent env w.lamports acc.owner k agentIdentitySpace
  ensure (name ≠ [] ∧ name.length ≤ maxAgentNameLength) .invalidAgentName
  ensure (minStakeAmount ≤ stakeAmount) .insufficientStake
  let l' ← systemTransfer l acc.owner k stakeAmount
  .ok ((w.setLamports l').setAgent k
    { owner := acc.owner
      name := name
      agentType := agentType
      reputation := 500
      stakeAmount := stakeAmount
      isActive := true
      createdAt := tx.clock
      lastActive := tx.clock
      totalEscrows := 0
      successfulEscrows := 0
      disputedEscrows := 0 })

/-- `deactivate_agent`: the stake goes back, as far as it lies above the
rent minimum. -/
def deactivateAgent (env : Env Seed) (tx : Tx env) (acc : AgentAccounts)
    (w : World) : Outcome World := do
  let k := env.pda (.agent acc.owner)
  let agent ← load (w.agents k)
  requireSigner tx acc.owner
  ensure (acc.owner = agent.owner) .unauthorized
  ensure (agent.isActive = true) .agentNotActive
  let maxReturnable :=
    w.lamports.bal k - env.minimumBalance agentIdentitySpace
  let actualReturn := min agent.stakeAmount maxReturnable
  let l ← moveLamports w.lamports k acc.owner actualReturn .arithmeticPanic
  .ok ((w.setLamports l).setAgent k { agent with
    isActive := false
    stakeAmount := 0 })

structure InitReputationAccounts where
  entity : Pubkey
  payer : Pubkey

def initReputation (env : Env Seed) (tx : Tx env)
    (acc : InitReputationAccounts) (w : World) : Outcome World := do
  requireSigner tx acc.payer
  let k := env.pda (.reputation acc.entity)
  requireFresh (w.reputations k)
  let l ← fundRent env w.lamports acc.payer k entityReputationSpace
  .ok ((w.setLamports l).setReputation k
    { entity := acc.entity
      totalTransactions := 0
      disputesFiled := 0
      disputesWon := 0
      disputesPartial := 0
      disputesLost := 0
      averageQualityReceived := 0
      reputationScore := 500
      createdAt := tx.clock
      lastUpdated := tx.clock })

-- ==== inversion

theorem pauseProtocol_ok {pair : SignerPair}
    (h : pauseProtocol tx pair w = .ok w') :
    ∃ c, w' = w.setConfig c := by
  simp only [pauseProtocol, bind_ok] at h
  obtain ⟨c, -, -, -, -, -, -, -, hw⟩ := h
  cases hw
  exact ⟨_, rfl⟩

theorem unpauseProtocol_ok {pair : SignerPair}
    (h : unpauseProtocol tx pair w = .ok w') :
    ∃ c, w' = w.setConfig c := by
  simp only [unpauseProtocol, bind_ok] at h
  obtain ⟨c, -, -, -, -, -, -, -, hw⟩ := h
  cases hw
  exact ⟨_, rfl⟩

theorem transferProtocolAuthority_ok {pair : SignerPair} {old new : Pubkey}
    (h : transferProtocolAuthority tx pair old new w = .ok w') :
    ∃ c, w' = w.setConfig c := by
  simp only [transferProtocolAuthority, bind_ok] at h
  obtain ⟨c, -, -, -, -, -, -, -, -, -, c', -, hw⟩ := h
  cases hw
  exact ⟨_, rfl⟩

theorem initializeProtocol_ok {acc : InitializeProtocolAccounts}
    {s t : Pubkey} (h : initializeProtocol env tx acc s t w = .ok w') :
    ∃ c ts, w.lamports.moves ts = some w'.lamports
      ∧ (∀ t ∈ ts, t.src ∈ tx.signers)
      ∧ w' = (w.setLamports w'.lamports).setConfig c := by
  simp only [initializeProtocol, bind_ok, requireSigner_ok] at h
  obtain ⟨-, hsig, -, -, l, hl, -, -, -, -, hw⟩ := h
  obtain ⟨ts, hts, hsrc⟩ := fundRent_moves hl
  cases hw
  exact ⟨_, ts, hts, fun t ht => hsrc t ht ▸ hsig, rfl⟩

/-- A fresh treasury is at its rent minimum or above. -/
theorem initializeTreasury_ok {acc : InitializeTreasuryAccounts}
    (h : initializeTreasury env tx acc w = .ok w') :
    ∃ t ts, w.treasury = none ∧ w.lamports.moves ts = some w'.lamports
      ∧ (∀ t ∈ ts, t.src ∈ tx.signers)
      ∧ env.minimumBalance treasurySpace ≤ w'.lamports.bal (env.pda .treasury)
      ∧ w' = (w.setLamports w'.lamports).setTreasury t := by
  simp only [initializeTreasury, bind_ok, requireSigner_ok,
    requireFresh_ok] at h
  obtain ⟨-, hsig, -, hnone, l, hl, hw⟩ := h
  obtain ⟨ts, hts, hsrc⟩ := fundRent_moves hl
  cases hw
  exact ⟨_, ts, hnone, hts, fun t ht => hsrc t ht ▸ hsig,
    fundRent_covers (signer_ne hsig) hl, rfl⟩

/-- A treasury withdrawal leaves the rent minimum behind. -/
theorem withdrawTreasury_ok {acc : WithdrawTreasuryAccounts} {n : Nat}
    (h : withdrawTreasury env tx acc n w = .ok w') :
    ∃ t, w.treasury.isSome = true ∧ 0 < n
      ∧ env.minimumBalance treasurySpace + n
        ≤ w.lamports.bal (env.pda .treasury)
      ∧ w.lamports.moves [⟨env.pda .treasury, acc.recipient, n⟩]
        = some w'.lamports
      ∧ w' = (w.setLamports w'.lamports).setTreasury t := by
  simp only [withdrawTreasury, bind_ok, load_ok, ensure_ok,
    moveLamports_ok] at h
  obtain ⟨c, -, t, ht, -, -, -, hpos, -, -, -, hmax, l, hl, hw⟩ := h
  cases hw
  refine ⟨_, by rw [ht]; rfl, hpos, by omega, Ledger.moves_single hl, rfl⟩

theorem createAgent_ok {acc : AgentAccounts} {name : Bytes}
    {agentType : AgentType} {stake : Nat}
    (h : createAgent env tx acc name agentType stake w = .ok w') :
    ∃ a ts, w.lamports.moves ts = some w'.lamports
      ∧ (∀ t ∈ ts, t.src ∈ tx.signers)
      ∧ w' = (w.setLamports w'.lamports).setAgent
          (env.pda (.agent acc.owner)) a := by
  simp only [createAgent, bind_ok, requireSigner_ok, systemTransfer_ok] at h
  obtain ⟨-, hsig, -, -, l, hl, -, -, -, -, l', hl', hw⟩ := h
  obtain ⟨ts, hts, hsrc⟩ := fundRent_moves hl
  cases hw
  refine ⟨_, _, Ledger.moves_append hts (Ledger.moves_single hl'), ?_, rfl⟩
  intro t ht
  rcases List.mem_append.mp ht with ht | ht
  · exact hsrc t ht ▸ hsig
  · rw [List.mem_singleton] at ht
    rw [ht]
    exact hsig

theorem deactivateAgent_ok {acc : AgentAccounts}
    (h : deactivateAgent env tx acc w = .ok w') :
    ∃ a n, w.lamports.moves
        [⟨env.pda (.agent acc.owner), acc.owner, n⟩] = some w'.lamports
      ∧ w' = (w.setLamports w'.lamports).setAgent
          (env.pda (.agent acc.owner)) a := by
  simp only [deactivateAgent, bind_ok, moveLamports_ok] at h
  obtain ⟨a, -, -, -, -, -, -, -, l, hl, hw⟩ := h
  cases hw
  exact ⟨_, _, Ledger.moves_single hl, rfl⟩

theorem initReputation_ok {acc : InitReputationAccounts}
    (h : initReputation env tx acc w = .ok w') :
    ∃ r ts, w.lamports.moves ts = some w'.lamports
      ∧ (∀ t ∈ ts, t.src ∈ tx.signers)
      ∧ w' = (w.setLamports w'.lamports).setReputation
          (env.pda (.reputation acc.entity)) r := by
  simp only [initReputation, bind_ok, requireSigner_ok] at h
  obtain ⟨-, hsig, -, -, l, hl, hw⟩ := h
  obtain ⟨ts, hts, hsrc⟩ := fundRent_moves hl
  cases hw
  exact ⟨_, ts, hts, fun t ht => hsrc t ht ▸ hsig, rfl⟩

end KamiyoProtocol.Kamiyo
