/-
The oracle registry: enrolment, stake, withdrawal and rewards.

Stake is held by the registry account, rewards by the treasury; both are
tracked on the oracle's record. Stake enters by enrolment (by the admin
or in public) and by top-ups, and leaves by removal and by a withdrawal
that first has to cool down. Rewards are claimed from the treasury.

Each inversion lemma says where the lamports moved and what became of
the list of oracles; the record updates that touch neither stake nor
rewards are shown once to be neutral (`neutral_update`).
-/
import KamiyoProtocol.Kamiyo.Settlement

namespace KamiyoProtocol.Kamiyo

open Solana Exec

variable {env : Env Seed} {tx : Tx env} {w w' : World}

-- ==== creation

structure InitializeOracleRegistryAccounts where
  admin : Pubkey

def initializeOracleRegistry (env : Env Seed) (tx : Tx env)
    (acc : InitializeOracleRegistryAccounts)
    (minConsensus maxScoreDeviation : Nat) (w : World) :
    Outcome World := do
  requireSigner tx acc.admin
  requireFresh w.registry
  let l ← fundRent env w.lamports acc.admin (env.pda .oracleRegistry)
    oracleRegistrySpace
  ensure (minConsensusOracles ≤ minConsensus)
    .insufficientOracleConsensus
  ensure (maxScoreDeviation ≤ 50) .invalidQualityScore
  .ok ((w.setLamports l).setRegistry
    { admin := acc.admin
      oracles := []
      minConsensus := minConsensus
      maxScoreDeviation := maxScoreDeviation
      createdAt := tx.clock
      updatedAt := tx.clock
      publicRegistration := false
      totalStake := 0 })

-- ==== enrolment

/-- The record of a freshly enrolled oracle. -/
def newOracle (tx : Tx env) (oracle : Pubkey) (oracleType : OracleType)
    (weight stakeAmount : Nat) : OracleConfig :=
  { pubkey := oracle
    oracleType := oracleType
    weight := weight
    stakeAmount := stakeAmount
    violationCount := 0
    totalRewards := 0
    disputesParticipated := 0
    consensusVotes := 0
    registeredAt := tx.clock
    withdrawalRequestedAt := 0
    status := 0 }

/-- The tail of both enrolments: transfer the stake, push the record. -/
def enrolOracle (env : Env Seed) (tx : Tx env) (registry : OracleRegistry)
    (o : OracleConfig) (w : World) : Outcome World := do
  let l ← systemTransfer w.lamports o.pubkey (env.pda .oracleRegistry)
    o.stakeAmount
  .ok ((w.setLamports l).setRegistry { registry with
    oracles := registry.oracles ++ [o]
    totalStake := Fixed.saturatingAdd 64 registry.totalStake o.stakeAmount
    updatedAt := tx.clock })

structure AddOracleAccounts where
  admin : Pubkey
  oracleSigner : Pubkey

def addOracle (env : Env Seed) (tx : Tx env) (acc : AddOracleAccounts)
    (oraclePubkey : Pubkey) (oracleType : OracleType) (weight : UInt16)
    (stakeAmount : Nat) (w : World) : Outcome World := do
  let registry ← load w.registry
  requireSigner tx acc.admin
  requireSigner tx acc.oracleSigner
  ensure (acc.admin = registry.admin) .unauthorized
  ensure (oraclePubkey = acc.oracleSigner) .oraclePubkeyMismatch
  ensure (registry.oracles.length < maxOracles) .maxOraclesReached
  ensure (0 < weight.toNat) .invalidOracleWeight
  ensure (minOracleStake ≤ stakeAmount) .insufficientOracleStake
  ensure (¬ ∃ o ∈ registry.oracles, o.pubkey = oraclePubkey)
    .duplicateOracleSubmission
  enrolOracle env tx registry
    (newOracle tx oraclePubkey oracleType weight.toNat stakeAmount) w

/-- One weight per SOL staked, cast to u16, at least one. -/
def stakeWeight (stakeAmount : Nat) : Nat :=
  let weight := Fixed.wrap 16 (stakeAmount / 1000000000)
  if weight = 0 then 1 else weight

structure RegisterOracleAccounts where
  oracle : Pubkey

def registerOracle (env : Env Seed) (tx : Tx env)
    (acc : RegisterOracleAccounts) (stakeAmount : Nat) (w : World) :
    Outcome World := do
  let registry ← load w.registry
  requireSigner tx acc.oracle
  ensure (registry.publicRegistration = true) .publicRegistrationDisabled
  ensure (registry.oracles.length < maxOracles) .maxOraclesReached
  ensure (minOracleStake ≤ stakeAmount) .insufficientOracleStake
  ensure (¬ ∃ o ∈ registry.oracles, o.pubkey = acc.oracle)
    .duplicateOracleSubmission
  enrolOracle env tx registry
    (newOracle tx acc.oracle .ed25519 (stakeWeight stakeAmount)
      stakeAmount) w

-- ==== administration

structure ManageOracleAccounts where
  admin : Pubkey

/-- The all-zero key. -/
def defaultPubkey : Pubkey := ⟨List.replicate 32 0⟩

def transferAdmin (tx : Tx env) (acc : ManageOracleAccounts)
    (newAdmin : Pubkey) (w : World) : Outcome World := do
  let registry ← load w.registry
  ensure (registry.admin = acc.admin) .unauthorized
  requireSigner tx acc.admin
  ensure (newAdmin ≠ defaultPubkey) .invalidAmount
  .ok (w.setRegistry { registry with
    admin := newAdmin
    updatedAt := tx.clock })

def setPublicRegistration (tx : Tx env) (acc : ManageOracleAccounts)
    (enabled : Bool) (w : World) : Outcome World := do
  let registry ← load w.registry
  requireSigner tx acc.admin
  ensure (acc.admin = registry.admin) .unauthorized
  .ok (w.setRegistry { registry with
    publicRegistration := enabled
    updatedAt := tx.clock })

-- ==== departure

/-- `oracles.iter().position(|o| o.pubkey == key)`, with the record. -/
def requireOracle (registry : OracleRegistry) (oracle : Pubkey)
    (e : KamiyoError) : Outcome (Nat × OracleConfig) :=
  okOr (Keyed.locate OracleConfig.pubkey registry.oracles oracle)
    (.custom e)

theorem requireOracle_ok {registry : OracleRegistry} {oracle : Pubkey}
    {e : KamiyoError} {f : Nat × OracleConfig}
    (h : requireOracle registry oracle e = .ok f) :
    registry.oracles[f.1]? = some f.2 ∧ f.2.pubkey = oracle :=
  Keyed.locate_some (okOr_ok.mp h)

/-- The registry without the oracle at `i`. -/
def OracleRegistry.drop (registry : OracleRegistry) (i : Nat)
    (o : OracleConfig) (clock : Int) : OracleRegistry :=
  { registry with
    oracles := registry.oracles.eraseIdx i
    totalStake := registry.totalStake - o.stakeAmount
    updatedAt := clock }

structure RemoveOracleAccounts where
  admin : Pubkey
  oracleWallet : Pubkey

def removeOracle (env : Env Seed) (tx : Tx env)
    (acc : RemoveOracleAccounts) (oraclePubkey : Pubkey) (w : World) :
    Outcome World := do
  let registry ← load w.registry
  requireSigner tx acc.admin
  ensure (acc.admin = registry.admin) .unauthorized
  ensure (acc.oracleWallet = oraclePubkey) .oraclePubkeyMismatch
  let f ← requireOracle registry oraclePubkey .oracleNotFound
  let l ← payLamports w.lamports (env.pda .oracleRegistry)
    acc.oracleWallet f.2.stakeAmount
  .ok ((w.setLamports l).setRegistry
    (registry.drop f.1 f.2 tx.clock))

/-- The accounts of the instructions an oracle runs on its own record. -/
structure OracleAccounts where
  oracle : Pubkey

/-- The registry with the record at `i` replaced. -/
def OracleRegistry.update (registry : OracleRegistry) (i : Nat)
    (o : OracleConfig) (clock : Int) : OracleRegistry :=
  { registry with
    oracles := registry.oracles.set i o
    updatedAt := clock }

def requestOracleWithdrawal (tx : Tx env) (acc : OracleAccounts)
    (w : World) : Outcome World := do
  let registry ← load w.registry
  requireSigner tx acc.oracle
  let f ← requireOracle registry acc.oracle .oracleNotFound
  ensure (f.2.status = 0) .oracleNotActive
  ensure (f.2.withdrawalRequestedAt = 0) .withdrawalAlreadyRequested
  -- the event computes when the stake becomes available
  let _ ← addI64 tx.clock oracleWithdrawalCooldown
  .ok (w.setRegistry (registry.update f.1 { f.2 with
    withdrawalRequestedAt := tx.clock
    status := 1 } tx.clock))

/-- `complete_oracle_withdrawal`: stake and recorded rewards are both
paid from the registry account. -/
def completeOracleWithdrawal (env : Env Seed) (tx : Tx env)
    (acc : OracleAccounts) (w : World) : Outcome World := do
  let registry ← load w.registry
  requireSigner tx acc.oracle
  let f ← requireOracle registry acc.oracle .oracleNotFound
  ensure (f.2.status = 1) .withdrawalNotRequested
  let cooldownEnd ← addI64 f.2.withdrawalRequestedAt
    oracleWithdrawalCooldown
  ensure (cooldownEnd ≤ tx.clock) .withdrawalCooldownNotComplete
  let totalReturn ← addU64 f.2.stakeAmount f.2.totalRewards
  let l ← payLamports w.lamports (env.pda .oracleRegistry) acc.oracle
    totalReturn
  .ok ((w.setLamports l).setRegistry
    (registry.drop f.1 f.2 tx.clock))

def cancelOracleWithdrawal (tx : Tx env) (acc : OracleAccounts)
    (w : World) : Outcome World := do
  let registry ← load w.registry
  requireSigner tx acc.oracle
  let f ← requireOracle registry acc.oracle .oracleNotFound
  ensure (f.2.status = 1) .withdrawalNotRequested
  .ok (w.setRegistry (registry.update f.1 { f.2 with
    withdrawalRequestedAt := 0
    status := 0 } tx.clock))

def increaseOracleStake (env : Env Seed) (tx : Tx env)
    (acc : OracleAccounts) (additionalStake : Nat) (w : World) :
    Outcome World := do
  let registry ← load w.registry
  requireSigner tx acc.oracle
  ensure (0 < additionalStake) .invalidAmount
  let f ← requireOracle registry acc.oracle .oracleNotFound
  ensure (f.2.status = 0) .oracleNotActive
  let l ← systemTransfer w.lamports acc.oracle (env.pda .oracleRegistry)
    additionalStake
  let stake := Fixed.saturatingAdd 64 f.2.stakeAmount additionalStake
  .ok ((w.setLamports l).setRegistry { registry.update f.1 { f.2 with
      stakeAmount := stake
      weight := stakeWeight stake } tx.clock with
    totalStake :=
      Fixed.saturatingAdd 64 registry.totalStake additionalStake })

-- ==== rewards

/-- `claim_oracle_rewards`: the recorded rewards, from the treasury. -/
def claimOracleRewards (env : Env Seed) (tx : Tx env)
    (acc : OracleAccounts) (w : World) : Outcome World := do
  let registry ← load w.registry
  let _ ← load w.treasury
  requireSigner tx acc.oracle
  let f ← requireOracle registry acc.oracle .unregisteredOracle
  ensure (0 < f.2.totalRewards) .noRewardsToClaim
  ensure (f.2.totalRewards ≤ w.lamports.bal (env.pda .treasury))
    .insufficientTreasuryBalance
  let l ← moveLamports w.lamports (env.pda .treasury) acc.oracle
    f.2.totalRewards .arithmeticPanic
  .ok ((w.setLamports l).setRegistry { registry with
    oracles := registry.oracles.set f.1 { f.2 with totalRewards := 0 } })

-- ==== inversion

/-- The registry changed without moving stake, rewards, lamports or
members. -/
structure Neutral (w w' : World) (reg reg' : OracleRegistry) : Prop where
  registry : w.registry = some reg
  frame : w' = w.setRegistry reg'
  stakes : stakeSum reg'.oracles = stakeSum reg.oracles
  rewards : rewardSum reg'.oracles = rewardSum reg.oracles
  roster : roster reg'.oracles = roster reg.oracles

/-- At most one oracle joined, new to the registry, while there was
room. -/
def Joined (os os' : List OracleConfig) : Prop :=
  roster os' = roster os
    ∨ ∃ k, k ∉ roster os ∧ os.length < maxOracles
        ∧ roster os' = roster os ++ [k]

/-- A signer paid `n` lamports into the registry, which owes it at most
that much more stake. -/
structure Deposited (env : Env Seed) (tx : Tx env) (w w' : World)
    (reg reg' : OracleRegistry) (src : Pubkey) (n : Nat) : Prop where
  registry : w.registry = some reg
  signer : src ∈ tx.signers
  lamports : w.lamports.moves [⟨src, env.pda .oracleRegistry, n⟩]
    = some w'.lamports
  frame : w' = (w.setLamports w'.lamports).setRegistry reg'
  stakes : stakeSum reg'.oracles ≤ stakeSum reg.oracles + n
  rewards : rewardSum reg'.oracles = rewardSum reg.oracles
  roster : Joined reg.oracles reg'.oracles

/-- The record `o` left the registry and `n` lamports were paid out of
the registry account. -/
structure Departed (env : Env Seed) (w w' : World)
    (reg reg' : OracleRegistry) (o : OracleConfig) (dst : Pubkey)
    (n : Nat) : Prop where
  registry : w.registry = some reg
  lamports : w.lamports.moves (payment (env.pda .oracleRegistry) dst n)
    = some w'.lamports
  frame : w' = (w.setLamports w'.lamports).setRegistry reg'
  stakes : stakeSum reg'.oracles + o.stakeAmount = stakeSum reg.oracles
  rewards : rewardSum reg'.oracles + o.totalRewards = rewardSum reg.oracles
  roster : (roster reg'.oracles).Sublist (roster reg.oracles)

theorem initializeOracleRegistry_ok
    {acc : InitializeOracleRegistryAccounts} {c d : Nat}
    (h : initializeOracleRegistry env tx acc c d w = .ok w') :
    ∃ reg ts, w.registry = none ∧ reg.oracles = []
      ∧ w.lamports.moves ts = some w'.lamports
      ∧ (∀ t ∈ ts, t.src ∈ tx.signers)
      ∧ env.minimumBalance oracleRegistrySpace
        ≤ w'.lamports.bal (env.pda .oracleRegistry)
      ∧ w' = (w.setLamports w'.lamports).setRegistry reg := by
  simp only [initializeOracleRegistry, bind_ok, requireSigner_ok,
    requireFresh_ok, ensure_ok] at h
  obtain ⟨-, hsig, -, hnone, l, hl, -, -, -, -, hw⟩ := h
  obtain ⟨ts, hts, hsrc⟩ := fundRent_moves hl
  cases hw
  exact ⟨_, ts, hnone, rfl, hts, fun t ht => hsrc t ht ▸ hsig,
    fundRent_covers (signer_ne hsig) hl, rfl⟩

theorem enrolOracle_ok {reg : OracleRegistry} {o : OracleConfig}
    (hreg : w.registry = some reg) (hsig : o.pubkey ∈ tx.signers)
    (hnew : o.totalRewards = 0) (hroom : reg.oracles.length < maxOracles)
    (hfresh : ¬ ∃ x ∈ reg.oracles, x.pubkey = o.pubkey)
    (h : enrolOracle env tx reg o w = .ok w') :
    ∃ reg', Deposited env tx w w' reg reg' o.pubkey o.stakeAmount := by
  simp only [enrolOracle, bind_ok, systemTransfer_ok] at h
  obtain ⟨l, hl, hw⟩ := h
  cases hw
  refine ⟨_, hreg, hsig, Ledger.moves_single hl, rfl, ?_, ?_, ?_⟩
  · exact Nat.le_of_eq (Keyed.sum_append_single _ _ _)
  · refine (Keyed.sum_append_single _ _ _).trans ?_
    rw [hnew]
    rfl
  · refine .inr ⟨o.pubkey, ?_, hroom, List.map_append⟩
    intro hmem
    obtain ⟨x, hx, hxo⟩ := List.mem_map.mp hmem
    exact hfresh ⟨x, hx, hxo⟩

theorem addOracle_ok {acc : AddOracleAccounts} {oracle : Pubkey}
    {oracleType : OracleType} {weight : UInt16} {stake : Nat}
    (h : addOracle env tx acc oracle oracleType weight stake w = .ok w') :
    ∃ reg reg' src n, Deposited env tx w w' reg reg' src n := by
  simp only [addOracle, bind_ok, load_ok, requireSigner_ok, ensure_ok] at h
  obtain ⟨reg, hreg, -, -, -, hsig, -, -, -, hkey, -, hroom, -, -, -, -, -,
    hfresh, h⟩ := h
  obtain ⟨reg', hd⟩ := enrolOracle_ok hreg (hkey ▸ hsig) rfl hroom hfresh h
  exact ⟨reg, reg', _, _, hd⟩

theorem registerOracle_ok {acc : RegisterOracleAccounts} {stake : Nat}
    (h : registerOracle env tx acc stake w = .ok w') :
    ∃ reg reg' src n, Deposited env tx w w' reg reg' src n := by
  simp only [registerOracle, bind_ok, load_ok, requireSigner_ok, ensure_ok] at h
  obtain ⟨reg, hreg, -, hsig, -, -, -, hroom, -, -, -, hfresh, h⟩ := h
  obtain ⟨reg', hd⟩ := enrolOracle_ok hreg hsig rfl hroom hfresh h
  exact ⟨reg, reg', _, _, hd⟩

variable {acc : OracleAccounts}

theorem increaseOracleStake_ok {n : Nat}
    (h : increaseOracleStake env tx acc n w = .ok w') :
    ∃ reg reg' src n, Deposited env tx w w' reg reg' src n := by
  simp only [increaseOracleStake, bind_ok, load_ok, requireSigner_ok,
    ensure_ok, systemTransfer_ok] at h
  obtain ⟨reg, hreg, -, hsig, -, -, f, hf, -, -, l, hl, hw⟩ := h
  obtain ⟨hi, -⟩ := requireOracle_ok hf
  cases hw
  generalize hnew : ({ f.2 with
    stakeAmount := Fixed.saturatingAdd 64 f.2.stakeAmount n
    weight := stakeWeight (Fixed.saturatingAdd 64 f.2.stakeAmount n) }
      : OracleConfig) = o
  have hstake := Keyed.sum_set OracleConfig.stakeAmount hi o
  have hreward := Keyed.sum_set OracleConfig.totalRewards hi o
  have hle : o.stakeAmount ≤ f.2.stakeAmount + n := by
    rw [← hnew]
    exact Fixed.saturatingAdd_le 64 _ _
  have hsame : o.totalRewards = f.2.totalRewards := by rw [← hnew]
  have hkey : o.pubkey = f.2.pubkey := by rw [← hnew]
  refine ⟨reg, _, _, n, hreg, hsig, Ledger.moves_single hl, rfl, ?_, ?_,
    .inl (Keyed.map_set hi hkey)⟩
  · show ((reg.oracles.set f.1 o).map _).sum ≤ (reg.oracles.map _).sum + n
    omega
  · show ((reg.oracles.set f.1 o).map _).sum = (reg.oracles.map _).sum
    omega

/-- Replacing a record by one with its stake and rewards is neutral. -/
theorem neutral_update {reg : OracleRegistry} {i : Nat}
    {o o' : OracleConfig} {clock : Int} (hreg : w.registry = some reg)
    (hi : reg.oracles[i]? = some o)
    (hstake : o'.stakeAmount = o.stakeAmount)
    (hreward : o'.totalRewards = o.totalRewards)
    (hkey : o'.pubkey = o.pubkey) :
    Neutral w (w.setRegistry (reg.update i o' clock)) reg
      (reg.update i o' clock) := by
  have h₁ := Keyed.sum_set OracleConfig.stakeAmount hi o'
  have h₂ := Keyed.sum_set OracleConfig.totalRewards hi o'
  refine ⟨hreg, rfl, ?_, ?_, Keyed.map_set hi hkey⟩
  · show ((reg.oracles.set i o').map _).sum = (reg.oracles.map _).sum
    omega
  · show ((reg.oracles.set i o').map _).sum = (reg.oracles.map _).sum
    omega

theorem transferAdmin_ok {acc : ManageOracleAccounts} {newAdmin : Pubkey}
    (h : transferAdmin tx acc newAdmin w = .ok w') :
    ∃ reg reg', Neutral w w' reg reg' := by
  simp only [transferAdmin, bind_ok, load_ok] at h
  obtain ⟨reg, hreg, -, -, -, -, -, -, hw⟩ := h
  cases hw
  exact ⟨reg, _, hreg, rfl, rfl, rfl, rfl⟩

theorem setPublicRegistration_ok {acc : ManageOracleAccounts} {b : Bool}
    (h : setPublicRegistration tx acc b w = .ok w') :
    ∃ reg reg', Neutral w w' reg reg' := by
  simp only [setPublicRegistration, bind_ok, load_ok] at h
  obtain ⟨reg, hreg, -, -, -, -, hw⟩ := h
  cases hw
  exact ⟨reg, _, hreg, rfl, rfl, rfl, rfl⟩

theorem requestOracleWithdrawal_ok
    (h : requestOracleWithdrawal tx acc w = .ok w') :
    ∃ reg reg', Neutral w w' reg reg' := by
  simp only [requestOracleWithdrawal, bind_ok, load_ok] at h
  obtain ⟨reg, hreg, -, -, f, hf, -, -, -, -, -, -, hw⟩ := h
  obtain ⟨hi, -⟩ := requireOracle_ok hf
  cases hw
  exact ⟨reg, _, neutral_update hreg hi rfl rfl rfl⟩

theorem cancelOracleWithdrawal_ok
    (h : cancelOracleWithdrawal tx acc w = .ok w') :
    ∃ reg reg', Neutral w w' reg reg' := by
  simp only [cancelOracleWithdrawal, bind_ok, load_ok] at h
  obtain ⟨reg, hreg, -, -, f, hf, -, -, hw⟩ := h
  obtain ⟨hi, -⟩ := requireOracle_ok hf
  cases hw
  exact ⟨reg, _, neutral_update hreg hi rfl rfl rfl⟩

theorem departed_drop {reg : OracleRegistry} {i : Nat} {o : OracleConfig}
    {clock : Int} {l : Lamports} {dst : Pubkey} {n : Nat}
    (hreg : w.registry = some reg) (hi : reg.oracles[i]? = some o)
    (hl : w.lamports.moves (payment (env.pda .oracleRegistry) dst n) = some l) :
    Departed env w ((w.setLamports l).setRegistry (reg.drop i o clock)) reg
      (reg.drop i o clock) o dst n :=
  ⟨hreg, hl, rfl, Keyed.sum_eraseIdx _ hi, Keyed.sum_eraseIdx _ hi,
    (List.eraseIdx_sublist _ _).map _⟩

theorem removeOracle_ok {acc : RemoveOracleAccounts} {oracle : Pubkey}
    (h : removeOracle env tx acc oracle w = .ok w') :
    ∃ reg reg' o, Departed env w w' reg reg' o acc.oracleWallet
      o.stakeAmount := by
  simp only [removeOracle, bind_ok, load_ok] at h
  obtain ⟨reg, hreg, -, -, -, -, -, -, f, hf, l, hl, hw⟩ := h
  obtain ⟨hi, -⟩ := requireOracle_ok hf
  cases hw
  exact ⟨reg, _, f.2, departed_drop hreg hi (payLamports_ok hl)⟩

/-- A completed withdrawal pays stake and rewards out of the registry
account. -/
theorem completeOracleWithdrawal_ok
    (h : completeOracleWithdrawal env tx acc w = .ok w') :
    ∃ reg reg' i o, acc.oracle ∈ tx.signers
      ∧ Keyed.locate OracleConfig.pubkey reg.oracles acc.oracle = some (i, o)
      ∧ Departed env w w' reg reg' o acc.oracle
        (o.stakeAmount + o.totalRewards) := by
  simp only [completeOracleWithdrawal, bind_ok, load_ok,
    requireSigner_ok, addU64_ok] at h
  obtain ⟨reg, hreg, -, hsig, f, hf, -, -, -, -, -, -, total, ⟨-, rfl⟩, l,
    hl, hw⟩ := h
  obtain ⟨hi, -⟩ := requireOracle_ok hf
  cases hw
  exact ⟨reg, _, f.1, f.2, hsig, okOr_ok.mp hf,
    departed_drop hreg hi (payLamports_ok hl)⟩

/-- A claim moves the oracle's recorded rewards from the treasury and
clears the record. -/
theorem claimOracleRewards_ok (h : claimOracleRewards env tx acc w = .ok w') :
    ∃ reg reg' n, w.registry = some reg ∧ acc.oracle ∈ tx.signers ∧ 0 < n
      ∧ w.lamports.moves [⟨env.pda .treasury, acc.oracle, n⟩] = some w'.lamports
      ∧ stakeSum reg'.oracles = stakeSum reg.oracles
      ∧ rewardSum reg'.oracles + n = rewardSum reg.oracles
      ∧ roster reg'.oracles = roster reg.oracles
      ∧ w' = (w.setLamports w'.lamports).setRegistry reg' := by
  simp only [claimOracleRewards, bind_ok, load_ok, requireSigner_ok,
    ensure_ok, moveLamports_ok] at h
  obtain ⟨reg, hreg, -, -, -, hsig, f, hf, -, hpos, -, -, l, hl, hw⟩ := h
  obtain ⟨hi, -⟩ := requireOracle_ok hf
  cases hw
  have h₁ := Keyed.sum_set OracleConfig.stakeAmount hi
    { f.2 with totalRewards := 0 }
  have h₂ := Keyed.sum_set OracleConfig.totalRewards hi
    { f.2 with totalRewards := 0 }
  have hkeys : roster (reg.oracles.set f.1 { f.2 with totalRewards := 0 })
      = roster reg.oracles := Keyed.map_set hi rfl
  refine ⟨reg, _, f.2.totalRewards, hreg, hsig, hpos,
    Ledger.moves_single hl, ?_, ?_, hkeys, rfl⟩
  · show ((reg.oracles.set _ _).map _).sum = (reg.oracles.map _).sum
    exact Nat.add_right_cancel h₁
  · show ((reg.oracles.set _ _).map _).sum + _ = (reg.oracles.map _).sum
    exact h₂

end KamiyoProtocol.Kamiyo
