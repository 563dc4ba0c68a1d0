/-
The stake gate of the escrow program against the staking program it
reads.

The gate looks for an oracle's position at the address derived from the
seed "stake_position"; the staking program puts it at the one derived
from "position". So the account the gate would accept is never there,
and every position is rejected, whatever its stake. `stake_gate_iff`
says how far the two still agree, and `verifyOracleStake_layout` that
the seed is all that separates them: owner, discriminator and fields are
where the gate reads them.
-/
import KamiyoProtocol.CompanionEscrow.Program
import KamiyoProtocol.Solana.Concrete
import KamiyoProtocol.Staking.Layout

namespace KamiyoProtocol.CompanionEscrow

open Solana Exec

-- ==== deployment

/-- `declare_id!`. -/
def programId : Pubkey :=
  ⟨[215, 99, 204, 62, 150, 16, 196, 15, 147, 21, 98, 51, 77, 152, 65,
    213, 50, 184, 14, 95, 26, 211, 103, 160, 106, 172, 202, 136, 87, 27,
    173, 172]⟩

/-- The seeds as byte strings: `oracle_config`, `token_treasury`, `escrow`
followed by the user and the session, and `stake_position` followed by
the oracle. -/
def Seed.bytes : Seed → List Bytes
  | .oracleConfig =>
    [[111, 114, 97, 99, 108, 101, 95, 99, 111, 110, 102, 105, 103]]
  | .tokenTreasury =>
    [[116, 111, 107, 101, 110, 95, 116, 114, 101, 97, 115, 117, 114, 121]]
  | .escrow user sessionId =>
    [[101, 115, 99, 114, 111, 119], user.bytes, sessionId]
  | .stakePosition oracle =>
    [[115, 116, 97, 107, 101, 95, 112, 111, 115, 105, 116, 105, 111, 110],
      oracle.bytes]

/-- The program an address is derived at. -/
def Seed.program : Seed → Pubkey
  | .stakePosition _ => kamiyoStakingProgramId
  | _ => programId

/-- The two programs on one chain: both derive their addresses with
`find_program_address`, which takes no two pairs of seeds and program to
one address. -/
structure Deployment where
  findProgramAddress : List Bytes → Pubkey → Pubkey
  injective : ∀ s t p q, findProgramAddress s p = findProgramAddress t q →
    s = t ∧ p = q
  escrow : Env Seed
  staking : Env Staking.Seed
  escrow_pda : ∀ s, escrow.pda s = findProgramAddress s.bytes s.program
  staking_pda : ∀ s, staking.pda s
    = findProgramAddress s.bytes Staking.programId

variable {d : Deployment} {w : Staking.World} {oracle : Pubkey}

/-- A position's account. -/
def positionAccount (d : Deployment) (user : Pubkey)
    (p : Staking.StakePosition) (bump : UInt8) : AccountInfo :=
  ⟨d.staking.pda (.position user), Staking.programId,
    Staking.positionData p bump⟩

/-- The accounts there are beside a state of the staking program: those
it wrote, those assigned to it that it never wrote, and everyone
else's. -/
inductive OnChain (d : Deployment) (w : Staking.World) (info : AccountInfo) :
    Prop
  | position (user : Pubkey) (p : Staking.StakePosition) (bump : UInt8)
      (hmem : (user, p) ∈ w.positions)
      (hinfo : info = positionAccount d user p bump)
  | pool (pool : Staking.StakingPool) (bump : UInt8)
      (hpool : w.pool = some pool)
      (hinfo : info = ⟨d.staking.pda .pool, Staking.programId,
        Staking.poolData pool bump⟩)
  | unwritten (howner : info.owner = Staking.programId)
      (hdata : ∀ b ∈ info.data, b = 0)
  | foreign (howner : info.owner ≠ Staking.programId)

/-- The account is the oracle's position `p`. -/
def IsPosition (d : Deployment) (w : Staking.World) (oracle : Pubkey)
    (p : Staking.StakePosition) (info : AccountInfo) : Prop :=
  (oracle, p) ∈ w.positions ∧ ∃ bump, info = positionAccount d oracle p bump

-- ==== the property

/-- The gate's verdict on an account: of the oracle's position, whether
the minimum is staked, and false of any other account. -/
structure Agrees (d : Deployment) (w : Staking.World) (oracle : Pubkey)
    (info : AccountInfo) : Prop where
  position : ∀ p, IsPosition d w oracle p info →
    verifyOracleStake d.escrow info oracle
      = .ok (decide (minOracleStake ≤ p.stakedAmount))
  other : (∀ p, ¬ IsPosition d w oracle p info) →
    verifyOracleStake d.escrow info oracle = .ok false

-- ==== the seeds

/-- The address the gate expects is not one the staking program
derives. -/
theorem stakePosition_ne (s : Staking.Seed) :
    d.staking.pda s ≠ d.escrow.pda (.stakePosition oracle) := by
  rw [d.escrow_pda, d.staking_pda]
  intro h
  obtain ⟨hseeds, -⟩ := d.injective _ _ _ _ h
  cases s with
  | _ => simp [Staking.Seed.bytes, Seed.bytes] at hseeds

variable {info : AccountInfo}

theorem verify_of_key_ne (h : info.key ≠ d.escrow.pda (.stakePosition oracle)) :
    verifyOracleStake d.escrow info oracle = .ok false := by
  unfold verifyOracleStake
  rw [if_pos h]

theorem verify_of_owner_ne (h : info.owner ≠ kamiyoStakingProgramId) :
    verifyOracleStake d.escrow info oracle = .ok false := by
  unfold verifyOracleStake
  by_cases hkey : info.key ≠ d.escrow.pda (.stakePosition oracle)
  · rw [if_pos hkey]
  · rw [if_neg hkey, if_pos h]

theorem verify_of_zeroed (h : ∀ b ∈ info.data, b = 0) :
    verifyOracleStake d.escrow info oracle = .ok false := by
  have hdata : info.data.length < 8
      ∨ info.data.take 8 ≠ stakePositionDiscriminator := by
    right
    intro htake
    have hmem : (78 : UInt8) ∈ info.data := by
      apply List.mem_of_mem_take (i := 8)
      rw [htake]
      simp [stakePositionDiscriminator]
    exact absurd (h _ hmem) (by decide)
  unfold verifyOracleStake
  by_cases hkey : info.key ≠ d.escrow.pda (.stakePosition oracle)
  · rw [if_pos hkey]
  · rw [if_neg hkey]
    by_cases howner : info.owner ≠ kamiyoStakingProgramId
    · rw [if_pos howner]
    · rw [if_neg howner, if_pos hdata]

theorem verify_false (h : OnChain d w info) :
    verifyOracleStake d.escrow info oracle = .ok false := by
  cases h with
  | position user p bump _ hinfo =>
    subst hinfo
    exact verify_of_key_ne (stakePosition_ne _)
  | pool pool bump _ hinfo =>
    subst hinfo
    exact verify_of_key_ne (stakePosition_ne _)
  | unwritten _ hdata => exact verify_of_zeroed hdata
  | foreign howner => exact verify_of_owner_ne howner

-- ==== the layout

theorem verifyOracleStake_layout {p : Staking.StakePosition} {bump : UInt8}
    (h32 : oracle.bytes.length = 32) (howner : p.owner = oracle)
    (hsmall : p.stakedAmount < 2 ^ 64) :
    verifyOracleStake d.escrow ⟨d.escrow.pda (.stakePosition oracle),
        Staking.programId, Staking.positionData p bump⟩ oracle
      = .ok (decide (minOracleStake ≤ p.stakedAmount)) := by
  subst howner
  have hread : ¬ ((Staking.positionData p bump).length < 8
      ∨ (Staking.positionData p bump).take 8 ≠ stakePositionDiscriminator) := by
    intro h
    rcases h with hshort | htag
    · exact absurd Staking.length_positionData (Nat.not_le_of_lt hshort)
    · exact htag Staking.take_positionData
  have hprogram : ¬ Staking.programId ≠ kamiyoStakingProgramId :=
    not_not_intro rfl
  unfold verifyOracleStake
  rw [if_neg (not_not_intro rfl), if_neg hprogram, if_neg hread]
  apply bind_ok.mpr
  refine ⟨p.owner.bytes, ?_, ?_⟩
  · exact okOr_ok.mpr (Staking.window_owner h32)
  · apply bind_ok.mpr
    refine ⟨Bytes.le 8 p.stakedAmount, ?_, ?_⟩
    · exact okOr_ok.mpr (Staking.window_staked h32)
    · rw [if_neg (not_not_intro rfl), Bytes.leNat_le hsmall]

-- ==== the theorem

/-- On the accounts there are, the gate's verdict is right exactly for
those that are not a position of the oracle's with the minimum at
stake. -/
theorem stake_gate_iff {info : AccountInfo} (h : OnChain d w info)
    (oracle : Pubkey) :
    Agrees d w oracle info
      ↔ ∀ p, IsPosition d w oracle p info →
          p.stakedAmount < minOracleStake := by
  constructor
  · intro hagrees p hp
    have hverdict := hagrees.position p hp
    rw [verify_false h] at hverdict
    have hfalse := Except.ok.inj hverdict
    exact Nat.lt_of_not_le (of_decide_eq_false hfalse.symm)
  · intro hsmall
    refine ⟨?_, fun _ => verify_false h⟩
    intro p hp
    rw [verify_false h, decide_eq_false (Nat.not_le_of_lt (hsmall p hp))]

-- ==== instances

namespace Gate

open Solana.Concrete

/-- A program derived address: the program, then the seeds. -/
def encodeSeeds : List Bytes → Bytes
  | [] => []
  | s :: rest => delimit s (encodeSeeds rest)

theorem encodeSeeds_inj {s t : List Bytes}
    (h : encodeSeeds s = encodeSeeds t) : s = t := by
  induction s generalizing t with
  | nil =>
    cases t with
    | nil => rfl
    | cons y ys =>
      cases y with
      | nil => simp [encodeSeeds, delimit] at h
      | cons b bs => simp [encodeSeeds, delimit] at h
  | cons x xs ih =>
    cases t with
    | nil =>
      cases x with
      | nil => simp [encodeSeeds, delimit] at h
      | cons b bs => simp [encodeSeeds, delimit] at h
    | cons y ys =>
      obtain ⟨hhead, hrest⟩ := delimit_inj h
      rw [hhead, ih hrest]

def findProgramAddress (seeds : List Bytes) (program : Pubkey) : Pubkey :=
  ⟨delimit program.bytes (encodeSeeds seeds)⟩

theorem findProgramAddress_inj (s t : List Bytes) (p q : Pubkey)
    (h : findProgramAddress s p = findProgramAddress t q) :
    s = t ∧ p = q := by
  obtain ⟨hprogram, hseeds⟩ := delimit_inj (congrArg Pubkey.bytes h)
  refine ⟨encodeSeeds_inj hseeds, ?_⟩
  cases p
  cases q
  cases hprogram
  rfl

theorem staking_bytes_inj {s t : Staking.Seed} (h : s.bytes = t.bytes) :
    s = t := by
  cases s with
  | position user =>
    cases t with
    | position user' =>
      simp only [Staking.Seed.bytes, List.cons.injEq, true_and, and_true] at h
      cases user
      cases user'
      cases h
      rfl
    | _ => simp [Staking.Seed.bytes] at h
  | _ =>
    cases t with
    | position user => simp [Staking.Seed.bytes] at h
    | _ => first | rfl | simp [Staking.Seed.bytes] at h

theorem escrow_bytes_inj {s t : Seed} (h : s.bytes = t.bytes) : s = t := by
  cases s with
  | escrow user id =>
    cases t with
    | escrow user' id' =>
      simp only [Seed.bytes, List.cons.injEq, true_and, and_true] at h
      obtain ⟨huser, hid⟩ := h
      cases user
      cases user'
      cases huser
      cases hid
      rfl
    | _ => simp [Seed.bytes] at h
  | stakePosition oracle =>
    cases t with
    | stakePosition oracle' =>
      simp only [Seed.bytes, List.cons.injEq, true_and, and_true] at h
      cases oracle
      cases oracle'
      cases h
      rfl
    | _ => simp [Seed.bytes] at h
  | _ =>
    cases t with
    | escrow user id => simp [Seed.bytes] at h
    | stakePosition oracle => simp [Seed.bytes] at h
    | _ => first | rfl | simp [Seed.bytes] at h

def staking : Env Staking.Seed :=
  envOf (fun s => (findProgramAddress s.bytes Staking.programId).bytes) (by
    intro s t h
    apply staking_bytes_inj
    exact encodeSeeds_inj (delimit_inj h).2)

def escrow : Env Seed :=
  envOf (fun s => (findProgramAddress s.bytes s.program).bytes) (by
    intro s t h
    apply escrow_bytes_inj
    exact encodeSeeds_inj (delimit_inj h).2)

def deployment : Deployment :=
  ⟨findProgramAddress, findProgramAddress_inj, escrow, staking,
    fun _ => rfl, fun _ => rfl⟩

theorem wallet_ne_pda (i : UInt8) (s : Staking.Seed) :
    staking.pda s ≠ wallet i := by
  intro h
  have hb : delimit Staking.programId.bytes (encodeSeeds s.bytes)
      = walletTag :: List.replicate 31 i := congrArg Pubkey.bytes h
  simp [Staking.programId, delimit, walletTag] at hb

def mint : Pubkey := wallet 50

def ata : Pubkey := staking.ata (wallet 10) mint

/-- Wallet 10 holds what it is going to stake. -/
def start : Staking.World where
  now := 1000
  pool := none
  positions := []
  tokens := tokensOf [(ata, ⟨mint, wallet 10, 100000000000⟩)]

def act (signers : List UInt8) (op : Staking.Op) :
    Staking.Action staking :=
  ⟨txOf staking wallet_ne_pda signers 1000 [], op⟩

/-- Wallet 10 stakes the minimum. -/
def staked : List (Staking.Action staking) :=
  [act [1] (.initializePool ⟨mint, wallet 1⟩),
    act [10] (.stake ⟨ata, wallet 10⟩ 100000000000)]

/-- It takes some of it out again. -/
def reduced : List (Staking.Action staking) :=
  staked ++ [act [10] (.unstake ⟨ata, wallet 10, wallet 10⟩ 1)]

/-- The position it has then. -/
def position (amount : Nat) : Staking.StakePosition :=
  ⟨wallet 10, amount, 1000, 1000, 0, 0⟩

end Gate

open Gate Solana.Concrete in
theorem verifyOracleStake_layout_minimum :
    verifyOracleStake deployment.escrow
      ⟨deployment.escrow.pda (.stakePosition (wallet 10)), Staking.programId,
        Staking.positionData (position 100000000000) 255⟩ (wallet 10)
      = .ok true :=
  verifyOracleStake_layout (p := position 100000000000) rfl rfl (by decide)

open Gate Solana.Concrete in
/-- A position below the minimum is turned away, rightly. -/
theorem stake_gate_iff_reduced :
    ∃ w, run (Staking.step staking) start reduced = .ok w
      ∧ Agrees deployment w (wallet 10)
        (positionAccount deployment (wallet 10) (position 99999999999)
          255) := by
  obtain ⟨w, hrun, h⟩ := check_ok (show check
      (fun w : Staking.World => decide (w.positions
        = [(wallet 10, position 99999999999)]))
      (run (Staking.step staking) start reduced) = true
    by decide)
  rw [decide_eq_true_eq] at h
  refine ⟨w, hrun, ?_⟩
  have hmem : (wallet 10, position 99999999999) ∈ w.positions := by
    rw [h]
    exact List.mem_singleton.mpr rfl
  apply (stake_gate_iff (.position _ _ 255 hmem rfl) (wallet 10)).mpr
  intro p hp
  obtain ⟨hpos, -⟩ := hp
  rw [h] at hpos
  cases List.mem_singleton.mp hpos
  decide

open Gate Solana.Concrete in
/-- A position with the minimum at stake is turned away too. -/
theorem stake_gate_closed :
    ∃ w, run (Staking.step staking) start staked = .ok w
      ∧ (position 100000000000).stakedAmount = minOracleStake
      ∧ IsPosition deployment w (wallet 10) (position 100000000000)
        (positionAccount deployment (wallet 10) (position 100000000000)
          255)
      ∧ verifyOracleStake deployment.escrow
        (positionAccount deployment (wallet 10) (position 100000000000)
          255) (wallet 10) = .ok false
      ∧ ¬ Agrees deployment w (wallet 10)
        (positionAccount deployment (wallet 10) (position 100000000000)
          255) := by
  obtain ⟨w, hrun, h⟩ := check_ok (show check
      (fun w : Staking.World => decide (w.positions
        = [(wallet 10, position 100000000000)]))
      (run (Staking.step staking) start staked) = true
    by decide)
  rw [decide_eq_true_eq] at h
  have hmem : (wallet 10, position 100000000000) ∈ w.positions := by
    rw [h]
    exact List.mem_singleton.mpr rfl
  have hverdict : verifyOracleStake deployment.escrow
      (positionAccount deployment (wallet 10) (position 100000000000) 255)
      (wallet 10) = .ok false :=
    verify_false (.position _ _ 255 hmem rfl)
  refine ⟨w, hrun, rfl, ⟨hmem, 255, rfl⟩, hverdict, ?_⟩
  intro hagrees
  have htrue := hagrees.position _ ⟨hmem, 255, rfl⟩
  rw [hverdict] at htrue
  exact absurd (Except.ok.inj htrue) (by decide)

end KamiyoProtocol.CompanionEscrow
