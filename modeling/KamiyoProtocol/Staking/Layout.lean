/-
The accounts of the staking program as other programs see them: where
they are and what bytes they hold.

An account's data is the discriminator of its type, the first bytes of
the hash of "account:" and the type's name, and then the fields in the
order of their declaration, in Borsh. The bump, which nothing else in
this development reads, is a parameter.
-/
import KamiyoProtocol.Lib.Bytes
import KamiyoProtocol.Staking.Pool

namespace KamiyoProtocol.Staking

open Solana

/-- `declare_id!`. -/
def programId : Pubkey :=
  ⟨[124, 230, 87, 84, 194, 8, 76, 154, 18, 52, 243, 98, 115, 19, 143,
    155, 158, 117, 28, 240, 105, 204, 140, 188, 107, 179, 210, 224, 64,
    192, 131, 91]⟩

/-- The seeds as byte strings: `pool`, `vault`, `rewards`, and `position`
followed by the user. -/
def Seed.bytes : Seed → List Bytes
  | .pool => [[112, 111, 111, 108]]
  | .vault => [[118, 97, 117, 108, 116]]
  | .rewards => [[114, 101, 119, 97, 114, 100, 115]]
  | .position user => [[112, 111, 115, 105, 116, 105, 111, 110], user.bytes]

/-- An i64 in its two's complement. -/
def i64Bytes (t : Int) : Bytes := Bytes.le 8 (t % 2 ^ 64).toNat

def poolDiscriminator : Bytes := [203, 19, 214, 220, 220, 154, 24, 102]

def positionDiscriminator : Bytes := [78, 165, 30, 111, 171, 125, 11, 220]

/-- The data of the pool account. -/
def poolData (pool : StakingPool) (bump : UInt8) : Bytes :=
  poolDiscriminator ++ pool.admin.bytes ++ pool.tokenMint.bytes
    ++ pool.tokenVault.bytes ++ pool.rewardsVault.bytes
    ++ Bytes.le 8 pool.totalStaked ++ Bytes.le 8 pool.totalWeightedStake
    ++ Bytes.le 16 pool.accumulatedRewardsPerShare
    ++ i64Bytes pool.lastDistributionTime
    ++ Bytes.le 8 pool.totalRewardsDistributed
    ++ [if pool.isPaused then 1 else 0, bump]

/-- The fields of a position after the staked amount. -/
def positionRest (p : StakePosition) (bump : UInt8) : Bytes :=
  i64Bytes p.stakeStartTime ++ i64Bytes p.lastClaimTime
    ++ Bytes.le 16 p.rewardsDebt ++ Bytes.le 8 p.totalClaimed ++ [bump]

/-- The data of a position account. -/
def positionData (p : StakePosition) (bump : UInt8) : Bytes :=
  positionDiscriminator ++ (p.owner.bytes
    ++ (Bytes.le 8 p.stakedAmount ++ positionRest p bump))

variable {p : StakePosition} {bump : UInt8}

theorem take_positionData :
    (positionData p bump).take 8 = positionDiscriminator := by
  show (positionDiscriminator ++ _).take positionDiscriminator.length = _
  exact List.take_left

theorem length_positionData : 8 ≤ (positionData p bump).length := by
  rw [positionData, List.length_append]
  exact Nat.le_add_right 8 _

theorem window_owner (h : p.owner.bytes.length = 32) :
    Bytes.window (positionData p bump) 8 32 = some p.owner.bytes := by
  rw [← h]
  exact Bytes.window_append positionDiscriminator _ _

theorem window_staked (h : p.owner.bytes.length = 32) :
    Bytes.window (positionData p bump) 40 8
      = some (Bytes.le 8 p.stakedAmount) := by
  have hwindow := Bytes.window_append (positionDiscriminator
    ++ p.owner.bytes) (Bytes.le 8 p.stakedAmount) (positionRest p bump)
  have hoff : (positionDiscriminator ++ p.owner.bytes).length = 40 := by
    rw [List.length_append, h]
    rfl
  rw [hoff, Bytes.length_le, List.append_assoc] at hwindow
  exact hwindow

end KamiyoProtocol.Staking
