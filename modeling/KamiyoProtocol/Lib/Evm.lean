/-
Contracts on an Ethereum virtual machine, as far as their callers see
them.

An address is a number, and zero is no one's. A call that reverts leaves
no trace, so a contract's functions are functions from the state before
the call to the state after it, or the error they revert with.

A contract that sends ether runs code of the payee. Where it does so last,
whatever the payee calls could as well be called after it, so a function
that ends in a payment is one step.
-/
import KamiyoProtocol.Lib.Exec
import KamiyoProtocol.Lib.Keyed

namespace Evm

open Exec

abbrev Address := Nat

/-- `address(0)`. -/
def zeroAddress : Address := 0

/-- What a call of a contract is made with. -/
structure Msg where
  sender : Address
  value : Nat
  timestamp : Nat

-- ==== arithmetic

/-- A conversion to `bits` bits, which drops what is above them. -/
def uint (bits n : Nat) : Nat := n % 2 ^ bits

/-- A conversion to a signed number of `bits` bits. -/
def int (bits : Nat) (n : Int) : Int := n.bmod (2 ^ bits)

/-- The result of an operation on numbers of `bits` bits. -/
def checked (bits n : Nat) : Except String Nat := do
  require (n < 2 ^ bits) "Panic"
  return n

/-- The result of an operation on signed numbers of `bits` bits. -/
def checkedInt (bits : Nat) (n : Int) : Except String Int := do
  require (-2 ^ (bits - 1) ≤ n ∧ n < 2 ^ (bits - 1)) "Panic"
  return n

theorem checked_ok {bits n m : Nat} :
    checked bits n = .ok m ↔ n < 2 ^ bits ∧ n = m := by
  unfold checked
  constructor
  · intro h
    obtain ⟨_, hlt, h⟩ := bind_ok.mp h
    exact ⟨require_ok.mp hlt, pure_ok.mp h⟩
  · rintro ⟨hlt, rfl⟩
    exact bind_ok.mpr ⟨(), require_ok.mpr hlt, rfl⟩

theorem checked_error {bits n : Nat} (h : ¬ n < 2 ^ bits) :
    checked bits n = .error "Panic" := by
  unfold checked require
  rw [if_neg h]
  rfl

theorem checkedInt_ok {bits : Nat} {n m : Int} :
    checkedInt bits n = .ok m
      ↔ (-2 ^ (bits - 1) ≤ n ∧ n < 2 ^ (bits - 1)) ∧ n = m := by
  unfold checkedInt
  constructor
  · intro h
    obtain ⟨_, hrange, h⟩ := bind_ok.mp h
    exact ⟨require_ok.mp hrange, pure_ok.mp h⟩
  · rintro ⟨hrange, rfl⟩
    exact bind_ok.mpr ⟨(), require_ok.mpr hrange, rfl⟩

-- ==== ether

/-- A call that may move ether: the addresses in `refusing` revert when
ether is sent to them in it. -/
structure Tx extends Msg where
  refusing : List Address

/-- What a contract has left of its ether once it has sent some. -/
def sendEther (tx : Tx) (balance : Nat) (payee : Address) (amount : Nat) :
    Except String Nat := do
  require (amount ≤ balance ∧ payee ∉ tx.refusing) "TransferFailed"
  return balance - amount

theorem sendEther_ok {tx : Tx} {balance amount left : Nat} {payee : Address} :
    sendEther tx balance payee amount = .ok left
      ↔ amount ≤ balance ∧ payee ∉ tx.refusing ∧ balance - amount = left := by
  unfold sendEther
  constructor
  · intro h
    obtain ⟨_, hpays, h⟩ := bind_ok.mp h
    obtain ⟨hle, hpayee⟩ := require_ok.mp hpays
    exact ⟨hle, hpayee, pure_ok.mp h⟩
  · rintro ⟨hle, hpayee, rfl⟩
    exact bind_ok.mpr ⟨(), require_ok.mpr ⟨hle, hpayee⟩, rfl⟩

/-- Where there is enough, only the payee decides. -/
theorem sendEther_funded {tx : Tx} {balance amount : Nat} {payee : Address}
    (h : amount ≤ balance) : sendEther tx balance payee amount
      = (require (payee ∉ tx.refusing) "TransferFailed").map
        fun _ => balance - amount := by
  unfold sendEther require
  by_cases hpayee : payee ∉ tx.refusing
  · rw [if_pos ⟨h, hpayee⟩, if_pos hpayee]
    rfl
  · rw [if_neg (fun hboth => hpayee hboth.2), if_neg hpayee]
    rfl

end Evm
