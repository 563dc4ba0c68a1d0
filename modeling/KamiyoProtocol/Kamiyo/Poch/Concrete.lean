/-
A concrete environment for the subsystem, and the calls the witnesses
and counterexamples are made of.
-/
import KamiyoProtocol.Kamiyo.Poch.Program
import KamiyoProtocol.Solana.Concrete

namespace KamiyoProtocol.Kamiyo.Poch.Concrete

open Solana Solana.Concrete

/-- The kind of a seed, and what follows it. -/
def coding : Coding Seed where
  code
    | .pochSubmission owner chain => (0, owner, chain)
    | .pochStatus owner chain => (1, owner, chain)
    | .pochCommitment owner chain => (2, owner, chain)
    | .pochNullifier chain nullifier => (3, ⟨chain⟩, nullifier)

/-- The first part of the proof the owner holds, in its randomisation
`i`. A valid proof has many, with one verdict. -/
def proofA (i : UInt8) : Bytes := List.replicate 64 i

/-- The nullifier it proves. -/
def nullifier : Bytes := List.replicate 32 7

/-- The environment; the verifier accepts two randomisations of the
owner's proof, for the nullifier it proves. -/
def env : Env where
  toEnv := coding.env
  verifyPochUniquenessProof a _ _ inputs :=
    [proofA 1, proofA 2].contains a && inputs.contains nullifier

/-- An instruction of wallet 10. -/
def act (op : Op) : Action env :=
  ⟨txOf env.toEnv coding.wallet_ne_pda [10] 1000 [], op⟩

/-- The chain, the policy and the challenge, and their encodings. -/
def chain : Bytes := [98, 97, 115, 101]
def text : Bytes := [112]

theorem balances_fit :
    (([(wallet 10, 10000000000)] : List (Pubkey × Nat)).map Prod.snd).sum
      < supplyCap := by
  decide

def start : World where
  lamports := Ledger.ofList [(wallet 10, 10000000000)] balances_fit
  oracles := []
  submissions _ := none
  statuses _ := none
  commitments _ := none
  nullifiers _ := none

/-- The arguments that present the proof in randomisation `i`. -/
def args (i : UInt8) : VerifyArgs :=
  { chain := chain
    proofA := proofA i
    proofB := List.replicate 128 9
    proofC := List.replicate 64 9
    policyId := text
    challengeId := text
    identityNullifier := nullifier }

/-- Their encoding. -/
def data (i : UInt8) : Bytes :=
  [4, 0, 0, 0] ++ chain ++ proofA i ++ List.replicate 192 9
    ++ [1, 0, 0, 0] ++ text ++ [1, 0, 0, 0] ++ text ++ nullifier

def submit : Action env :=
  act (.initPochSubmission (wallet 10) chain text text text)

def commit : Action env :=
  act (.commitPochScoreBundle (env.pda (.pochSubmission (wallet 10) chain))
    (wallet 10) text (List.replicate 32 5))

def verify (i : UInt8) : Action env :=
  act (.verifyPochProof (wallet 10) (data i))

theorem start_genesis : Genesis start :=
  ⟨fun _ => rfl, fun _ => rfl, fun _ => rfl, fun _ => rfl⟩

end KamiyoProtocol.Kamiyo.Poch.Concrete
