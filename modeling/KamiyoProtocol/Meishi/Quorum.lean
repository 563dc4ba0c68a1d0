/-
The oracle quorum in front of `record_audit` and
`update_compliance_score`.

The cosigner loop is sound: what it counts are distinct keys, each of
which signed and is listed active in the registry account it was given.
Which account that is, is another matter. `validate_agent_identity_account`
asks whether the owner of the account it is given is a kamiyo program;
`validate_oracle_registry_account` does not, and derives the expected
address from whatever program owns the account.
-/
import KamiyoProtocol.Meishi.Concrete

namespace KamiyoProtocol.Meishi

open Solana Exec

variable {env : Env Seed} {find : Finder} {w w' : World} {a : Action env}
  {acc : OracleWrite} {info : AccountInfo}

/-- The account is the oracle registry of a supported kamiyo program. -/
def IsKamiyoRegistry (find : Finder) (info : AccountInfo) : Prop :=
  isSupportedKamiyoProgram info.owner = true
    ∧ info.key = find [oracleRegistrySeed] info.owner

/-- As many distinct keys as the registry asks for signed the transaction,
each of them listed active in it. -/
def Quorate (tx : Tx env) (info : AccountInfo) : Prop :=
  ∃ (minConsensus : Nat) (active keys : List Pubkey),
    parseKamiyoOracleRegistry info.data = some (minConsensus, active)
    ∧ keys.Nodup ∧ minConsensus ≤ keys.length
    ∧ ∀ k ∈ keys, k ∈ tx.signers ∧ k ∈ active

/-- The write is backed by a quorum of a kamiyo registry. -/
def AuthenticQuorum (find : Finder) (tx : Tx env) (acc : OracleWrite) :
    Prop :=
  ∃ info, acc.oracleRegistry = some info ∧ IsKamiyoRegistry find info
    ∧ Quorate tx info

/-- The accounts of an oracle write. -/
def oracleWrite (a : Action env) : Option OracleWrite :=
  match a.op with
  | .recordAudit acc _ => some acc
  | .updateComplianceScore acc _ => some acc
  | _ => none

-- ==== the loop

theorem countCosigners_ok {tx : Tx env} {active cosigners : List Pubkey} :
    ∀ {participants keys : List Pubkey},
      countCosigners tx active participants cosigners = .ok keys →
      participants.Nodup →
      (∀ k ∈ participants, k ∈ tx.signers ∧ k ∈ active) →
      keys.Nodup ∧ ∀ k ∈ keys, k ∈ tx.signers ∧ k ∈ active := by
  induction cosigners with
  | nil =>
    intro participants keys h hnodup hall
    cases h
    exact ⟨hnodup, hall⟩
  | cons key rest ih =>
    intro participants keys h hnodup hall
    simp only [countCosigners, bind_ok, ensure_ok] at h
    obtain ⟨-, hsigned, -, hactive, h⟩ := h
    split at h
    · exact ih h hnodup hall
    · next hnew =>
        refine ih h ?_ ?_
        · rw [List.nodup_append]
          refine ⟨hnodup, List.nodup_singleton key, ?_⟩
          intro x hx y hy
          rw [List.mem_singleton] at hy
          subst hy
          rintro rfl
          exact hnew hx
        · intro k hk
          rcases List.mem_append.mp hk with hk | hk
          · exact hall k hk
          · rw [List.mem_singleton] at hk
            subst hk
            exact ⟨hsigned, hactive⟩

/-- What the check established: a quorum of the account, whose address is
derived at the account's own owner. -/
theorem verifyOracleQuorum_ok {tx : Tx env} {primary : Pubkey}
    {cosigners : List Pubkey} {u : Unit} (hsig : primary ∈ tx.signers)
    (h : verifyOracleQuorum find tx info primary cosigners = .ok u) :
    info.key = find [oracleRegistrySeed] info.owner ∧ Quorate tx info := by
  simp only [verifyOracleQuorum, validateOracleRegistryAccount, bind_ok,
    ensure_ok, okOr_ok] at h
  obtain ⟨-, hkey, ⟨minConsensus, active⟩, hparse, -, hprimary, keys, hkeys,
    hmin⟩ := h
  have hstart : ∀ k ∈ [primary], k ∈ tx.signers ∧ k ∈ active := by
    intro k hk
    rw [List.mem_singleton] at hk
    subst hk
    exact ⟨hsig, hprimary⟩
  obtain ⟨hnodup, hall⟩ :=
    countCosigners_ok hkeys (List.nodup_singleton primary) hstart
  exact ⟨hkey, minConsensus, active, keys, hparse, hnodup, hmin, hall⟩

-- ==== the gate

theorem oracleWrite_gated {p : MeishiPassport}
    (hs : step env find a w = .ok w') (ha : oracleWrite a = some acc)
    (hp : w.passports acc.passport = some p) :
    acc.oracle ∈ a.tx.signers ∧ authorizeOracle find a.tx acc p = .ok () := by
  unfold oracleWrite at ha
  unfold step at hs
  split at ha
  · next acc' r hop =>
      cases ha
      rw [hop] at hs
      simp only [recordAudit, bind_ok, requireSigner_ok, load_ok] at hs
      obtain ⟨-, hsig, p', hp', -, -, _, hgate, -⟩ := hs
      rw [hp] at hp'
      cases hp'
      exact ⟨hsig, hgate⟩
  · next acc' n hop =>
      cases ha
      rw [hop] at hs
      simp only [updateComplianceScore, bind_ok, requireSigner_ok,
        load_ok] at hs
      obtain ⟨-, hsig, p', hp', _, hgate, -⟩ := hs
      rw [hp] at hp'
      cases hp'
      exact ⟨hsig, hgate⟩
  · cases ha

/-- An oracle that is no authority of the passport brought a quorum of
the registry account it passed. -/
theorem oracleWrite_quorate {p : MeishiPassport}
    (hs : step env find a w = .ok w') (ha : oracleWrite a = some acc)
    (hp : w.passports acc.passport = some p)
    (hissuer : p.issuer ≠ acc.oracle) (hprincipal : p.principal ≠ acc.oracle) :
    ∃ info, acc.oracleRegistry = some info
      ∧ info.key = find [oracleRegistrySeed] info.owner
      ∧ Quorate a.tx info := by
  obtain ⟨hsig, hgate⟩ := oracleWrite_gated hs ha hp
  have hno : ¬ isPassportAuthority p acc.oracle = true := by
    simp [isPassportAuthority, hissuer, hprincipal]
  unfold authorizeOracle at hgate
  rw [if_neg hno] at hgate
  obtain ⟨info, hinfo, hquorum⟩ := bind_ok.mp hgate
  obtain ⟨hkey, hq⟩ := verifyOracleQuorum_ok hsig hquorum
  exact ⟨info, okOr_ok.mp hinfo, hkey, hq⟩

/-- An accepted write by an oracle that is no authority of the passport
is backed by a quorum of a kamiyo registry exactly when a supported
program owns the registry account it passed. -/
theorem quorum_authentic_iff {p : MeishiPassport}
    (hs : step env find a w = .ok w') (ha : oracleWrite a = some acc)
    (hp : w.passports acc.passport = some p)
    (hissuer : p.issuer ≠ acc.oracle) (hprincipal : p.principal ≠ acc.oracle) :
    AuthenticQuorum find a.tx acc
      ↔ ∀ info, acc.oracleRegistry = some info →
        isSupportedKamiyoProgram info.owner = true := by
  obtain ⟨info, hinfo, hkey, hq⟩ :=
    oracleWrite_quorate hs ha hp hissuer hprincipal
  constructor
  · rintro ⟨info', hinfo', ⟨hsupported, -⟩, -⟩ info'' hinfo''
    rw [hinfo'] at hinfo''
    cases hinfo''
    exact hsupported
  · intro h
    exact ⟨info, hinfo, ⟨h info hinfo, hkey⟩, hq⟩

namespace Concrete

open Solana.Concrete (wallet)

/-- The registry of a program, listing two active oracles. -/
def registryOf (owner : Pubkey) : AccountInfo :=
  ⟨Concrete.find [oracleRegistrySeed] owner, owner, Kamiyo.OracleRegistry.data
    ⟨wallet 1, [oracle 20 0, oracle 21 0], 2, 20, 0, 0, false, 0⟩ 255⟩

/-- Oracles 20 and 21 lower the score, with the registry of a program. -/
def lower (owner : Pubkey) : Action Concrete.env :=
  ⟨tx [20, 21] 5000 [], .updateComplianceScore
    ⟨wallet 20, passportKey, some (registryOf owner), [wallet 21]⟩ (-900)⟩

/-- The passport exists, and wallet 20 is no authority of it. -/
def outsider (w : World) : Bool :=
  match w.passports passportKey with
  | some p => p.issuer ≠ wallet 20 && p.principal ≠ wallet 20
  | none => false

theorem outsider_passport {w : World} (h : outsider w = true) :
    ∃ p, w.passports passportKey = some p ∧ p.issuer ≠ wallet 20
      ∧ p.principal ≠ wallet 20 := by
  unfold outsider at h
  split at h
  · next p hp =>
      rw [Bool.and_eq_true] at h
      exact ⟨p, hp, of_decide_eq_true h.1, of_decide_eq_true h.2⟩
  · cases h

set_option maxRecDepth 4000 in
theorem quorum_authentic_kamiyo : ∃ w w',
    run (step Concrete.env Concrete.find) World.empty [issue] = .ok w
      ∧ step Concrete.env Concrete.find (lower kamiyoProgramIdPrimary) w
        = .ok w'
      ∧ AuthenticQuorum Concrete.find (lower kamiyoProgramIdPrimary).tx
        ⟨wallet 20, passportKey, some (registryOf kamiyoProgramIdPrimary),
          [wallet 21]⟩ := by
  obtain ⟨w, hrun, hw⟩ := check_ok
    (show check (fun w => outsider w
        && check (fun _ => true) (step Concrete.env Concrete.find
          (lower kamiyoProgramIdPrimary) w))
      (run (step Concrete.env Concrete.find) World.empty [issue]) = true
      by decide)
  rw [Bool.and_eq_true] at hw
  obtain ⟨w', hstep, -⟩ := check_ok hw.2
  obtain ⟨p, hp, hissuer, hprincipal⟩ := outsider_passport hw.1
  refine ⟨w, w', hrun, hstep,
    (quorum_authentic_iff hstep rfl hp hissuer hprincipal).mpr ?_⟩
  intro info hinfo
  cases hinfo
  decide

set_option maxRecDepth 4000 in
/-- A program of the attacker's, with a registry of its own. -/
theorem quorum_foreign : ∃ w w' p,
    run (step Concrete.env Concrete.find) World.empty [issue] = .ok w
      ∧ step Concrete.env Concrete.find (lower (wallet 99)) w = .ok w'
      ∧ w.passports passportKey = some p ∧ p.issuer ≠ wallet 20
      ∧ p.principal ≠ wallet 20
      ∧ ¬ AuthenticQuorum Concrete.find (lower (wallet 99)).tx
        ⟨wallet 20, passportKey, some (registryOf (wallet 99)),
          [wallet 21]⟩ := by
  obtain ⟨w, hrun, hw⟩ := check_ok
    (show check (fun w => outsider w
        && check (fun _ => true) (step Concrete.env Concrete.find
          (lower (wallet 99)) w))
      (run (step Concrete.env Concrete.find) World.empty [issue]) = true
      by decide)
  rw [Bool.and_eq_true] at hw
  obtain ⟨w', hstep, -⟩ := check_ok hw.2
  obtain ⟨p, hp, hissuer, hprincipal⟩ := outsider_passport hw.1
  refine ⟨w, w', p, hrun, hstep, hp, hissuer, hprincipal, ?_⟩
  rintro ⟨info, hinfo, ⟨hsupported, -⟩, -⟩
  cases hinfo
  exact absurd hsupported (by decide)

end Concrete

end KamiyoProtocol.Meishi
