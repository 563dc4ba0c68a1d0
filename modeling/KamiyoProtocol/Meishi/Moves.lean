/-
What one instruction of the meishi program does to passports and
mandates.

`step_moved` is the inversion lemma the invariants are derived from. An
instruction issues a passport, signs the next mandate of one, revokes a
mandate, changes a passport in fields no mandate depends on, or leaves
passports and mandates alone.
-/
import KamiyoProtocol.Meishi.Program

namespace KamiyoProtocol.Meishi

open Solana Exec Function

variable {env : Env Seed} {find : Finder} {w w' : World}

/-- The fields of a passport that cache its mandate. -/
structure SameMandate (p p' : MeishiPassport) : Prop where
  hash : p'.mandateHash = p.mandateHash
  expires : p'.mandateExpires = p.mandateExpires
  version : p'.mandateVersion = p.mandateVersion

/-- The mandate `update_mandate` stores. -/
def signed (acc : UpdateMandateAccounts) (version : Nat)
    (t : MandateTerms) (principalSignature : Bytes) : MeishiMandate :=
  ⟨acc.passport, version, principalSignature, t, false, 0⟩

/-- The passport `update_mandate` leaves. -/
def mandated (env : Env Seed) (tx : Tx env) (acc : UpdateMandateAccounts)
    (t : MandateTerms) (p : MeishiPassport) : MeishiPassport :=
  { p with
    mandateHash := computeMandateMessageHash env acc.passport
      (p.mandateVersion + 1) t
    mandateExpires := t.validUntil
    mandateVersion := p.mandateVersion + 1
    updatedAt := tx.clock }

/-- The passport `revoke_mandate` leaves. -/
def unmandated (tx : Tx env) (p : MeishiPassport) : MeishiPassport :=
  { p with
    mandateHash := zeroHash
    mandateExpires := 0
    updatedAt := tx.clock }

/-- An accepted `update_mandate`, and what it required. -/
structure Update (a : Action env) (w w' : World) (i : Nat)
    (acc : UpdateMandateAccounts) (t : MandateTerms)
    (principalSignature : Bytes) (p : MeishiPassport) : Prop where
  op : a.op = .updateMandate i acc t principalSignature
  signer : acc.principal ∈ a.tx.signers
  passport : w.passports acc.passport = some p
  principal : p.principal = acc.principal
  room : p.mandateVersion + 1 < 2 ^ 32
  fresh : w.mandates
    (env.pda (.mandate acc.passport (p.mandateVersion + 1))) = none
  terms : validateTerms a.tx t = .ok ()
  verified : verifyEd25519MandateSignature a.tx.instructions i acc.principal
    (computeMandateMessageHash env acc.passport (p.mandateVersion + 1) t)
    principalSignature = .ok ()
  after : w' = (w.setMandate
      (env.pda (.mandate acc.passport (p.mandateVersion + 1)))
      (signed acc (p.mandateVersion + 1) t principalSignature)).setPassport
    acc.passport (mandated env a.tx acc t p)

/-- An accepted `revoke_mandate`, and what it required. -/
structure Revocation (a : Action env) (w w' : World)
    (acc : RevokeMandateAccounts) (p : MeishiPassport)
    (m : MeishiMandate) : Prop where
  op : a.op = .revokeMandate acc
  signer : acc.principal ∈ a.tx.signers
  passport : w.passports acc.passport = some p
  principal : p.principal = acc.principal
  mandate : w.mandates acc.mandate = some m
  ofPassport : m.meishi = acc.passport
  live : m.revoked = false
  after : w' = (w.setMandate acc.mandate
      { m with revoked := true, revokedAt := a.tx.clock }).setPassport
    acc.passport (unmandated a.tx p)

/-- What one instruction does to passports and mandates. -/
inductive Moved (env : Env Seed) (a : Action env) (w w' : World) : Prop
  | issued (id : Pubkey) (p : MeishiPassport)
      (hnew : w.passports (env.pda (.passport id)) = none)
      (hversion : p.mandateVersion = 0) (hhash : p.mandateHash = zeroHash)
      (hexpires : p.mandateExpires = 0)
      (hw : w' = w.setPassport (env.pda (.passport id)) p)
  | updated (i : Nat) (acc : UpdateMandateAccounts) (t : MandateTerms)
      (s : Bytes) (p : MeishiPassport) (h : Update a w w' i acc t s p)
  | revoked (acc : RevokeMandateAccounts) (p : MeishiPassport)
      (m : MeishiMandate) (h : Revocation a w w' acc p m)
  | touched (k : Pubkey) (p p' : MeishiPassport)
      (hp : w.passports k = some p) (hsame : SameMandate p p')
      (hpass : w'.passports = update w.passports k (some p'))
      (hmand : w'.mandates = w.mandates)
  | aside (hpass : w'.passports = w.passports)
      (hmand : w'.mandates = w.mandates)

variable {a : Action env}

theorem touched_set {w₁ : World} {k : Pubkey} {p p' : MeishiPassport}
    (hp : w.passports k = some p) (hpass : w₁.passports = w.passports)
    (hmand : w₁.mandates = w.mandates) (hsame : SameMandate p p') :
    Moved env a w (w₁.setPassport k p') :=
  .touched k p p' hp hsame
    (congrArg (fun f : Pubkey → Option MeishiPassport =>
      update f k (some p')) hpass) hmand

theorem createMeishi_moved {acc : CreateMeishiAccounts} {j : Nat}
    (h : createMeishi env find a.tx acc j w = .ok w') :
    Moved env a w w' := by
  simp only [createMeishi, bind_ok, requireFresh_ok] at h
  obtain ⟨-, -, -, hnew, -, -, -, -, hw⟩ := h
  cases hw
  exact .issued acc.agentIdentity.key _ hnew rfl rfl rfl rfl

theorem updateMandate_update {i : Nat} {acc : UpdateMandateAccounts}
    {t : MandateTerms} {s : Bytes}
    (hop : a.op = .updateMandate i acc t s)
    (h : updateMandate env a.tx i acc t s w = .ok w') :
    ∃ p, Update a w w' i acc t s p := by
  simp only [updateMandate, bind_ok, requireSigner_ok, load_ok,
    ensure_ok, requireFresh_ok, okOr_ok, Fixed.checkedAdd_some] at h
  obtain ⟨-, hsig, p, hp, -, hprincipal, -, -, -, hfresh, _, hterms, v,
    ⟨hroom, rfl⟩, _, hverified, hw⟩ := h
  cases hw
  exact ⟨p, hop, hsig, hp, hprincipal, hroom, hfresh, hterms, hverified, rfl⟩

theorem revokeMandate_revocation {acc : RevokeMandateAccounts}
    (hop : a.op = .revokeMandate acc)
    (h : revokeMandate a.tx acc w = .ok w') :
    ∃ p m, Revocation a w w' acc p m := by
  simp only [revokeMandate, bind_ok, requireSigner_ok, load_ok, ensure_ok] at h
  obtain ⟨-, hsig, p, hp, -, hprincipal, m, hm, -, hof, -, hlive, hw⟩ := h
  cases hw
  exact ⟨p, m, hop, hsig, hp, hprincipal, hm, hof, hlive, rfl⟩

theorem recordAudit_moved {acc : OracleWrite} {r : AuditReport}
    (h : recordAudit env find a.tx acc r w = .ok w') :
    Moved env a w w' := by
  simp only [recordAudit, bind_ok, load_ok] at h
  obtain ⟨-, -, p, hp, -, -, -, -, -, -, -, -, -, -, n, -, hw⟩ := h
  cases hw
  exact touched_set hp rfl rfl ⟨rfl, rfl, rfl⟩

theorem updateComplianceScore_moved {acc : OracleWrite} {n : Int}
    (h : updateComplianceScore find a.tx acc n w = .ok w') :
    Moved env a w w' := by
  simp only [updateComplianceScore, bind_ok, load_ok] at h
  obtain ⟨-, -, p, hp, -, -, -, -, h⟩ := h
  split at h
  · cases h
    exact touched_set hp rfl rfl ⟨rfl, rfl, rfl⟩
  · cases h
    exact touched_set hp rfl rfl ⟨rfl, rfl, rfl⟩

theorem suspendMeishi_moved {acc : AuthorityAccounts} {r : Nat}
    (h : suspendMeishi a.tx acc r w = .ok w') : Moved env a w w' := by
  simp only [suspendMeishi, bind_ok, load_ok] at h
  obtain ⟨-, -, p, hp, -, -, -, -, -, -, hw⟩ := h
  cases hw
  exact touched_set hp rfl rfl ⟨rfl, rfl, rfl⟩

theorem unsuspendMeishi_moved {acc : AuthorityAccounts}
    (h : unsuspendMeishi a.tx acc w = .ok w') : Moved env a w w' := by
  simp only [unsuspendMeishi, bind_ok, load_ok] at h
  obtain ⟨-, -, p, hp, -, -, -, -, hw⟩ := h
  cases hw
  exact touched_set hp rfl rfl ⟨rfl, rfl, rfl⟩

theorem setLiabilityAllocation_moved {acc : SetLiabilityAccounts}
    {args : LiabilityArgs}
    (h : setLiabilityAllocation env a.tx acc args w = .ok w') :
    Moved env a w w' := by
  simp only [setLiabilityAllocation, bind_ok] at h
  obtain ⟨-, -, -, -, p, -, -, -, -, -, -, -, -, -, -, -, -, -, -, -, hw⟩ := h
  cases hw
  exact .aside rfl rfl

theorem recordTransaction_moved {acc : AuthorityAccounts} {n : Nat}
    {d l : Bool} (h : recordTransaction a.tx acc n d l w = .ok w') :
    Moved env a w w' := by
  simp only [recordTransaction, bind_ok, load_ok] at h
  obtain ⟨-, -, p, hp, -, -, -, -, -, -, _, -, _, -, _, -, _, -, hw⟩ := h
  cases hw
  exact touched_set hp rfl rfl ⟨rfl, rfl, rfl⟩

theorem transferPrincipal_moved {acc : TransferPrincipalAccounts}
    (h : transferPrincipal a.tx acc w = .ok w') : Moved env a w w' := by
  simp only [transferPrincipal, bind_ok, load_ok] at h
  obtain ⟨-, -, p, hp, -, -, hw⟩ := h
  cases hw
  exact touched_set hp rfl rfl ⟨rfl, rfl, rfl⟩

theorem step_moved (h : step env find a w = .ok w') :
    Moved env a w w' := by
  unfold step at h
  cases hop : a.op with
  | createMeishi acc j =>
    rw [hop] at h
    exact createMeishi_moved h
  | updateMandate i acc t s =>
    rw [hop] at h
    obtain ⟨p, hp⟩ := updateMandate_update hop h
    exact .updated i acc t s p hp
  | revokeMandate acc =>
    rw [hop] at h
    obtain ⟨p, m, hm⟩ := revokeMandate_revocation hop h
    exact .revoked acc p m hm
  | recordAudit acc r =>
    rw [hop] at h
    exact recordAudit_moved h
  | updateComplianceScore acc n =>
    rw [hop] at h
    exact updateComplianceScore_moved h
  | suspendMeishi acc r =>
    rw [hop] at h
    exact suspendMeishi_moved h
  | unsuspendMeishi acc =>
    rw [hop] at h
    exact unsuspendMeishi_moved h
  | setLiabilityAllocation acc args =>
    rw [hop] at h
    exact setLiabilityAllocation_moved h
  | recordTransaction acc n d l =>
    rw [hop] at h
    exact recordTransaction_moved h
  | transferPrincipal acc =>
    rw [hop] at h
    exact transferPrincipal_moved h

-- ==== bookkeeping

/-- Mandates stand at the address of their passport and version, which
the passport has reached. -/
structure Kept (env : Env Seed) (w : World) : Prop where
  address : ∀ k m, w.mandates k = some m →
    k = env.pda (.mandate m.meishi m.version)
  issued : ∀ k m, w.mandates k = some m →
    ∃ p, w.passports m.meishi = some p
      ∧ 1 ≤ m.version ∧ m.version ≤ p.mandateVersion

theorem kept_empty : Kept env World.empty :=
  ⟨fun _ _ h => (nomatch h), fun _ _ h => (nomatch h)⟩

theorem Kept.of_put (h : Kept env w) {j : Pubkey} {p' : MeishiPassport}
    (hpass : w'.passports = update w.passports j (some p'))
    (hmand : w'.mandates = w.mandates)
    (hver : ∀ p, w.passports j = some p →
      p.mandateVersion ≤ p'.mandateVersion) : Kept env w' := by
  constructor
  · intro k m hm
    rw [hmand] at hm
    exact h.address k m hm
  · intro k m hm
    rw [hmand] at hm
    obtain ⟨p, hp, hpos, hle⟩ := h.issued k m hm
    by_cases hj : m.meishi = j
    · refine ⟨p', ?_, hpos, Nat.le_trans hle (hver p (hj ▸ hp))⟩
      rw [hpass, hj, update_self]
    · refine ⟨p, ?_, hpos, hle⟩
      rw [hpass, update_of_ne hj]
      exact hp

/-- Storing a mandate at its address, within the version of its
passport. -/
theorem Kept.setMandate (h : Kept env w) {m : MeishiMandate}
    {p : MeishiPassport} (hp : w.passports m.meishi = some p)
    (hpos : 1 ≤ m.version) (hle : m.version ≤ p.mandateVersion) :
    Kept env (w.setMandate (env.pda (.mandate m.meishi m.version)) m) := by
  constructor
  · intro k m' hm
    by_cases hk : k = env.pda (.mandate m.meishi m.version)
    · rw [hk, setMandate_self] at hm
      cases hm
      exact hk
    · rw [setMandate_ne _ _ hk] at hm
      exact h.address k m' hm
  · intro k m' hm
    by_cases hk : k = env.pda (.mandate m.meishi m.version)
    · rw [hk, setMandate_self] at hm
      cases hm
      exact ⟨p, hp, hpos, hle⟩
    · rw [setMandate_ne _ _ hk] at hm
      exact h.issued k m' hm

theorem kept_step (h : Kept env w) (hs : step env find a w = .ok w') :
    Kept env w' := by
  rcases step_moved hs with ⟨id, p, hnew, -, -, -, rfl⟩
    | ⟨i, acc, t, s, p, hu⟩ | ⟨acc, p, m, hr⟩
    | ⟨k, p, p', hp, hsame, hpass, hmand⟩ | ⟨hpass, hmand⟩
  · refine h.of_put rfl rfl ?_
    intro p₀ hp₀
    rw [hnew] at hp₀
    cases hp₀
  · -- the passport first reaches the version, then the mandate is stored
    have hstart : Kept env (w.setPassport acc.passport
        (mandated env a.tx acc t p)) := by
      refine h.of_put rfl rfl ?_
      intro p₀ hp₀
      rw [hu.passport] at hp₀
      cases hp₀
      exact Nat.le_succ _
    have hfound : (w.setPassport acc.passport
        (mandated env a.tx acc t p)).passports acc.passport
          = some (mandated env a.tx acc t p) := update_self ..
    rw [hu.after]
    exact hstart.setMandate (m := signed acc (p.mandateVersion + 1) t s)
      hfound (Nat.succ_pos _) (Nat.le_refl _)
  · have hstart : Kept env (w.setPassport acc.passport
        (unmandated a.tx p)) := by
      refine h.of_put rfl rfl ?_
      intro p₀ hp₀
      rw [hr.passport] at hp₀
      cases hp₀
      exact Nat.le_refl _
    have hfound : (w.setPassport acc.passport
        (unmandated a.tx p)).passports m.meishi = some (unmandated a.tx p) := by
      rw [hr.ofPassport]
      exact update_self ..
    obtain ⟨p₀, hp₀, hpos, hle⟩ := h.issued _ m hr.mandate
    rw [hr.ofPassport, hr.passport] at hp₀
    cases hp₀
    have haddr := h.address _ m hr.mandate
    rw [hr.after, haddr]
    exact hstart.setMandate
      (m := { m with revoked := true, revokedAt := a.tx.clock })
      hfound hpos hle
  · refine h.of_put hpass hmand ?_
    intro p₀ hp₀
    rw [hp] at hp₀
    cases hp₀
    exact Nat.le_of_eq hsame.version.symm
  · constructor
    · intro k m hm
      rw [hmand] at hm
      exact h.address k m hm
    · intro k m hm
      rw [hmand] at hm
      rw [hpass]
      exact h.issued k m hm

theorem Kept.unique (h : Kept env w) {j k : Pubkey} {m n : MeishiMandate}
    (hm : w.mandates j = some m) (hn : w.mandates k = some n)
    (hof : m.meishi = n.meishi) (hver : m.version = n.version) :
    j = k := by
  rw [h.address j m hm, h.address k n hn, hof, hver]

end KamiyoProtocol.Meishi
