/-
What a stored mandate proves: the principal of the passport signed
exactly these parameters, and signed them for this mandate alone.

`update_mandate` reads the instruction in front of it. It insists on one
entry whose three instruction indexes name the precompile instruction
itself, so the bytes it compares are the bytes the precompile verified.
The message is the hash of a concatenation in which only the passport's
address has no fixed length, hence injective, and it contains the version
of the mandate, which grows with every update of the passport.
-/
import KamiyoProtocol.Meishi.Moves
import KamiyoProtocol.Meishi.Concrete

namespace KamiyoProtocol.Meishi

open Solana Exec Function
open Solana.Ed25519 (Triple Accepted)

variable {env : Env Seed} {find : Finder} {w w' : World} {a : Action env}

-- ==== introspection

/-- The instruction before the one at `i` is a precompile instruction,
and reads the triple in its first entry. -/
def PrecededBy (ixs : List Instruction) (i : Nat) (t : Triple) : Prop :=
  0 < i ∧ ∃ ix, ixs[i - 1]? = some ix ∧ ix.programId = Ed25519.programId
    ∧ 0 < Ed25519.count ix.data ∧ Ed25519.entry ixs ix.data 0 = some t

theorem PrecededBy.verified {verify : Triple → Bool}
    {ixs : List Instruction} {i : Nat} {t : Triple}
    (h : PrecededBy ixs i t) (hacc : Accepted verify ixs) :
    verify t = true := by
  obtain ⟨-, ix, hix, hid, hcount, hentry⟩ := h
  exact hacc.verified ⟨ix, List.mem_of_getElem? hix, hid, 0, hcount, hentry⟩

theorem readU16_some {data : Bytes} {offset n : Nat} :
    readU16 data offset = some n
      ↔ offset + 2 ≤ data.length ∧ n = Bytes.u16At data offset := by
  unfold readU16
  split
  · simp [*, eq_comm]
  · simp [*]

/-- The check passes only behind a precompile instruction that reads the
signature, the principal and the message. -/
theorem verifyEd25519MandateSignature_ok {ixs : List Instruction} {i : Nat}
    {principal : Pubkey} {messageHash s : Bytes} {u : Unit}
    (h : verifyEd25519MandateSignature ixs i principal messageHash s
      = .ok u) : PrecededBy ixs i ⟨s, principal.bytes, messageHash⟩ := by
  simp only [verifyEd25519MandateSignature, bind_ok, ensure_ok, okOr_ok,
    readU16_some] at h
  obtain ⟨-, hi, ix, hix, -, hid, -, hlen, -, hone, so, ⟨-, rfl⟩, sx,
    ⟨-, hsx⟩, po, ⟨-, rfl⟩, px, ⟨-, hpx⟩, mo, ⟨-, rfl⟩, ms, ⟨-, rfl⟩, mx,
    ⟨-, hmx⟩, -, ⟨hs, hp, hm⟩, -, -, -, -, -, hkey, -, hsig, hmsg⟩ := h
  subst hsx
  subst hpx
  subst hmx
  -- an index of 0xFFFF reads the instruction's own data
  have hself : ∀ index off len, index = 0xFFFF →
      Ed25519.read ixs ix.data index off len
        = Bytes.window ix.data off len := by
    rintro _ off len rfl
    rfl
  refine ⟨hi, ix, hix, hid, ?_, Ed25519.entry_zero hlen ?_ ?_ ?_⟩
  · rw [Ed25519.count_one hone]
    exact Nat.one_pos
  · exact (hself _ _ _ hs).trans hsig
  · exact (hself _ _ _ hp).trans hkey
  · exact (hself _ _ _ hm).trans hmsg

-- ==== the message

theorem le_inj {width m n : Nat} (hm : m < 256 ^ width)
    (hn : n < 256 ^ width) (h : Bytes.le width m = Bytes.le width n) :
    m = n := by
  rw [← Bytes.leNat_le hm, h, Bytes.leNat_le hn]

theorem leInt_inj {s t : Int} (hs : Fixed.InRange 64 s)
    (ht : Fixed.InRange 64 t) (h : Bytes.leInt 8 s = Bytes.leInt 8 t) :
    s = t := by
  have hself : ∀ n : Int, Fixed.InRange 64 n →
      Bytes.intOfLe (Bytes.leInt 8 n) = n := by
    rintro n ⟨hlo, hhi⟩
    refine Bytes.intOfLe_leInt ?_ ?_
    · norm_num at hlo ⊢
      omega
    · norm_num at hhi ⊢
      omega
  rw [← hself s hs, h, hself t ht]

theorem mandateMessage_inj {j k : Pubkey} {m n : Nat}
    {s t : MandateTerms} (hm : m < 2 ^ 32) (hn : n < 2 ^ 32)
    (h : mandateMessage j m s = mandateMessage k n t) :
    j = k ∧ m = n ∧ s = t := by
  unfold mandateMessage at h
  have h₁ := List.append_cancel_left h
  -- everything behind the address has a fixed length
  obtain ⟨hkey, h₂⟩ := List.append_inj' h₁ (by
    simp [s.category_length, t.category_length, s.merchant_length,
      t.merchant_length])
  obtain ⟨hversion, h₃⟩ := List.append_inj h₂ (by simp)
  obtain ⟨hspending, h₄⟩ := List.append_inj h₃ (by simp)
  obtain ⟨hdaily, h₅⟩ := List.append_inj h₄ (by simp)
  obtain ⟨hmonthly, h₆⟩ := List.append_inj h₅ (by simp)
  obtain ⟨hcategory, h₇⟩ := List.append_inj h₆
    (s.category_length.trans t.category_length.symm)
  obtain ⟨hmerchant, h₈⟩ := List.append_inj h₇
    (s.merchant_length.trans t.merchant_length.symm)
  obtain ⟨happroval, h₉⟩ := List.append_inj h₈ (by simp)
  obtain ⟨hgeo, h₁₀⟩ := List.append_inj h₉ rfl
  obtain ⟨hfrom, huntil⟩ := List.append_inj h₁₀ (by simp)
  have hterms : s = t := by
    cases s
    cases t
    rw [MandateTerms.mk.injEq]
    exact ⟨le_inj ‹_› ‹_› hspending, le_inj ‹_› ‹_› hdaily,
      le_inj ‹_› ‹_› hmonthly, hcategory, hmerchant,
      le_inj ‹_› ‹_› happroval, List.cons.inj hgeo |>.1,
      leInt_inj ‹_› ‹_› hfrom, leInt_inj ‹_› ‹_› huntil⟩
  refine ⟨?_, le_inj hm hn hversion, hterms⟩
  cases j
  cases k
  cases hkey
  rfl

theorem messageHash_inj (hinj : Function.Injective env.hash)
    {j k : Pubkey} {m n : Nat} {s t : MandateTerms} (hm : m < 2 ^ 32)
    (hn : n < 2 ^ 32)
    (h : computeMandateMessageHash env j m s
      = computeMandateMessageHash env k n t) : j = k ∧ m = n ∧ s = t :=
  mandateMessage_inj hm hn (hinj h)

-- ==== authenticity

/-- The mandate was signed, in the action taken from `w`: it is of the
next version of its passport, and the instruction before the action is a
precompile instruction that verified a signature of the principal the
passport has in `w`, over the hash of the mandate's parameters and of no
others. -/
def Authentic (env : Env Seed) (verify : Triple → Bool) (a : Action env)
    (w : World) (m : MeishiMandate) : Prop :=
  ∃ i acc p, a.op = .updateMandate i acc m.terms m.principalSignature
    ∧ acc.passport = m.meishi ∧ w.passports m.meishi = some p
    ∧ m.version = p.mandateVersion + 1
    ∧ ∃ t : Triple, PrecededBy a.tx.instructions i t ∧ verify t = true
      ∧ t.signature = m.principalSignature
      ∧ t.pubkey = p.principal.bytes
      ∧ t.message = computeMandateMessageHash env m.meishi m.version m.terms
      ∧ ∀ k n s, n < 2 ^ 32 → t.message = computeMandateMessageHash env k n s →
        k = m.meishi ∧ n = m.version ∧ s = m.terms

theorem Update.authentic {verify : Triple → Bool} {i : Nat}
    {acc : UpdateMandateAccounts} {t : MandateTerms} {s : Bytes}
    {p : MeishiPassport} (hinj : Function.Injective env.hash)
    (hacc : Accepted verify a.tx.instructions)
    (h : Update a w w' i acc t s p) :
    Authentic env verify a w (signed acc (p.mandateVersion + 1) t s) := by
  have hpre := verifyEd25519MandateSignature_ok h.verified
  refine ⟨i, acc, p, h.op, rfl, h.passport, rfl, _, hpre,
    hpre.verified hacc, rfl, ?_, rfl, ?_⟩
  · exact congrArg Pubkey.bytes h.principal.symm
  · intro k n s' hn heq
    obtain ⟨hk, hv, ht⟩ := messageHash_inj hinj h.room hn heq
    exact ⟨hk.symm, hv.symm, ht.symm⟩

/-- Every stored mandate is authentic for an action of the log. -/
def Accounted (env : Env Seed) (find : Finder) (verify : Triple → Bool)
    (log : List (Action env)) (w : World) : Prop :=
  ∀ k m, w.mandates k = some m →
    ∃ p a q w₀, log = p ++ a :: q ∧ run (step env find) World.empty p = .ok w₀
      ∧ Authentic env verify a w₀ m

theorem Accounted.extend {verify : Triple → Bool}
    {log : List (Action env)} (h : Accounted env find verify log w)
    (a : Action env) : Accounted env find verify (log ++ [a]) w := by
  intro k m hm
  obtain ⟨p, b, q, w₀, hlog, hrun, hauth⟩ := h k m hm
  refine ⟨p, b, q ++ [a], w₀, ?_, hrun, hauth⟩
  rw [hlog, List.append_assoc]
  rfl

theorem accounted_step {verify : Triple → Bool} {log : List (Action env)}
    (hinj : Function.Injective env.hash)
    (hacc : Accepted verify a.tx.instructions)
    (hrun : run (step env find) World.empty log = .ok w)
    (h : Accounted env find verify log w)
    (hs : step env find a w = .ok w') :
    Accounted env find verify (log ++ [a]) w' := by
  have hext := h.extend a
  rcases step_moved hs with ⟨id, p, -, -, -, -, rfl⟩
    | ⟨i, acc, t, s, p, hu⟩ | ⟨acc, p, m, hr⟩
    | ⟨j, p, p', -, -, -, hmand⟩ | ⟨-, hmand⟩
  · exact hext
  · intro k m hm
    rw [hu.after, setPassport_mandates] at hm
    by_cases hk : k = env.pda (.mandate acc.passport (p.mandateVersion + 1))
    · rw [hk, setMandate_self] at hm
      cases hm
      exact ⟨log, a, [], w, rfl, hrun, hu.authentic hinj hacc⟩
    · rw [setMandate_ne _ _ hk] at hm
      exact hext k m hm
  · intro k n hn
    rw [hr.after, setPassport_mandates] at hn
    by_cases hk : k = acc.mandate
    · -- a revoked mandate keeps its terms and its signature
      rw [hk, setMandate_self] at hn
      cases hn
      exact hext acc.mandate m hr.mandate
    · rw [setMandate_ne _ _ hk] at hn
      exact hext k n hn
  · intro k m hm
    rw [hmand] at hm
    exact hext k m hm
  · intro k m hm
    rw [hmand] at hm
    exact hext k m hm

-- ==== no replay

/-- The message an `update_mandate` taken from `w` has to find signed. -/
def acceptedMessage (a : Action env) (w : World) : Option Bytes :=
  match a.op with
  | .updateMandate _ acc t _ =>
    (w.passports acc.passport).map fun p =>
      computeMandateMessageHash env acc.passport (p.mandateVersion + 1) t
  | _ => none

/-- Passports stay, and their versions do not fall. -/
def VersionsGrow (w w' : World) : Prop :=
  ∀ k p, w.passports k = some p →
    ∃ p', w'.passports k = some p' ∧ p.mandateVersion ≤ p'.mandateVersion

theorem versionsGrow_put {k : Pubkey} {p' : MeishiPassport}
    (hpass : w'.passports = update w.passports k (some p'))
    (hver : ∀ p, w.passports k = some p →
      p.mandateVersion ≤ p'.mandateVersion) : VersionsGrow w w' := by
  intro j p hp
  by_cases hj : j = k
  · refine ⟨p', ?_, hver p (hj ▸ hp)⟩
    rw [hpass, hj, update_self]
  · refine ⟨p, ?_, Nat.le_refl _⟩
    rw [hpass, update_of_ne hj]
    exact hp

theorem versionsGrow_step (hs : step env find a w = .ok w') :
    VersionsGrow w w' := by
  rcases step_moved hs with ⟨id, p, hnew, -, -, -, rfl⟩
    | ⟨i, acc, t, s, p, hu⟩ | ⟨acc, p, m, hr⟩
    | ⟨j, p, p', hp, hsame, hpass, -⟩ | ⟨hpass, -⟩
  · refine versionsGrow_put rfl ?_
    intro p₀ hp₀
    rw [hnew] at hp₀
    cases hp₀
  · refine versionsGrow_put (congrArg World.passports hu.after) ?_
    intro p₀ hp₀
    rw [hu.passport] at hp₀
    cases hp₀
    exact Nat.le_succ _
  · refine versionsGrow_put (congrArg World.passports hr.after) ?_
    intro p₀ hp₀
    rw [hr.passport] at hp₀
    cases hp₀
    exact Nat.le_refl _
  · refine versionsGrow_put hpass ?_
    intro p₀ hp₀
    rw [hp] at hp₀
    cases hp₀
    exact Nat.le_of_eq hsame.version.symm
  · intro k p hp
    exact ⟨p, by rw [hpass, hp], Nat.le_refl _⟩

theorem versionsGrow_run {tr : List (Action env)}
    (hrun : run (step env find) w tr = .ok w') : VersionsGrow w w' := by
  refine run_rel (R := VersionsGrow) ?_ ?_ ?_ hrun
  · intro w k p hp
    exact ⟨p, hp, Nat.le_refl _⟩
  · intro w m w' h₁ h₂ k p hp
    obtain ⟨p₁, hp₁, hle₁⟩ := h₁ k p hp
    obtain ⟨p₂, hp₂, hle₂⟩ := h₂ k p₁ hp₁
    exact ⟨p₂, hp₂, Nat.le_trans hle₁ hle₂⟩
  · intro a w w' hs
    exact versionsGrow_step hs

theorem update_of_message {x : Bytes} (hs : step env find a w = .ok w')
    (hx : acceptedMessage a w = some x) :
    ∃ i acc t s p, Update a w w' i acc t s p
      ∧ x = computeMandateMessageHash env acc.passport
        (p.mandateVersion + 1) t := by
  unfold acceptedMessage at hx
  split at hx
  · next i acc t s hop =>
      have hs' : updateMandate env a.tx i acc t s w = .ok w' := by
        unfold step at hs
        rw [hop] at hs
        exact hs
      obtain ⟨p, hu⟩ := updateMandate_update hop hs'
      rw [hu.passport] at hx
      cases hx
      exact ⟨i, acc, t, s, p, hu, rfl⟩
  · cases hx

/-- Two updates of one run, the second after the first, accept different
messages. -/
theorem messages_differ {b : Action env} {q : List (Action env)}
    {w₁ w₂ w₃ : World} {x y : Bytes} (hinj : Function.Injective env.hash)
    (ha : step env find a w = .ok w₁)
    (hq : run (step env find) w₁ q = .ok w₂)
    (hb : step env find b w₂ = .ok w₃)
    (hx : acceptedMessage a w = some x)
    (hy : acceptedMessage b w₂ = some y) : x ≠ y := by
  obtain ⟨i, acc, t, s, p, hu, rfl⟩ := update_of_message ha hx
  obtain ⟨j, acc', t', s', p', hu', rfl⟩ := update_of_message hb hy
  intro heq
  obtain ⟨hk, hv, -⟩ := messageHash_inj hinj hu.room hu'.room heq
  -- the passport is past the first version when the second is signed
  have hafter : w₁.passports acc.passport
      = some (mandated env a.tx acc t p) := by
    rw [hu.after, setPassport_self]
  obtain ⟨p'', hp'', hle⟩ := versionsGrow_run hq _ _ hafter
  rw [hk, hu'.passport] at hp''
  cases hp''
  have hle' : p.mandateVersion + 1 ≤ p'.mandateVersion := hle
  omega

-- ==== result

/-- Every mandate ever stored carries parameters its passport's principal
signed at that time, as verified by the precompile in the preceding
instruction, over exactly their hash; and no message is accepted by two
updates. -/
theorem mandates_authentic {verify : Triple → Bool}
    {tr : List (Action env)} (hinj : Function.Injective env.hash)
    (hacc : ∀ a ∈ tr, Accepted verify a.tx.instructions)
    (hrun : run (step env find) World.empty tr = .ok w) :
    Accounted env find verify tr w
      ∧ ∀ p a q b r w₁ w₂ x y, tr = p ++ a :: (q ++ b :: r) →
        run (step env find) World.empty p = .ok w₁ →
        run (step env find) World.empty (p ++ a :: q) = .ok w₂ →
        acceptedMessage a w₁ = some x → acceptedMessage b w₂ = some y →
        x ≠ y := by
  constructor
  · have h := run_induct_log (p := [])
      (I := fun log w => run (step env find) World.empty log = .ok w
        ∧ ((∀ a ∈ log, Accepted verify a.tx.instructions) →
          Accounted env find verify log w))
      (by
        intro log a w w' ⟨hr, hI⟩ hs
        refine ⟨run_append.mpr ⟨w, hr, run_cons.mpr ⟨w', hs, rfl⟩⟩, ?_⟩
        intro hall
        refine accounted_step hinj (hall a (by simp)) hr (hI ?_) hs
        intro b hb
        exact hall b (List.mem_append_left _ hb))
      ⟨rfl, fun _ _ _ h => (nomatch h)⟩ hrun
    exact h.2 hacc
  · intro p a q b r w₁ w₂ x y htr hp hpq hx hy
    rw [htr] at hrun
    obtain ⟨m₁, hm₁, hrest⟩ := run_append.mp hrun
    rw [hp] at hm₁
    cases hm₁
    obtain ⟨m₂, ha, hrest⟩ := run_cons.mp hrest
    obtain ⟨m₃, hq, hrest⟩ := run_append.mp hrest
    have hcut : run (step env find) World.empty (p ++ a :: q) = .ok m₃ :=
      run_append.mpr ⟨w₁, hp, run_cons.mpr ⟨m₂, ha, hq⟩⟩
    rw [hpq] at hcut
    cases hcut
    obtain ⟨m₄, hb, -⟩ := run_cons.mp hrest
    exact messages_differ hinj ha hq hb hx hy

namespace Concrete

/-- The signature check of the examples. -/
def verify (t : Triple) : Bool := t.signature = signature

/-- Two mandates, the second superseding the first. -/
def twoMandates : List (Action Concrete.env) :=
  [issue, mandate 1 2000, mandate 2 3000]

theorem accepted_attest (v : UInt8) :
    Accepted verify [attest 1 (digest v)] := by
  intro ix hix _ j hj
  rw [List.mem_singleton] at hix
  subst hix
  have hcount : Ed25519.count (attest 1 (digest v)).data = 1 :=
    Ed25519.count_one rfl
  rw [hcount, Nat.lt_one_iff] at hj
  subst hj
  have hsized : Triple.Sized ⟨signature, (Solana.Concrete.wallet 1).bytes,
      digest v⟩ := by
    constructor
    · exact List.length_replicate ..
    · simp [Solana.Concrete.wallet]
    · simp [digest]
  exact ⟨_, Ed25519.entry_layout hsized _, decide_eq_true rfl⟩

theorem accepted_twoMandates :
    ∀ a ∈ twoMandates, Accepted verify a.tx.instructions := by
  intro a ha
  simp only [twoMandates, List.mem_cons, List.not_mem_nil, or_false] at ha
  rcases ha with rfl | rfl | rfl
  · intro ix hix
    cases hix
  · exact accepted_attest 1
  · exact accepted_attest 2

set_option maxRecDepth 4000 in
theorem twoMandates_authentic : ∃ w w₁ w₂ x y,
    run (step Concrete.env Concrete.find) World.empty twoMandates = .ok w
      ∧ (w.mandates (Concrete.env.pda (.mandate passportKey 2))).isSome = true
      ∧ Accounted Concrete.env Concrete.find verify twoMandates w
      ∧ acceptedMessage (mandate 1 2000) w₁ = some x
      ∧ acceptedMessage (mandate 2 3000) w₂ = some y ∧ x ≠ y := by
  obtain ⟨w, hrun, hw⟩ := check_ok
    (show check (fun w => (w.mandates
        (Concrete.env.pda (.mandate passportKey 2))).isSome)
      (run (step Concrete.env Concrete.find) World.empty twoMandates) = true
      by decide)
  obtain ⟨w₁, hrun₁, hx⟩ := check_ok
    (show check (fun w => (acceptedMessage (mandate 1 2000) w).isSome)
      (run (step Concrete.env Concrete.find) World.empty [issue]) = true
      by decide)
  obtain ⟨w₂, hrun₂, hy⟩ := check_ok
    (show check (fun w => (acceptedMessage (mandate 2 3000) w).isSome)
      (run (step Concrete.env Concrete.find) World.empty
        [issue, mandate 1 2000]) = true
      by decide)
  obtain ⟨x, hx⟩ := Option.isSome_iff_exists.mp hx
  obtain ⟨y, hy⟩ := Option.isSome_iff_exists.mp hy
  obtain ⟨haccounted, hfresh⟩ :=
    mandates_authentic hash_injective accepted_twoMandates hrun
  exact ⟨w, w₁, w₂, x, y, hrun, hw, haccounted, hx, hy,
    hfresh [issue] _ [] _ [] w₁ w₂ x y rfl hrun₁ hrun₂ hx hy⟩

end Concrete

end KamiyoProtocol.Meishi
