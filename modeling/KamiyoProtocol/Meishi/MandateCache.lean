/-
The mandate a passport caches: the hash and the expiry of the mandate of
its current version, as long as that is not revoked, and zeros otherwise.

Every version is an account of its own, and `revoke_mandate` takes any of
them; it clears the cache whichever it is given. So the cache is right
throughout a run exactly when every revocation is of the current version,
or finds the cache cleared already.
-/
import KamiyoProtocol.Meishi.Moves
import KamiyoProtocol.Meishi.Concrete

namespace KamiyoProtocol.Meishi

open Solana Exec Function

variable {env : Env Seed} {find : Finder} {w w' : World} {k : Pubkey}
  {p p' : MeishiPassport} {a : Action env}

/-- The mandate of the passport's current version, not revoked. -/
structure IsCurrent (w : World) (k : Pubkey) (p : MeishiPassport)
    (m : MeishiMandate) : Prop where
  stored : ∃ j, w.mandates j = some m
  ofPassport : m.meishi = k
  version : m.version = p.mandateVersion
  live : m.revoked = false

/-- The cached fields are those of the mandate. -/
def Describes (env : Env Seed) (k : Pubkey) (p : MeishiPassport)
    (m : MeishiMandate) : Prop :=
  p.mandateHash = computeMandateMessageHash env k m.version m.terms
    ∧ p.mandateExpires = m.terms.validUntil

/-- The cached fields are zero. -/
def Cleared (p : MeishiPassport) : Prop :=
  p.mandateHash = zeroHash ∧ p.mandateExpires = 0
  deriving Decidable

/-- The cache of one passport is right. -/
def RightAt (env : Env Seed) (w : World) (k : Pubkey)
    (p : MeishiPassport) : Prop :=
  (∀ m, IsCurrent w k p m → Describes env k p m)
    ∧ ((∀ m, ¬ IsCurrent w k p m) → Cleared p)

/-- The caches of all passports are right. -/
def CacheRight (env : Env Seed) (w : World) : Prop :=
  ∀ k p, w.passports k = some p → RightAt env w k p

/-- A revocation is of the current version, unless nothing is cached. -/
def RevokesCurrent (a : Action env) (w : World) : Prop :=
  ∀ acc, a.op = .revokeMandate acc →
    ∀ p m, w.passports acc.passport = some p → w.mandates acc.mandate = some m →
      m.version = p.mandateVersion ∨ Cleared p

theorem cacheRight_empty : CacheRight env World.empty :=
  fun _ _ h => (nomatch h)

-- ==== frames

/-- A cache is as right as before when neither it nor the current mandate
changes. -/
theorem rightAt_congr (hsame : SameMandate p p')
    (hcur : ∀ m, IsCurrent w' k p' m ↔ IsCurrent w k p m) :
    RightAt env w' k p' ↔ RightAt env w k p := by
  simp only [RightAt, Describes, Cleared, hsame.hash, hsame.expires, hcur]

theorem isCurrent_congr (hmand : w'.mandates = w.mandates)
    (hsame : SameMandate p p') (m : MeishiMandate) :
    IsCurrent w' k p' m ↔ IsCurrent w k p m := by
  constructor
  · intro h
    exact ⟨hmand ▸ h.stored, h.ofPassport, h.version.trans hsame.version,
      h.live⟩
  · intro h
    exact ⟨hmand.symm ▸ h.stored, h.ofPassport,
      h.version.trans hsame.version.symm, h.live⟩

/-- Storing a mandate of another passport, where one of that passport or
none was, changes no current mandate. -/
theorem isCurrent_setMandate_ne {j q : Pubkey} {n : MeishiMandate}
    {f : Pubkey → Option MeishiPassport} (hq : k ≠ q) (hn : n.meishi = q)
    (hold : ∀ m, w.mandates j = some m → m.meishi = q)
    (m : MeishiMandate) :
    IsCurrent { w.setMandate j n with passports := f } k p m
      ↔ IsCurrent w k p m := by
  constructor
  · rintro ⟨⟨i, hi⟩, hof, hver, hlive⟩
    refine ⟨⟨i, ?_⟩, hof, hver, hlive⟩
    by_cases hij : i = j
    · have hm : some n = some m := by
        rw [← hi, hij]
        exact (setMandate_self w n j).symm
      cases hm
      exact absurd (hof.symm.trans hn) hq
    · exact (setMandate_ne w n hij).symm.trans hi
  · rintro ⟨⟨i, hi⟩, hof, hver, hlive⟩
    refine ⟨⟨i, ?_⟩, hof, hver, hlive⟩
    by_cases hij : i = j
    · rw [hij] at hi
      exact absurd (hof.symm.trans (hold m hi)) hq
    · exact (setMandate_ne w n hij).trans hi

theorem rightAt_of_ne {q j : Pubkey} {n : MeishiMandate}
    {p' : MeishiPassport} (hn : n.meishi = q)
    (hold : ∀ m, w.mandates j = some m → m.meishi = q)
    (hright : CacheRight env w) (hk : k ≠ q)
    (hp : ((w.setMandate j n).setPassport q p').passports k = some p) :
    RightAt env ((w.setMandate j n).setPassport q p') k p := by
  rw [setPassport_ne _ _ hk, setMandate_passports] at hp
  exact (rightAt_congr ⟨rfl, rfl, rfl⟩
    (isCurrent_setMandate_ne hk hn hold)).mpr (hright k p hp)

-- ==== updates

theorem cacheRight_update {i : Nat} {acc : UpdateMandateAccounts}
    {t : MandateTerms} {s : Bytes} (hkept : Kept env w)
    (hright : CacheRight env w) (h : Update a w w' i acc t s p) :
    CacheRight env w' := by
  have hafter := h.after
  intro k p₁ hp₁
  rw [hafter] at hp₁ ⊢
  by_cases hk : k = acc.passport
  · subst hk
    rw [setPassport_self] at hp₁
    cases hp₁
    -- another mandate of this version would be beyond the old version
    have hcur : ∀ m, IsCurrent ((w.setMandate
          (env.pda (.mandate acc.passport (p.mandateVersion + 1)))
          (signed acc (p.mandateVersion + 1) t s)).setPassport acc.passport
          (mandated env a.tx acc t p)) acc.passport
          (mandated env a.tx acc t p) m →
        m = signed acc (p.mandateVersion + 1) t s := by
      rintro m ⟨⟨j, hj⟩, hof, hver, -⟩
      rw [setPassport_mandates] at hj
      by_cases hnew : j = env.pda (.mandate acc.passport (p.mandateVersion + 1))
      · rw [hnew, setMandate_self] at hj
        cases hj
        rfl
      · rw [setMandate_ne _ _ hnew] at hj
        obtain ⟨p₀, hp₀, -, hle⟩ := hkept.issued j m hj
        rw [hof, h.passport] at hp₀
        cases hp₀
        have hver' : m.version = p.mandateVersion + 1 := hver
        omega
    refine ⟨?_, ?_⟩
    · intro m hm
      rw [hcur m hm]
      exact ⟨rfl, rfl⟩
    · intro hnone
      refine absurd ?_ (hnone (signed acc (p.mandateVersion + 1) t s))
      refine ⟨⟨env.pda (.mandate acc.passport (p.mandateVersion + 1)), ?_⟩,
        rfl, rfl, rfl⟩
      rw [setPassport_mandates, setMandate_self]
  · refine rightAt_of_ne rfl ?_ hright hk hp₁
    intro m hm
    rw [h.fresh] at hm
    cases hm

-- ==== revocations

/-- After a revocation the cache is cleared, so it is right exactly when
the revoked mandate was the current one or nothing was cached. -/
theorem cacheRight_revocation {acc : RevokeMandateAccounts}
    {m : MeishiMandate} (hkept : Kept env w) (hright : CacheRight env w)
    (h : Revocation a w w' acc p m) :
    CacheRight env w' ↔ m.version = p.mandateVersion ∨ Cleared p := by
  have hafter := h.after
  -- what is current afterwards was current before
  have hback : ∀ n, IsCurrent w' acc.passport (unmandated a.tx p) n →
      IsCurrent w acc.passport p n := by
    rintro n ⟨⟨j, hj⟩, hof, hver, hlive⟩
    rw [hafter, setPassport_mandates] at hj
    by_cases hjm : j = acc.mandate
    · rw [hjm, setMandate_self] at hj
      cases hj
      cases hlive
    · rw [setMandate_ne _ _ hjm] at hj
      exact ⟨⟨j, hj⟩, hof, hver, hlive⟩
  -- and it is not the revoked mandate
  have hother : ∀ n, IsCurrent w' acc.passport (unmandated a.tx p) n →
      m.version ≠ p.mandateVersion := by
    rintro n hn hver
    obtain ⟨⟨j, hj⟩, hof, hver', hlive⟩ := hn
    rw [hafter, setPassport_mandates] at hj
    by_cases hjm : j = acc.mandate
    · rw [hjm, setMandate_self] at hj
      cases hj
      cases hlive
    · rw [setMandate_ne _ _ hjm] at hj
      exact hjm (hkept.unique hj h.mandate (hof.trans h.ofPassport.symm)
        (hver'.trans hver.symm))
  have hp' : w'.passports acc.passport = some (unmandated a.tx p) := by
    rw [hafter, setPassport_self]
  have hat := hright acc.passport p h.passport
  constructor
  · intro hright'
    have hat' := hright' acc.passport _ hp'
    by_cases hver : m.version = p.mandateVersion
    · exact .inl hver
    · refine .inr ?_
      by_cases hcur : ∃ n, IsCurrent w acc.passport p n
      · -- a live current mandate is described before and after
        obtain ⟨n, hn⟩ := hcur
        have hn' : IsCurrent w' acc.passport (unmandated a.tx p) n := by
          obtain ⟨⟨j, hj⟩, hof, hver', hlive⟩ := hn
          refine ⟨⟨j, ?_⟩, hof, hver', hlive⟩
          have hjm : j ≠ acc.mandate := by
            intro hjm
            rw [hjm, h.mandate] at hj
            cases hj
            exact hver hver'
          rw [hafter, setPassport_mandates, setMandate_ne _ _ hjm]
          exact hj
        obtain ⟨hhash, hexpires⟩ := hat.1 n hn
        obtain ⟨hhash', hexpires'⟩ := hat'.1 n hn'
        exact ⟨hhash.trans hhash'.symm, hexpires.trans hexpires'.symm⟩
      · exact hat.2 (fun n hn => hcur ⟨n, hn⟩)
  · intro hcond k p₁ hp₁
    by_cases hk : k = acc.passport
    · subst hk
      rw [hp'] at hp₁
      cases hp₁
      refine ⟨?_, fun _ => ⟨rfl, rfl⟩⟩
      intro n hn
      rcases hcond with hver | ⟨hzero, hnever⟩
      · exact absurd hver (hother n hn)
      · obtain ⟨hhash, hexpires⟩ := hat.1 n (hback n hn)
        exact ⟨hzero.symm.trans hhash, hnever.symm.trans hexpires⟩
    · rw [hafter] at hp₁ ⊢
      refine rightAt_of_ne h.ofPassport ?_ hright hk hp₁
      intro n hn
      rw [h.mandate] at hn
      cases hn
      exact h.ofPassport

-- ==== the rest

theorem cacheRight_step (hkept : Kept env w) (hright : CacheRight env w)
    (hs : step env find a w = .ok w')
    (hno : ∀ acc, a.op ≠ .revokeMandate acc) : CacheRight env w' := by
  rcases step_moved hs with ⟨id, p, hnew, hversion, hhash, hexpires, rfl⟩
    | ⟨i, acc, t, s, p, hu⟩ | ⟨acc, p, m, hr⟩
    | ⟨j, p, p', hp, hsame, hpass, hmand⟩ | ⟨hpass, hmand⟩
  · intro k p₁ hp₁
    by_cases hk : k = env.pda (.passport id)
    · rw [hk, setPassport_self] at hp₁
      cases hp₁
      refine ⟨?_, fun _ => ⟨hhash, hexpires⟩⟩
      -- no mandate has version zero
      rintro m ⟨⟨j, hj⟩, -, hver, -⟩
      obtain ⟨-, -, hpos, -⟩ := hkept.issued j m hj
      omega
    · rw [setPassport_ne _ _ hk] at hp₁
      have hcur : ∀ m,
          IsCurrent (w.setPassport (env.pda (.passport id)) p) k p₁ m
            ↔ IsCurrent w k p₁ m :=
        isCurrent_congr rfl ⟨rfl, rfl, rfl⟩
      exact (rightAt_congr ⟨rfl, rfl, rfl⟩ hcur).mpr (hright k p₁ hp₁)
  · exact cacheRight_update hkept hright hu
  · exact absurd hr.op (hno acc)
  · intro k p₁ hp₁
    rw [hpass] at hp₁
    by_cases hk : k = j
    · rw [hk, update_self] at hp₁
      cases hp₁
      rw [hk]
      exact (rightAt_congr hsame (isCurrent_congr hmand hsame)).mpr
        (hright j p hp)
    · rw [update_of_ne hk] at hp₁
      exact (rightAt_congr ⟨rfl, rfl, rfl⟩
        (isCurrent_congr hmand ⟨rfl, rfl, rfl⟩)).mpr (hright k p₁ hp₁)
  · intro k p₁ hp₁
    rw [hpass] at hp₁
    exact (rightAt_congr ⟨rfl, rfl, rfl⟩
      (isCurrent_congr hmand ⟨rfl, rfl, rfl⟩)).mpr (hright k p₁ hp₁)

/-- One step keeps the caches right exactly when it revokes no superseded
mandate over a live cache. -/
theorem cacheRight_step_iff (hkept : Kept env w)
    (hright : CacheRight env w) (hs : step env find a w = .ok w') :
    CacheRight env w' ↔ RevokesCurrent a w := by
  by_cases hrev : ∃ acc, a.op = .revokeMandate acc
  · obtain ⟨acc, hop⟩ := hrev
    have hs' : revokeMandate a.tx acc w = .ok w' := by
      unfold step at hs
      rw [hop] at hs
      exact hs
    obtain ⟨p, m, hr⟩ := revokeMandate_revocation hop hs'
    rw [cacheRight_revocation hkept hright hr]
    constructor
    · intro hcond acc' hop' p₁ m₁ hp₁ hm₁
      rw [hop] at hop'
      cases hop'
      rw [hr.passport] at hp₁
      rw [hr.mandate] at hm₁
      cases hp₁
      cases hm₁
      exact hcond
    · intro hcond
      exact hcond acc hop p m hr.passport hr.mandate
  · have hno : ∀ acc, a.op ≠ .revokeMandate acc :=
      fun acc h => hrev ⟨acc, h⟩
    exact iff_of_true (cacheRight_step hkept hright hs hno)
      fun acc h => absurd h (hno acc)

/-- In every run the caches are right throughout exactly when every
revocation is of the current version or finds nothing cached. -/
theorem cache_right_iff {tr : List (Action env)}
    (hrun : run (step env find) World.empty tr = .ok w) :
    Throughout (step env find) (CacheRight env) World.empty tr
      ↔ Meets (step env find) RevokesCurrent World.empty tr :=
  throughout_iff_meets (Kept env) (fun _ _ _ h hs => kept_step h hs)
    (fun _ _ _ h hright hs => cacheRight_step_iff h hright hs) kept_empty
    cacheRight_empty hrun

namespace Concrete

/-- Revoking the current mandate. -/
def currentRevoked : List (Action Concrete.env) :=
  [issue, mandate 1 2000, revoke 1]

/-- Revoking the mandate that the second one superseded. -/
def supersededRevoked : List (Action Concrete.env) :=
  [issue, mandate 1 2000, mandate 2 3000, revoke 1]

/-- The revocation is of the current version, as a test. -/
def revokesCurrent (a : Action Concrete.env) (w : World) : Bool :=
  match a.op with
  | .revokeMandate acc =>
    match w.passports acc.passport, w.mandates acc.mandate with
    | some p, some m => m.version = p.mandateVersion
    | _, _ => true
  | _ => true

theorem revokesCurrent_sound (a : Action Concrete.env) (w : World)
    (h : revokesCurrent a w = true) : RevokesCurrent a w := by
  intro acc hop p m hp hm
  unfold revokesCurrent at h
  rw [hop] at h
  dsimp only at h
  rw [hp, hm] at h
  exact .inl (of_decide_eq_true h)

set_option maxRecDepth 4000 in
theorem cache_right_current :
    Throughout (step Concrete.env Concrete.find) (CacheRight Concrete.env)
      World.empty currentRevoked := by
  obtain ⟨w, hrun, -, hmeets⟩ := run_of_check revokesCurrent_sound
    (show checkRun (step Concrete.env Concrete.find) revokesCurrent
      (fun _ => true) World.empty currentRevoked = true by decide)
  exact (cache_right_iff hrun).mpr hmeets

/-- The second mandate is live and nothing is cached. -/
def uncached (w : World) : Bool :=
  match w.passports passportKey,
    w.mandates (Concrete.env.pda (.mandate passportKey 2)) with
  | some p, some m => p.mandateVersion = 2 && p.mandateExpires = 0
      && m.meishi = passportKey && m.version = 2 && m.revoked = false
      && m.terms.validUntil ≠ 0
  | _, _ => false

set_option maxRecDepth 4000 in
theorem superseded_revocation : ∃ w,
    run (step Concrete.env Concrete.find) World.empty supersededRevoked = .ok w
      ∧ ¬ CacheRight Concrete.env w := by
  obtain ⟨w, hrun, hw⟩ := check_ok
    (show check uncached (run (step Concrete.env Concrete.find) World.empty
      supersededRevoked) = true by decide)
  refine ⟨w, hrun, ?_⟩
  intro hright
  unfold uncached at hw
  split at hw
  · next p m hp hm =>
      simp only [Bool.and_eq_true, decide_eq_true_eq] at hw
      obtain ⟨⟨⟨⟨⟨hver, hexpires⟩, hof⟩, hmver⟩, hlive⟩, huntil⟩ := hw
      have hcur : IsCurrent w passportKey p m :=
        ⟨⟨_, hm⟩, hof, hmver.trans hver.symm, hlive⟩
      have hdesc := (hright passportKey p hp).1 m hcur
      exact huntil (hdesc.2.symm.trans hexpires)
  · cases hw

end Concrete

end KamiyoProtocol.Meishi
