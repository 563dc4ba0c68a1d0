/-
Leases that a store grants until a time, and forgets.

A claim is what a holder believes it was granted, and until when; the
store only knows at which times a key may be granted. The two agree while
no key is grantable before a claim to it expires (`Guarded`). Then a new
grant meets no live claim, and no key has two of them.
-/
import Mathlib.Data.List.Basic
import Mathlib.Data.List.Pairwise

namespace Lease

variable {K : Type}

/-- What a holder believes. -/
structure Claim (K : Type) where
  key : K
  expiry : Nat

def Claim.Live (c : Claim K) (now : Nat) : Prop := now < c.expiry
  deriving Decidable

/-- No key has two live claims. -/
def Exclusive (now : Nat) (cs : List (Claim K)) : Prop :=
  cs.Pairwise fun c d => c.key = d.key → ¬ (c.Live now ∧ d.Live now)

instance [DecidableEq K] (now : Nat) (cs : List (Claim K)) :
    Decidable (Exclusive now cs) :=
  inferInstanceAs (Decidable (List.Pairwise _ cs))

/-- No key may be granted before a claim to it expires. -/
def Covered (grantable : K → Nat → Prop) (now : Nat)
    (cs : List (Claim K)) : Prop :=
  ∀ c ∈ cs, ∀ t, now ≤ t → c.Live t → ¬ grantable c.key t

structure Guarded (grantable : K → Nat → Prop) (now : Nat)
    (cs : List (Claim K)) : Prop where
  exclusive : Exclusive now cs
  covered : Covered grantable now cs

variable {grantable grantable' : K → Nat → Prop} {now now' : Nat}
  {cs cs' : List (Claim K)}

theorem guarded_nil : Guarded grantable now ([] : List (Claim K)) :=
  ⟨List.Pairwise.nil, fun _ hc => absurd hc List.not_mem_nil⟩

/-- Time passes, claims are dropped, and what is left of them stays
ungrantable. -/
theorem Guarded.drop (h : Guarded grantable now cs) (hle : now ≤ now')
    (hsub : List.Sublist cs' cs)
    (hkeep : ∀ c ∈ cs', ∀ t, now' ≤ t → c.Live t →
      grantable' c.key t → grantable c.key t) :
    Guarded grantable' now' cs' := by
  constructor
  · refine (h.exclusive.sublist hsub).imp ?_
    rintro c d hcd hkey ⟨hc, hd⟩
    exact hcd hkey ⟨Nat.lt_of_le_of_lt hle hc, Nat.lt_of_le_of_lt hle hd⟩
  · intro c hc t ht hlive hgrant
    exact h.covered c (hsub.subset hc) t (Nat.le_trans hle ht) hlive
      (hkeep c hc t ht hlive hgrant)

/-- Keys that may be granted are, once each, and may not be again before
the new claims expire. -/
theorem Guarded.grant (h : Guarded grantable now cs)
    {new : List (Claim K)} (hnodup : (new.map Claim.key).Nodup)
    (hfree : ∀ c ∈ new, grantable c.key now)
    (hnew : ∀ c ∈ new, ∀ t, now ≤ t → c.Live t → ¬ grantable' c.key t)
    (hkeep : ∀ c ∈ cs, ∀ t, now ≤ t → c.Live t →
      grantable' c.key t → grantable c.key t) :
    Guarded grantable' now (cs ++ new) := by
  constructor
  · refine List.pairwise_append.mpr ⟨h.exclusive, ?_, ?_⟩
    · refine (List.pairwise_map.mp hnodup).imp ?_
      intro c d hne hkey
      exact absurd hkey hne
    · rintro c hc d hd hkey ⟨hlive, -⟩
      refine h.covered c hc now (Nat.le_refl now) hlive ?_
      rw [hkey]
      exact hfree d hd
  · intro c hc
    rcases List.mem_append.mp hc with hold | hadded
    · intro t ht hlive hgrant
      exact h.covered c hold t ht hlive (hkeep c hold t ht hlive hgrant)
    · exact hnew c hadded

theorem not_exclusive {new : List (Claim K)} {c d : Claim K} (hc : c ∈ cs)
    (hd : d ∈ new) (hkey : c.key = d.key) (hlive : c.Live now)
    (hlive' : d.Live now) : ¬ Exclusive now (cs ++ new) := by
  intro h
  exact (List.pairwise_append.mp h).2.2 c hc d hd hkey ⟨hlive, hlive'⟩

end Lease
