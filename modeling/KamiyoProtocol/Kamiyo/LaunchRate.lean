/-
How many launches an agent gets through.

The account of an agent keeps a counter for the day and one for the week,
each a fixed window that begins anew at the first launch a day or a week
after the last one began. A refused attempt leaves no trace.
-/
import KamiyoProtocol.Kamiyo.Launch
import KamiyoProtocol.Lib.FixedWindow

namespace KamiyoProtocol.Kamiyo.Launch

open Solana FixedWindow Exec Function

variable {env : Env Seed} {w w' : World} {a : Action env} {owner : Pubkey}
  {times : List Int} {now : Int}

-- ==== one counter

/-- No event yet, or a window that is kept. -/
def Ready (span : Int) (cap : Nat) (times : List Int) (count : Nat)
    (since : Int) : Prop :=
  (times = [] ∧ count = 0) ∨ Kept span cap times count since

theorem Ready.restart {span since : Int} {cap count : Nat}
    (h : Ready span cap times count since) (hnow : ∀ t ∈ times, t ≤ now) :
    Ready span cap times count now := by
  rcases h with hnone | hkept
  · exact .inl hnone
  · exact .inr (hkept.restart hnow)

theorem Ready.renewed {span since : Int} {cap count : Nat} {c : Nat × Int}
    (h : Ready span cap times count since) (hnow : ∀ t ∈ times, t ≤ now)
    (hc : renewed span now count since = .ok c) (hlt : c.1 < cap) :
    Kept span cap (times ++ [now]) (c.1 + 1) c.2 := by
  simp only [Launch.renewed, bind_ok, subI64_ok] at hc
  obtain ⟨_, ⟨-, rfl⟩, hc⟩ := hc
  cases hc
  by_cases hspan : span ≤ now - since
  · rw [if_pos hspan] at hlt ⊢
    rcases h with ⟨rfl, rfl⟩ | hkept
    · exact .first hlt
    · exact hkept.renew hspan hnow
  · rw [if_neg hspan] at hlt ⊢
    rcases h with ⟨rfl, rfl⟩ | hkept
    · exact .first hlt
    · exact hkept.note hlt hnow

-- ==== the account

/-- Both counters of an account, after launches at `times`. -/
def Limited (times : List Int) (r : LaunchRateLimit) : Prop :=
  Ready secondsPerDay maxLaunchesPerDay times r.launchesToday r.lastDayReset
    ∧ Ready (7 * secondsPerDay) maxLaunchesPerWeek times r.launchesThisWeek
      r.lastWeekReset

theorem allow_limited {agent : Pubkey} {r r' : LaunchRateLimit}
    (h : Limited times r) (hnow : ∀ t ∈ times, t ≤ now)
    (hallow : r.allow agent now = .ok r') :
    Limited (times ++ [now]) r' := by
  simp only [LaunchRateLimit.allow, bind_ok, ensure_ok] at hallow
  obtain ⟨day, hday, week, hweek, -, hdaily, -, hweekly, hr⟩ := hallow
  cases hr
  have hcap : ∀ {n m : Nat}, n < m → m ≤ 10 →
      Fixed.saturatingAdd 8 n 1 = n + 1 :=
    fun _ _ => Fixed.saturatingAdd_eq (by omega)
  obtain ⟨hd, hw⟩ := h
  by_cases hfirst : r.agent = defaultPubkey
  · simp only [if_pos hfirst] at hday hweek ⊢
    rw [Limited, hcap hdaily (by decide), hcap hweekly (by decide)]
    exact ⟨.inr ((hd.restart hnow).renewed hnow hday hdaily),
      .inr ((hw.restart hnow).renewed hnow hweek hweekly)⟩
  · simp only [if_neg hfirst] at hday hweek ⊢
    rw [Limited, hcap hdaily (by decide), hcap hweekly (by decide)]
    exact ⟨.inr (hd.renewed hnow hday hdaily),
      .inr (hw.renewed hnow hweek hweekly)⟩

/-- Where the account of an owner's agent is. -/
def rateKey (env : Env Seed) (owner : Pubkey) : Pubkey :=
  env.pda (.launchRate (env.pda (.agent owner)))

/-- When the action launches for `owner`. -/
def launchTime (owner : Pubkey) (a : Action env) : Option Int :=
  match a.op with
  | .createTrustedLaunch o _ _ _ _ _ _ =>
    if o = owner then some a.tx.clock else none
  | _ => none

/-- An account that changed its totals only, or not at all. -/
def SameLimit (o o' : Option LaunchRateLimit) : Prop :=
  ∀ times, (∀ r, o = some r → Limited times r) →
    ∀ r', o' = some r' → Limited times r'

/-- A launch is one the account allows; nothing else touches the
counters. -/
theorem step_rate (h : step env a w = .ok w') (owner : Pubkey) :
    (launchTime owner a = some a.tx.clock
      ∧ ∃ r', w'.rates (rateKey env owner) = some r'
        ∧ ((w.rates (rateKey env owner)).getD .zeroed).allow
            (env.pda (.agent owner)) a.tx.clock = .ok r')
    ∨ (launchTime owner a = none
      ∧ (w'.rates (rateKey env owner) = none ↔
        w.rates (rateKey env owner) = none)
      ∧ SameLimit (w.rates (rateKey env owner))
        (w'.rates (rateKey env owner))) := by
  have hsame : w'.rates = w.rates → (w'.rates (rateKey env owner) = none ↔
      w.rates (rateKey env owner) = none) ∧ SameLimit
        (w.rates (rateKey env owner)) (w'.rates (rateKey env owner)) := by
    intro hw
    rw [hw]
    exact ⟨Iff.rfl, fun times h => h⟩
  have hnoted : ∀ {j : Pubkey} {r r' : LaunchRateLimit}, w.rates j = some r →
      w'.rates = update w.rates j (some r') →
      (∀ times, Limited times r → Limited times r') →
      (w'.rates (rateKey env owner) = none ↔
        w.rates (rateKey env owner) = none) ∧ SameLimit
          (w.rates (rateKey env owner)) (w'.rates (rateKey env owner)) := by
    intro j r r' hr hw hl
    rw [hw]
    by_cases hj : rateKey env owner = j
    · rw [hj, update_self, hr]
      refine ⟨by simp, fun times h r₁ hr₁ => ?_⟩
      cases hr₁
      exact hl times (h r rfl)
    · rw [update_of_ne hj]
      exact ⟨Iff.rfl, fun times h => h⟩
  unfold step at h
  cases hop : a.op with
  | createTrustedLaunch o mint coin config amount target bps =>
    rw [hop] at h
    simp only [createTrustedLaunch, bind_ok] at h
    obtain ⟨_, -, treasury, -, identity, -, -, -, -, -, -, -, l₁, -, l₂, -, -,
      -, -, -, -, -, -, -, -, -, -, -, -, -, rate, hrate, l₃, -, l₄, -, hw⟩ := h
    have hput : w'.rates = update w.rates (rateKey env o) (some rate) := by
      cases hw
      rfl
    rw [hput]
    by_cases ho : o = owner
    · subst ho
      exact .inl ⟨by simp [launchTime, hop], rate, update_self .., hrate⟩
    · have hkey : rateKey env owner ≠ rateKey env o := pda_ne fun he => by
        cases env.pda_injective (Seed.launchRate.inj he)
        exact ho rfl
      rw [update_of_ne hkey]
      exact .inr ⟨by simp [launchTime, hop, ho], Iff.rfl, fun times h => h⟩
  | recordGraduation launch o pool =>
    rw [hop] at h
    simp only [recordGraduation, bind_ok, load_ok] at h
    obtain ⟨r, -, -, -, rate, hrate, -, -, -, -, -, -, hw⟩ := h
    cases hw
    exact .inr ⟨by simp [launchTime, hop], hnoted hrate rfl fun _ h => h⟩
  | disputeLaunch launch reporter evidence =>
    rw [hop] at h
    simp only [disputeLaunch, bind_ok, load_ok] at h
    obtain ⟨r, -, rate, hrate, -, -, -, -, -, -, -, -, _, -, hw⟩ := h
    cases hw
    exact .inr ⟨by simp [launchTime, hop], hnoted hrate rfl fun _ h => h⟩
  | releaseLaunch launch o =>
    rw [hop] at h
    simp only [releaseLaunch, bind_ok] at h
    obtain ⟨r, -, -, -, -, -, -, -, g, -, _, -, -, -, l, -, hw⟩ := h
    cases hw
    exact .inr ⟨by simp [launchTime, hop], hsame rfl⟩
  | resolveLaunchDispute launch o reporter one two score =>
    rw [hop] at h
    simp only [resolveLaunchDispute, bind_ok] at h
    obtain ⟨config, -, r, -, -, -, -, -, -, -, -, -, -, -, -, -, -, -, -, -, _,
      -, -, -, -, -, l₁, -, l₂, -, hw⟩ := h
    cases hw
    exact .inr ⟨by simp [launchTime, hop], hsame rfl⟩
  | others config treasury agents =>
    rw [hop] at h
    cases h
    exact .inr ⟨by simp [launchTime, hop], hsame rfl⟩
  | systemTransfer src dst n =>
    rw [hop] at h
    simp only [bind_ok] at h
    obtain ⟨-, -, l, -, hw⟩ := h
    cases hw
    exact .inr ⟨by simp [launchTime, hop], hsame rfl⟩

-- ==== runs of attempts

/-- The clocks never go back. -/
def InOrder (tr : List (Action env)) : Prop :=
  tr.Pairwise fun a b => a.tx.clock ≤ b.tx.clock

/-- A list of attempts, some of which are refused: the state it ends in,
and the attempts that succeeded. -/
def attempts (env : Env Seed) (w : World) :
    List (Action env) → World × List (Action env)
  | [] => (w, [])
  | a :: rest =>
    match step env a w with
    | .ok w' => ((attempts env w' rest).1, a :: (attempts env w' rest).2)
    | .error _ => attempts env w rest

/-- The state is that of a run of the successes, as if nothing else had
been tried. -/
theorem attempts_run (tried : List (Action env)) :
    ∀ w : World, run (step env) w (attempts env w tried).2
        = .ok (attempts env w tried).1
      ∧ (attempts env w tried).2.Sublist tried := by
  induction tried with
  | nil => exact fun w => ⟨rfl, List.Sublist.refl _⟩
  | cons a rest ih =>
    intro w
    unfold attempts
    cases hstep : step env a w with
    | ok w' =>
      obtain ⟨hrun, hsub⟩ := ih w'
      exact ⟨run_cons.mpr ⟨w', hstep, hrun⟩, hsub.cons_cons a⟩
    | error e =>
      obtain ⟨hrun, hsub⟩ := ih w
      exact ⟨hrun, hsub.cons a⟩

/-- The account of `owner` after the launches of a run in order. -/
theorem run_limited {w₀ : World} {tr : List (Action env)} (hgen : Genesis w₀) :
    ∀ {w}, run (step env) w₀ tr = .ok w → InOrder tr →
      (w.rates (rateKey env owner) = none → tr.filterMap (launchTime owner) = [])
      ∧ ∀ r, w.rates (rateKey env owner) = some r →
        Limited (tr.filterMap (launchTime owner)) r := by
  induction tr using List.reverseRecOn with
  | nil =>
    intro w hrun _
    cases hrun
    simp [hgen.rates]
  | append_singleton p a ih =>
    intro w hrun horder
    obtain ⟨m, hp, hrest⟩ := run_append.mp hrun
    obtain ⟨m', ha, hnil⟩ := run_cons.mp hrest
    cases hnil
    obtain ⟨horder, -, hlast⟩ := List.pairwise_append.mp horder
    obtain ⟨hnone, hsome⟩ := ih hp horder
    rw [List.filterMap_append]
    rcases step_rate ha owner with ⟨htime, r', hr', hallow⟩ |
      ⟨htime, hiff, hlimit⟩
    · rw [hr', show [a].filterMap (launchTime owner) = [a.tx.clock] by
        simp [htime]]
      refine ⟨by simp, fun r hr => ?_⟩
      cases hr
      refine allow_limited ?_ ?_ hallow
      · cases hold : m.rates (rateKey env owner) with
        | none =>
          rw [hnone hold]
          exact ⟨.inl ⟨rfl, rfl⟩, .inl ⟨rfl, rfl⟩⟩
        | some r => exact hsome r hold
      · intro t ht
        obtain ⟨b, hb, htb⟩ := List.mem_filterMap.mp ht
        have hclock : b.tx.clock = t := by
          unfold launchTime at htb
          split at htb
          · split at htb
            · exact Option.some.inj htb
            · cases htb
          · cases htb
        exact hclock ▸ hlast b hb a (by simp)
    · rw [show [a].filterMap (launchTime owner) = [] by simp [htime],
        List.append_nil]
      exact ⟨fun h => hnone (hiff.mp h), hlimit _ hsome⟩

-- ==== the law

/-- Of any attempts in order, the launches of an owner's agent that
succeed are at most twice the limit in an interval shorter than the day or
the week, and the refused ones leave the state of the others alone. -/
theorem launch_rate_law {w₀ : World} (tried : List (Action env))
    (hgen : Genesis w₀) (horder : InOrder tried) (owner : Pubkey) :
    let launches := (attempts env w₀ tried).2.filterMap (launchTime owner)
    (∀ lo hi, hi - lo < 86400 → inside lo hi launches ≤ 2 * maxLaunchesPerDay)
    ∧ (∀ lo hi, hi - lo < 7 * 86400 →
      inside lo hi launches ≤ 2 * maxLaunchesPerWeek)
    ∧ run (step env) w₀ (attempts env w₀ tried).2
      = .ok (attempts env w₀ tried).1 := by
  obtain ⟨hrun, hsub⟩ := attempts_run tried w₀
  obtain ⟨hnone, hsome⟩ := @run_limited _ owner _ _ hgen _ hrun
    (horder.sublist hsub)
  have hspread : ∀ {span : Int} {cap count : Nat} {times : List Int}
      {since lo hi : Int}, Ready span cap times count since → hi - lo < span →
      inside lo hi times ≤ 2 * cap := by
    intro span cap count times since lo hi hready hlt
    rcases hready with ⟨rfl, -⟩ | hkept
    · exact Nat.zero_le _
    · exact hkept.spread lo hi hlt
  cases hr : (attempts env w₀ tried).1.rates (rateKey env owner) with
  | none =>
    rw [hnone hr]
    exact ⟨fun _ _ _ => Nat.zero_le _, fun _ _ _ => Nat.zero_le _, hrun⟩
  | some r =>
    obtain ⟨hday, hweek⟩ := hsome r hr
    exact ⟨fun _ _ => hspread hday, fun _ _ => hspread hweek, hrun⟩

open Launch.Concrete Solana.Concrete in
/-- The fourth launch of a day is refused, the next one comes a day after
the first. -/
theorem launch_rate_law_refused :
    (attempts Concrete.env start [create 50 1000, create 51 1000,
        create 52 1000, create 53 1001, create 54 87400]).2.filterMap
          (launchTime (wallet 10))
        = [1000, 1000, 1000, 87400]
      ∧ ∀ lo hi, hi - lo < 86400 → inside lo hi
        [1000, 1000, 1000, 87400] ≤ 6 := by
  have htimes : (attempts Concrete.env start [create 50 1000,
      create 51 1000, create 52 1000, create 53 1001,
      create 54 87400]).2.filterMap (launchTime (wallet 10))
        = [1000, 1000, 1000, 87400] := by
    decide
  have horder : InOrder [create 50 1000, create 51 1000, create 52 1000,
      create 53 1001, create 54 87400] := by
    unfold InOrder
    decide
  have hlaw := (launch_rate_law _ start_genesis horder
    (wallet 10)).1
  rw [htimes] at hlaw
  exact ⟨htimes, hlaw⟩

end KamiyoProtocol.Kamiyo.Launch
