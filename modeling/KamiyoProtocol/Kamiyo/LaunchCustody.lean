/-
What an escrowed launch pays out, and when.

Each of the four instructions on a record takes it from one status to the
next (`Moved`), and two of them pay it out. A record is paid out once, a
dispute leaves only its resolution to do it, and until then it is funded.
-/
import KamiyoProtocol.Kamiyo.Launch

namespace KamiyoProtocol.Kamiyo.Launch

open Solana Exec Function

variable {env : Env Seed} {w w' : World} {a : Action env} {k : Pubkey}

-- ==== one instruction

/-- What a record holds, and when it has been paid out. -/
def terms : Vaults.Terms LaunchRecord where
  amount r := r.escrowAmount
  paid r := r.status = .released ∨ r.status = .resolved

def Graduates (k : Pubkey) (a : Action env) : Prop :=
  ∃ owner pool, a.op = .recordGraduation k owner pool

def Disputes (k : Pubkey) (a : Action env) : Prop :=
  ∃ reporter evidence, a.op = .disputeLaunch k reporter evidence

/-- The record an action is about, and the one it pays out of. -/
def subject (a : Action env) : Option Pubkey :=
  match a.op with
  | .recordGraduation launch _ _ => some launch
  | .releaseLaunch launch _ => some launch
  | .disputeLaunch launch _ _ => some launch
  | .resolveLaunchDispute launch _ _ _ _ _ => some launch
  | _ => none

def payee (a : Action env) : Option Pubkey :=
  match a.op with
  | .releaseLaunch launch _ => some launch
  | .resolveLaunchDispute launch _ _ _ _ _ => some launch
  | _ => none

/-- The transfers an action makes out of its record: a release to the
owner, a resolution to the recorded reporter and to the owner. -/
def payouts (a : Action env) (k : Pubkey) (r : LaunchRecord) :
    List (Transfer Pubkey) :=
  match a.op with
  | .releaseLaunch _ _ => [⟨k, r.owner, r.escrowAmount⟩]
  | .resolveLaunchDispute _ _ reporter _ _ score =>
    let refund := percentOf r.escrowAmount (calculateRefundFromQuality score)
    payment k reporter refund ++ payment k r.owner (r.escrowAmount - refund)
  | _ => []

/-- The statuses an action moves a record between, and what else it
demands. -/
inductive Moved (a : Action env) (r r' : LaunchRecord) : Prop where
  | graduated (owner pool : Pubkey) (launch : Pubkey)
      (op : a.op = .recordGraduation launch owner pool)
      (was : r.status = .active) (is : r'.status = .graduated)
      (time : r'.graduatedAt = some a.tx.clock)
  | released (owner launch : Pubkey) (op : a.op = .releaseLaunch launch owner)
      (g : Int) (was : r.status = .graduated) (is : r'.status = .released)
      (time : r.graduatedAt = some g)
      (delay : launchReleaseDelay ≤ a.tx.clock - g)
  | disputed (reporter launch : Pubkey) (evidence : Bytes)
      (op : a.op = .disputeLaunch launch reporter evidence)
      (was : r.status = .active ∨ r.status = .graduated)
      (is : r'.status = .disputed)
  | resolved (launch owner reporter one two : Pubkey) (score : Nat)
      (op : a.op = .resolveLaunchDispute launch owner reporter one two score)
      (was : r.status = .disputed) (is : r'.status = .resolved)
      (recorded : r.disputeReporter = some reporter)

/-- An accepted action on the record `r` at `k`, which leaves `r'`. -/
structure Touch (a : Action env) (k : Pubkey) (r r' : LaunchRecord)
    (w w' : World) : Prop where
  found : w.launches k = some r
  address : k = env.pda (.launch r.agent r.mint)
  frame : w'.launches = update w.launches k (some r')
  amount : r'.escrowAmount = r.escrowAmount
  moved : w.lamports.moves (payouts a k r) = some w'.lamports
  change : Moved a r r'

/-- The account holds its rent and the escrowed amount. -/
def Funds (env : Env Seed) (w : World) (k : Pubkey) (r : LaunchRecord) :
    Prop :=
  env.minimumBalance launchRecordSpace + r.escrowAmount ≤ w.lamports.bal k

theorem percentOf_le {amount percentage : Nat} (h : percentage ≤ 100) :
    percentOf amount percentage ≤ amount := by
  have hmul : amount * percentage ≤ amount * 100 := Nat.mul_le_mul_left _ h
  refine (Nat.mod_le _ _).trans ?_
  omega

theorem refund_le (amount score : Nat) :
    percentOf amount (calculateRefundFromQuality score) ≤ amount := by
  refine percentOf_le ?_
  rcases refund_tiers score with ⟨-, h⟩ | ⟨-, h | h | h⟩
  all_goals omega

theorem touches (hk : subject a = some k) (h : step env a w = .ok w') :
    ∃ r r', Touch a k r r' w w' := by
  unfold step at h
  cases hop : a.op with
  | recordGraduation launch owner pool =>
    rw [hop] at h
    obtain rfl : launch = k := by simpa [subject, hop] using hk
    simp only [recordGraduation, loadLaunch, bind_ok, load_ok,
      requireSeeds_ok, ensure_ok] at h
    obtain ⟨r, ⟨_, hfound, -, haddress, hr⟩, -, -, rate, -, -, -, -, hwas, -,
      -, hw⟩ := h
    cases hr
    cases hw
    refine ⟨r, _, hfound, haddress, rfl, rfl, ?_,
      .graduated _ _ _ hop hwas rfl rfl⟩
    rw [payouts, hop]
    rfl
  | releaseLaunch launch owner =>
    rw [hop] at h
    obtain rfl : launch = k := by simpa [subject, hop] using hk
    simp only [releaseLaunch, loadLaunch, bind_ok, load_ok,
      requireSeeds_ok, ensure_ok, okOr_ok, subI64_ok,
      moveLamports_ok] at h
    obtain ⟨r, ⟨_, hfound, -, haddress, hr⟩, -, rfl, -, -, -, hwas, g, hg, _,
      ⟨-, rfl⟩, -, hdelay, l, hl, hw⟩ := h
    cases hr
    cases hw
    refine ⟨r, _, hfound, haddress, rfl, rfl, ?_,
      .released _ _ hop g hwas rfl hg hdelay⟩
    rw [payouts, hop]
    exact Ledger.moves_single hl
  | disputeLaunch launch reporter evidence =>
    rw [hop] at h
    obtain rfl : launch = k := by simpa [subject, hop] using hk
    simp only [disputeLaunch, loadLaunch, bind_ok, load_ok,
      requireSeeds_ok, ensure_ok] at h
    obtain ⟨r, ⟨_, hfound, -, haddress, hr⟩, rate, -, -, -, -, hwas, -, -, -,
      -, _, -, hw⟩ := h
    cases hr
    cases hw
    refine ⟨r, _, hfound, haddress, rfl, rfl, ?_, .disputed _ _ _ hop hwas rfl⟩
    rw [payouts, hop]
    rfl
  | resolveLaunchDispute launch owner reporter one two score =>
    rw [hop] at h
    obtain rfl : launch = k := by simpa [subject, hop] using hk
    simp only [resolveLaunchDispute, loadLaunch, bind_ok, load_ok,
      requireSeeds_ok, ensure_ok, okOr_ok] at h
    obtain ⟨config, -, r, ⟨_, hfound, -, haddress, hr⟩, -, -, -, -, -, -, -,
      -, -, -, -, -, -, hwas, -, rfl, _, hrecorded, -, rfl, -, -, l₁, h₁, l₂,
      h₂, hw⟩ := h
    cases hr
    cases hw
    refine ⟨r, _, hfound, haddress, rfl, rfl, ?_,
      .resolved _ _ _ _ _ _ hop hwas rfl hrecorded⟩
    rw [payouts, hop]
    exact Ledger.moves_append (payLamports_ok h₁) (payLamports_ok h₂)
  | _ => simp [subject, hop] at hk

/-- An action on no record creates one at most, on its owner's
signature, and funds it. -/
theorem aside (hk : subject a = none) (h : step env a w = .ok w') :
    ∃ ts, w.lamports.moves ts = some w'.lamports
      ∧ (∀ t ∈ ts, ∀ s, t.src ≠ env.pda s)
      ∧ (w'.launches = w.launches
        ∨ ∃ agent mint r, w.launches (env.pda (.launch agent mint)) = none
          ∧ r.status = .active ∧ Funds env w' (env.pda (.launch agent mint)) r
          ∧ w'.launches = update w.launches
            (env.pda (.launch agent mint)) (some r)) := by
  unfold step at h
  cases hop : a.op with
  | createTrustedLaunch owner mint coin config amount target bps =>
    rw [hop] at h
    simp only [createTrustedLaunch, bind_ok, requireSigner_ok,
      requireFresh_ok, systemTransfer_ok] at h
    obtain ⟨_, -, treasury, -, identity, -, -, -, -, hsigned, -, hfresh, l₁,
      h₁, l₂, h₂, -, -, -, -, -, -, -, -, -, -, -, -, -, -, rate, -, l₃, h₃,
      l₄, h₄, hw⟩ := h
    cases hw
    obtain ⟨ts, hts, hsrc⟩ := fundRent_moves h₁
    obtain ⟨us, hus, husrc⟩ : ∃ us, l₁.moves us = some l₂
        ∧ ∀ t ∈ us, t.src = owner := by
      unfold initRateLimit at h₂
      split at h₂
      · cases h₂
        exact ⟨[], rfl, by simp⟩
      · exact fundRent_moves h₂
    have hne : ∀ s, owner ≠ env.pda s := fun s => signer_ne hsigned
    refine ⟨ts ++ us ++ [⟨owner, _, _⟩] ++ [⟨owner, _, amount⟩],
      Ledger.moves_append (Ledger.moves_append (Ledger.moves_append hts hus)
        (Ledger.moves_single h₃)) (Ledger.moves_single h₄), ?_,
      .inr ⟨_, mint, _, hfresh, rfl, ?_, rfl⟩⟩
    · intro t ht s
      have howner : t.src = owner := by
        simp only [List.mem_append, List.mem_singleton] at ht
        rcases ht with ((ht | ht) | rfl) | rfl
        · exact hsrc t ht
        · exact husrc t ht
        · rfl
        · rfl
      rw [howner]
      exact hne s
    · -- the rent comes first, and what follows only adds to it
      have hrent := fundRent_covers (hne _) h₁
      have hstays : ∀ t : Transfer Pubkey, t.src = owner →
          t.src ≠ env.pda (.launch (env.pda (.agent owner)) mint) := by
        intro t ht
        rw [ht]
        exact hne _
      have hl₂ := Ledger.bal_mono hus fun t ht => hstays t (husrc t ht)
      have hl₃ := Ledger.bal_mono (Ledger.moves_single h₃) fun t ht =>
        hstays t (by rw [List.mem_singleton.mp ht])
      have hl₄ := Ledger.bal_move h₄
        (env.pda (.launch (env.pda (.agent owner)) mint))
      rw [if_neg (hne _), if_pos rfl] at hl₄
      show env.minimumBalance launchRecordSpace + amount ≤ l₄.bal _
      omega
  | others config treasury agents =>
    rw [hop] at h
    cases h
    exact ⟨[], rfl, by simp, .inl rfl⟩
  | systemTransfer src dst n =>
    rw [hop] at h
    simp only [bind_ok, requireSigner_ok, systemTransfer_ok] at h
    obtain ⟨-, hsigned, l, hl, hw⟩ := h
    cases hw
    refine ⟨_, Ledger.moves_single hl, ?_, .inl rfl⟩
    intro t ht s
    rw [List.mem_singleton] at ht
    rw [ht]
    exact signer_ne hsigned
  | _ => simp [subject, hop] at hk

theorem subject_of_payee (h : payee a = some k) : subject a = some k := by
  unfold payee at h
  unfold subject
  split at h
  · next hop => simpa [hop] using h
  · next hop => simpa [hop] using h
  · cases h

/-- A record that moves was not paid out, and is paid out in full or not
at all. -/
theorem Moved.pays {r r' : LaunchRecord} (h : Moved a r r') (k : Pubkey) :
    terms.paid r = false ∧ (∀ t ∈ payouts a k r, t.src = k)
      ∧ ((payee a = none ∧ terms.paid r' = false ∧ payouts a k r = [])
        ∨ (payee a = subject a ∧ terms.paid r' = true
          ∧ Transfer.outOf (payouts a k r) k = r.escrowAmount)) := by
  cases h with
  | graduated owner pool launch hop hwas his =>
    simp [terms, hwas, his, payee, payouts, hop]
  | disputed reporter launch evidence hop hwas his =>
    rcases hwas with hwas | hwas
    · simp [terms, hwas, his, payee, payouts, hop]
    · simp [terms, hwas, his, payee, payouts, hop]
  | released owner launch hop g hwas his =>
    simp [terms, hwas, his, payee, subject, payouts, hop]
  | resolved launch owner reporter one two score hop hwas his =>
    have hle := refund_le r.escrowAmount score
    refine ⟨by simp [terms, hwas], ?_, .inr ⟨by simp [payee, subject, hop],
      by simp [terms, his], ?_⟩⟩
    · intro t ht
      simp only [payouts, hop] at ht
      rcases List.mem_append.mp ht with ht | ht
      · exact (of_mem_payment ht).1
      · exact (of_mem_payment ht).1
    · simp [payouts, hop]
      omega

/-- Every instruction has an effect on the records. -/
theorem step_effect (h : step env a w = .ok w') :
    Vaults.Effect env terms w.launches w'.launches w.lamports w'.lamports
      (payee a) := by
  cases hk : subject a with
  | none =>
    have hpayee : payee a = none := by
      cases hp : payee a with
      | none => rfl
      | some k =>
        rw [subject_of_payee hp] at hk
        cases hk
    obtain ⟨ts, hmoved, hsrc, hsame | ⟨agent, mint, r, hnone, hr, -,
      hframe⟩⟩ := aside hk h
    · rw [hpayee]
      exact .kept ts hsame hmoved hsrc
    · rw [hpayee]
      refine .wrote _ r ts hframe (by simp [terms, hr]) ?_ hmoved hsrc
      intro r₀ hr₀
      rw [hnone] at hr₀
      cases hr₀
  | some k =>
    obtain ⟨r, r', hfound, rfl, hframe, hamount, hmoved, hchange⟩ :=
      touches hk h
    obtain ⟨hopen, hsrc, ⟨hpayee, hunpaid, hnil⟩ | ⟨hpayee, hpaid, hout⟩⟩ :=
      hchange.pays (env.pda (.launch r.agent r.mint))
    · rw [hpayee]
      rw [hnil] at hmoved
      refine .wrote _ r' [] hframe hunpaid ?_ hmoved (by simp)
      intro r₀ hr₀
      rw [hfound] at hr₀
      cases hr₀
      exact ⟨hopen, hamount⟩
    · rw [hpayee, hk]
      exact .paid _ r r' _ hfound hopen hframe hpaid hamount hmoved hsrc hout

-- ==== the run so far

/-- No action so far disputed the launch. -/
def Undisputed (p : List (Action env)) (k : Pubkey) : Prop :=
  ∀ b ∈ p, ¬ Disputes k b

/-- What the status of a record says of the actions so far. -/
def LoggedAt (p : List (Action env)) (w : World) (k : Pubkey) : Prop :=
  (w.launches k = none → Undisputed p k)
    ∧ ∀ r, w.launches k = some r →
      (r.status = .active ∨ r.status = .graduated → Undisputed p k)
      ∧ (r.status = .graduated → ∃ g, r.graduatedAt = some g
        ∧ ∃ b ∈ p, Graduates k b ∧ b.tx.clock = g)

def Logged (p : List (Action env)) (w : World) : Prop :=
  ∀ k, LoggedAt p w k

theorem subject_of_disputes (h : Disputes k a) : subject a = some k := by
  obtain ⟨reporter, evidence, hop⟩ := h
  simp [subject, hop]

theorem undisputed_append {p : List (Action env)} (h : Undisputed p k)
    (ha : ¬ Disputes k a) : Undisputed (p ++ [a]) k := by
  intro b hb
  rcases List.mem_append.mp hb with hb | hb
  · exact h b hb
  · rw [List.mem_singleton] at hb
    rw [hb]
    exact ha

theorem Logged.step {p : List (Action env)} (h : Logged p w)
    (hstep : step env a w = .ok w') : Logged (p ++ [a]) w' := by
  intro k
  obtain ⟨hnone, hsome⟩ := h k
  -- a record the action is not about stays, with its log
  have hstays : w'.launches k = w.launches k → ¬ Disputes k a →
      LoggedAt (p ++ [a]) w' k := by
    intro hsame hno
    unfold LoggedAt
    rw [hsame]
    refine ⟨fun hk => undisputed_append (hnone hk) hno, fun r hr => ?_⟩
    obtain ⟨hopen, hgrad⟩ := hsome r hr
    refine ⟨fun hs => undisputed_append (hopen hs) hno, fun hs => ?_⟩
    obtain ⟨g, hg, b, hb, hgr⟩ := hgrad hs
    exact ⟨g, hg, b, List.mem_append_left _ hb, hgr⟩
  cases hk : subject a with
  | none =>
    have hno : ¬ Disputes k a := by
      intro hd
      rw [subject_of_disputes hd] at hk
      cases hk
    obtain ⟨-, -, -, hsame | ⟨agent, mint, r, hfresh, hr, -, hframe⟩⟩ :=
      aside hk hstep
    · exact hstays (by rw [hsame]) hno
    · by_cases hkey : k = env.pda (.launch agent mint)
      · subst hkey
        rw [LoggedAt, hframe, update_self]
        refine ⟨by simp, fun r' hr' => ?_⟩
        cases hr'
        exact ⟨fun _ => undisputed_append (hnone hfresh) hno,
          fun hs => by rw [hr] at hs; cases hs⟩
      · exact hstays (by rw [hframe, update_of_ne hkey]) hno
  | some j =>
    obtain ⟨r, r', hfound, -, hframe, -, -, hchange⟩ := touches hk hstep
    by_cases hkey : k = j
    · subst hkey
      obtain ⟨hopen, -⟩ := hsome r hfound
      rw [LoggedAt, hframe, update_self]
      refine ⟨by simp, fun x hx => ?_⟩
      cases hx
      cases hchange with
      | graduated owner pool launch hop hwas his htime =>
        obtain rfl : launch = k := by simpa [subject, hop] using hk
        have hno : ¬ Disputes launch a := by
          rintro ⟨_, _, hd⟩
          rw [hop] at hd
          cases hd
        exact ⟨fun _ => undisputed_append (hopen (.inl hwas)) hno, fun _ =>
          ⟨_, htime, a, by simp, ⟨owner, pool, hop⟩, rfl⟩⟩
      | released owner launch hop g hwas his htime hdelay => simp [his]
      | disputed reporter launch evidence hop hwas his => simp [his]
      | resolved launch owner reporter one two score hop hwas his hrec =>
        simp [his]
    · refine hstays (by rw [hframe, update_of_ne hkey]) fun hd => ?_
      rw [subject_of_disputes hd] at hk
      exact hkey (Option.some.inj hk)

-- ==== the law

/-- In every run a record is paid out at most once, and what left it is
then the escrowed amount. A release comes at least the delay after a
graduation, and after no dispute; what pays out after a dispute is its
resolution, to the recorded reporter and to the owner, in two parts that
are the amount. -/
theorem launch_escrow_law {w₀ : World} {tr : List (Action env)}
    (hgen : Genesis w₀) (hrun : run (step env) w₀ tr = .ok w) :
    (∀ agent mint, let k := env.pda (.launch agent mint)
      (tr.map payee).count (some k) = terms.times (w.launches k)
        ∧ w.lamports.debited k = terms.spent (w.launches k))
    ∧ (∀ p a q k owner, tr = p ++ a :: q → a.op = .releaseLaunch k owner →
      (∃ b ∈ p, Graduates k b ∧ launchReleaseDelay ≤ a.tx.clock - b.tx.clock)
        ∧ Undisputed p k)
    ∧ ∀ p a q k, tr = p ++ a :: q → payee a = some k →
      ¬ Undisputed p k → ∃ m m' r reporter refund rest,
        run (step env) w₀ p = .ok m ∧ step env a m = .ok m'
        ∧ m.launches k = some r ∧ r.disputeReporter = some reporter
        ∧ (∃ owner one two score,
          a.op = .resolveLaunchDispute k owner reporter one two score)
        ∧ refund + rest = r.escrowAmount
        ∧ m.lamports.moves (payment k reporter refund
          ++ payment k r.owner rest) = some m'.lamports := by
  have hcut : ∀ {p a q}, tr = p ++ a :: q → ∃ m m',
      run (step env) w₀ p = .ok m ∧ step env a m = .ok m' ∧ Logged p m := by
    intro p a q htr
    rw [htr] at hrun
    obtain ⟨m, hp, hrest⟩ := run_append.mp hrun
    obtain ⟨m', ha, -⟩ := run_cons.mp hrest
    have hstart : Logged ([] : List (Action env)) w₀ := by
      intro k
      simp [LoggedAt, Undisputed, hgen.launches]
    exact ⟨m, m', hp, ha, run_induct_log (I := Logged)
      (fun _ _ _ _ hI hs => hI.step hs) hstart hp⟩
  refine ⟨?_, ?_, ?_⟩
  · intro agent mint
    have hbooks := Vaults.books_run World.launches World.lamports
      (fun _ _ _ => step_effect) hgen.launches hgen.journal hrun
    obtain ⟨hspent, htimes⟩ := hbooks (.launch agent mint)
    exact ⟨htimes, hspent⟩
  · intro p a q k owner htr hop
    obtain ⟨m, m', -, ha, hlog⟩ := hcut htr
    have hk : subject a = some k := by simp [subject, hop]
    obtain ⟨r, r', hfound, -, -, -, -, hchange⟩ := touches hk ha
    obtain ⟨hopen, hgrad⟩ := (hlog k).2 r hfound
    cases hchange with
    | released owner' launch hop' g hwas his htime hdelay =>
      obtain ⟨g', hg', b, hb, hgr, hclock⟩ := hgrad hwas
      rw [htime] at hg'
      cases hg'
      exact ⟨⟨b, hb, hgr, hclock ▸ hdelay⟩, hopen (.inr hwas)⟩
    | graduated _ _ _ hop' => simp [hop] at hop'
    | disputed _ _ _ hop' => simp [hop] at hop'
    | resolved _ _ _ _ _ _ hop' => simp [hop] at hop'
  · intro p a q k htr hk hdisputed
    obtain ⟨m, m', hp, ha, hlog⟩ := hcut htr
    obtain ⟨r, r', hfound, -, -, -, hmoved, hchange⟩ :=
      touches (subject_of_payee hk) ha
    cases hchange with
    | released owner launch hop g hwas his htime hdelay =>
      exact absurd (((hlog k).2 r hfound).1 (.inr hwas)) hdisputed
    | graduated _ _ _ hop => simp [payee, hop] at hk
    | disputed _ _ _ hop => simp [payee, hop] at hk
    | resolved launch owner reporter one two score hop hwas his hrecorded =>
      obtain rfl : launch = k := by simpa [payee, hop] using hk
      simp only [payouts, hop] at hmoved
      exact ⟨m, m', r, reporter, _, _, hp, ha, hfound, hrecorded,
        ⟨owner, one, two, score, hop⟩,
        Nat.add_sub_cancel' (refund_le r.escrowAmount score), hmoved⟩

-- ==== what backs the records

/-- Every launch that is not paid out is funded. -/
def Backed (env : Env Seed) (w : World) : Prop :=
  ∀ agent mint r, w.launches (env.pda (.launch agent mint)) = some r →
    terms.paid r = false → Funds env w (env.pda (.launch agent mint)) r

theorem Backed.step (h : Backed env w) (hstep : step env a w = .ok w') :
    Backed env w' := by
  intro agent mint r hr hopen
  cases hk : subject a with
  | none =>
    obtain ⟨ts, hmoved, hsrc, hsame | ⟨agent', mint', r', -, -, hfunds,
      hframe⟩⟩ := aside hk hstep
    · rw [hsame] at hr
      exact (h agent mint r hr hopen).trans
        (Ledger.bal_mono hmoved fun t ht => hsrc t ht _)
    · by_cases hkey : env.pda (.launch agent mint)
          = env.pda (.launch agent' mint')
      · rw [hframe, hkey, update_self] at hr
        cases hr
        rw [hkey]
        exact hfunds
      · rw [hframe, update_of_ne hkey] at hr
        exact (h agent mint r hr hopen).trans
          (Ledger.bal_mono hmoved fun t ht => hsrc t ht _)
  | some k =>
    obtain ⟨r₀, r', hfound, -, hframe, hamount, hmoved, hchange⟩ :=
      touches hk hstep
    obtain ⟨hopen₀, hsrc, hpays⟩ := hchange.pays k
    by_cases hkey : env.pda (.launch agent mint) = k
    · subst hkey
      rw [hframe, update_self] at hr
      cases hr
      rcases hpays with ⟨-, -, hnil⟩ | ⟨-, hpaid, -⟩
      · rw [hnil] at hmoved
        have hfunds := h agent mint r₀ hfound hopen₀
        unfold Funds at hfunds ⊢
        rwa [hamount, ← Option.some.inj hmoved]
      · rw [hpaid] at hopen
        cases hopen
    · rw [hframe, update_of_ne hkey] at hr
      exact (h agent mint r hr hopen).trans
        (Ledger.bal_mono hmoved fun t ht => hsrc t ht ▸ Ne.symm hkey)

/-- In every run a launch that was neither released nor resolved holds
its rent and the escrowed amount, as a resolution demands. -/
theorem launch_escrow_backed {w₀ : World} {tr : List (Action env)}
    (hgen : Genesis w₀) (hrun : run (step env) w₀ tr = .ok w)
    (agent mint : Pubkey) (r : LaunchRecord)
    (hr : w.launches (env.pda (.launch agent mint)) = some r)
    (hopen : r.status ≠ .released ∧ r.status ≠ .resolved) :
    r.escrowAmount ≤ w.lamports.bal (env.pda (.launch agent mint))
      - env.minimumBalance launchRecordSpace := by
  have hbacked : Backed env w := by
    refine run_induct (fun _ _ _ h hs => h.step hs) ?_ hrun
    intro agent mint r hr
    rw [hgen.launches] at hr
    cases hr
  have hfunds := hbacked agent mint r hr (by simp [terms, hopen])
  unfold Funds at hfunds
  omega

set_option maxRecDepth 1000

open Launch.Concrete Solana.Concrete in
theorem launch_escrow_backed_disputed :
    ∃ w, run (step Concrete.env) start [create 50 1000,
        act [30] 1002 (.disputeLaunch (launchKey 50) (wallet 30) [1])] = .ok w
      ∧ 1000000 ≤ w.lamports.bal (launchKey 50)
        - Concrete.env.minimumBalance launchRecordSpace := by
  obtain ⟨w, hrun, h⟩ := check_ok (show check (fun w =>
      (w.launches (launchKey 50)).any fun r =>
        decide (r.escrowAmount = 1000000 ∧ r.status = .disputed))
    (run (step Concrete.env) start [create 50 1000,
      act [30] 1002 (.disputeLaunch (launchKey 50) (wallet 30) [1])]) = true
      by decide)
  obtain ⟨r, hr, h⟩ := (Option.any_eq_true _ _).mp h
  obtain ⟨hamount, hstatus⟩ := of_decide_eq_true h
  refine ⟨w, hrun, hamount ▸ launch_escrow_backed start_genesis hrun _ _ r hr
    ?_⟩
  simp [hstatus]

open Launch.Concrete Solana.Concrete in
/-- A graduated launch is disputed, and split between wallets 30 and
10. -/
theorem launch_escrow_law_disputed :
    ∃ tr w, run (step Concrete.env) start tr = .ok w
      ∧ (tr.map payee).count (some (launchKey 50)) = 1
      ∧ w.lamports.debited (launchKey 50) = 1000000 := by
  obtain ⟨w, hrun, hpaid⟩ := check_ok (show check (fun w =>
      decide (terms.times (w.launches (launchKey 50)) = 1
        ∧ terms.spent (w.launches (launchKey 50)) = 1000000))
    (run (step Concrete.env) start [create 50 1000,
      act [10] 1001 (.recordGraduation (launchKey 50) (wallet 10)
        (wallet 60)),
      act [30] 1002 (.disputeLaunch (launchKey 50) (wallet 30) [1]),
      act [1] 1003 (.resolveLaunchDispute (launchKey 50) (wallet 10)
        (wallet 30) (wallet 1) (wallet 1) 60)]) = true
      by decide)
  obtain ⟨htimes, hspent⟩ := of_decide_eq_true hpaid
  obtain ⟨hcount, hdebited⟩ :=
    (launch_escrow_law start_genesis hrun).1 _ (wallet 50)
  exact ⟨_, w, hrun, hcount.trans htimes, hdebited.trans hspent⟩

end KamiyoProtocol.Kamiyo.Launch
