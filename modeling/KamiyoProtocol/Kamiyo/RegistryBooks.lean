/-
The books of the oracle registry: who is listed, what the listed have at
stake together, and which of them asked to leave.

`Books` is what a registry keeps, for the requests that stand. Four edits
keep it: a record is added, replaced, dropped, or all are settled by a
finalisation; every instruction on the registry is one of them
(`Books.step`). The requests that stand are read off the run
(`requestedAt`).

The weight of an oracle is no part of the books: it is cast from the stake
to sixteen bits, or set by the admin (`weight_law`).
-/
import KamiyoProtocol.Kamiyo.Slashing

namespace KamiyoProtocol.Kamiyo

open Solana Exec

variable {env : Env Seed} {tx : Tx env} {a : Action env} {w w' : World}
  {reg reg' : OracleRegistry}

-- ==== requests

/-- What an action makes of the time `k` asked to withdraw at. -/
def Action.request (a : Action env) (k : Pubkey) (r : Option Int) :
    Option Int :=
  match a.op with
  | .requestOracleWithdrawal acc =>
    if acc.oracle = k then some a.tx.clock else r
  | .cancelOracleWithdrawal acc => if acc.oracle = k then none else r
  | .addOracle _ oracle _ _ _ => if oracle = k then none else r
  | .registerOracle acc _ => if acc.oracle = k then none else r
  | _ => r

/-- When `k`, enrolled since or not, asked to withdraw, if it did and did
not cancel. -/
def requestedAt (tr : List (Action env)) (k : Pubkey) : Option Int :=
  tr.foldl (fun r a => a.request k r) none

theorem requestedAt_append (tr : List (Action env)) (a : Action env)
    (k : Pubkey) :
    requestedAt (tr ++ [a]) k = a.request k (requestedAt tr k) := by
  unfold requestedAt
  rw [List.foldl_append]
  rfl

/-- A record shows the request that stands. -/
def Shows (r : Option Int) (o : OracleConfig) : Prop :=
  (o.status = 1 ∧ r = some o.withdrawalRequestedAt
    ∧ 0 < o.withdrawalRequestedAt)
  ∨ (o.status = 0 ∧ r = none ∧ o.withdrawalRequestedAt = 0)

/-- The registry's records and totals agree, and show the requests. -/
structure Books (request : Pubkey → Option Int) (reg : OracleRegistry) :
    Prop where
  distinct : (roster reg.oracles).Nodup
  total : reg.totalStake = stakeSum reg.oracles
  shows : ∀ o ∈ reg.oracles, Shows (request o.pubkey) o

-- ==== four edits

section Edits

variable {request request' : Pubkey → Option Int} {i : Nat}
  {o o' : OracleConfig}

theorem Books.enrol (h : Books request reg)
    (hnew : o.pubkey ∉ roster reg.oracles)
    (hactive : o.status = 0 ∧ o.withdrawalRequestedAt = 0)
    (hfits : reg.totalStake + o.stakeAmount < 2 ^ 64)
    (horacles : reg'.oracles = reg.oracles ++ [o])
    (htotal : reg'.totalStake
      = Fixed.saturatingAdd 64 reg.totalStake o.stakeAmount)
    (hother : ∀ k, k ≠ o.pubkey → request' k = request k)
    (hnone : request' o.pubkey = none) : Books request' reg' := by
  have hsum := Keyed.sum_append_single OracleConfig.stakeAmount reg.oracles o
  refine ⟨?_, ?_, ?_⟩
  · rw [horacles, roster, List.map_append, List.nodup_append]
    refine ⟨h.distinct, by simp, ?_⟩
    intro x hx y hy hxy
    simp only [List.map_cons, List.map_nil, List.mem_singleton] at hy
    exact hnew (hy ▸ hxy ▸ hx)
  · rw [htotal, Fixed.saturatingAdd_eq hfits, h.total, horacles]
    exact hsum.symm
  · intro x hx
    rw [horacles] at hx
    rcases List.mem_append.mp hx with hx | hx
    · rw [hother]
      · exact h.shows x hx
      · exact fun hkey => hnew (hkey ▸ List.mem_map_of_mem hx)
    · rw [List.mem_singleton.mp hx, hnone]
      exact .inr ⟨hactive.1, rfl, hactive.2⟩

theorem Books.update (h : Books request reg) (hi : reg.oracles[i]? = some o)
    (horacles : reg'.oracles = reg.oracles.set i o')
    (hkey : o'.pubkey = o.pubkey)
    (htotal : reg'.totalStake + o.stakeAmount = reg.totalStake + o'.stakeAmount)
    (hother : ∀ k, k ≠ o.pubkey → request' k = request k)
    (hshows : Shows (request' o.pubkey) o') : Books request' reg' := by
  have hsum := Keyed.sum_set OracleConfig.stakeAmount hi o'
  have hroster : roster reg'.oracles = roster reg.oracles := by
    rw [horacles]
    exact Keyed.map_set hi hkey
  refine ⟨hroster ▸ h.distinct, ?_, ?_⟩
  · have htotal' := h.total
    rw [horacles]
    unfold stakeSum at htotal' ⊢
    omega
  · intro x hx
    rw [horacles, Keyed.set_eq_map h.distinct hi] at hx
    obtain ⟨z, hz, rfl⟩ := List.mem_map.mp hx
    by_cases hzo : z.pubkey = o.pubkey
    · rw [if_pos hzo, hkey]
      exact hshows
    · rw [if_neg hzo, hother _ hzo]
      exact h.shows z hz

theorem Books.drop (h : Books request reg) (hi : reg.oracles[i]? = some o)
    (clock : Int) (hsame : ∀ k, request' k = request k) :
    Books request' (reg.drop i o clock) := by
  have hsum := Keyed.sum_eraseIdx OracleConfig.stakeAmount hi
  obtain rfl : request' = request := funext hsame
  refine ⟨h.distinct.sublist ((List.eraseIdx_sublist _ _).map _), ?_, ?_⟩
  · have htotal := h.total
    unfold OracleRegistry.drop stakeSum at *
    dsimp only
    omega
  · intro x hx
    exact h.shows x (List.mem_of_mem_eraseIdx hx)

theorem Books.settle {consensus rpo : Nat} {subs : List OracleSubmission}
    {removed : List Pubkey} (h : Books request reg)
    (hsettled : SettledBy consensus rpo subs removed reg reg')
    (hfits : reg.totalStake < 2 ^ 64)
    (hsame : ∀ k, request' k = request k) : Books request' reg' := by
  obtain rfl : request' = request := funext hsame
  refine ⟨?_, hsettled.total h.total hfits, ?_⟩
  · rw [hsettled.oracles]
    refine List.Nodup.sublist (List.filter_sublist.map _) ?_
    rw [List.map_map]
    refine (List.map_congr_left fun o _ => ?_) ▸ h.distinct
    exact (judgeAll_pubkey ..).symm
  · intro x hx
    obtain ⟨o, ho, -, rfl⟩ := hsettled.mem_iff.mp hx
    have hkept := judgeAll_kept consensus reg.maxScoreDeviation rpo subs o
    rw [judgeAll_pubkey, Shows, hkept.1, hkept.2.1]
    exact h.shows o ho

theorem Books.same (h : Books request reg)
    (horacles : reg'.oracles = reg.oracles)
    (htotal : reg'.totalStake = reg.totalStake)
    (hsame : ∀ k, request' k = request k) : Books request' reg' := by
  obtain rfl : request' = request := funext hsame
  exact ⟨horacles ▸ h.distinct, by rw [htotal, horacles, h.total],
    horacles ▸ h.shows⟩

end Edits

-- ==== the actions

/-- The instructions on the registry. -/
def Op.onRegistry : Op → Bool
  | .initializeOracleRegistry .. | .addOracle .. | .registerOracle ..
  | .removeOracle .. | .transferAdmin .. | .setPublicRegistration ..
  | .requestOracleWithdrawal .. | .completeOracleWithdrawal ..
  | .cancelOracleWithdrawal .. | .increaseOracleStake ..
  | .claimOracleRewards .. | .finalizeMultiOracleDispute .. => true
  | _ => false

theorem viaTokens_registry {o : Option Tokens} (h : viaTokens w o = .ok w') :
    w'.registry = w.registry := by
  simp only [viaTokens, bind_ok] at h
  obtain ⟨b, -, hw⟩ := h
  cases hw
  rfl

theorem step_registry (hother : a.op.onRegistry = false)
    (h : step env a w = .ok w') : w'.registry = w.registry := by
  unfold step at h
  obtain ⟨tx, op⟩ := a
  cases op with
  | initializeProtocol acc s t =>
    obtain ⟨c, ts, -, -, hw⟩ := initializeProtocol_ok h
    rw [hw]
    rfl
  | pauseProtocol pair =>
    obtain ⟨c, rfl⟩ := pauseProtocol_ok h
    rfl
  | unpauseProtocol pair =>
    obtain ⟨c, rfl⟩ := unpauseProtocol_ok h
    rfl
  | transferProtocolAuthority pair old new =>
    obtain ⟨c, rfl⟩ := transferProtocolAuthority_ok h
    rfl
  | initializeTreasury acc =>
    obtain ⟨t, ts, -, -, -, -, hw⟩ := initializeTreasury_ok h
    rw [hw]
    rfl
  | withdrawTreasury acc n =>
    obtain ⟨t, -, -, -, -, hw⟩ := withdrawTreasury_ok h
    rw [hw]
    rfl
  | createAgent acc name type n =>
    obtain ⟨x, ts, -, -, hw⟩ := createAgent_ok h
    rw [hw]
    rfl
  | deactivateAgent acc =>
    obtain ⟨x, n, -, hw⟩ := deactivateAgent_ok h
    rw [hw]
    rfl
  | initReputation acc =>
    obtain ⟨r, ts, -, -, hw⟩ := initReputation_ok h
    rw [hw]
    rfl
  | initializeEscrow acc n lock id spl =>
    obtain ⟨e, ts, -, -, ho, -, -⟩ := initializeEscrow_ok h
    obtain ⟨t, hw⟩ := ho.frame
    rw [hw]
    rfl
  | releaseFunds acc =>
    obtain ⟨e, ts, us, -, -, -, hpaid⟩ := releaseFunds_ok h
    rw [hpaid.frame]
    rfl
  | markDisputed acc =>
    obtain ⟨e, r, -, -, -, rfl⟩ := markDisputed_ok h
    rfl
  | resolveDispute acc score pct sig =>
    simp only [bind_ok] at h
    obtain ⟨⟨w₁, ev⟩, hr, hw⟩ := h
    cases hw
    obtain ⟨e, ar, pr, ts, us, -, -, -, hpaid⟩ := resolveDispute_ok hr
    rw [hpaid.frame]
    rfl
  | commitOracleScore acc hash =>
    obtain ⟨e, endsAt, -, -, -, -, -, rfl⟩ := commitOracleScore_ok h
    rfl
  | submitOracleScore acc score salt sig =>
    obtain ⟨e, i, c, -, -, -, -, -, -, -, -, -, rfl⟩ := submitOracleScore_ok h
    rfl
  | claimExpiredEscrow acc =>
    obtain ⟨e, pct, ts, us, -, -, -, hpaid⟩ := claimExpiredEscrow_ok h
    rw [hpaid.frame]
    rfl
  | systemTransfer src dst n =>
    simp only [bind_ok] at h
    obtain ⟨-, -, l, -, hw⟩ := h
    cases hw
    rfl
  | createMint k decimals =>
    simp only [bind_ok] at h
    obtain ⟨-, -, -, -, hw⟩ := h
    cases hw
    rfl
  | tokenTransfer src dst authority n =>
    simp only [bind_ok] at h
    obtain ⟨-, -, h⟩ := h
    exact viaTokens_registry h
  | setTokenOwner k owner =>
    exact viaTokens_registry h
  | mintTo k n =>
    exact viaTokens_registry h
  | openTokenAccount k mint owner =>
    simp only [bind_ok] at h
    obtain ⟨-, -, -, -, h⟩ := h
    exact viaTokens_registry h
  | createAta wallet mint =>
    simp only [bind_ok] at h
    obtain ⟨-, -, h⟩ := h
    exact viaTokens_registry h
  | closeTokenAccount k =>
    exact viaTokens_registry h
  | _ =>
    cases hother

/-- The stake an action adds. -/
def Op.deposit : Op → Nat
  | .addOracle _ _ _ _ n => n
  | .registerOracle _ n => n
  | .increaseOracleStake _ n => n
  | _ => 0

/-- The clock is positive, and the stakes fit with what is added. -/
def Ordinary (a : Action env) (w : World) : Prop :=
  0 < a.tx.clock
    ∧ ∀ reg, w.registry = some reg → reg.totalStake + a.op.deposit < 2 ^ 64

/-- What an instruction on the registry leaves of the books. -/
theorem Books.step {request : Pubkey → Option Int}
    (h : ∀ reg, w.registry = some reg → Books request reg)
    (hord : Ordinary a w)
    (hvotes : ∀ k e, w.escrows k = some e → (∃ acc : FinalizeAccounts,
      acc.escrow = k ∧ a.op = .finalizeMultiOracleDispute acc) →
      (e.oracleSubmissions.map OracleSubmission.oracle).Nodup)
    (hstep : step env a w = .ok w') :
    ∀ reg', w'.registry = some reg' →
      Books (fun k => a.request k (request k)) reg' := by
  obtain ⟨hclock, hfits⟩ := hord
  intro reg' hreg'
  obtain ⟨tx, op⟩ := a
  cases op with
  | initializeOracleRegistry acc c d =>
    simp only [Kamiyo.step, initializeOracleRegistry, bind_ok]
      at hstep
    obtain ⟨-, -, -, -, l, -, -, -, -, -, hw⟩ := hstep
    cases hw
    cases hreg'
    exact ⟨List.nodup_nil, rfl, by simp⟩
  | addOracle acc oracle type weight n =>
    simp only [Kamiyo.step, addOracle, enrolOracle, bind_ok,
      load_ok, ensure_ok] at hstep
    obtain ⟨reg, hreg, -, -, -, -, -, -, -, -, -, -, -, -, -, -, -, hfresh, l,
      -, hw⟩ := hstep
    cases hw
    cases hreg'
    exact (h reg hreg).enrol (fun hmem => hfresh (List.mem_map.mp hmem))
      ⟨rfl, rfl⟩ (hfits reg hreg) rfl rfl (fun k hk => if_neg (Ne.symm hk))
      (if_pos rfl)
  | registerOracle acc n =>
    simp only [Kamiyo.step, registerOracle, enrolOracle, bind_ok,
      load_ok, ensure_ok] at hstep
    obtain ⟨reg, hreg, -, -, -, -, -, -, -, -, -, hfresh, l, -, hw⟩ := hstep
    cases hw
    cases hreg'
    exact (h reg hreg).enrol (fun hmem => hfresh (List.mem_map.mp hmem))
      ⟨rfl, rfl⟩ (hfits reg hreg) rfl rfl (fun k hk => if_neg (Ne.symm hk))
      (if_pos rfl)
  | removeOracle acc oracle =>
    simp only [Kamiyo.step, removeOracle, bind_ok, load_ok]
      at hstep
    obtain ⟨reg, hreg, -, -, -, -, -, -, f, hf, l, -, hw⟩ := hstep
    cases hw
    cases hreg'
    exact (h reg hreg).drop (requireOracle_ok hf).1 _ fun _ => rfl
  | transferAdmin acc new =>
    simp only [Kamiyo.step, transferAdmin, bind_ok, load_ok]
      at hstep
    obtain ⟨reg, hreg, -, -, -, -, -, -, hw⟩ := hstep
    cases hw
    cases hreg'
    exact (h reg hreg).same rfl rfl fun _ => rfl
  | setPublicRegistration acc b =>
    simp only [Kamiyo.step, setPublicRegistration, bind_ok, load_ok] at hstep
    obtain ⟨reg, hreg, -, -, -, -, hw⟩ := hstep
    cases hw
    cases hreg'
    exact (h reg hreg).same rfl rfl fun _ => rfl
  | requestOracleWithdrawal acc =>
    simp only [Kamiyo.step, requestOracleWithdrawal, bind_ok, load_ok] at hstep
    obtain ⟨reg, hreg, -, -, f, hf, -, -, -, -, -, -, hw⟩ := hstep
    cases hw
    cases hreg'
    obtain ⟨hi, hkey⟩ := requireOracle_ok hf
    refine (h reg hreg).update hi rfl rfl rfl ?_ ?_
    · intro k hk
      simp only [Action.request]
      exact if_neg fun he : acc.oracle = k => hk (he.symm.trans hkey.symm)
    · simp only [Action.request, hkey, if_pos]
      exact .inl ⟨rfl, rfl, hclock⟩
  | completeOracleWithdrawal acc =>
    simp only [Kamiyo.step, completeOracleWithdrawal, bind_ok, load_ok] at hstep
    obtain ⟨reg, hreg, -, -, f, hf, -, -, -, -, -, -, -, -, l, -, hw⟩ := hstep
    cases hw
    cases hreg'
    exact (h reg hreg).drop (requireOracle_ok hf).1 _ fun _ => rfl
  | cancelOracleWithdrawal acc =>
    simp only [Kamiyo.step, cancelOracleWithdrawal, bind_ok, load_ok] at hstep
    obtain ⟨reg, hreg, -, -, f, hf, -, -, hw⟩ := hstep
    cases hw
    cases hreg'
    obtain ⟨hi, hkey⟩ := requireOracle_ok hf
    refine (h reg hreg).update hi rfl rfl rfl ?_ ?_
    · intro k hk
      simp only [Action.request]
      exact if_neg fun he : acc.oracle = k => hk (he.symm.trans hkey.symm)
    · simp only [Action.request, hkey, if_pos]
      exact .inr ⟨rfl, rfl, rfl⟩
  | increaseOracleStake acc n =>
    simp only [Kamiyo.step, increaseOracleStake, bind_ok, load_ok]
      at hstep
    obtain ⟨reg, hreg, -, -, -, -, f, hf, -, -, l, -, hw⟩ := hstep
    cases hw
    cases hreg'
    obtain ⟨hi, hkey⟩ := requireOracle_ok hf
    have hdeposit := hfits reg hreg
    change reg.totalStake + n < 2 ^ 64 at hdeposit
    have hpart := Keyed.le_sum OracleConfig.stakeAmount hi
    have htotal := (h reg hreg).total
    unfold stakeSum at htotal
    refine (h reg hreg).update hi rfl rfl ?_ (fun _ _ => rfl) ?_
    · show Fixed.saturatingAdd 64 reg.totalStake n + f.2.stakeAmount
        = reg.totalStake + Fixed.saturatingAdd 64 f.2.stakeAmount n
      rw [Fixed.saturatingAdd_eq hdeposit, Fixed.saturatingAdd_eq (by omega)]
      omega
    · simp only [Action.request]
      exact (h reg hreg).shows f.2 (List.mem_of_getElem? hi)
  | claimOracleRewards acc =>
    simp only [Kamiyo.step, claimOracleRewards, bind_ok, load_ok]
      at hstep
    obtain ⟨reg, hreg, -, -, -, -, f, hf, -, -, -, -, l, -, hw⟩ := hstep
    cases hw
    cases hreg'
    obtain ⟨hi, -⟩ := requireOracle_ok hf
    refine (h reg hreg).update hi rfl rfl rfl (fun _ _ => rfl) ?_
    · simp only [Action.request]
      exact (h reg hreg).shows f.2 (List.mem_of_getElem? hi)
  | finalizeMultiOracleDispute acc =>
    simp only [Kamiyo.step] at hstep
    obtain ⟨e, reg, reg₁, consensus, rpo, removed, he, hreg, hreg₁, -,
      hsettled⟩ := finalizeMultiOracleDispute_settles
        (fun reg hreg => (h reg hreg).distinct)
        (fun e he => hvotes _ e he ⟨acc, rfl, rfl⟩) hstep
    obtain rfl : reg' = reg₁ := Option.some.inj (hreg'.symm.trans hreg₁)
    have hroom := hfits reg hreg
    exact (h reg hreg).settle hsettled (by omega) fun _ => rfl
  | _ =>
    rw [step_registry rfl hstep] at hreg'
    exact (h reg' hreg').same rfl rfl fun _ => rfl

/-- In every reachable registry the oracles are distinct, the total stake is
the sum of theirs, and those have status 1 whose record holds the time of
the request that stands. -/
theorem registry_books {w₀ : World} {tr : List (Action env)}
    (hgen : Genesis w₀) (hord : Meets (step env) Ordinary w₀ tr)
    (hrun : run (step env) w₀ tr = .ok w)
    (hreg : w.registry = some reg) :
    (reg.oracles.map OracleConfig.pubkey).Nodup
      ∧ reg.totalStake = (reg.oracles.map OracleConfig.stakeAmount).sum
      ∧ ∀ o ∈ reg.oracles, (o.status = 0 ∨ o.status = 1)
        ∧ (o.status = 1
          ↔ requestedAt tr o.pubkey = some o.withdrawalRequestedAt)
        ∧ (o.status = 0 ↔ requestedAt tr o.pubkey = none) := by
  have hbooks : ∀ reg, w.registry = some reg → Books (requestedAt tr) reg := by
    clear hreg
    induction tr using List.reverseRecOn generalizing w with
    | nil =>
      cases hrun
      intro reg hreg
      rw [hgen.registry] at hreg
      cases hreg
    | append_singleton p a ih =>
      obtain ⟨m, hp, ha⟩ := run_append.mp hrun
      obtain ⟨hbefore, hnow, -⟩ := meets_append hord hp
      obtain ⟨w₁, hstep, hlast⟩ := run_cons.mp ha
      cases hlast
      have hvotes : ∀ k e, m.escrows k = some e →
          (∃ acc : FinalizeAccounts, acc.escrow = k
            ∧ a.op = .finalizeMultiOracleDispute acc) →
          (e.oracleSubmissions.map OracleSubmission.oracle).Nodup := by
        rintro k e he ⟨acc, rfl, hop⟩
        have hfinal := hstep
        simp only [Kamiyo.step, hop] at hfinal
        obtain ⟨d, _, _, _, _, _, _, _, hd⟩ :=
          finalizeMultiOracleDispute_ok hfinal
        rw [hd.address] at he
        exact (votes_recorded hgen hp _ _ e he).submitters
      rw [show requestedAt (p ++ [a]) = fun k => a.request k (requestedAt p k)
        from funext (requestedAt_append p a)]
      exact Books.step (ih hbefore hp) hnow hvotes hstep
  obtain ⟨hdistinct, htotal, hshows⟩ := hbooks reg hreg
  refine ⟨hdistinct, htotal, fun o ho => ?_⟩
  rcases hshows o ho with ⟨hs, hr, -⟩ | ⟨hs, hr, hw⟩
  · simp [hs, hr]
  · simp [hs, hr]

open Concrete in
/-- Three oracles enrol, and the first asks to leave. -/
theorem registry_books_leaving :
    ∃ w reg, run (step Concrete.env) start
        (setup ++ [act [20] 1100 (.requestOracleWithdrawal ⟨wallet 20⟩)])
          = .ok w
      ∧ w.registry = some reg
      ∧ (reg.oracles.map OracleConfig.pubkey).Nodup
      ∧ reg.totalStake = (reg.oracles.map OracleConfig.stakeAmount).sum := by
  obtain ⟨w, hrun, hsome⟩ := check_ok (show check
      (fun w => w.registry.isSome) (run (step Concrete.env) start
        (setup ++ [act [20] 1100 (.requestOracleWithdrawal ⟨wallet 20⟩)]))
      = true by decide)
  obtain ⟨reg, hreg⟩ := Option.isSome_iff_exists.mp hsome
  have hord : Meets (step Concrete.env) Ordinary start
      (setup ++ [act [20] 1100 (.requestOracleWithdrawal ⟨wallet 20⟩)]) := by
    refine meets_of_check ?_ (show checkMeets (step Concrete.env)
      (fun a w => decide (0 < a.tx.clock) && w.registry.all fun reg =>
        decide (reg.totalStake + a.op.deposit < 2 ^ 64)) start _ = true
        by decide)
    intro a w htest
    rw [Bool.and_eq_true, decide_eq_true_eq] at htest
    refine ⟨htest.1, fun reg hreg => ?_⟩
    rw [hreg] at htest
    exact of_decide_eq_true htest.2
  obtain ⟨hdistinct, htotal, -⟩ :=
    registry_books (genesis_genesis _ _ _ _) hord hrun hreg
  exact ⟨w, reg, hrun, hreg, hdistinct, htotal⟩

-- ==== weights

/-- One per SOL, at least one, at most what sixteen bits hold. -/
def cappedWeight (stake : Nat) : Nat :=
  min 65535 (max 1 (stake / 1000000000))

/-- The stake is below 65536 SOL, or wraps to the highest weight. -/
def WeightFits (stake : Nat) : Prop :=
  stake / 1000000000 < 65536 ∨ stake / 1000000000 % 65536 = 65535

theorem stakeWeight_eq (stake : Nat) :
    stakeWeight stake = max 1 (stake / 1000000000 % 65536) := by
  unfold stakeWeight Fixed.wrap
  dsimp only
  split
  · omega
  · omega

theorem stakeWeight_capped_iff (stake : Nat) :
    stakeWeight stake = cappedWeight stake ↔ WeightFits stake := by
  rw [stakeWeight_eq]
  unfold cappedWeight WeightFits
  omega

theorem stakeWeight_mono_iff (stake : Nat) :
    (∀ less ≤ stake, stakeWeight less ≤ stakeWeight stake)
      ↔ WeightFits stake := by
  simp only [stakeWeight_eq]
  unfold WeightFits
  constructor
  · intro hmono
    by_contra hwraps
    have htop := hmono 65535000000000 (by omega)
    omega
  · intro hfits less hless
    have hle : less / 1000000000 ≤ stake / 1000000000 :=
      Nat.div_le_div_right hless
    omega

theorem registerOracle_weight {acc : RegisterOracleAccounts} {stake : Nat}
    (h : registerOracle env tx acc stake w = .ok w') :
    ∃ reg' o, w'.registry = some reg' ∧ o ∈ reg'.oracles
      ∧ o.pubkey = acc.oracle ∧ o.stakeAmount = stake
      ∧ o.weight = stakeWeight stake := by
  simp only [registerOracle, enrolOracle, bind_ok, load_ok] at h
  obtain ⟨reg, -, -, -, -, -, -, -, -, -, -, -, l, -, hw⟩ := h
  cases hw
  exact ⟨_, _, rfl, List.mem_append_right _ (List.mem_singleton_self _), rfl,
    rfl, rfl⟩

theorem increaseOracleStake_weight {acc : OracleAccounts} {n : Nat}
    (h : increaseOracleStake env tx acc n w = .ok w') :
    ∃ (reg reg' : OracleRegistry) (i : Nat) (o o' : OracleConfig),
      w.registry = some reg ∧ w'.registry = some reg'
      ∧ reg.oracles[i]? = some o ∧ o.pubkey = acc.oracle
      ∧ reg'.oracles[i]? = some o'
      ∧ o'.stakeAmount = min (o.stakeAmount + n) (2 ^ 64 - 1)
      ∧ o'.weight = stakeWeight o'.stakeAmount := by
  simp only [increaseOracleStake, bind_ok, load_ok] at h
  obtain ⟨reg, hreg, -, -, -, -, f, hf, -, -, l, -, hw⟩ := h
  cases hw
  obtain ⟨hi, hkey⟩ := requireOracle_ok hf
  have hlt : f.1 < reg.oracles.length := (List.getElem?_eq_some_iff.mp hi).1
  exact ⟨reg, _, f.1, f.2, _, hreg, rfl, hi, hkey, List.getElem?_set_self hlt,
    rfl, rfl⟩

/-- The weight of a registration is one per SOL, and none of a smaller stake
is above it, exactly below 65536 SOL and where the cast comes out highest. So
is the weight after an increase; it is not lowered exactly if it was no more
than one, or than what the cast leaves of the new stake. -/
theorem weight_law (env : Env Seed) :
    (∀ (tx : Tx env) (acc : RegisterOracleAccounts) (stake : Nat)
        (w w' : World), registerOracle env tx acc stake w = .ok w' →
      ∃ reg' o, w'.registry = some reg' ∧ o ∈ reg'.oracles
        ∧ o.pubkey = acc.oracle ∧ o.stakeAmount = stake
        ∧ (o.weight = cappedWeight stake ↔ WeightFits stake)
        ∧ ((∀ less ≤ stake, stakeWeight less ≤ o.weight) ↔ WeightFits stake))
    ∧ ∀ (tx : Tx env) (acc : OracleAccounts) (n : Nat) (w w' : World),
      increaseOracleStake env tx acc n w = .ok w' →
      ∃ (reg reg' : OracleRegistry) (i : Nat) (o o' : OracleConfig),
        w.registry = some reg ∧ w'.registry = some reg'
        ∧ reg.oracles[i]? = some o ∧ o.pubkey = acc.oracle
        ∧ reg'.oracles[i]? = some o'
        ∧ o'.stakeAmount = min (o.stakeAmount + n) (2 ^ 64 - 1)
        ∧ (o'.weight = cappedWeight o'.stakeAmount ↔ WeightFits o'.stakeAmount)
        ∧ ((∀ less ≤ o'.stakeAmount, stakeWeight less ≤ o'.weight)
          ↔ WeightFits o'.stakeAmount)
        ∧ (o.weight ≤ o'.weight ↔ o.weight ≤ 1 ∨ o.weight
          ≤ min (o.stakeAmount + n) (2 ^ 64 - 1) / 1000000000 % 65536) := by
  constructor
  · intro tx acc stake w w' h
    obtain ⟨reg', o, hreg', ho, hkey, hstake, hweight⟩ :=
      registerOracle_weight h
    refine ⟨reg', o, hreg', ho, hkey, hstake, ?_, ?_⟩
    · rw [hweight]
      exact stakeWeight_capped_iff stake
    · rw [hweight]
      exact stakeWeight_mono_iff stake
  · intro tx acc n w w' h
    obtain ⟨reg, reg', i, o, o', hreg, hreg', hi, hkey, hi', hstake,
      hweight⟩ := increaseOracleStake_weight h
    refine ⟨reg, reg', i, o, o', hreg, hreg', hi, hkey, hi', hstake, ?_, ?_, ?_⟩
    · rw [hweight]
      exact stakeWeight_capped_iff _
    · rw [hweight]
      exact stakeWeight_mono_iff _
    · rw [hweight, stakeWeight_eq, ← hstake]
      omega

open Concrete

/-- The registry takes oracles of the admin's, with a weight of 100, and
anybody's. -/
def openRegistry : List (Action Concrete.env) :=
  enlist [] 1000000000
    ++ [act [1, 20] 1000 (.addOracle ⟨wallet 1, wallet 20⟩ (wallet 20)
        .ed25519 100 1000000000),
      act [1] 1000 (.setPublicRegistration ⟨wallet 1⟩ true)]

theorem openRegistry_runs :
    ∃ w v v', run (step Concrete.env) start openRegistry = .ok w
      ∧ registerOracle Concrete.env (Concrete.tx [21] 1100 []) ⟨wallet 21⟩
          2000000000 w = .ok v
      ∧ increaseOracleStake Concrete.env (Concrete.tx [20] 1100 [])
          ⟨wallet 20⟩ 1 w = .ok v'
      ∧ (w.registry.any fun reg => v'.registry.any fun reg' =>
          decide (∃ o ∈ reg.oracles, ∃ o' ∈ reg'.oracles,
            o'.pubkey = o.pubkey ∧ o'.weight < o.weight)) = true := by
  obtain ⟨w, hrun, hrest⟩ := check_ok (show check (fun w =>
      check (fun _ => true) (registerOracle Concrete.env
        (Concrete.tx [21] 1100 []) ⟨wallet 21⟩ 2000000000 w)
      && check (fun v' => w.registry.any fun reg =>
          v'.registry.any fun reg' =>
          decide (∃ o ∈ reg.oracles, ∃ o' ∈ reg'.oracles,
            o'.pubkey = o.pubkey ∧ o'.weight < o.weight))
        (increaseOracleStake Concrete.env (Concrete.tx [20] 1100 [])
          ⟨wallet 20⟩ 1 w))
    (run (step Concrete.env) start openRegistry) = true by decide)
  rw [Bool.and_eq_true] at hrest
  obtain ⟨v, hregister, -⟩ := check_ok hrest.1
  obtain ⟨v', hincrease, htest⟩ := check_ok hrest.2
  exact ⟨w, v, v', hrun, hregister, hincrease, htest⟩

theorem weight_law_open :
    ∃ w v v' reg' o, registerOracle Concrete.env (Concrete.tx [21] 1100 [])
        ⟨wallet 21⟩ 2000000000 w = .ok v
      ∧ increaseOracleStake Concrete.env (Concrete.tx [20] 1100 [])
          ⟨wallet 20⟩ 1 w = .ok v'
      ∧ v.registry = some reg' ∧ o ∈ reg'.oracles ∧ o.pubkey = wallet 21
      ∧ (o.weight = cappedWeight 2000000000 ↔ WeightFits 2000000000)
      ∧ ∃ o o' : OracleConfig, o.pubkey = wallet 20
        ∧ o'.stakeAmount = min (o.stakeAmount + 1) (2 ^ 64 - 1)
        ∧ (o.weight ≤ o'.weight ↔ o.weight ≤ 1 ∨ o.weight
          ≤ min (o.stakeAmount + 1) (2 ^ 64 - 1) / 1000000000 % 65536) := by
  obtain ⟨w, v, v', -, hregister, hincrease, -⟩ := openRegistry_runs
  obtain ⟨hregistered, hincreased⟩ := weight_law Concrete.env
  obtain ⟨reg', o, hreg', ho, hkey, -, hweight, -⟩ :=
    hregistered _ _ _ _ _ hregister
  obtain ⟨-, -, -, p, p', -, -, -, hkey', -, hstake, -, -, hkept⟩ :=
    hincreased _ _ _ _ _ hincrease
  exact ⟨w, v, v', reg', o, hregister, hincrease, hreg', ho, hkey, hweight,
    p, p', hkey', hstake, hkept⟩

/-- 65536 SOL weigh less than two, and a lamport more costs an oracle of
weight 100 all but one. -/
theorem weight_falls :
    stakeWeight 65536000000000 < stakeWeight 2000000000
      ∧ ∃ w v' reg reg' o o', run (step Concrete.env) start openRegistry = .ok w
        ∧ increaseOracleStake Concrete.env (Concrete.tx [20] 1100 [])
            ⟨wallet 20⟩ 1 w = .ok v'
        ∧ w.registry = some reg ∧ v'.registry = some reg'
        ∧ o ∈ reg.oracles ∧ o' ∈ reg'.oracles ∧ o'.pubkey = o.pubkey
        ∧ o'.weight < o.weight := by
  refine ⟨by decide, ?_⟩
  obtain ⟨w, v, v', hrun, -, hincrease, htest⟩ := openRegistry_runs
  obtain ⟨reg, hreg, htest⟩ := (Option.any_eq_true _ _).mp htest
  obtain ⟨reg', hreg', htest⟩ := (Option.any_eq_true _ _).mp htest
  obtain ⟨o, ho, o', ho', hkey, hlt⟩ := of_decide_eq_true htest
  exact ⟨w, v', reg, reg', o, o', hrun, hincrease, hreg, hreg', ho, ho', hkey,
    hlt⟩

end KamiyoProtocol.Kamiyo
