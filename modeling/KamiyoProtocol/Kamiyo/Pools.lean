/-
The two pools of lamports the program keeps, stakes in the registry
account and fees and rewards in the treasury account, seen from one
action.

`step_pools` is the inversion lemma the solvency of either pool is
derived from, as `step_escrow` is for the escrows: an action leaves both
pools alone, or is one of the nine that pay into, pay out of or re-book
one of them.
-/
import KamiyoProtocol.Kamiyo.Concrete

namespace KamiyoProtocol.Kamiyo

open Solana Exec

variable {env : Env Seed} {w w' : World}

/-- What one action can do to the registry and the treasury. -/
inductive PoolStep (env : Env Seed) (a : Action env) (w w' : World) :
    Prop where
  /-- Nothing: neither is debited, no oracle's record changes. -/
  | aside (ts : List (Transfer Pubkey))
      (lamports : w.lamports.moves ts = some w'.lamports)
      (sources : ∀ t ∈ ts, t.src ≠ env.pda .oracleRegistry
        ∧ t.src ≠ env.pda .treasury)
      (registry : w'.registry = w.registry)
      (treasury : w'.treasury.isSome = w.treasury.isSome)
  | treasuryOpened (ts : List (Transfer Pubkey))
      (fresh : w.treasury = none)
      (lamports : w.lamports.moves ts = some w'.lamports)
      (sources : ∀ t ∈ ts, t.src ∈ a.tx.signers)
      (covers : env.minimumBalance treasurySpace
        ≤ w'.lamports.bal (env.pda .treasury))
      (registry : w'.registry = w.registry)
  | treasuryPaid (acc : WithdrawTreasuryAccounts) (n : Nat)
      (op : a.op = .withdrawTreasury acc n)
      (lamports : w.lamports.moves [⟨env.pda .treasury, acc.recipient, n⟩]
        = some w'.lamports)
      (registry : w'.registry = w.registry)
      (treasury : w.treasury.isSome = true)
      (treasury' : w'.treasury.isSome = true)
  | registryOpened (reg : OracleRegistry) (ts : List (Transfer Pubkey))
      (fresh : w.registry = none) (empty : reg.oracles = [])
      (lamports : w.lamports.moves ts = some w'.lamports)
      (sources : ∀ t ∈ ts, t.src ∈ a.tx.signers)
      (covers : env.minimumBalance oracleRegistrySpace
        ≤ w'.lamports.bal (env.pda .oracleRegistry))
      (registry : w'.registry = some reg)
      (treasury : w'.treasury = w.treasury)
  | neutral (reg reg' : OracleRegistry) (kept : Neutral w w' reg reg')
  | deposited (reg reg' : OracleRegistry) (src : Pubkey) (n : Nat)
      (paid : Deposited env a.tx w w' reg reg' src n)
  | removed (reg reg' : OracleRegistry) (o : OracleConfig) (dst : Pubkey)
      (left : Departed env w w' reg reg' o dst o.stakeAmount)
  | withdrawn (acc : OracleAccounts) (reg reg' : OracleRegistry) (i : Nat)
      (o : OracleConfig) (op : a.op = .completeOracleWithdrawal acc)
      (signer : acc.oracle ∈ a.tx.signers)
      (found : Keyed.locate OracleConfig.pubkey reg.oracles acc.oracle
        = some (i, o))
      (left : Departed env w w' reg reg' o acc.oracle
        (o.stakeAmount + o.totalRewards))
  | claimed (reg reg' : OracleRegistry) (oracle : Pubkey) (n : Nat)
      (registry : w.registry = some reg) (signer : oracle ∈ a.tx.signers)
      (lamports : w.lamports.moves [⟨env.pda .treasury, oracle, n⟩]
        = some w'.lamports)
      (stakes : stakeSum reg'.oracles = stakeSum reg.oracles)
      (rewards : rewardSum reg'.oracles + n = rewardSum reg.oracles)
      (frame : w' = (w.setLamports w'.lamports).setRegistry reg')
      (roster : roster reg'.oracles = roster reg.oracles)
  | finalized (acc : FinalizeAccounts) (e : Escrow)
      (reg reg' : OracleRegistry) (consensus : Nat) (split : Split)
      (reward : Nat) (ts us : List (Transfer Pubkey))
      (op : a.op = .finalizeMultiOracleDispute acc)
      (done : Finalized env a.tx acc w w' e reg reg' consensus split reward
        ts us)

variable {a : Action env}

theorem poolStep_signed {ts : List (Transfer Pubkey)}
    (hl : w.lamports.moves ts = some w'.lamports)
    (hsig : ∀ t ∈ ts, t.src ∈ a.tx.signers)
    (hr : w'.registry = w.registry)
    (ht : w'.treasury.isSome = w.treasury.isSome) :
    PoolStep env a w w' :=
  .aside ts hl
    (fun t hmem => ⟨signer_ne (hsig t hmem), signer_ne (hsig t hmem)⟩) hr ht

theorem poolStep_quiet (hl : w'.lamports = w.lamports)
    (hr : w'.registry = w.registry) (ht : w'.treasury = w.treasury) :
    PoolStep env a w w' :=
  .aside [] (by rw [hl]; rfl) (by simp) hr (by rw [ht])

theorem poolStep_paid {w₁ : World} {k : Pubkey}
    {e : Escrow} {ts us : List (Transfer Pubkey)}
    (h : Paid w₁ w' k e ts us) {agent : Pubkey} {id : Bytes}
    (hk : k = env.pda (.escrow agent id)) (hl : w₁.lamports = w.lamports)
    (hr : w₁.registry = w.registry) (ht : w₁.treasury = w.treasury) :
    PoolStep env a w w' := by
  refine .aside ts (hl ▸ h.lamports) ?_ ?_ ?_
  · intro t hmem
    rw [h.sources t hmem, hk]
    exact ⟨pda_ne (by simp), pda_ne (by simp)⟩
  · rw [h.frame]
    exact hr
  · rw [h.frame]
    exact congrArg Option.isSome ht

theorem poolStep_tokens {o : Option Tokens}
    (h : viaTokens w o = .ok w') : PoolStep env a w w' := by
  simp only [viaTokens, bind_ok] at h
  obtain ⟨b, -, hw⟩ := h
  cases hw
  exact poolStep_quiet rfl rfl rfl

theorem step_pools (h : step env a w = .ok w') :
    PoolStep env a w w' := by
  unfold step at h
  obtain ⟨tx, op⟩ := a
  cases op with
  | initializeProtocol acc s t =>
    obtain ⟨c, ts, hl, hsig, hw⟩ := initializeProtocol_ok h
    exact poolStep_signed hl hsig (by rw [hw]; rfl) (by rw [hw]; rfl)
  | pauseProtocol pair =>
    obtain ⟨c, rfl⟩ := pauseProtocol_ok h
    exact poolStep_quiet rfl rfl rfl
  | unpauseProtocol pair =>
    obtain ⟨c, rfl⟩ := unpauseProtocol_ok h
    exact poolStep_quiet rfl rfl rfl
  | transferProtocolAuthority pair old new =>
    obtain ⟨c, rfl⟩ := transferProtocolAuthority_ok h
    exact poolStep_quiet rfl rfl rfl
  | initializeTreasury acc =>
    obtain ⟨t, ts, hfresh, hl, hsig, hcov, hw⟩ := initializeTreasury_ok h
    exact .treasuryOpened ts hfresh hl hsig hcov (by rw [hw]; rfl)
  | withdrawTreasury acc n =>
    obtain ⟨t, hsome, -, -, hl, hw⟩ := withdrawTreasury_ok h
    exact .treasuryPaid acc n rfl hl (by rw [hw]; rfl) hsome
      (by rw [hw]; rfl)
  | createAgent acc name type n =>
    obtain ⟨x, ts, hl, hsig, hw⟩ := createAgent_ok h
    exact poolStep_signed hl hsig (by rw [hw]; rfl) (by rw [hw]; rfl)
  | deactivateAgent acc =>
    obtain ⟨x, n, hl, hw⟩ := deactivateAgent_ok h
    refine .aside _ hl ?_ (by rw [hw]; rfl) (by rw [hw]; rfl)
    intro t hmem
    rw [List.mem_singleton] at hmem
    rw [hmem]
    exact ⟨pda_ne (by simp), pda_ne (by simp)⟩
  | initReputation acc =>
    obtain ⟨r, ts, hl, hsig, hw⟩ := initReputation_ok h
    exact poolStep_signed hl hsig (by rw [hw]; rfl) (by rw [hw]; rfl)
  | initializeOracleRegistry acc c d =>
    obtain ⟨reg, ts, hfresh, hempty, hl, hsig, hcov, hw⟩ :=
      initializeOracleRegistry_ok h
    exact .registryOpened reg ts hfresh hempty hl hsig hcov
      (by rw [hw]; rfl) (by rw [hw]; rfl)
  | addOracle acc o type weight n =>
    obtain ⟨reg, reg', src, q, hd⟩ := addOracle_ok h
    exact .deposited reg reg' src q hd
  | registerOracle acc n =>
    obtain ⟨reg, reg', src, q, hd⟩ := registerOracle_ok h
    exact .deposited reg reg' src q hd
  | removeOracle acc o =>
    obtain ⟨reg, reg', x, hd⟩ := removeOracle_ok h
    exact .removed reg reg' x _ hd
  | transferAdmin acc new =>
    obtain ⟨reg, reg', hn⟩ := transferAdmin_ok h
    exact .neutral reg reg' hn
  | setPublicRegistration acc b =>
    obtain ⟨reg, reg', hn⟩ := setPublicRegistration_ok h
    exact .neutral reg reg' hn
  | requestOracleWithdrawal acc =>
    obtain ⟨reg, reg', hn⟩ := requestOracleWithdrawal_ok h
    exact .neutral reg reg' hn
  | completeOracleWithdrawal acc =>
    obtain ⟨reg, reg', i, x, hsig, hloc, hd⟩ :=
      completeOracleWithdrawal_ok h
    exact .withdrawn acc reg reg' i x rfl hsig hloc hd
  | cancelOracleWithdrawal acc =>
    obtain ⟨reg, reg', hn⟩ := cancelOracleWithdrawal_ok h
    exact .neutral reg reg' hn
  | increaseOracleStake acc n =>
    obtain ⟨reg, reg', src, q, hd⟩ := increaseOracleStake_ok h
    exact .deposited reg reg' src q hd
  | claimOracleRewards acc =>
    obtain ⟨reg, reg', n, hreg, hsig, -, hl, hst, hrew, hkeys, hw⟩ :=
      claimOracleRewards_ok h
    exact .claimed reg reg' acc.oracle n hreg hsig hl hst hrew hw hkeys
  | initializeEscrow acc n lock id spl =>
    obtain ⟨e, ts, hsig, hrec, ho, -, -⟩ := initializeEscrow_ok h
    obtain ⟨t, hw⟩ := ho.frame
    obtain ⟨t₀, ht₀⟩ := ho.treasury
    refine poolStep_signed ho.lamports ?_ (by rw [hw]; rfl) ?_
    · intro x hx
      rw [ho.sources x hx, hrec.agent]
      exact hsig
    · rw [hw, ht₀]
      rfl
  | releaseFunds acc =>
    obtain ⟨e, ts, us, -, hk, -, hpaid⟩ := releaseFunds_ok h
    exact poolStep_paid hpaid hk rfl rfl rfl
  | markDisputed acc =>
    obtain ⟨e, r, -, -, -, rfl⟩ := markDisputed_ok h
    exact poolStep_quiet rfl rfl rfl
  | resolveDispute acc score pct sig =>
    simp only [bind_ok] at h
    obtain ⟨⟨w₁, ev⟩, hr, hw⟩ := h
    cases hw
    obtain ⟨e, ar, pr, ts, us, -, hk, -, hpaid⟩ := resolveDispute_ok hr
    exact poolStep_paid hpaid hk rfl rfl rfl
  | commitOracleScore acc hash =>
    obtain ⟨e, endsAt, -, -, -, -, -, rfl⟩ := commitOracleScore_ok h
    exact poolStep_quiet rfl rfl rfl
  | submitOracleScore acc score salt sig =>
    obtain ⟨e, i, c, -, -, -, -, -, -, -, -, -, rfl⟩ := submitOracleScore_ok h
    exact poolStep_quiet rfl rfl rfl
  | finalizeMultiOracleDispute acc =>
    obtain ⟨e, reg, reg', c, split, reward, ts, us, hf⟩ :=
      finalizeMultiOracleDispute_ok h
    exact .finalized acc e reg reg' c split reward ts us rfl hf
  | claimExpiredEscrow acc =>
    obtain ⟨e, pct, ts, us, -, hk, -, hpaid⟩ := claimExpiredEscrow_ok h
    exact poolStep_paid hpaid hk rfl rfl rfl
  | systemTransfer src dst n =>
    simp only [bind_ok, requireSigner_ok, systemTransfer_ok] at h
    obtain ⟨-, hsig, l, hl, hw⟩ := h
    cases hw
    have hmoved : w.lamports.moves [⟨src, dst, n⟩]
        = some (w.setLamports l).lamports := Ledger.moves_single hl
    refine poolStep_signed hmoved ?_ rfl rfl
    intro t hmem
    rw [List.mem_singleton] at hmem
    rw [hmem]
    exact hsig
  | createMint k decimals =>
    simp only [bind_ok] at h
    obtain ⟨-, -, -, -, hw⟩ := h
    cases hw
    exact poolStep_quiet rfl rfl rfl
  | tokenTransfer src dst authority n =>
    simp only [bind_ok] at h
    obtain ⟨-, -, h⟩ := h
    exact poolStep_tokens h
  | setTokenOwner k owner =>
    exact poolStep_tokens h
  | mintTo k n =>
    exact poolStep_tokens h
  | openTokenAccount k mint owner =>
    simp only [bind_ok] at h
    obtain ⟨-, -, -, -, h⟩ := h
    exact poolStep_tokens h
  | createAta wallet mint =>
    simp only [bind_ok] at h
    obtain ⟨-, -, h⟩ := h
    exact poolStep_tokens h
  | closeTokenAccount k =>
    exact poolStep_tokens h

end KamiyoProtocol.Kamiyo
