/-
How often a token counts.

A wallet votes once on a proposal, at the weight of what it holds at the
time, and nothing is set aside: tokens that move on after a vote are
counted again with the next wallet's. So the tallies are bounded by twice
the supply in the runs in which the wallets that have voted keep what
they hold together, as a balance or as a stake.
-/
import KamiyoProtocol.Governance.Lifecycle

namespace KamiyoProtocol.Governance

open Solana Exec

variable {env : Env Seeds} {a : Action env} {w w' : World}

-- ==== holdings

/-- What a wallet's associated account holds of the governance token. -/
def World.walletOf (env : Env Seeds) (w : World) (v : Pubkey) : Nat :=
  match w.config with
  | none => 0
  | some config =>
    match w.tokens.accounts (env.ata v config.tokenMint) with
    | none => 0
    | some t =>
      if t.mint = config.tokenMint ∧ t.owner = v then t.amount else 0

/-- What a wallet holds and has at stake. -/
def World.holds (env : Env Seeds) (w : World) (v : Pubkey) : Nat :=
  w.walletOf env v + w.staking.stakeOf v

/-- The voters of a proposal. -/
def votersOf (w : World) (k : Pubkey) : List Pubkey :=
  (recordsOf w k).map VoteRecord.voter

/-- What the voters of a proposal hold together. -/
def heldByVoters (env : Env Seeds) (w : World) (k : Pubkey) : Nat :=
  ((votersOf w k).map (w.holds env)).sum

/-- The sum of the weights recorded on a proposal. -/
def weights (w : World) (k : Pubkey) : Nat :=
  ((recordsOf w k).map VoteRecord.weight).sum

/-- The step takes nothing from what the voters hold together. -/
def Retains (env : Env Seeds) (k : Pubkey) (a : Action env) (w : World) :
    Prop :=
  ∀ w', step env a w = .ok w' →
    ((votersOf w k).map (w.holds env)).sum
      ≤ ((votersOf w k).map (w'.holds env)).sum

/-- The accounts the supply is in: the staking vault and those of the
governance token. -/
def Counted (env : Env Seeds) (w : World) (k : Pubkey) : Prop :=
  k = env.pda (.inr .vault) ∨ ∃ config t, w.config = some config
    ∧ w.tokens.accounts k = some t ∧ t.mint = config.tokenMint

/-- What the token account at an address holds. -/
def amountAt (b : Tokens) (k : Pubkey) : Nat :=
  match b.accounts k with
  | some t => t.amount
  | none => 0

/-- No more than `n` tokens are in wallets and in the staking vault. -/
def Supply (env : Env Seeds) (w : World) (n : Nat) : Prop :=
  ∀ ks : List Pubkey, ks.Nodup → (∀ k ∈ ks, Counted env w k) →
    (ks.map (amountAt w.tokens)).sum ≤ n

-- ==== books

/-- The staking program's books, which are empty before it has a pool. -/
def Books (env : Env Seeds) (s : Staking.World) : Prop :=
  (s.pool = none ∧ s.positions = [])
    ∨ ∃ pool, Staking.Accounted (stakingEnv env) s pool

variable {s : Staking.World}

/-- Token moves past the vault keep the books. -/
theorem books_tokens {b : Tokens} (h : Books env s)
    (hb : Staking.Shifts (stakingEnv env) s.tokens b 0 0) :
    Books env { s with tokens := b } := by
  rcases h with hempty | ⟨pool, hacc⟩
  · exact Or.inl hempty
  · exact Or.inr ⟨pool, hacc.here, hacc.distinct, hacc.owned, hacc.small,
      hacc.total, hb _ _ hacc.vault⟩

/-- The first step of the staking program opens its books. -/
theorem staking_step_empty {s s' : Staking.World}
    {b : Staking.Action (stakingEnv env)} (hpool : s.pool = none)
    (hpos : s.positions = [])
    (h : Staking.step (stakingEnv env) b s = .ok s') : Books env s' := by
  obtain ⟨_, -, h⟩ := bind_ok.mp h
  unfold Staking.perform at h
  split at h
  · next acc hop =>
      obtain ⟨pool, hacc, -, -⟩ := Staking.accounted_start hpos h
      exact Or.inr ⟨pool, hacc⟩
  · simp only [Staking.stake, bind_ok, load_ok, hpool] at h
    obtain ⟨-, -, pool, hnone, -⟩ := h
    cases hnone
  · simp only [Staking.unstake, bind_ok, load_ok, hpool] at h
    obtain ⟨pool, hnone, -⟩ := h
    cases hnone
  · simp only [Staking.claimRewards, bind_ok, load_ok, hpool] at h
    obtain ⟨pool, hnone, -⟩ := h
    cases hnone
  · simp only [Staking.distributeRewards, bind_ok, load_ok, hpool] at h
    obtain ⟨-, -, pool, hnone, -⟩ := h
    cases hnone
  · simp only [Staking.setPaused, bind_ok, load_ok, hpool] at h
    obtain ⟨-, -, pool, hnone, -⟩ := h
    cases hnone
  · simp only [Staking.setPaused, bind_ok, load_ok, hpool] at h
    obtain ⟨-, -, pool, hnone, -⟩ := h
    cases hnone
  · simp only [Staking.adminForceUnstake, bind_ok, load_ok, hpool] at h
    obtain ⟨-, -, pool, hnone, -⟩ := h
    cases hnone
  · obtain ⟨-, -, hs⟩ := bind_ok.mp h
    cases hs
    exact Or.inl ⟨hpool, hpos⟩
  · obtain ⟨b', -, hs⟩ := bind_ok.mp h
    cases hs
    exact Or.inl ⟨hpool, hpos⟩

/-- Each later one keeps them. -/
theorem staking_step_books {s s' : Staking.World}
    {b : Staking.Action (stakingEnv env)} (hb : Books env s)
    (h : Staking.step (stakingEnv env) b s = .ok s') : Books env s' := by
  rcases hb with ⟨hpool, hpos⟩ | ⟨pool, hacc⟩
  · exact staking_step_empty hpool hpos h
  · exact Or.inr (hacc.step h)

/-- A deposit of a proposal never comes from the vault. -/
theorem payDeposit_shifts {b b' : Tokens} {src dst mint authority : Pubkey}
    {n : Nat} (hne : authority ≠ env.pda (.inr .pool))
    (h : payDeposit b src dst mint authority n = .ok b') :
    Staking.Shifts (stakingEnv env) b b' 0 0 := by
  unfold payDeposit at h
  split at h
  · have ht := transferChecked_ok h
    intro mint' m hv
    exact ⟨hv.1.transfer hne ht, hv.2.transfer hne ht⟩
  · cases h
    exact Staking.shifts_refl b

/-- What an instruction does to the staking program's side. -/
inductive StakingMoved (env : Env Seeds) (a : Action env)
    (w w' : World) : Prop
  | same (h : w'.staking = w.staking)
  | tokens (b : Tokens) (h : w'.staking = { w.staking with tokens := b })
      (hb : Staking.Shifts (stakingEnv env) w.tokens b 0 0)
  | step (op : Staking.Op) (hop : a.op = .viaStaking op)
      (h : Staking.step (stakingEnv env) ⟨stakingTx a.tx, op⟩ w.staking
        = .ok w'.staking)

/-- Governance leaves the staking program alone, or steps it. -/
theorem step_staking (h : step env a w = .ok w') :
    StakingMoved env a w w' := by
  obtain ⟨_, -, h⟩ := bind_ok.mp h
  unfold perform at h
  split at h
  · simp only [initializeGovernance, bind_ok] at h
    obtain ⟨-, -, -, -, hw'⟩ := h
    cases hw'
    exact .same rfl
  · simp only [createProposal, bind_ok, requireSigner_ok] at h
    obtain ⟨config, -, -, -, -, -, source, -, -, -, -, -, -, hsig, -, -, -,
      -, -, -, -, -, b, hb, count, -, ends, -, hw'⟩ := h
    cases hw'
    exact .tokens b rfl (payDeposit_shifts (signer_ne hsig) hb)
  · simp only [castVote, bind_ok] at h
    obtain ⟨-, -, config, -, p, -, -, -, -, -, wallet, -, -, -, -, -, -, -,
      -, -, staked, -, p', -, hw'⟩ := h
    cases hw'
    exact .same rfl
  · simp only [finalizeProposal, bind_ok] at h
    obtain ⟨config, -, p, -, -, -, -, -, state, -, h⟩ := h
    split at h
    · obtain ⟨eta, -, hw'⟩ := bind_ok.mp h
      cases hw'
      exact .same rfl
    · cases h
      exact .same rfl
  · simp only [executeProposal, bind_ok] at h
    obtain ⟨-, -, p, -, -, -, -, -, -, -, expiry, -, -, -, hw'⟩ := h
    cases hw'
    exact .same rfl
  · simp only [cancelProposal, bind_ok] at h
    obtain ⟨p, -, -, -, -, -, -, -, hw'⟩ := h
    cases hw'
    exact .same rfl
  · simp only [initializeDepositVault, bind_ok, okOr_ok] at h
    obtain ⟨config, -, b, hb, -, -, -, -, hw'⟩ := h
    cases hw'
    exact .tokens b rfl fun mint n hv =>
      ⟨hv.1.openAccount hb, hv.2.openAccount hb⟩
  · exact .same (setPaused_aside h).2.2
  · exact .same (setPaused_aside h).2.2
  · simp only [updateConfig, bind_ok] at h
    obtain ⟨config, -, hw'⟩ := h
    cases hw'
    exact .same rfl
  · simp only [claimDeposit, bind_ok] at h
    obtain ⟨config, -, p, -, -, -, -, -, -, -, -, -, -, -, -, -, -, -, -, -,
      b, hb, hw'⟩ := h
    cases hw'
    exact .tokens b rfl (payDeposit_shifts (pda_ne (by simp)) hb)
  · next op hop =>
      simp only [viaStaking, bind_ok, okOr_ok] at h
      obtain ⟨staking, hs, hw'⟩ := h
      cases hw'
      refine .step op hop ?_
      cases hr : Staking.step (stakingEnv env) ⟨stakingTx a.tx, op⟩
          w.staking with
      | error e =>
        rw [hr] at hs
        cases hs
      | ok s' =>
        rw [hr] at hs
        cases hs
        rfl

/-- So the books of the stakes hold after every step. -/
theorem books_step (hb : Books env w.staking) (h : step env a w = .ok w') :
    Books env w'.staking := by
  cases step_staking h with
  | same hs => rwa [hs]
  | tokens b hs hshift =>
    rw [hs]
    exact books_tokens hb hshift
  | step op hop hs => exact staking_step_books hb hs

-- ==== weights

/-- The prefix the program reads is the position that was stored. -/
theorem readPrefix_positionData {p : Staking.StakePosition} {bump : UInt8}
    {q : StakePositionPrefix} {rest : Bytes}
    (h32 : p.owner.bytes.length = 32) (hsmall : p.stakedAmount < 2 ^ 64)
    (h : readPrefix ((Staking.positionData p bump).drop 8) = some (q, rest)) :
    q.owner = p.owner ∧ q.stakedAmount = p.stakedAmount := by
  have hdrop : (Staking.positionData p bump).drop 8 = p.owner.bytes
      ++ (Bytes.le 8 p.stakedAmount ++ Staking.positionRest p bump) := by
    show (Staking.positionDiscriminator ++ _).drop
      Staking.positionDiscriminator.length = _
    exact List.drop_left
  rw [hdrop] at h
  simp only [readPrefix, Borsh.word, Borsh.signed, Borsh.bind_some,
    Borsh.pure_some, Borsh.fixed_some] at h
  obtain ⟨x, m₁, ⟨hx, hcut⟩, staked, m₂, ⟨y, m₃, ⟨hy, hcut₂⟩, rfl, rfl⟩,
    start, m₄, ⟨z, m₅, -, rfl, rfl⟩, rfl, rfl⟩ := h
  obtain ⟨hown, htail⟩ := List.append_inj hcut (h32.trans hx.symm)
  rw [hcut₂] at htail
  obtain ⟨hamount, -⟩ :=
    List.append_inj htail ((Bytes.length_le 8 _).trans hy.symm)
  refine ⟨?_, ?_⟩
  · show (⟨x⟩ : Pubkey) = p.owner
    rw [← hown]
  · show Bytes.leNat y = p.stakedAmount
    rw [← hamount]
    exact Bytes.leNat_le hsmall

/-- No multiplier counts a stake more than twice. -/
theorem stakingWeight_le (n : Nat) (start now : Int) :
    stakingWeight n start now ≤ 2 * n := by
  have hmult : getStakingMultiplier start now ≤ 20000 := by
    rw [getStakingMultiplier_eq]
    exact Staking.getMultiplier_le _
  have hprod := Nat.mul_le_mul_left n hmult
  unfold stakingWeight Fixed.checkedMul
  split
  · simp only [Option.getD_some]
    omega
  · simp

/-- An account with the discriminator is a position of the program. -/
theorem stored_position {info : AccountInfo} (h : Stored env s info)
    (htake : info.data.take 8 = Staking.positionDiscriminator) :
    ∃ e ∈ s.positions, e.2.owner.bytes.length = 32
      ∧ ∃ bump, info.data = Staking.positionData e.2 bump := by
  rcases h with ⟨e, he, -, h32, hdata⟩ | ⟨pool, -, -, hdata⟩ | hzero
  · exact ⟨e, he, h32, _, hdata⟩
  · exfalso
    have hpool : info.data.take 8 = Staking.poolDiscriminator := by
      rw [hdata]
      simp only [Staking.poolData, List.append_assoc]
      show (Staking.poolDiscriminator ++ _).take
        Staking.poolDiscriminator.length = _
      exact List.take_left
    rw [hpool] at htake
    simp [Staking.poolDiscriminator, Staking.positionDiscriminator] at htake
  · exfalso
    have hmem : (78 : UInt8) ∈ info.data := by
      apply List.mem_of_mem_take (i := 8)
      rw [htake]
      simp [Staking.positionDiscriminator]
    have h78 := hzero _ hmem
    simp at h78

/-- A position weighs at most twice what its owner staked. -/
theorem positionWeight_le {voter : Pubkey}
    {clock : Int} {info : AccountInfo} {n : Nat} (hb : Books env s)
    (hl : Loads env s info)
    (h : positionWeight voter clock info = .ok n) :
    n ≤ 2 * s.stakeOf voter := by
  unfold positionWeight at h
  split at h
  · cases h
  · next howner =>
      split at h
      · cases h
        exact Nat.zero_le _
      · next hdata =>
          have hstored := hl (not_not.mp howner)
          have htake : info.data.take 8 = Staking.positionDiscriminator := by
            by_contra hne
            exact hdata (Or.inr hne)
          obtain ⟨e, he, h32, bump, hpos⟩ := stored_position hstored htake
          obtain ⟨pool, hacc⟩ : ∃ pool,
              Staking.Accounted (stakingEnv env) s pool := by
            rcases hb with ⟨-, hnil⟩ | hacc
            · rw [hnil] at he
              cases he
            · exact hacc
          simp only [bind_ok, okOr_ok, ensure_ok] at h
          obtain ⟨⟨q, rest⟩, hread, -, hq, hn⟩ := h
          cases hn
          rw [hpos] at hread
          obtain ⟨hqowner, hqstaked⟩ :=
            readPrefix_positionData h32 (hacc.small e he) hread
          have hkey : e.1 = voter :=
            (hacc.owned e he).symm.trans (hqowner.symm.trans hq)
          have hstake : s.stakeOf voter = e.2.stakedAmount := by
            rw [Staking.World.stakeOf]
            cases hloc : Keyed.locate Prod.fst s.positions voter with
            | none => exact absurd hkey (Keyed.locate_none.mp hloc e he)
            | some r =>
              obtain ⟨hat, hrkey⟩ := Keyed.locate_some hloc
              have hsame : r.2 = e := List.inj_on_of_nodup_map
                hacc.distinct (List.mem_of_getElem? hat) he
                (hrkey.trans hkey.symm)
              dsimp only
              rw [hsame]
          rw [hstake, ← hqstaked]
          exact stakingWeight_le _ _ _

/-- An accepted vote is its wallet's first on the proposal, is counted at
the weight recorded, and weighs at most twice what the wallet holds. -/
def CountsOnce (env : Env Seeds) (a : Action env) (w : World) : Prop :=
  ∀ acc support w', a.op = .castVote acc support → step env a w = .ok w' →
    ∃ r p p', Voted env w w' r p p' ∧ r.proposal = acc.proposal
      ∧ r.voter = acc.voter ∧ r.voter ∉ votersOf w r.proposal
      ∧ r.weight ≤ 2 * w.holds env r.voter

/-- A vote weighs at most twice what its wallet holds, and moves
nothing. -/
theorem castVote_holds {acc : CastVoteAccounts} {support : Bool}
    (hb : Books env w.staking)
    (h : castVote env a.tx acc support w = .ok w') :
    ∃ r p p', Voted env w w' r p p' ∧ r.proposal = acc.proposal
      ∧ r.voter = acc.voter ∧ r.weight ≤ 2 * w.holds env r.voter
      ∧ r.voter ≠ env.pda (.inr .pool)
      ∧ w'.staking = w.staking ∧ w'.config = w.config := by
  simp only [castVote, bind_ok, load_ok, require_ok, requireFresh_ok,
    ensure_ok, requireSigner_ok, requireAta] at h
  obtain ⟨-, hloaded, config, hconfig, p, hp, -, hfresh, -, ⟨t, ht, -,
    howner, hata⟩, wallet, hwallet, -, hsig, -, -, -, hvoting, -, htime,
    staked, hstaked, p', hcount, hw'⟩ := h
  cases hw'
  cases ht.symm.trans hwallet
  refine ⟨⟨acc.proposal, acc.voter, addWeights t.amount staked, support,
    a.tx.clock⟩, p, p', ⟨loadProposal_ok hp, hvoting, htime, hcount,
    Keyed.locate_none.mp hfresh, rfl, rfl⟩, rfl, rfl, ?_, signer_ne hsig,
    rfl, rfl⟩
  have hmint : t.mint = config.tokenMint :=
    hloaded.2 config hconfig t hwallet hata
  have hw : w.walletOf env acc.voter = t.amount := by
    unfold World.walletOf
    rw [hconfig]
    dsimp only
    rw [← hata, hwallet]
    exact if_pos ⟨hmint, howner⟩
  have hs : staked ≤ 2 * w.staking.stakeOf acc.voter := by
    cases hinfo : acc.stakePosition with
    | none =>
      rw [hinfo] at hstaked
      cases hstaked
      exact Nat.zero_le _
    | some info =>
      rw [hinfo] at hstaked
      exact positionWeight_le hb (hloaded.1 info hinfo) hstaked
  have hadd : addWeights t.amount staked ≤ t.amount + staked := by
    unfold addWeights Fixed.checkedAdd
    split
    · exact Nat.le_refl _
    · exact Nat.le_add_right _ _
  show addWeights t.amount staked ≤ 2 * w.holds env acc.voter
  unfold World.holds
  omega

-- ==== invariant

/-- The weights recorded are covered twice by what the voters hold. -/
structure Bounded (env : Env Seeds) (k : Pubkey) (w : World) : Prop where
  books : Books env w.staking
  weights : weights w k ≤ 2 * heldByVoters env w k
  voters : ∀ v ∈ votersOf w k, v ≠ env.pda (.inr .pool)

/-- What a voter holds is read from the stakes and the wallets only. -/
theorem holds_same (hs : w'.staking = w.staking)
    (hc : w'.config = w.config) (v : Pubkey) :
    w'.holds env v = w.holds env v := by
  simp only [World.holds, World.walletOf, World.tokens, hs, hc]

/-- Retained holdings keep the bound where no vote is added. -/
theorem bounded_same {k : Pubkey} (hb : Bounded env k w)
    (hr : Retains env k a w) (h : step env a w = .ok w')
    (hrecords : recordsOf w' k = recordsOf w k) : Bounded env k w' := by
  have hvoters : votersOf w' k = votersOf w k := by
    rw [votersOf, hrecords]
    rfl
  refine ⟨books_step hb.books h, ?_, ?_⟩
  · have hheld := hr w' h
    have hweights := hb.weights
    unfold heldByVoters weights at hweights ⊢
    rw [hrecords, hvoters]
    omega
  · rw [hvoters]
    exact hb.voters

/-- A vote is bounded when cast, and retained holdings keep it so. -/
theorem bounded_step {k : Pubkey} (hb : Bounded env k w)
    (hr : Retains env k a w) (h : step env a w = .ok w') :
    Bounded env k w' := by
  by_cases hop : ∃ acc support, a.op = .castVote acc support
  · obtain ⟨acc, support, hop⟩ := hop
    have hcast := h
    obtain ⟨_, -, hcast⟩ := bind_ok.mp hcast
    unfold perform at hcast
    rw [hop] at hcast
    obtain ⟨r, p, p', hvoted, -, -, hweight, hpool, hstaking, hconfig⟩ :=
      castVote_holds hb.books hcast
    have hrecords := hvoted.records
    by_cases hk : r.proposal = k
    · have hrow : recordsOf w' k = recordsOf w k ++ [r] := by
        simp [recordsOf, hrecords, hk]
      have hvoters : votersOf w' k = votersOf w k ++ [r.voter] := by
        simp [votersOf, hrow]
      refine ⟨books_step hb.books h, ?_, ?_⟩
      · have hsame : (w'.holds env) = (w.holds env) :=
          funext fun v => holds_same hstaking hconfig v
        have hweights := hb.weights
        unfold heldByVoters weights at hweights ⊢
        rw [hrow, hvoters, hsame, Keyed.sum_append_single,
          Keyed.sum_append_single]
        omega
      · intro v hv
        rw [hvoters] at hv
        rcases List.mem_append.mp hv with hold | hnew
        · exact hb.voters v hold
        · rw [List.mem_singleton.mp hnew]
          exact hpool
    · refine bounded_same hb hr h ?_
      simp [recordsOf, hrecords, hk]
  · have hrecords : w'.voteRecords = w.voteRecords := by
      rcases (step_moved h).2 with ⟨-, hsame, -, -, -⟩
        | ⟨_, _, _, _, _, _, hcreated⟩ | ⟨acc, support, hcast, -, -, -, -⟩
        | ⟨_, _, _, _, _, _, hrew, _, _, _⟩ | ⟨_, _, _, hrew, _, _, _⟩
        | ⟨_, _, _, hrew, _⟩ | ⟨_, _, _, hrew⟩
      · exact hsame
      · exact hcreated.records
      · exact absurd ⟨acc, support, hcast⟩ hop
      · exact hrew.records
      · exact hrew.records
      · exact hrew.records
      · exact hrew.records
    exact bounded_same hb hr h (recordsOf_of_records hrecords k)

-- ==== supply

variable {vs : List Pubkey}

/-- The stakes of distinct owners fit in the vault. -/
theorem stakes_le_vault (hvs : vs.Nodup) {pool : Staking.StakingPool}
    (hacc : Staking.Accounted (stakingEnv env) s pool) :
    (vs.map s.stakeOf).sum ≤ amountAt s.tokens (env.pda (.inr .vault)) := by
  have hzero : ∀ v ∈ vs, v ∉ s.positions.map Prod.fst → s.stakeOf v = 0 := by
    intro v _ hout
    rw [Staking.World.stakeOf, Keyed.locate_none.mpr]
    intro e he hev
    exact hout (List.mem_map.mpr ⟨e, he, hev⟩)
  have hown : (s.positions.map Prod.fst).map s.stakeOf
      = s.positions.map fun e => e.2.stakedAmount := by
    rw [List.map_map]
    refine List.map_congr_left fun e he => ?_
    show s.stakeOf e.1 = e.2.stakedAmount
    rw [Staking.World.stakeOf]
    cases hloc : Keyed.locate Prod.fst s.positions e.1 with
    | none => exact absurd rfl (Keyed.locate_none.mp hloc e he)
    | some r =>
      obtain ⟨hat, hkey⟩ := Keyed.locate_some hloc
      have hsame : r.2 = e := List.inj_on_of_nodup_map hacc.distinct
        (List.mem_of_getElem? hat) he hkey
      dsimp only
      rw [hsame]
  have hle := Keyed.sum_le_of_nodup hvs hzero
  rw [hown, ← hacc.total] at hle
  obtain ⟨t, ht, -, -, hamount⟩ := hacc.vault.1
  have hvault : amountAt s.tokens (env.pda (.inr .vault)) = t.amount := by
    rw [amountAt, show s.tokens.accounts (env.pda (.inr .vault)) = some t
      from ht]
  omega

/-- The same from the books, with a pool or without. -/
theorem stakes_le (hb : Books env w.staking)
    (hvs : vs.Nodup) : (vs.map w.staking.stakeOf).sum
      ≤ amountAt w.tokens (env.pda (.inr .vault)) := by
  rcases hb with ⟨-, hpos⟩ | ⟨pool, hacc⟩
  · have hzero : ∀ v, w.staking.stakeOf v = 0 := by
      intro v
      rw [Staking.World.stakeOf, hpos]
      rfl
    rw [Keyed.sum_map_zero hzero]
    exact Nat.zero_le _
  · exact stakes_le_vault hvs hacc

variable {config : GovernanceConfig}

/-- Who holds in a wallet has the token account at its address. -/
theorem walletOf_pos {v : Pubkey}
    (hc : w.config = some config) (h : 0 < w.walletOf env v) :
    ∃ t, w.tokens.accounts (env.ata v config.tokenMint) = some t
      ∧ t.mint = config.tokenMint ∧ t.owner = v
      ∧ w.walletOf env v = t.amount := by
  unfold World.walletOf at h ⊢
  rw [hc] at h ⊢
  dsimp only at h ⊢
  split at h
  · exact absurd h (Nat.lt_irrefl 0)
  · next t ht =>
      split at h
      · next hown => exact ⟨t, ht, hown.1, hown.2, if_pos hown⟩
      · exact absurd h (Nat.lt_irrefl 0)

/-- The accounts of the wallets with a balance. -/
def walletsOf (env : Env Seeds) (w : World) (config : GovernanceConfig)
    (vs : List Pubkey) : List Pubkey :=
  (vs.filter fun v => 0 < w.walletOf env v).map fun v =>
    env.ata v config.tokenMint

/-- Each wallet counted is a token account of its voter. -/
theorem mem_walletsOf {k : Pubkey} (hc : w.config = some config)
    (h : k ∈ walletsOf env w config vs) :
    ∃ v ∈ vs, ∃ t, w.tokens.accounts k = some t
      ∧ t.mint = config.tokenMint ∧ t.owner = v := by
  obtain ⟨v, hv, rfl⟩ := List.mem_map.mp h
  obtain ⟨hmem, hpos⟩ := List.mem_filter.mp hv
  obtain ⟨t, ht, hm, ho, -⟩ := walletOf_pos hc (of_decide_eq_true hpos)
  exact ⟨v, hmem, t, ht, hm, ho⟩

/-- No wallet is counted for two voters. -/
theorem walletsOf_nodup (hc : w.config = some config) (hvs : vs.Nodup) :
    (walletsOf env w config vs).Nodup := by
  refine List.Nodup.map_on ?_ (hvs.filter _)
  intro u hu v hv heq
  have hu' := of_decide_eq_true (List.mem_filter.mp hu).2
  have hv' := of_decide_eq_true (List.mem_filter.mp hv).2
  obtain ⟨t, ht, -, hto, -⟩ := walletOf_pos hc hu'
  obtain ⟨t', ht', -, hto', -⟩ := walletOf_pos hc hv'
  rw [heq] at ht
  cases ht.symm.trans ht'
  exact hto.symm.trans hto'

/-- Summed over accounts or over voters, the wallets hold the same. -/
theorem sum_walletsOf (hc : w.config = some config) (vs : List Pubkey) :
    ((walletsOf env w config vs).map (amountAt w.tokens)).sum
      = (vs.map (w.walletOf env)).sum := by
  induction vs with
  | nil => rfl
  | cons v rest ih =>
    unfold walletsOf at ih ⊢
    rw [List.map_cons, List.sum_cons]
    by_cases hpos : 0 < w.walletOf env v
    · obtain ⟨t, ht, -, -, hamount⟩ := walletOf_pos hc hpos
      rw [List.filter_cons_of_pos (by simpa using hpos), List.map_cons,
        List.map_cons, List.sum_cons, ih, amountAt, ht, hamount]
    · rw [List.filter_cons_of_neg (by simp [hpos]), ih]
      omega

/-- Distinct voters hold at most the supply, staked or not. -/
theorem holds_le_supply {n : Nat} (hb : Books env w.staking) (hvs : vs.Nodup)
    (hpool : ∀ v ∈ vs, v ≠ env.pda (.inr .pool)) (hS : Supply env w n) :
    (vs.map (w.holds env)).sum ≤ n := by
  have hsplit : (vs.map (w.holds env)).sum
      = (vs.map (w.walletOf env)).sum + (vs.map w.staking.stakeOf).sum :=
    List.sum_map_add
  cases hc : w.config with
  | none =>
    have hwallets : (vs.map (w.walletOf env)).sum = 0 := by
      have hzero : ∀ v, w.walletOf env v = 0 := by
        intro v
        rw [World.walletOf, hc]
      exact Keyed.sum_map_zero hzero vs
    have hvault := hS [env.pda (.inr .vault)] (List.nodup_singleton _)
      (fun k hk => Or.inl (List.mem_singleton.mp hk))
    rw [List.map_singleton, List.sum_singleton] at hvault
    have hstakes := stakes_le hb hvs
    omega
  | some config =>
    have hwallets : ((walletsOf env w config vs).map
        (amountAt w.tokens)).sum = (vs.map (w.walletOf env)).sum :=
      sum_walletsOf hc vs
    have hnodup : (walletsOf env w config vs).Nodup :=
      walletsOf_nodup hc hvs
    rcases hb with ⟨-, hpos⟩ | ⟨pool, hacc⟩
    · have hstakes : (vs.map w.staking.stakeOf).sum = 0 := by
        have hzero : ∀ v, w.staking.stakeOf v = 0 := by
          intro v
          rw [Staking.World.stakeOf, hpos]
          rfl
        exact Keyed.sum_map_zero hzero vs
      have hle := hS _ hnodup fun k hk => by
        obtain ⟨v, -, t, ht, hm, -⟩ := mem_walletsOf hc hk
        exact Or.inr ⟨config, t, hc, ht, hm⟩
      omega
    · have hstakes := stakes_le_vault hvs hacc
      have hout : env.pda (.inr .vault) ∉ walletsOf env w config vs := by
        intro hmem
        obtain ⟨v, hv, t, ht, -, ho⟩ := mem_walletsOf hc hmem
        obtain ⟨t', ht', -, ho', -⟩ := hacc.vault.1
        cases ht.symm.trans ht'
        exact hpool v hv (ho.symm.trans ho')
      have hle := hS (env.pda (.inr .vault) :: walletsOf env w config vs)
        (List.nodup_cons.mpr ⟨hout, hnodup⟩) fun k hk => by
          rcases List.mem_cons.mp hk with rfl | hk
          · exact Or.inl rfl
          · obtain ⟨v, -, t, ht, hm, -⟩ := mem_walletsOf hc hk
            exact Or.inr ⟨config, t, hc, ht, hm⟩
      rw [List.map_cons, List.sum_cons] at hle
      have htokens : amountAt w.staking.tokens (env.pda (.inr .vault))
          = amountAt w.tokens (env.pda (.inr .vault)) := rfl
      omega

-- ==== the theorem

/-- The staking program has no pool yet either. -/
structure Deployed (w : World) : Prop where
  genesis : Genesis w
  pool : w.staking.pool = none
  positions : w.staking.positions = []

/-- Nobody has voted on a fresh deployment. -/
theorem bounded_deployed (h : Deployed w) (k : Pubkey) :
    Bounded env k w := by
  have hnone : recordsOf w k = [] := by
    rw [recordsOf, h.genesis.voteRecords]
    rfl
  refine ⟨Or.inl ⟨h.pool, h.positions⟩, ?_, ?_⟩
  · rw [weights, hnone]
    exact Nat.zero_le _
  · intro v hv
    rw [votersOf, hnone] at hv
    cases hv

/-- Every vote is for or against. -/
theorem weightOf_both (l : List VoteRecord) :
    weightOf true l + weightOf false l = (l.map VoteRecord.weight).sum := by
  induction l with
  | nil => rfl
  | cons r rest ih =>
    simp only [weightOf, List.map_cons, List.sum_cons] at ih ⊢
    cases r.support with
    | true =>
      simp only [if_true, Bool.true_eq_false, if_false]
      omega
    | false =>
      simp only [if_true, Bool.false_eq_true, if_false]
      omega

/-- The run lemma of the vote records. -/
theorem kept_of_run {w₀ : World} {tr : List (Action env)}
    (h₀ : Genesis w₀) (hrun : run (step env) w₀ tr = .ok w) :
    ∃ g, Kept env (w, g) := by
  obtain ⟨g, hghost⟩ := run_tracked record [] hrun
  exact ⟨g, run_induct (fun _ _ _ hk hs => kept_step hk hs)
    (genesis_kept h₀) hghost⟩

/-- A counted vote was cast once, by the records. -/
theorem countsOnce_of_kept {g : List Event} (hb : Books env w.staking)
    (hk : Kept env (w, g)) : CountsOnce env a w := by
  intro acc support w' hop h
  obtain ⟨_, -, h⟩ := bind_ok.mp h
  unfold perform at h
  rw [hop] at h
  obtain ⟨r, p, p', hvoted, hproposal, hvoter, hweight, -⟩ :=
    castVote_holds hb h
  refine ⟨r, p, p', hvoted, hproposal, hvoter, ?_, hweight⟩
  intro hmem
  obtain ⟨e, he, hsame⟩ := List.mem_map.mp hmem
  exact hk.new_voter hvoted.fresh e he hsame

/-- In every run a wallet votes on a proposal once, at twice what it holds
then at most. Where the proposal's voters keep what they hold together,
its tallies are at most twice the tokens there are. -/
theorem tallies_bounded {w₀ : World} {tr : List (Action env)}
    (h₀ : Deployed w₀) (hrun : run (step env) w₀ tr = .ok w)
    (k : Pubkey) :
    Meets (step env) (CountsOnce env) w₀ tr ∧ (votersOf w k).Nodup
      ∧ (Meets (step env) (Retains env k) w₀ tr →
        ∀ p n, w.proposals k = some p → Supply env w n →
          p.votesFor + p.votesAgainst ≤ 2 * n) := by
  have hstart : Books env w₀.staking := Or.inl ⟨h₀.pool, h₀.positions⟩
  obtain ⟨g, hkept⟩ := kept_of_run h₀.genesis hrun
  have hvoters : (votersOf w k).Nodup := by
    cases hp : w.proposals k with
    | none =>
      rw [votersOf, hkept.records k hp]
      exact List.nodup_nil
    | some p => exact (hkept.tallied k p hp).voters
  refine ⟨meets_iff_cut.mpr ?_, hvoters, ?_⟩
  · intro pre b rest m _ hpre
    obtain ⟨_, hk⟩ := kept_of_run h₀.genesis hpre
    exact countsOnce_of_kept
      (run_induct (fun _ _ _ hb hs => books_step hb hs) hstart hpre) hk
  · intro hretains p n hp hS
    have hbounded : Bounded env k w := run_induct_meets
      (fun _ _ _ hb hr hs => bounded_step hb hr hs) (bounded_deployed h₀ k)
      hretains hrun
    have htally : Tallied w k p := hkept.tallied k p hp
    have hsum : p.votesFor + p.votesAgainst = weights w k := by
      rw [htally.votesFor, htally.votesAgainst]
      exact weightOf_both _
    have hheld : heldByVoters env w k ≤ n :=
      holds_le_supply hbounded.books hvoters hbounded.voters hS
    have hweights := hbounded.weights
    omega

end KamiyoProtocol.Governance

namespace KamiyoProtocol.Governance.Concrete

open Solana Solana.Concrete Exec

-- ==== the votes of three wallets

theorem start_deployed : Deployed start :=
  ⟨start_genesis, rfl, rfl⟩

/-- The listed accounts are all that hold the token. -/
theorem supply_of_listed {w : World} (hl : Listed w) :
    Supply env w (accounts.map (amountAt w.tokens)).sum := by
  intro ks hks _
  refine Keyed.sum_le_of_nodup hks ?_
  intro k _ hk
  rw [amountAt, hl k hk]

/-- No step of the run opens a token account, so the sum stands. -/
theorem supply_run {tr : List (Action env)} {w : World}
    (ha : ∀ a ∈ tr, opensNone a = true)
    (hrun : run (step env) start tr = .ok w) :
    Supply env w (accounts.map (amountAt w.tokens)).sum := by
  have hmeets : Meets (step env) (fun a _ => opensNone a = true) start tr :=
    meets_of_forall ha
  exact supply_of_listed (run_induct_meets
    (fun _ _ _ hl h hs => listed_step hl h hs) start_listed hmeets hrun)

/-- The holdings of the voters of the first proposal before and after a
step. -/
def retains (a : Action env) (w : World) : Bool :=
  match step env a w with
  | .ok w' => decide (((votersOf w first).map (w.holds env)).sum
      ≤ ((votersOf w first).map (w'.holds env)).sum)
  | .error _ => true

theorem retains_ok {a : Action env} {w : World} (h : retains a w = true) :
    Retains env first a w := by
  intro w' hs
  unfold retains at h
  rw [hs] at h
  exact of_decide_eq_true h

/-- Wallet 2 is given tokens before any vote, and both vote. -/
def separate : List (Action env) :=
  proposed ++ [send 1 2 5000000000000, vote 1 1000, vote 2 1000]

theorem tallies_bounded_separate : ∃ w p,
    run (step env) start separate = .ok w ∧ w.proposals first = some p
      ∧ Meets (step env) (CountsOnce env) start separate
      ∧ (votersOf w first).Nodup
      ∧ p.votesFor + p.votesAgainst
        ≤ 2 * (accounts.map (amountAt w.tokens)).sum := by
  obtain ⟨w, hrun, htest, hmeets⟩ := run_of_check
    (fun _ _ => retains_ok)
    (show checkRun (step env) retains
      (fun w => (w.proposals first).isSome) start separate = true
      by decide)
  obtain ⟨p, hp⟩ := Option.isSome_iff_exists.mp htest
  have hS := supply_run (by decide) hrun
  obtain ⟨honce, hvoters, hbound⟩ :=
    tallies_bounded start_deployed hrun first
  exact ⟨w, p, hrun, hp, honce, hvoters, hbound hmeets p _ hp hS⟩

/-- What the tallies of the first proposal come to. -/
def tallyOf (w : World) : Nat :=
  match w.proposals first with
  | some p => p.votesFor + p.votesAgainst
  | none => 0

/-- The same tokens vote from three wallets in turn. -/
def passedOn : List (Action env) :=
  proposed ++ [vote 1 1000, send 1 2 19900000000000, vote 2 1000,
    send 2 3 19900000000000, vote 3 1000]

theorem tokens_counted_thrice : ∃ w p n, Deployed start
    ∧ run (step env) start passedOn = .ok w
    ∧ w.proposals first = some p ∧ Supply env w n
    ∧ 2 * n < p.votesFor + p.votesAgainst := by
  obtain ⟨w, hrun, htest⟩ := check_ok
    (show check (fun w => decide (2 * (accounts.map
        (amountAt w.tokens)).sum < tallyOf w))
      (run (step env) start passedOn) = true by decide)
  have hlt := of_decide_eq_true htest
  have hS := supply_run (by decide) hrun
  unfold tallyOf at hlt
  split at hlt
  · next p hp => exact ⟨w, p, _, start_deployed, hrun, hp, hS, hlt⟩
  · omega

end KamiyoProtocol.Governance.Concrete
