/-
Agent wallets and the metadata key that is reserved for them.

Beside the state runs, for each agent, what wallets were set since its
owner acquired it. A state is `Authentic` if the reserved metadata is empty
or the wallet's, and the wallet is among those set. Every step but two
keeps it so; a registration's entries and a transfer keep it so under a
condition on the state before (`authentic_step`).
-/
import KamiyoProtocol.ZkReputation.IdentityRegistry

namespace KamiyoProtocol.ZkReputation

open Exec Evm Function

/-- What a wallet signed to be an agent's. -/
structure SignedWallet where
  newWallet : Address
  deadline : Nat
  signature : List UInt8

/-- The wallets set for each agent since its owner acquired it. -/
abbrev Signatures := Nat → List SignedWallet

def signedSince (a : IdentityAction) (s : Identities) (g : Signatures) :
    Signatures :=
  match a.call with
  | .register _ => update g s.nextTokenId []
  | .setAgentWallet agentId newWallet deadline signature =>
    update g agentId (⟨newWallet, deadline, signature⟩ :: g agentId)
  | .transferFrom _ dst agentId =>
    if s.owners agentId = dst then g else update g agentId []
  | _ => g

/-- The registry, with the wallets set. -/
def walletStep (env : IdentityEnv) :
    IdentityAction → Identities × Signatures →
      Except String (Identities × Signatures) :=
  tracked (identityStep env) signedSince

-- ==== authentic

variable {env : IdentityEnv}

/-- The reserved metadata is empty or the wallet's, and the wallet signed
since the owner acquired the agent. -/
structure Authentic (env : IdentityEnv) (x : Identities × Signatures) :
    Prop where
  reserved : ∀ i m, x.1.getMetadata env i "agentWallet" = .ok m → m = []
    ∨ ∃ w, x.1.agentWallets i = w ∧ w ≠ zeroAddress
      ∧ x.1.getAgentWallet i = .ok w ∧ m = encodeAddress w
  signed : ∀ i, x.1.agentWallets i ≠ zeroAddress →
    ∃ w ∈ x.2 i, w.newWallet = x.1.agentWallets i
      ∧ env.recover (env.digest i w.newWallet w.deadline) w.signature
        = .ok w.newWallet

/-- Agents have owners, and nothing is stored of those to come. -/
structure Minted (s : Identities) : Prop where
  owned : ∀ i, i < s.nextTokenId → s.owners i ≠ zeroAddress
  unowned : ∀ i, s.nextTokenId ≤ i → s.owners i = zeroAddress
    ∧ s.agentWallets i = zeroAddress ∧ ∀ k, s.metadata i k = []
  entered : ∀ r ∈ s.entered, r.agentId < s.nextTokenId

/-- The value agrees with the wallet. -/
def WalletValue (value : List UInt8) (wallet : Address) : Prop :=
  value = [] ∨ wallet ≠ zeroAddress ∧ value = encodeAddress wallet
  deriving Decidable

/-- What `Authentic` says of one agent. -/
def Held (env : IdentityEnv) (x : Identities × Signatures) (i : Nat) :
    Prop :=
  WalletValue (x.1.metadata i env.agentWalletKey) (x.1.agentWallets i)
    ∧ (x.1.agentWallets i ≠ zeroAddress →
      ∃ w ∈ x.2 i, w.newWallet = x.1.agentWallets i
        ∧ env.recover (env.digest i w.newWallet w.deadline) w.signature
          = .ok w.newWallet)

variable {i : Nat}

theorem requireOwned_ok {s : Identities} {o : Address} :
    s.requireOwned i = .ok o ↔ s.owners i ≠ zeroAddress ∧ s.owners i = o := by
  unfold Identities.requireOwned
  constructor
  · intro h
    obtain ⟨_, hne, h⟩ := bind_ok.mp h
    exact ⟨require_ok.mp hne, pure_ok.mp h⟩
  · rintro ⟨hne, rfl⟩
    exact bind_ok.mpr ⟨(), require_ok.mpr hne, rfl⟩

theorem authentic_iff {x : Identities × Signatures} (h : Minted x.1) :
    Authentic env x ↔ ∀ i, Held env x i := by
  constructor
  · rintro ⟨hreserved, hsigned⟩ i
    refine ⟨?_, hsigned i⟩
    by_cases hi : i < x.1.nextTokenId
    · have hget : x.1.getMetadata env i "agentWallet"
          = .ok (x.1.metadata i env.agentWalletKey) :=
        bind_ok.mpr ⟨_, requireOwned_ok.mpr ⟨h.owned i hi, rfl⟩, rfl⟩
      rcases hreserved i _ hget with hnil | ⟨w, rfl, hw, -, hm⟩
      · exact Or.inl hnil
      · exact Or.inr ⟨hw, hm⟩
    · exact Or.inl ((h.unowned i (Nat.not_lt.mp hi)).2.2 _)
  · intro hheld
    refine ⟨?_, fun i => (hheld i).2⟩
    intro i m hget
    obtain ⟨o, howned, hm⟩ := bind_ok.mp hget
    obtain ⟨hne, rfl⟩ := requireOwned_ok.mp howned
    rcases (hheld i).1 with hnil | ⟨hw, hvalue⟩
    · left
      rw [← pure_ok.mp hm]
      exact hnil
    · right
      refine ⟨_, rfl, hw, ?_, (pure_ok.mp hm).symm.trans hvalue⟩
      refine bind_ok.mpr ⟨_, requireOwned_ok.mpr ⟨hne, rfl⟩, ?_⟩
      rw [if_neg hw]
      rfl

theorem Held.congr {x y : Identities × Signatures}
    (hvalue : y.1.metadata i env.agentWalletKey
      = x.1.metadata i env.agentWalletKey)
    (hwallet : y.1.agentWallets i = x.1.agentWallets i)
    (hsigned : y.2 i = x.2 i) : Held env y i ↔ Held env x i := by
  unfold Held
  rw [hvalue, hwallet, hsigned]

theorem Held.carried {x y : Identities × Signatures} (h : Held env x i)
    (hvalue : y.1.metadata i env.agentWalletKey
      = x.1.metadata i env.agentWalletKey)
    (hwallet : y.1.agentWallets i = x.1.agentWallets i)
    (hsigned : y.2 i = x.2 i) : Held env y i :=
  (Held.congr hvalue hwallet hsigned).mpr h

-- ==== condition

/-- The last value the entries have under the reserved key. -/
def reservedValue (env : IdentityEnv) (entries : List MetadataEntry) :
    Option (List UInt8) :=
  entries.foldl (fun last x =>
    if env.keccak x.key = env.agentWalletKey then some x.value else last) none

/-- The entries being written agree with the wallet, and an agent that
changes hands has none. -/
def WalletSafe (env : IdentityEnv) (a : IdentityAction)
    (x : Identities × Signatures) : Prop :=
  match a.call with
  | .registered => ∀ r ∈ x.1.entered.head?,
      ∀ value ∈ reservedValue env r.metadata,
        WalletValue value (x.1.agentWallets r.agentId)
  | .transferFrom _ dst agentId =>
    x.1.owners agentId = dst ∨ x.1.agentWallets agentId = zeroAddress
  | _ => True

instance (a : IdentityAction) (x : Identities × Signatures) :
    Decidable (WalletSafe env a x) :=
  match a with
  | ⟨_, _, .registered⟩ =>
    inferInstanceAs (Decidable (∀ r ∈ x.1.entered.head?,
      ∀ value ∈ reservedValue env r.metadata, WalletValue value _))
  | ⟨_, _, .transferFrom _ _ _⟩ => inferInstanceAs (Decidable (_ ∨ _))
  | ⟨_, _, .register _⟩ | ⟨_, _, .setMetadata _ _ _⟩
  | ⟨_, _, .setAgentWallet _ _ _ _⟩ | ⟨_, _, .unsetAgentWallet _⟩
  | ⟨_, _, .approve _ _⟩ | ⟨_, _, .setApprovalForAll _ _⟩
  | ⟨_, _, .setPaused _⟩ => isTrue trivial

theorem foldl_put (entries : List MetadataEntry) :
    ∀ {m : Nat → List UInt8} {last : Option (List UInt8)}
      {d : List UInt8}, m env.agentWalletKey = last.getD d →
      entries.foldl (fun m x => update m (env.keccak x.key) x.value) m
          env.agentWalletKey
        = (entries.foldl (fun last x =>
          if env.keccak x.key = env.agentWalletKey then some x.value
          else last) last).getD d := by
  induction entries with
  | nil => exact fun h => h
  | cons x rest ih =>
    intro m last d h
    refine ih ?_
    dsimp only
    by_cases hkey : env.keccak x.key = env.agentWalletKey
    · rw [if_pos hkey, hkey, update_self]
      rfl
    · rw [if_neg hkey, update_of_ne (Ne.symm hkey)]
      exact h

theorem writeMetadata_reserved (s : Identities) (i : Nat)
    (entries : List MetadataEntry) :
    (s.writeMetadata env i entries).metadata i env.agentWalletKey
      = (reservedValue env entries).getD (s.metadata i env.agentWalletKey) := by
  have hwritten := update_self i (entries.foldl (fun m x =>
    update m (env.keccak x.key) x.value) (s.metadata i)) s.metadata
  unfold Identities.writeMetadata
  dsimp only
  rw [hwritten]
  exact foldl_put entries rfl

-- ==== steps

variable {a : IdentityAction} {s s' : Identities}

/-- What a step does to what is stored of the agents. -/
inductive IdentityEffect (env : IdentityEnv) (a : IdentityAction)
    (s : Identities) : Identities → Prop
  | minted (entries : List MetadataEntry)
      (hcall : a.call = .register entries) (hsender : a.sender ≠ zeroAddress) :
      IdentityEffect env a s { s with
        nextTokenId := s.nextTokenId + 1
        owners := update s.owners s.nextTokenId a.sender
        entered := ⟨s.nextTokenId, entries⟩ :: s.entered }
  | wrote (r : Registration) (rest : List Registration)
      (hcall : a.call = .registered) (hentered : s.entered = r :: rest) :
      IdentityEffect env a s
        ({ s with entered := rest }.writeMetadata env r.agentId r.metadata)
  | noted (i key : Nat) (value : List UInt8)
      (hcall : ∃ k, a.call = .setMetadata i k value)
      (howned : s.owners i ≠ zeroAddress) (hkey : key ≠ env.agentWalletKey) :
      IdentityEffect env a s { s with
        metadata := update s.metadata i (update (s.metadata i) key value) }
  | signed (i : Nat) (w : SignedWallet)
      (hcall : a.call = .setAgentWallet i w.newWallet w.deadline w.signature)
      (howned : s.owners i ≠ zeroAddress) (hwallet : w.newWallet ≠ zeroAddress)
      (hsigner : env.recover (env.digest i w.newWallet w.deadline)
        w.signature = .ok w.newWallet) :
      IdentityEffect env a s { s with
        agentWallets := update s.agentWallets i w.newWallet
        metadata := update s.metadata i (update (s.metadata i)
          env.agentWalletKey (encodeAddress w.newWallet)) }
  | unset (i : Nat) (hcall : a.call = .unsetAgentWallet i)
      (howned : s.owners i ≠ zeroAddress) :
      IdentityEffect env a s { s with
        agentWallets := update s.agentWallets i zeroAddress
        metadata := update s.metadata i
          (update (s.metadata i) env.agentWalletKey []) }
  | moved (src dst : Address) (i : Nat)
      (hcall : a.call = .transferFrom src dst i) (hdst : dst ≠ zeroAddress)
      (howned : s.owners i ≠ zeroAddress) :
      IdentityEffect env a s { s with
        owners := update s.owners i dst
        tokenApprovals := update s.tokenApprovals i zeroAddress }
  | aside (paused : Bool) (tokens : Nat → Address)
      (operators : Address → Address → Bool)
      (hsafe : ∀ g, WalletSafe env a (s, g))
      (hsigned : ∀ g, signedSince a s g = g) :
      IdentityEffect env a s { s with
        paused := paused
        tokenApprovals := tokens
        operatorApprovals := operators }

theorem requireOwner_ok {sender : Address} {u : Unit}
    (h : s.requireOwner sender i = .ok u) : s.owners i ≠ zeroAddress := by
  obtain ⟨_, howned, -⟩ := bind_ok.mp h
  exact (requireOwned_ok.mp howned).1

theorem identityStep_effect (h : identityStep env a s = .ok s') :
    IdentityEffect env a s s' := by
  obtain ⟨sender, timestamp, call⟩ := a
  cases call with
  | register entries =>
    obtain ⟨_, -, _, hsender, next, hnext, h⟩ := bind_ok₃.mp h
    obtain ⟨-, rfl⟩ := checked_ok.mp hnext
    cases h
    exact .minted entries rfl (require_ok.mp hsender)
  | registered =>
    unfold identityStep Identities.registered at h
    dsimp only at h
    split at h
    · cases h
    · next r rest hentered =>
        cases h
        exact .wrote r rest rfl hentered
  | setMetadata i key value =>
    obtain ⟨_, howned, _, hkey, h⟩ := bind_ok₂.mp h
    cases h
    exact .noted i _ value ⟨key, rfl⟩ (requireOwner_ok howned)
      (require_ok.mp hkey)
  | setAgentWallet i newWallet deadline signature =>
    obtain ⟨_, howned, _, hwallet, _, -, h⟩ := bind_ok₃.mp h
    obtain ⟨signer, hsigner, _, heq, h⟩ := bind_ok₂.mp h
    cases h
    rw [require_ok.mp heq] at hsigner
    exact .signed i ⟨newWallet, deadline, signature⟩ rfl
      (requireOwner_ok howned) (require_ok.mp hwallet) hsigner
  | unsetAgentWallet i =>
    obtain ⟨_, howned, h⟩ := bind_ok.mp h
    cases h
    exact .unset i rfl (requireOwner_ok howned)
  | transferFrom src dst i =>
    obtain ⟨_, hdst, o, howned, _, -, _, -, h⟩ := bind_ok₄.mp h
    cases h
    exact .moved src dst i rfl (require_ok.mp hdst)
      (requireOwned_ok.mp howned).1
  | approve spender i =>
    obtain ⟨o, -, _, -, h⟩ := bind_ok₂.mp h
    cases h
    exact .aside s.paused _ s.operatorApprovals (fun _ => trivial)
      fun _ => rfl
  | setApprovalForAll operator approved =>
    obtain ⟨_, -, h⟩ := bind_ok.mp h
    cases h
    exact .aside s.paused s.tokenApprovals _ (fun _ => trivial)
      fun _ => rfl
  | setPaused paused =>
    obtain ⟨_, -, _, -, h⟩ := bind_ok₂.mp h
    cases h
    exact .aside paused s.tokenApprovals s.operatorApprovals
      (fun _ => trivial) fun _ => rfl

theorem minted_step (h : Minted s) (hstep : identityStep env a s = .ok s') :
    Minted s' := by
  have heffect := identityStep_effect hstep
  have hlt : ∀ {i}, s.owners i ≠ zeroAddress → i < s.nextTokenId := by
    intro i hne
    by_contra hge
    exact hne (h.unowned i (Nat.not_lt.mp hge)).1
  have hne : ∀ {i j}, s.owners i ≠ zeroAddress → s.nextTokenId ≤ j → j ≠ i := by
    intro i j hi hj heq
    exact absurd (hlt hi) (heq ▸ Nat.not_lt.mpr hj)
  cases heffect with
  | minted entries _ hsender =>
    refine ⟨?_, ?_, ?_⟩
    · intro i hi
      by_cases heq : i = s.nextTokenId
      · rw [heq]
        change update s.owners s.nextTokenId a.sender s.nextTokenId ≠ _
        rw [update_self]
        exact hsender
      · change update s.owners s.nextTokenId a.sender i ≠ _
        rw [update_of_ne heq]
        change i < s.nextTokenId + 1 at hi
        exact h.owned i (by omega)
    · intro i hi
      change s.nextTokenId + 1 ≤ i at hi
      obtain ⟨ho, hrest⟩ := h.unowned i (by omega)
      refine ⟨?_, hrest⟩
      change update s.owners s.nextTokenId a.sender i = _
      rw [update_of_ne (by omega)]
      exact ho
    · intro r hr
      change r.agentId < s.nextTokenId + 1
      rcases List.mem_cons.mp hr with rfl | hr
      · exact Nat.lt_succ_self _
      · exact Nat.lt_succ_of_lt (h.entered r hr)
  | wrote r rest _ hentered =>
    have hr : r.agentId < s.nextTokenId :=
      h.entered r (hentered ▸ List.mem_cons_self)
    refine ⟨h.owned, ?_, ?_⟩
    · intro i hi
      change s.nextTokenId ≤ i at hi
      obtain ⟨ho, hw, hm⟩ := h.unowned i hi
      refine ⟨ho, hw, fun k => ?_⟩
      change update s.metadata r.agentId _ i k = []
      rw [update_of_ne (by omega)]
      exact hm k
    · intro x hx
      exact h.entered x (hentered ▸ List.mem_cons_of_mem r hx)
  | noted i key value _ howned _ =>
    refine ⟨h.owned, ?_, h.entered⟩
    intro j hj
    obtain ⟨ho, hw, hm⟩ := h.unowned j hj
    refine ⟨ho, hw, fun k => ?_⟩
    change update s.metadata i _ j k = []
    rw [update_of_ne (hne howned hj)]
    exact hm k
  | signed i w _ howned _ _ =>
    refine ⟨h.owned, ?_, h.entered⟩
    intro j hj
    obtain ⟨ho, hw, hm⟩ := h.unowned j hj
    refine ⟨ho, ?_, fun k => ?_⟩
    · change update s.agentWallets i _ j = _
      rw [update_of_ne (hne howned hj)]
      exact hw
    · change update s.metadata i _ j k = []
      rw [update_of_ne (hne howned hj)]
      exact hm k
  | unset i _ howned =>
    refine ⟨h.owned, ?_, h.entered⟩
    intro j hj
    obtain ⟨ho, hw, hm⟩ := h.unowned j hj
    refine ⟨ho, ?_, fun k => ?_⟩
    · change update s.agentWallets i _ j = _
      rw [update_of_ne (hne howned hj)]
      exact hw
    · change update s.metadata i _ j k = []
      rw [update_of_ne (hne howned hj)]
      exact hm k
  | moved src dst i _ hdst howned =>
    refine ⟨?_, ?_, h.entered⟩
    · intro j hj
      change update s.owners i dst j ≠ _
      by_cases heq : j = i
      · rw [heq, update_self]
        exact hdst
      · rw [update_of_ne heq]
        exact h.owned j hj
    · intro j hj
      obtain ⟨ho, hrest⟩ := h.unowned j hj
      refine ⟨?_, hrest⟩
      change update s.owners i dst j = _
      rw [update_of_ne (hne howned hj)]
      exact ho
  | aside _ _ _ _ _ => exact ⟨h.owned, h.unowned, h.entered⟩

theorem put_ne_at {V : Type} (f : Nat → Nat → V) {i j : Nat} (v : Nat → V)
    (k : Nat) (h : j ≠ i) : update f i v j k = f j k := by
  rw [update_of_ne h]

/-- Steps that leave the wallets, their metadata and the signatures of all
agents but one: the others are held as before. -/
theorem held_but {x y : Identities × Signatures}
    (hothers : ∀ j, j ≠ i → (Held env y j ↔ Held env x j))
    (hheld : ∀ j, Held env x j) : (∀ j, Held env y j) ↔ Held env y i := by
  refine ⟨fun h => h i, fun h j => ?_⟩
  by_cases hj : j = i
  · exact hj ▸ h
  · exact (hothers j hj).mpr (hheld j)

theorem walletValue_getD {value : Option (List UInt8)} {old : List UInt8}
    {wallet : Address} (hold : WalletValue old wallet) :
    WalletValue (value.getD old) wallet
      ↔ ∀ v ∈ value, WalletValue v wallet := by
  cases value with
  | none => simpa using hold
  | some v => simp

/-- From an authentic state a step leads to one if and only if it is
safe. -/
theorem authentic_step {g : Signatures} (hm : Minted s)
    (h : Authentic env (s, g)) (hstep : identityStep env a s = .ok s') :
    Authentic env (s', signedSince a s g) ↔ WalletSafe env a (s, g) := by
  have hheld := (authentic_iff hm).mp h
  rw [authentic_iff (minted_step hm hstep)]
  have heffect := identityStep_effect hstep
  cases heffect with
  | minted entries hcall _ =>
    have hsafe : WalletSafe env a (s, g) := by simp [WalletSafe, hcall]
    refine ⟨fun _ => hsafe, fun _ i => ?_⟩
    simp only [signedSince, hcall]
    by_cases hi : i = s.nextTokenId
    · obtain ⟨-, hw, hmeta⟩ := hm.unowned i (Nat.le_of_eq hi.symm)
      exact ⟨Or.inl (hmeta _), fun hne => absurd hw hne⟩
    · exact (hheld i).carried rfl rfl (update_of_ne hi ..)
  | wrote r rest hcall hentered =>
    simp only [signedSince, hcall, WalletSafe, hentered]
    rw [held_but (i := r.agentId) ?_ hheld]
    · unfold Held
      rw [writeMetadata_reserved]
      refine (and_iff_left (hheld r.agentId).2).trans
        ((walletValue_getD (hheld r.agentId).1).trans ?_)
      simp
    · intro j hj
      refine Held.congr ?_ rfl rfl
      exact put_ne_at _ _ _ hj
  | noted i key value hcall _ hkey =>
    obtain ⟨k, hcall⟩ := hcall
    have hsafe : WalletSafe env a (s, g) := by simp [WalletSafe, hcall]
    refine ⟨fun _ => hsafe, fun _ j => ?_⟩
    simp only [signedSince, hcall]
    refine (hheld j).carried ?_ rfl rfl
    by_cases hj : j = i
    · rw [hj]
      change update s.metadata i _ i env.agentWalletKey = _
      rw [update_self, update_of_ne (Ne.symm hkey)]
    · exact put_ne_at _ _ _ hj
  | signed i w hcall _ hwallet hsigner =>
    have hsafe : WalletSafe env a (s, g) := by simp [WalletSafe, hcall]
    refine ⟨fun _ => hsafe, fun _ => ?_⟩
    simp only [signedSince, hcall]
    refine (held_but (i := i) ?_ hheld).mpr ?_
    · intro j hj
      exact Held.congr (put_ne_at _ _ _ hj) (update_of_ne hj ..)
        (update_of_ne hj ..)
    · unfold Held
      dsimp only
      rw [update_self, update_self, update_self, update_self]
      exact ⟨Or.inr ⟨hwallet, rfl⟩,
        fun _ => ⟨w, List.mem_cons_self, rfl, hsigner⟩⟩
  | unset i hcall _ =>
    have hsafe : WalletSafe env a (s, g) := by simp [WalletSafe, hcall]
    refine ⟨fun _ => hsafe, fun _ => ?_⟩
    simp only [signedSince, hcall]
    refine (held_but (i := i) ?_ hheld).mpr ?_
    · intro j hj
      exact Held.congr (put_ne_at _ _ _ hj) (update_of_ne hj ..) rfl
    · unfold Held
      dsimp only
      rw [update_self, update_self, update_self]
      exact ⟨Or.inl rfl, fun hne => absurd rfl hne⟩
  | moved src dst i hcall _ _ =>
    simp only [signedSince, hcall, WalletSafe]
    by_cases hsame : s.owners i = dst
    · rw [if_pos hsame]
      exact ⟨fun _ => Or.inl hsame, fun _ j => (hheld j).carried rfl rfl rfl⟩
    · rw [if_neg hsame, held_but (i := i) ?_ hheld]
      · unfold Held
        dsimp only
        rw [update_self]
        constructor
        · rintro ⟨-, hsigned⟩
          by_contra hnot
          obtain ⟨w, hw, -⟩ := hsigned fun hzero => hnot (Or.inr hzero)
          cases hw
        · intro hsafe
          refine ⟨(hheld i).1, fun hne => ?_⟩
          rcases hsafe with heq | hzero
          · exact absurd heq hsame
          · exact absurd hzero hne
      · intro j hj
        exact Held.congr rfl rfl (update_of_ne hj ..)
  | aside _ _ _ hsafe hsigned =>
    rw [hsigned]
    exact ⟨fun _ => hsafe g, fun _ j => (hheld j).carried rfl rfl rfl⟩

-- ==== runs

theorem blank_minted (h : s.Blank) : Minted s := by
  refine ⟨?_, fun i _ => ⟨h.owners i, h.wallets i, h.metadata i⟩, ?_⟩
  · intro i hi
    rw [h.next] at hi
    exact absurd hi (Nat.not_lt_zero i)
  · intro r hr
    rw [h.entered] at hr
    cases hr

theorem blank_authentic (h : s.Blank) (g : Signatures) :
    Authentic env (s, g) :=
  (authentic_iff (blank_minted h)).mpr fun i =>
    ⟨Or.inl (h.metadata i _), fun hne => absurd (h.wallets i) hne⟩

/-- In a run from the start every state is authentic if and only if no
entry is written under the reserved key that is not empty or the wallet's,
and no agent with a wallet changes hands. -/
theorem agent_wallets_iff {tr : List IdentityAction}
    {y : Identities × Signatures} (h : s.Blank)
    (hrun : run (walletStep env) (s, fun _ => []) tr = .ok y) :
    Throughout (walletStep env) (Authentic env) (s, fun _ => []) tr
      ↔ Meets (walletStep env) (WalletSafe env) (s, fun _ => []) tr := by
  refine throughout_iff_meets (fun x => Minted x.1) ?_ ?_
    (blank_minted h) (blank_authentic h _) hrun
  · intro a x x' hm hstep
    exact minted_step hm (tracked_ok.mp hstep).1
  · rintro a ⟨x, g⟩ ⟨x', g'⟩ hm hx hstep
    obtain ⟨hstep, hg⟩ := tracked_ok.mp hstep
    dsimp only at hg
    rw [hg]
    exact authentic_step hm hx hstep

-- ==== examples

namespace Concrete

/-- A hash that tells keys apart, and signatures of two bytes: the wallet,
and the end of what it signed. -/
def identityEnv : IdentityEnv where
  keccak key := key.toList.foldl (fun n c => 256 * n + c.toNat) 0
  digest agentId newWallet deadline :=
    (agentId * 1000 + newWallet) * 1000000 + deadline
  recover hash signature :=
    match signature with
    | [wallet, last] =>
      if last.toNat = hash % 256 then .ok wallet.toNat
      else .error "ECDSAInvalidSignature"
    | _ => .error "ECDSAInvalidSignatureLength"

def noAgents : Identities where
  owner := 1
  paused := false
  nextTokenId := 0
  owners := fun _ => 0
  tokenApprovals := fun _ => 0
  operatorApprovals := fun _ _ => false
  metadata := fun _ _ => []
  agentWallets := fun _ => 0
  entered := []

theorem noAgents_blank : noAgents.Blank :=
  ⟨rfl, fun _ => rfl, fun _ => rfl, fun _ _ => rfl, rfl⟩

/-- A call of account 5, at one time. -/
def byFive (call : IdentityCall) : IdentityAction := ⟨5, 1000, call⟩

/-- Account 5 registers an agent and gives it wallet 7. -/
def walletRun : List IdentityAction :=
  [byFive (.register [⟨"name", [65]⟩]), byFive .registered,
    byFive (.setAgentWallet 0 7 2000 [7, 144])]

/-- The wallet is taken away, and the agent sold. -/
def soldRun : List IdentityAction :=
  walletRun ++ [byFive (.unsetAgentWallet 0), byFive (.transferFrom 5 6 0)]

/-- An agent registered with someone's wallet as metadata. -/
def forgedRun : List IdentityAction :=
  [byFive (.register [⟨"agentWallet", [1, 2, 3]⟩]), byFive .registered]

end Concrete

/-- Whatever the entries and the wallets set and unset, while no agent with
a wallet is sold. -/
theorem agent_wallets_of_sold :
    ∃ y, Concrete.noAgents.Blank
      ∧ run (walletStep Concrete.identityEnv)
        (Concrete.noAgents, fun _ => []) Concrete.soldRun = .ok y
      ∧ Throughout (walletStep Concrete.identityEnv)
        (Authentic Concrete.identityEnv) (Concrete.noAgents, fun _ => [])
        Concrete.soldRun := by
  obtain ⟨y, hrun, -⟩ := check_ok (show check (fun _ => true)
    (run (walletStep Concrete.identityEnv) (Concrete.noAgents, fun _ => [])
      Concrete.soldRun) = true by decide)
  have hmeets : Meets (walletStep Concrete.identityEnv)
      (WalletSafe Concrete.identityEnv) (Concrete.noAgents, fun _ => [])
      Concrete.soldRun := by
    apply meets_of_check fun a x h => of_decide_eq_true
      (p := WalletSafe Concrete.identityEnv a x) h
    decide
  exact ⟨y, Concrete.noAgents_blank, hrun,
    (agent_wallets_iff Concrete.noAgents_blank hrun).mpr hmeets⟩

/-- Registered with the reserved key, an agent has metadata that is no
wallet's; sold with a wallet, it has one that nobody signed for the new
owner. -/
theorem agent_wallet_forged :
    Concrete.noAgents.Blank
      ∧ (∃ y, run (walletStep Concrete.identityEnv)
          (Concrete.noAgents, fun _ => []) Concrete.forgedRun = .ok y
        ∧ y.1.getMetadata Concrete.identityEnv 0 "agentWallet" = .ok [1, 2, 3]
        ∧ y.1.agentWallets 0 = zeroAddress
        ∧ ¬ Authentic Concrete.identityEnv y)
      ∧ ∃ y, run (walletStep Concrete.identityEnv)
          (Concrete.noAgents, fun _ => [])
          (Concrete.walletRun ++ [Concrete.byFive (.transferFrom 5 6 0)])
          = .ok y
        ∧ y.1.owners 0 = 6 ∧ y.1.getAgentWallet 0 = .ok 7 ∧ y.2 0 = []
        ∧ ¬ Authentic Concrete.identityEnv y := by
  refine ⟨Concrete.noAgents_blank, ?_, ?_⟩
  · obtain ⟨y, hrun, hy⟩ := check_ok (show check (fun y =>
        decide (y.1.getMetadata Concrete.identityEnv 0 "agentWallet"
          = .ok [1, 2, 3] ∧ y.1.agentWallets 0 = zeroAddress))
      (run (walletStep Concrete.identityEnv) (Concrete.noAgents, fun _ => [])
        Concrete.forgedRun) = true by decide)
    obtain ⟨hmeta, hwallet⟩ := of_decide_eq_true hy
    refine ⟨y, hrun, hmeta, hwallet, fun h => ?_⟩
    rcases h.reserved 0 _ hmeta with hnil | ⟨w, hw, hne, -⟩
    · cases hnil
    · exact hne (hw.symm.trans hwallet)
  · obtain ⟨y, hrun, hy⟩ := check_ok (show check (fun y =>
        decide (y.1.owners 0 = 6 ∧ y.1.getAgentWallet 0 = .ok 7
          ∧ y.2 0 = [] ∧ y.1.agentWallets 0 ≠ zeroAddress))
      (run (walletStep Concrete.identityEnv) (Concrete.noAgents, fun _ => [])
        (Concrete.walletRun ++ [Concrete.byFive (.transferFrom 5 6 0)]))
        = true by decide)
    obtain ⟨howner, hget, hsigned, hne⟩ := of_decide_eq_true hy
    refine ⟨y, hrun, howner, hget, hsigned, fun h => ?_⟩
    obtain ⟨w, hw, -⟩ := h.signed 0 hne
    rw [hsigned] at hw
    cases hw

end KamiyoProtocol.ZkReputation
