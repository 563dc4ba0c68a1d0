/-
The SPL token program, as far as the programs and their adversaries use
it.

A token account has a mint, an authority (`owner`, the name the code
reads it under) and an amount. The program moves tokens only on the
authority's signature; the operations here are the ones that can change
an account at all: transfer, change of authority, minting, creation and
closing. `Tokens.transfer` keeps a journal as the lamport ledger does,
so that where tokens went is a function of the state.

An operation adjusts amounts in place (`adjust`), so mint and authority
survive it by construction. Amounts cannot overflow: a mint's supply is
a u64.
-/
import KamiyoProtocol.Lib.Keyed
import KamiyoProtocol.Solana.Runtime

namespace KamiyoProtocol.Solana

open Function

/-- A token account; `owner` is its authority. -/
structure TokenAccount where
  mint : Pubkey
  owner : Pubkey
  amount : Nat
deriving DecidableEq

/-- All token accounts, with the history of transfers. -/
structure Tokens where
  accounts : Pubkey → Option TokenAccount
  journal : List (Transfer Pubkey)

variable {src dst authority : Pubkey}

namespace Tokens

/-- Amounts after moving `n` from `src` to `dst`. -/
def adjust (b : Tokens) (src dst : Pubkey) (n : Nat) (k : Pubkey) :
    Option TokenAccount :=
  (b.accounts k).map fun a =>
    { a with amount := (if k = src then a.amount - n else a.amount)
        + (if k = dst then n else 0) }

/-- `token::transfer`: both accounts exist, share a mint, the authority
is the source's, and the source is funded. -/
def transfer (b : Tokens) (src dst authority : Pubkey) (n : Nat) :
    Option Tokens :=
  match b.accounts src, b.accounts dst with
  | some s, some d =>
    if s.mint = d.mint ∧ s.owner = authority ∧ n ≤ s.amount then
      some { accounts := b.adjust src dst n
             journal := b.journal ++ [⟨src, dst, n⟩] }
    else none
  | _, _ => none

theorem transfer_some {b b' : Tokens}
    {n : Nat} (h : b.transfer src dst authority n = some b') :
    ∃ s d, b.accounts src = some s ∧ b.accounts dst = some d
      ∧ s.mint = d.mint ∧ s.owner = authority ∧ n ≤ s.amount
      ∧ b'.accounts = b.adjust src dst n
      ∧ b'.journal = b.journal ++ [⟨src, dst, n⟩] := by
  unfold transfer at h
  split at h
  · next s d hs hd =>
      split at h
      · next hc =>
          cases h
          exact ⟨s, d, hs, hd, hc.1, hc.2.1, hc.2.2, rfl, rfl⟩
      · cases h
  · cases h

theorem transfer_isSome {b : Tokens} {n : Nat}
    {s d : TokenAccount} (hs : b.accounts src = some s)
    (hd : b.accounts dst = some d) (hm : s.mint = d.mint)
    (ho : s.owner = authority) (hn : n ≤ s.amount) :
    ∃ b', b.transfer src dst authority n = some b' := by
  unfold transfer
  rw [hs, hd]
  dsimp only
  rw [if_pos ⟨hm, ho, hn⟩]
  exact ⟨_, rfl⟩

theorem adjust_some {b : Tokens} {src dst k : Pubkey} {n : Nat}
    {a : TokenAccount} (h : b.accounts k = some a) :
    b.adjust src dst n k
      = some { a with amount := (if k = src then a.amount - n
          else a.amount) + (if k = dst then n else 0) } := by
  rw [adjust, h]
  rfl

theorem adjust_inv {b : Tokens} {src dst k : Pubkey} {n : Nat}
    {a' : TokenAccount} (h : b.adjust src dst n k = some a') :
    ∃ a, b.accounts k = some a ∧ a'.mint = a.mint ∧ a'.owner = a.owner := by
  obtain ⟨a, ha, hEq⟩ := Option.map_eq_some_iff.mp h
  subst hEq
  exact ⟨a, ha, rfl, rfl⟩

-- ==== transfer lists

/-- Run a list of transfers on one authority's signature. -/
def transfers (b : Tokens) (authority : Pubkey) :
    List (Transfer Pubkey) → Option Tokens
  | [] => some b
  | t :: rest =>
    match b.transfer t.src t.dst authority t.amount with
    | some b' => b'.transfers authority rest
    | none => none

theorem transfers_cons {b b' : Tokens} {authority : Pubkey}
    {t : Transfer Pubkey} {rest : List (Transfer Pubkey)} :
    b.transfers authority (t :: rest) = some b'
      ↔ ∃ m, b.transfer t.src t.dst authority t.amount = some m
          ∧ m.transfers authority rest = some b' := by
  rw [transfers]
  cases b.transfer t.src t.dst authority t.amount with
  | none => simp
  | some m => simp

theorem transfers_append {b m b' : Tokens} {authority : Pubkey}
    {ts us : List (Transfer Pubkey)}
    (h : b.transfers authority ts = some m)
    (h' : m.transfers authority us = some b') :
    b.transfers authority (ts ++ us) = some b' := by
  induction ts generalizing b with
  | nil =>
    cases h
    exact h'
  | cons t rest ih =>
    obtain ⟨k, hk, hrest⟩ := transfers_cons.mp h
    exact transfers_cons.mpr ⟨k, hk, ih hrest⟩

theorem journal_transfers {b b' : Tokens} {authority : Pubkey}
    {ts : List (Transfer Pubkey)}
    (h : b.transfers authority ts = some b') :
    b'.journal = b.journal ++ ts := by
  induction ts generalizing b with
  | nil =>
    cases h
    simp
  | cons t rest ih =>
    obtain ⟨m, hm, hrest⟩ := transfers_cons.mp h
    obtain ⟨_, _, -, -, -, -, -, -, hj⟩ := transfer_some hm
    rw [ih hrest, hj, List.append_assoc]
    rfl

-- ==== other operations

/-- The bank with `o` at address `k`. -/
def put (b : Tokens) (k : Pubkey) (o : Option TokenAccount) : Tokens :=
  { b with accounts := update b.accounts k o }

/-- `SetAuthority` of the account owner, on the owner's signature. -/
def setOwner (b : Tokens) (signers : List Pubkey) (k newOwner : Pubkey) :
    Option Tokens :=
  match b.accounts k with
  | some a =>
    if a.owner ∈ signers then
      some (b.put k (some { a with owner := newOwner }))
    else none
  | none => none

/-- `MintTo`: the mint authority may credit any account of its mint. -/
def mintTo (b : Tokens) (k : Pubkey) (n : Nat) : Option Tokens :=
  match b.accounts k with
  | some a => some (b.put k (some { a with amount := a.amount + n }))
  | none => none

/-- `Burn`, on the owner's signature, of tokens of the named mint. -/
def burn (b : Tokens) (k mint authority : Pubkey) (n : Nat) :
    Option Tokens :=
  match b.accounts k with
  | some a =>
    if a.mint = mint ∧ a.owner = authority ∧ n ≤ a.amount then
      some (b.put k (some { a with amount := a.amount - n }))
    else none
  | none => none

/-- `InitializeAccount` at an unused address. -/
def openAccount (b : Tokens) (k mint owner : Pubkey) : Option Tokens :=
  match b.accounts k with
  | some _ => none
  | none => some (b.put k (some ⟨mint, owner, 0⟩))

/-- `CloseAccount` of an empty account, on the owner's signature. -/
def closeAccount (b : Tokens) (signers : List Pubkey) (k : Pubkey) :
    Option Tokens :=
  match b.accounts k with
  | some a =>
    if a.owner ∈ signers ∧ a.amount = 0 then some (b.put k none)
    else none
  | none => none

variable {signers : List Pubkey}

section Journal

variable {b b' : Tokens} {k : Pubkey}

/-- The operations that are no transfers rewrite one account, and leave
the history alone. -/
theorem journal_setOwner {newOwner : Pubkey}
    (h : b.setOwner signers k newOwner = some b') :
    b'.journal = b.journal := by
  unfold setOwner at h
  split at h
  · split at h
    · cases h
      rfl
    · cases h
  · cases h

theorem journal_mintTo {n : Nat} (h : b.mintTo k n = some b') :
    b'.journal = b.journal := by
  unfold mintTo at h
  split at h
  · cases h
    rfl
  · cases h

theorem journal_burn {mint authority : Pubkey} {n : Nat}
    (h : b.burn k mint authority n = some b') :
    b'.journal = b.journal := by
  unfold burn at h
  split at h
  · split at h
    · cases h
      rfl
    · cases h
  · cases h

theorem journal_openAccount {mint owner : Pubkey}
    (h : b.openAccount k mint owner = some b') :
    b'.journal = b.journal := by
  unfold openAccount at h
  split at h
  · cases h
  · cases h
    rfl

theorem journal_closeAccount (h : b.closeAccount signers k = some b') :
    b'.journal = b.journal := by
  unfold closeAccount at h
  split at h
  · split at h
    · cases h
      rfl
    · cases h
  · cases h

end Journal

/-- An account held by a non-signer, with its mint and authority, that
later operations may only top up. -/
def Held (b : Tokens) (k mint owner : Pubkey) (n : Nat) : Prop :=
  ∃ a, b.accounts k = some a ∧ a.mint = mint ∧ a.owner = owner ∧ n ≤ a.amount

variable {b b' : Tokens} {k mint owner : Pubkey} {n : Nat}

variable {m : Nat}

/-- A transfer on another authority's signature only tops up a held
account: were it the source, the authority would be its owner. -/
theorem Held.transfer (hh : b.Held k mint owner n) (ha : authority ≠ owner)
    (h : b.transfer src dst authority m = some b') :
    b'.Held k mint owner n := by
  obtain ⟨a, hk, hm, ho, hn⟩ := hh
  obtain ⟨s, d, hs, -, -, hso, -, hacc, -⟩ := transfer_some h
  have hne : k ≠ src := by
    rintro rfl
    rw [hk] at hs
    cases hs
    exact ha (hso.symm.trans ho)
  rw [Held, hacc]
  refine ⟨_, adjust_some hk, hm, ho, ?_⟩
  dsimp only
  rw [if_neg hne]
  omega

theorem Held.kept (hh : b.Held k mint owner n)
    (h : b.transfer src dst authority m = some b') :
    b'.Held k mint owner 0 := by
  obtain ⟨a, hk, hm, ho, -⟩ := hh
  obtain ⟨s, d, -, -, -, -, -, hacc, -⟩ := transfer_some h
  rw [Held, hacc]
  exact ⟨_, adjust_some hk, hm, ho, Nat.zero_le _⟩

theorem Held.debit (hh : b.Held k mint owner n)
    (h : b.transfer src dst authority m = some b') :
    b'.Held k mint owner (n - m) := by
  obtain ⟨a, hk, hm, ho, hn⟩ := hh
  obtain ⟨s, d, -, -, -, -, -, hacc, -⟩ := transfer_some h
  rw [Held, hacc]
  refine ⟨_, adjust_some hk, hm, ho, ?_⟩
  dsimp only
  split
  · omega
  · omega

theorem Held.credit (hh : b.Held k mint owner n) {src authority : Pubkey}
    (hne : k ≠ src)
    (h : b.transfer src k authority m = some b') :
    b'.Held k mint owner (n + m) := by
  obtain ⟨a, hk, hm, ho, hn⟩ := hh
  obtain ⟨s, d, -, -, -, -, -, hacc, -⟩ := transfer_some h
  rw [Held, hacc]
  refine ⟨_, adjust_some hk, hm, ho, ?_⟩
  dsimp only
  rw [if_neg hne, if_pos rfl]
  omega

theorem Held.transfer_ne (hh : b.Held k mint owner n) (hne : k ≠ src)
    (h : b.transfer src dst authority m = some b') :
    b'.Held k mint owner n := by
  obtain ⟨a, hk, hm, ho, hn⟩ := hh
  obtain ⟨s, d, -, -, -, -, -, hacc, -⟩ := transfer_some h
  rw [Held, hacc]
  refine ⟨_, adjust_some hk, hm, ho, ?_⟩
  dsimp only
  rw [if_neg hne]
  omega

/-- A transfer that another account's owner signed does not come out of a
held account. -/
theorem Held.src_ne (hh : b.Held k mint owner n) (ha : authority ≠ owner)
    (h : b.transfer src dst authority m = some b') : src ≠ k := by
  obtain ⟨a, hk, -, ho, -⟩ := hh
  obtain ⟨s, d, hs, -, -, hso, -, -, -⟩ := transfer_some h
  rintro rfl
  rw [hk] at hs
  cases hs
  exact ha (hso.symm.trans ho)

theorem Held.transfers (hh : b.Held k mint owner n) {authority : Pubkey}
    (ha : authority ≠ owner) {ts : List (Transfer Pubkey)}
    (h : b.transfers authority ts = some b') :
    b'.Held k mint owner n := by
  induction ts generalizing b with
  | nil =>
    cases h
    exact hh
  | cons t rest ih =>
    obtain ⟨m, hm, hrest⟩ := transfers_cons.mp h
    exact ih (hh.transfer ha hm) hrest

theorem Held.put_ne (hh : b.Held k mint owner n) {j : Pubkey}
    {o : Option TokenAccount} (hne : k ≠ j) :
    (b.put j o).Held k mint owner n := by
  obtain ⟨a, hk, hrest⟩ := hh
  exact ⟨a, (update_of_ne hne ..).trans hk, hrest⟩

/-- A held account's authority is its owner: a signature of some other
account's authority is not one over it. -/
theorem Held.ne_of_signer (hh : b.Held k mint owner n)
    (hns : owner ∉ signers) {j : Pubkey}
    {a : TokenAccount} (ha : b.accounts j = some a)
    (hsig : a.owner ∈ signers) : k ≠ j := by
  obtain ⟨a', hk, -, ho, -⟩ := hh
  rintro rfl
  rw [hk] at ha
  cases ha
  exact hns (ho ▸ hsig)

theorem Held.setOwner (hh : b.Held k mint owner n)
    (hns : owner ∉ signers) {j newOwner : Pubkey}
    (h : b.setOwner signers j newOwner = some b') :
    b'.Held k mint owner n := by
  unfold Tokens.setOwner at h
  split at h
  · next a ha =>
      split at h
      · next hsig =>
          cases h
          exact hh.put_ne (hh.ne_of_signer hns ha hsig)
      · cases h
  · cases h

theorem Held.burn (hh : b.Held k mint owner n) {authority : Pubkey}
    (ha : authority ≠ owner) {j mint' : Pubkey}
    (h : b.burn j mint' authority m = some b') :
    b'.Held k mint owner n := by
  unfold Tokens.burn at h
  split at h
  · next a hj =>
      split at h
      · next hc =>
          cases h
          refine hh.put_ne ?_
          obtain ⟨a', hk, -, ho, -⟩ := hh
          rintro rfl
          rw [hk] at hj
          cases hj
          exact ha (hc.2.1.symm.trans ho)
      · cases h
  · cases h

theorem Held.mintTo (hh : b.Held k mint owner n) {j : Pubkey}
    (h : b.mintTo j m = some b') : b'.Held k mint owner n := by
  unfold Tokens.mintTo at h
  split at h
  · next a ha =>
      cases h
      by_cases hne : k = j
      · subst hne
        obtain ⟨a', hk, hm, ho, hn⟩ := hh
        rw [hk] at ha
        cases ha
        exact ⟨_, update_self .., hm, ho, Nat.le_add_right_of_le hn⟩
      · exact hh.put_ne hne
  · cases h

theorem Held.openAccount (hh : b.Held k mint owner n) {j mint' owner' : Pubkey}
    (h : b.openAccount j mint' owner' = some b') :
    b'.Held k mint owner n := by
  unfold Tokens.openAccount at h
  split at h
  · cases h
  · next hj =>
      cases h
      refine hh.put_ne ?_
      rintro rfl
      obtain ⟨a, hk, -⟩ := hh
      rw [hk] at hj
      cases hj

theorem held_openAccount (h : b.openAccount k mint owner = some b') :
    b'.Held k mint owner 0 := by
  unfold Tokens.openAccount at h
  split at h
  · cases h
  · cases h
    exact ⟨_, update_self .., rfl, rfl, Nat.zero_le _⟩

theorem Held.closeAccount (hh : b.Held k mint owner n)
    (hns : owner ∉ signers) {j : Pubkey}
    (h : b.closeAccount signers j = some b') : b'.Held k mint owner n := by
  unfold Tokens.closeAccount at h
  split at h
  · next a ha =>
      split at h
      · next hc =>
          cases h
          exact hh.put_ne (hh.ne_of_signer hns ha hc.1)
      · cases h
  · cases h

end Tokens

-- ==== environment

variable {Seed : Type} {env : Env Seed}

/-- What anyone can have the token program do. -/
inductive TokenOp where
  | transfer (src dst authority : Pubkey) (amount : Nat)
  | setOwner (k newOwner : Pubkey)
  | mintTo (k : Pubkey) (amount : Nat)
  | burn (k mint authority : Pubkey) (amount : Nat)
  | openAccount (k mint owner : Pubkey)
  | createAta (wallet mint : Pubkey)
  | closeAccount (k : Pubkey)
deriving DecidableEq

/-- Its effect, on the signatures of a transaction. -/
def TokenOp.apply (op : TokenOp) (tx : Tx env) (b : Tokens) :
    Option Tokens :=
  match op with
  | .transfer src dst authority n =>
    if authority ∈ tx.signers then b.transfer src dst authority n
    else none
  | .setOwner k newOwner => b.setOwner tx.signers k newOwner
  | .mintTo k n => b.mintTo k n
  | .burn k mint authority n =>
    if authority ∈ tx.signers then b.burn k mint authority n else none
  | .openAccount k mint owner =>
    if k ∈ tx.signers then b.openAccount k mint owner else none
  | .createAta wallet mint =>
    b.openAccount (env.ata wallet mint) mint wallet
  | .closeAccount k => b.closeAccount tx.signers k

/-- Nothing from outside takes out of an account held by a derived
address. -/
theorem Tokens.Held.tokenOp {tx : Tx env} {op : TokenOp} {b b' : Tokens}
    {k mint owner : Pubkey} {n : Nat} (hh : b.Held k mint owner n)
    (hns : owner ∉ tx.signers) (h : op.apply tx b = some b') :
    b'.Held k mint owner n := by
  cases op with
  | transfer src dst authority m =>
    simp only [TokenOp.apply] at h
    split at h
    · next hs => exact hh.transfer (fun he => hns (he ▸ hs)) h
    · cases h
  | setOwner j newOwner => exact hh.setOwner hns h
  | mintTo j m => exact hh.mintTo h
  | burn j mint' authority m =>
    simp only [TokenOp.apply] at h
    split at h
    · next hs => exact hh.burn (fun he => hns (he ▸ hs)) h
    · cases h
  | openAccount j mint' owner' =>
    simp only [TokenOp.apply] at h
    split at h
    · exact hh.openAccount h
    · cases h
  | createAta wallet mint' => exact hh.openAccount h
  | closeAccount j => exact hh.closeAccount hns h

variable {ε : Type}

/-- The CPI to `token::transfer`. -/
def transferTokens (b : Tokens) (src dst authority : Pubkey) (n : Nat) :
    Result ε Tokens :=
  Exec.okOr (b.transfer src dst authority n) Fault.tokenProgramError

theorem transferTokens_ok {b b' : Tokens} {n : Nat} :
    (transferTokens b src dst authority n : Result ε Tokens) = .ok b'
      ↔ b.transfer src dst authority n = some b' :=
  Exec.okOr_ok

/-- The CPI to `token_interface::transfer_checked`: the mint is named, and
its decimals are the ones the mint account shows. -/
def transferChecked (b : Tokens) (src dst mint authority : Pubkey)
    (n : Nat) : Result ε Tokens := do
  let a ← Exec.okOr (b.accounts src) .tokenProgramError
  Exec.require (a.mint = mint) .tokenProgramError
  transferTokens b src dst authority n

theorem transferChecked_ok {b b' : Tokens}
    {src dst mint authority : Pubkey} {n : Nat}
    (h : (transferChecked b src dst mint authority n : Result ε Tokens)
      = .ok b') : b.transfer src dst authority n = some b' := by
  simp only [transferChecked, Exec.bind_ok, transferTokens_ok] at h
  obtain ⟨a, -, -, -, ht⟩ := h
  exact ht

/-- The CPI to `token_interface::burn`. -/
def burnTokens (b : Tokens) (k mint authority : Pubkey) (n : Nat) :
    Result ε Tokens :=
  Exec.okOr (b.burn k mint authority n) .tokenProgramError

theorem burnTokens_ok {b b' : Tokens} {k mint authority : Pubkey} {n : Nat} :
    (burnTokens b k mint authority n : Result ε Tokens) = .ok b'
      ↔ b.burn k mint authority n = some b' :=
  Exec.okOr_ok

/-- `associated_token::mint`, `associated_token::authority`: a token
account of the wallet, at the address the two derive. -/
def requireAta (env : Env Seed) (b : Tokens) (k wallet mint : Pubkey) :
    Result ε Unit := do
  let a ← load (b.accounts k)
  Exec.require (a.owner = wallet) .constraintTokenOwner
  Exec.require (k = env.ata wallet mint) .constraintAssociated

/-- `Option<Account<'info, TokenAccount>>`: absent, or an existing token
account read at the start of the instruction. -/
def loadTokenAccount (b : Tokens) (o : Option Pubkey) :
    Result ε (Option (Pubkey × TokenAccount)) :=
  match o with
  | none => .ok none
  | some k =>
    match b.accounts k with
    | some a => .ok (some (k, a))
    | none => .error Fault.accountNotInitialized

theorem loadTokenAccount_some {b : Tokens} {o : Option Pubkey}
    {k : Pubkey} {a : TokenAccount}
    (h : (loadTokenAccount b o : Result ε _) = .ok (some (k, a))) :
    o = some k ∧ b.accounts k = some a := by
  unfold loadTokenAccount at h
  split at h
  · cases h
  · next j =>
      split at h
      · next a' ha =>
          cases h
          exact ⟨rfl, ha⟩
      · cases h

theorem loadTokenAccount_none {b : Tokens} {o : Option Pubkey}
    (h : (loadTokenAccount b o : Result ε _) = .ok none) : o = none := by
  unfold loadTokenAccount at h
  split at h
  · rfl
  · split at h
    · cases h
    · cases h

end KamiyoProtocol.Solana
