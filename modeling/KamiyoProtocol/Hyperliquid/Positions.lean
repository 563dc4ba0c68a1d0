/-
Sums over the positions of a vault's books, and what each change of the
books does to them.
-/
import KamiyoProtocol.Hyperliquid.VaultEffects

namespace KamiyoProtocol.Hyperliquid

open Exec Evm Keyed Function

namespace VaultBook

variable {b : VaultBook}

/-- The sum of `f` over the positions there are. -/
def total (b : VaultBook) (f : CopyPosition → Nat) : Nat :=
  ((List.range b.positionCount).map fun id => f (b.positions id)).sum

/-- What an active position has deposited. -/
def activeDeposit (pos : CopyPosition) : Nat :=
  if pos.active then pos.deposit else 0

/-- The deposits of all active positions. -/
def activeDeposits (b : VaultBook) : Nat := b.total activeDeposit

/-- Positions beyond the count were never written. -/
def Numbered (b : VaultBook) : Prop :=
  ∀ id, b.positionCount ≤ id → b.positions id = CopyPosition.empty

theorem Numbered.lt_of_active (h : b.Numbered) {id : Nat}
    (hactive : (b.positions id).active = true) : id < b.positionCount := by
  by_contra hge
  rw [h id (by omega)] at hactive
  cases hactive

/-- One position is written anew, whatever else is. -/
structure Writes (b b' : VaultBook) (id : Nat) (pos : CopyPosition) :
    Prop where
  positionCount : b'.positionCount = b.positionCount
  positions : b'.positions = update b.positions id pos

variable {b' : VaultBook} {id : Nat} {pos : CopyPosition}

theorem Writes.numbered (h : b.Writes b' id pos) (hb : b.Numbered)
    (hid : id < b.positionCount) : b'.Numbered := by
  intro j hj
  rw [h.positionCount] at hj
  rw [h.positions, update_of_ne (by omega)]
  exact hb j hj

theorem Writes.total (h : b.Writes b' id pos) (hid : id < b.positionCount)
    (f : CopyPosition → Nat) :
    b'.total f + f (b.positions id) = b.total f + f pos := by
  unfold VaultBook.total
  rw [h.positionCount, h.positions]
  exact sum_update f b.positions pos List.nodup_range (List.mem_range.mpr hid)

theorem Writes.total_same (h : b.Writes b' id pos) {f : CopyPosition → Nat}
    (hf : f pos = f (b.positions id)) : b'.total f = b.total f := by
  unfold VaultBook.total
  rw [h.positionCount, h.positions]
  congr 1
  apply List.map_congr_left
  intro j _
  by_cases hj : j = id
  · subst hj
    rw [update_self, hf]
  · rw [update_of_ne hj]

theorem total_push (b : VaultBook) (pos : CopyPosition)
    (f : CopyPosition → Nat) : (b.push pos).total f = b.total f + f pos := by
  show ((List.range (b.positionCount + 1)).map
    fun id => f (update b.positions b.positionCount pos id)).sum = _
  rw [List.range_succ, List.map_append, List.sum_append,
    sum_update_of_not_mem f b.positions pos List.not_mem_range_self]
  simp only [List.map_cons, List.map_nil, List.sum_cons, List.sum_nil,
    update_self, Nat.add_zero]
  rfl

theorem Numbered.push (h : b.Numbered) (pos : CopyPosition) :
    (b.push pos).Numbered := by
  intro j hj
  change b.positionCount + 1 ≤ j at hj
  show update b.positions b.positionCount pos j = _
  rw [update_of_ne (by omega)]
  exact h j (by omega)

theorem total_congr (hcount : b'.positionCount = b.positionCount)
    {f : CopyPosition → Nat}
    (hf : ∀ id, f (b'.positions id) = f (b.positions id)) :
    b'.total f = b.total f := by
  unfold VaultBook.total
  rw [hcount]
  congr 1
  apply List.map_congr_left
  intro id _
  exact hf id

theorem le_total (f : CopyPosition → Nat) (hid : id < b.positionCount) :
    f (b.positions id) ≤ b.total f :=
  le_sum (fun j => f (b.positions j)) (List.getElem?_range hid)

end VaultBook

-- ==== writes

section Writes

variable {b b' : VaultBook} {id : Nat}

theorem exit_writes {timestamp payout fee : Nat} {payee : Address}
    {disputes : Nat → DisputeInfo} :
    b.Writes (b.exit timestamp id payee payout fee disputes) id
      { b.positions id with active := false, endTime := uint 64 timestamp } :=
  ⟨rfl, rfl⟩

theorem file_writes {dispute : DisputeInfo} {fees got : Nat} :
    b.Writes (((b.file id dispute).addFees fees).receive got) id
      { b.positions id with disputed := true } :=
  ⟨rfl, rfl⟩

/-- A batch of values changes nothing but values, and only of active
positions. -/
structure Revalued (b b' : VaultBook) (values : List (Nat × Nat)) :
    Prop where
  positions : ∀ id, b'.positions id = b.positions id
    ∨ (b.positions id).active = true ∧ ∃ x, (id, x) ∈ values
      ∧ b'.positions id = { b.positions id with currentValue := x }
  others : b' = { b with positions := b'.positions }

theorem updateEach_revalued {values : List (Nat × Nat)}
    (h : World.updateEach b values = .ok b') : Revalued b b' values := by
  induction values generalizing b with
  | nil =>
    cases h
    exact ⟨fun id => Or.inl rfl, rfl⟩
  | cons value rest ih =>
    obtain ⟨id, newValue⟩ := value
    unfold World.updateEach at h
    by_cases hactive : (b.positions id).active = true
    · rw [if_pos hactive] at h
      obtain ⟨_, -, h⟩ := bind_ok.mp h
      obtain ⟨hpositions, hothers⟩ := ih h
      refine ⟨?_, hothers⟩
      intro j
      have hj := hpositions j
      change b'.positions j = update b.positions id _ j
        ∨ (update b.positions id _ j).active = true ∧ ∃ x, _ ∧
          b'.positions j = { update b.positions id _ j with currentValue := x }
        at hj
      by_cases hjid : j = id
      · subst hjid
        rw [update_self] at hj
        refine Or.inr ⟨hactive, ?_⟩
        rcases hj with hj | ⟨-, x, hx, hj⟩
        · exact ⟨newValue, by simp, hj⟩
        · exact ⟨x, List.mem_cons_of_mem _ hx, hj⟩
      · rw [update_of_ne hjid] at hj
        rcases hj with hj | ⟨hjactive, x, hx, hj⟩
        · exact Or.inl hj
        · exact Or.inr ⟨hjactive, x, List.mem_cons_of_mem _ hx, hj⟩
    · rw [if_neg hactive] at h
      obtain ⟨hpositions, hothers⟩ := ih h
      refine ⟨fun j => ?_, hothers⟩
      rcases hpositions j with hj | ⟨hjactive, x, hx, hj⟩
      · exact Or.inl hj
      · exact Or.inr ⟨hjactive, x, List.mem_cons_of_mem _ hx, hj⟩

theorem setPosition_revalued {x : Nat}
    (hactive : (b.positions id).active = true) :
    Revalued b (b.setPosition id { b.positions id with currentValue := x })
      [(id, x)] := by
  refine ⟨?_, rfl⟩
  intro j
  by_cases hj : j = id
  · subst hj
    exact Or.inr ⟨hactive, x, by simp, update_self ..⟩
  · exact Or.inl (update_of_ne hj ..)

end Writes

theorem VaultBook.Numbered.lt_of_user {b : VaultBook} (h : b.Numbered)
    {id : Nat} (huser : (b.positions id).user ≠ zeroAddress) :
    id < b.positionCount := by
  by_contra hge
  rw [h id (by omega)] at huser
  exact huser rfl

end KamiyoProtocol.Hyperliquid
