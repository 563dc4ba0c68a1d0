/-
`ERC8004ReputationRegistry.sol`: feedback that clients give on agents, its
summary, and the list it is a summary of.

Both queries are two nested loops, over the clients asked for and over the
feedback of each (`overFeedback`), and see the entries in one order
(`entries`). The summary adds the values as they are and reports the finest
of their scales beside, so it is the sum of what the values stand for only
if the coarser ones cancel (`getSummary_exact_iff`).

Endpoints, URIs, hashes and responses are read by no function here and left
out; whether the identity registry knows an agent comes with the call.
-/
import KamiyoProtocol.Lib.Evm
import Mathlib.Data.Rat.Lemmas
import Mathlib.Algebra.Order.Field.Rat
import Mathlib.Algebra.BigOperators.Group.List.Basic
import Mathlib.Algebra.Order.BigOperators.Group.List
import Mathlib.Tactic.FieldSimp
import Mathlib.Tactic.Ring
import Mathlib.Tactic.Linarith

namespace KamiyoProtocol.ZkReputation

open Exec Evm Function

-- ==== storage

structure Feedback where
  value : Int
  valueDecimals : Nat
  tag1 : Nat
  tag2 : Nat
  timestamp : Nat
  isRevoked : Bool

/-- Storage that was never written. -/
def Feedback.zero : Feedback := ⟨0, 0, 0, 0, 0, false⟩

/-- The entries of each client on each agent, numbered. -/
structure FeedbackStore where
  owner : Address
  paused : Bool
  feedback : Nat → Address → Nat → Feedback
  feedbackCount : Nat → Address → Nat
  agentClients : Nat → List Address
  hasSubmittedFeedback : Nat → Address → Bool

/-- What `getSummary` has summed up so far. -/
structure Summary where
  count : Nat
  sum : Int
  maxDecimals : Nat

/-- What the arrays of `readAllFeedback` hold at one index. -/
structure FeedbackRow where
  client : Address
  index : Nat
  value : Int
  valueDecimals : Nat
  tag1 : Nat
  tag2 : Nat
  revoked : Bool
  deriving DecidableEq

/-- An array is allocated filled with zeros. -/
def FeedbackRow.zero : FeedbackRow := ⟨zeroAddress, 0, 0, 0, 0, 0, false⟩

namespace FeedbackStore

variable (s : FeedbackStore)

-- ==== submission

/-- The value and its scale arrive as `int128` and `uint8`. -/
def giveFeedback (sender : Address) (timestamp : Nat) (agentExists : Bool)
    (agentId : Nat) (value : Int) (valueDecimals tag1 tag2 : Nat) :
    Except String FeedbackStore := do
  let value ← checkedInt 128 value
  let valueDecimals ← checked 8 valueDecimals
  require (s.paused = false) "EnforcedPause"
  require (agentExists = true) "AgentNotFound"
  let feedbackIndex := s.feedbackCount agentId sender
  let next ← checked 64 (feedbackIndex + 1)
  let fb := ⟨value, valueDecimals, tag1, tag2, uint 64 timestamp, false⟩
  let submitted := s.hasSubmittedFeedback agentId sender
  return { s with
    feedback := update s.feedback agentId (update (s.feedback agentId) sender
      (update (s.feedback agentId sender) feedbackIndex fb))
    feedbackCount := update s.feedbackCount agentId
      (update (s.feedbackCount agentId) sender next)
    agentClients :=
      if submitted then s.agentClients
      else update s.agentClients agentId (s.agentClients agentId ++ [sender])
    hasSubmittedFeedback := update s.hasSubmittedFeedback agentId
      (update (s.hasSubmittedFeedback agentId) sender true) }

def revokeFeedback (sender : Address) (agentId feedbackIndex : Nat) :
    Except String FeedbackStore := do
  let fb := s.feedback agentId sender feedbackIndex
  require (fb.timestamp ≠ 0) "FeedbackNotFound"
  require (fb.isRevoked = false) "FeedbackAlreadyRevoked"
  return { s with
    feedback := update s.feedback agentId (update (s.feedback agentId) sender
      (update (s.feedback agentId sender) feedbackIndex
        { fb with isRevoked := true })) }

-- ==== queries

/-- The loops of the queries: over the clients, and over the feedback of
each. -/
def overFeedback {β : Type} (agentId : Nat) (clientAddresses : List Address)
    (body : β → Address → Nat → Feedback → Except String β) (b : β) :
    Except String β :=
  clientAddresses.foldlM (fun b client =>
    (List.range (s.feedbackCount agentId client)).foldlM (fun b j =>
      body b client j (s.feedback agentId client j)) b) b

/-- The body of the loops of `getSummary`. -/
def summarize (tag1 tag2 : Nat) (acc : Summary) (fb : Feedback) :
    Except String Summary := do
  if fb.isRevoked then return acc
  if tag1 ≠ 0 ∧ fb.tag1 ≠ tag1 then return acc
  if tag2 ≠ 0 ∧ fb.tag2 ≠ tag2 then return acc
  let sum ← checkedInt 256 (acc.sum + fb.value)
  let count ← checked 64 (acc.count + 1)
  return ⟨count, sum, if acc.maxDecimals < fb.valueDecimals
    then fb.valueDecimals else acc.maxDecimals⟩

def getSummary (agentId : Nat) (clientAddresses : List Address)
    (tag1 tag2 : Nat) : Except String (Nat × Int × Nat) := do
  require (clientAddresses ≠ []) "EmptyClientList"
  let acc ← s.overFeedback agentId clientAddresses
    (fun acc _ _ fb => summarize tag1 tag2 acc fb) ⟨0, 0, 0⟩
  return (acc.count, int 128 acc.sum, acc.maxDecimals)

def matchesFeedbackFilter (fb : Feedback) (tag1 tag2 : Nat)
    (includeRevoked : Bool) : Bool :=
  if includeRevoked = false ∧ fb.isRevoked then false
  else if tag1 ≠ 0 ∧ fb.tag1 ≠ tag1 then false
  else if tag2 ≠ 0 ∧ fb.tag2 ≠ tag2 then false
  else true

def countMatchingFeedback (agentId : Nat) (clientAddresses : List Address)
    (tag1 tag2 : Nat) (includeRevoked : Bool) : Except String Nat :=
  s.overFeedback agentId clientAddresses (fun totalCount _ _ fb =>
    if matchesFeedbackFilter fb tag1 tag2 includeRevoked
    then checked 256 (totalCount + 1) else .ok totalCount) 0

/-- One index of the arrays written. -/
def writeRow (acc : Nat × List FeedbackRow) (client : Address) (j : Nat)
    (fb : Feedback) : Except String (Nat × List FeedbackRow) := do
  require (acc.1 < acc.2.length) "Panic"
  let idx ← checked 256 (acc.1 + 1)
  return (idx, acc.2.set acc.1 ⟨client, j, fb.value, fb.valueDecimals,
    fb.tag1, fb.tag2, fb.isRevoked⟩)

def populateFeedbackArrays (agentId : Nat) (clientAddresses : List Address)
    (tag1 tag2 : Nat) (includeRevoked : Bool) (rows : List FeedbackRow) :
    Except String (List FeedbackRow) := do
  let acc ← s.overFeedback agentId clientAddresses (fun acc client j fb =>
    if matchesFeedbackFilter fb tag1 tag2 includeRevoked
    then writeRow acc client j fb else .ok acc) (0, rows)
  return acc.2

def readAllFeedback (agentId : Nat) (clientAddresses : List Address)
    (tag1 tag2 : Nat) (includeRevoked : Bool) :
    Except String (List FeedbackRow) := do
  require (clientAddresses ≠ []) "EmptyClientList"
  let totalCount ← s.countMatchingFeedback agentId clientAddresses tag1 tag2
    includeRevoked
  s.populateFeedbackArrays agentId clientAddresses tag1 tag2 includeRevoked
    (List.replicate totalCount FeedbackRow.zero)

end FeedbackStore

-- ==== calls

inductive FeedbackCall
  | giveFeedback (agentId : Nat) (value : Int) (valueDecimals tag1 tag2 : Nat)
  | revokeFeedback (agentId feedbackIndex : Nat)
  | setPaused (paused : Bool)

structure FeedbackAction where
  sender : Address
  timestamp : Nat
  agentExists : Bool
  call : FeedbackCall

def feedbackStep (a : FeedbackAction) (s : FeedbackStore) :
    Except String FeedbackStore :=
  match a.call with
  | .giveFeedback agentId value valueDecimals tag1 tag2 =>
    s.giveFeedback a.sender a.timestamp a.agentExists agentId value
      valueDecimals tag1 tag2
  | .revokeFeedback agentId feedbackIndex =>
    s.revokeFeedback a.sender agentId feedbackIndex
  | .setPaused paused => do
      require (a.sender = s.owner) "OwnableUnauthorizedAccount"
      require (s.paused ≠ paused)
        (if paused then "EnforcedPause" else "ExpectedPause")
      return { s with paused := paused }

/-- No feedback was given yet. -/
structure FeedbackStore.Blank (s : FeedbackStore) : Prop where
  feedback : ∀ i c j, s.feedback i c j = .zero
  counts : ∀ i c, s.feedbackCount i c = 0

-- ==== entries

variable {s : FeedbackStore}

/-- The feedback the loops get to, in their order. -/
def FeedbackStore.entries (s : FeedbackStore) (agentId : Nat)
    (clientAddresses : List Address) : List (Address × Nat × Feedback) :=
  clientAddresses.flatMap fun client =>
    (List.range (s.feedbackCount agentId client)).map fun j =>
      (client, j, s.feedback agentId client j)

/-- The feedback that a query is about. -/
def FeedbackStore.matching (s : FeedbackStore) (agentId : Nat)
    (clientAddresses : List Address) (tag1 tag2 : Nat)
    (includeRevoked : Bool) : List (Address × Nat × Feedback) :=
  (s.entries agentId clientAddresses).filter fun x =>
    matchesFeedbackFilter x.2.2 tag1 tag2 includeRevoked

theorem overFeedback_eq {β : Type} (agentId : Nat)
    (clientAddresses : List Address)
    (body : β → Address → Nat → Feedback → Except String β) (b : β) :
    s.overFeedback agentId clientAddresses body b
      = (s.entries agentId clientAddresses).foldlM
        (fun b x => body b x.1 x.2.1 x.2.2) b := by
  unfold FeedbackStore.overFeedback FeedbackStore.entries
  induction clientAddresses generalizing b with
  | nil => rfl
  | cons client rest ih =>
    rw [List.foldlM_cons, List.flatMap_cons, List.foldlM_append,
      List.foldlM_map]
    congr 1
    funext b'
    exact ih b'

/-- Loops that pass over what the filter refuses run over what it lets
through. -/
theorem overFeedback_matching {β : Type} {agentId : Nat}
    {clientAddresses : List Address} {tag1 tag2 : Nat}
    {includeRevoked : Bool} {b : β}
    {f : β → Address → Nat → Feedback → Except String β} :
    s.overFeedback agentId clientAddresses (fun acc client j fb =>
        if FeedbackStore.matchesFeedbackFilter fb tag1 tag2 includeRevoked
        then f acc client j fb else .ok acc) b
      = (s.matching agentId clientAddresses tag1 tag2 includeRevoked).foldlM
        (fun acc x => f acc x.1 x.2.1 x.2.2) b := by
  rw [overFeedback_eq]
  exact List.foldlM_filter.symm

-- ==== summary

/-- The finest scale of some feedback, and no scale at all of none. -/
def finest (l : List Feedback) : Nat :=
  l.foldl (fun m fb => max m fb.valueDecimals) 0

/-- The values as they are. -/
def rawSum (l : List Feedback) : Int := (l.map (·.value)).sum

/-- The values in units of the scale. -/
def scaledSum (decimals : Nat) (l : List Feedback) : Int :=
  (l.map fun fb => fb.value * 10 ^ (decimals - fb.valueDecimals)).sum

/-- What the values stand for. -/
def exactSum (l : List Feedback) : ℚ :=
  (l.map fun fb => (fb.value : ℚ) / 10 ^ fb.valueDecimals).sum

/-- What one entry adds to a summary. -/
def Summary.add (acc : Summary) (fb : Feedback) : Except String Summary := do
  let sum ← checkedInt 256 (acc.sum + fb.value)
  let count ← checked 64 (acc.count + 1)
  return ⟨count, sum, if acc.maxDecimals < fb.valueDecimals
    then fb.valueDecimals else acc.maxDecimals⟩

theorem summarize_eq (tag1 tag2 : Nat) (acc : Summary) (fb : Feedback) :
    FeedbackStore.summarize tag1 tag2 acc fb
      = if FeedbackStore.matchesFeedbackFilter fb tag1 tag2 false
        then acc.add fb else .ok acc := by
  unfold FeedbackStore.summarize FeedbackStore.matchesFeedbackFilter
  by_cases hrevoked : fb.isRevoked = true
  · simp [hrevoked, pure, Except.pure]
  · by_cases h1 : tag1 ≠ 0 ∧ fb.tag1 ≠ tag1
    · simp [hrevoked, h1, pure, Except.pure]
    · by_cases h2 : tag2 ≠ 0 ∧ fb.tag2 ≠ tag2
      · simp [hrevoked, h1, h2, pure, Except.pure]
      · simp only [hrevoked, h1, h2, if_false]
        rfl

variable {l : List Feedback}

theorem le_foldl_max :
    ∀ {m : Nat}, m ≤ l.foldl (fun m fb => max m fb.valueDecimals) m := by
  induction l with
  | nil => exact Nat.le_refl _
  | cons fb rest ih => exact fun {m} => (Nat.le_max_left m _).trans ih

theorem le_finest {fb : Feedback} (h : fb ∈ l) :
    fb.valueDecimals ≤ finest l := by
  unfold finest
  generalize 0 = m
  induction l generalizing m with
  | nil => cases h
  | cons x rest ih =>
    rcases List.mem_cons.mp h with rfl | hmem
    · exact (Nat.le_max_right m _).trans le_foldl_max
    · exact ih hmem _

/-- A summary that returns has counted the entries, added their values and
kept the finest scale. -/
theorem foldlM_add :
    ∀ {acc acc' : Summary}, l.foldlM Summary.add acc = .ok acc' →
      acc'.count = acc.count + l.length ∧ acc'.sum = acc.sum + rawSum l
        ∧ acc'.maxDecimals
          = l.foldl (fun m fb => max m fb.valueDecimals) acc.maxDecimals
        ∧ (acc.count < 2 ^ 64 → acc'.count < 2 ^ 64) := by
  induction l with
  | nil =>
    intro acc acc' h
    cases h
    simp [rawSum]
  | cons fb rest ih =>
    intro acc acc' h
    rw [List.foldlM_cons] at h
    obtain ⟨mid, hadd, hrest⟩ := bind_ok.mp h
    obtain ⟨sum, hsum, count, hcount, hadd⟩ := bind_ok₂.mp hadd
    obtain ⟨-, rfl⟩ := checkedInt_ok.mp hsum
    obtain ⟨hlt, rfl⟩ := checked_ok.mp hcount
    cases hadd
    obtain ⟨hc, hs, hd, hbound⟩ := ih hrest
    dsimp only at hc hs hd hbound
    refine ⟨?_, ?_, ?_, fun _ => hbound hlt⟩
    · rw [hc, List.length_cons]
      omega
    · rw [hs, rawSum, rawSum, List.map_cons, List.sum_cons]
      ring
    · rw [hd, List.foldl_cons, max_def_lt]

theorem exactSum_eq {d : Nat} (h : ∀ fb ∈ l, fb.valueDecimals ≤ d) :
    exactSum l = (scaledSum d l : ℚ) / 10 ^ d := by
  induction l with
  | nil => simp [exactSum, scaledSum]
  | cons fb rest ih =>
    have hrest := ih fun x hx => h x (List.mem_cons_of_mem _ hx)
    have hfb : (10 : ℚ) ^ d
        = 10 ^ fb.valueDecimals * 10 ^ (d - fb.valueDecimals) := by
      rw [← pow_add, Nat.add_sub_cancel' (h fb List.mem_cons_self)]
    have hone : (fb.value : ℚ) / 10 ^ fb.valueDecimals
        = ((fb.value * 10 ^ (d - fb.valueDecimals) : Int) : ℚ) / 10 ^ d := by
      rw [hfb]
      push_cast
      field_simp
    unfold exactSum scaledSum at hrest ⊢
    rw [List.map_cons, List.sum_cons, hrest, hone, List.map_cons,
      List.sum_cons, ← add_div]
    push_cast
    ring

/-- What a query without revoked feedback sees. -/
abbrev FeedbackStore.seen (s : FeedbackStore) (agentId : Nat)
    (clientAddresses : List Address) (tag1 tag2 : Nat) : List Feedback :=
  (s.matching agentId clientAddresses tag1 tag2 false).map (·.2.2)

variable {agentId tag1 tag2 : Nat} {clientAddresses : List Address}

theorem getSummary_eq : s.getSummary agentId clientAddresses tag1 tag2 = (do
    require (clientAddresses ≠ []) "EmptyClientList"
    let acc ← (s.seen agentId clientAddresses tag1 tag2).foldlM
      Summary.add ⟨0, 0, 0⟩
    return (acc.count, int 128 acc.sum, acc.maxDecimals)) := by
  unfold FeedbackStore.getSummary FeedbackStore.seen
  simp only [summarize_eq]
  rw [overFeedback_matching (f := fun acc _ _ fb => Summary.add acc fb),
    List.foldlM_map]

theorem getSummary_ok {c d : Nat} {v : Int}
    (h : s.getSummary agentId clientAddresses tag1 tag2 = .ok (c, v, d)) :
    clientAddresses ≠ [] ∧ c = (s.seen agentId clientAddresses tag1 tag2).length
      ∧ v = int 128 (rawSum (s.seen agentId clientAddresses tag1 tag2))
      ∧ d = finest (s.seen agentId clientAddresses tag1 tag2)
      ∧ c < 2 ^ 64 := by
  rw [getSummary_eq] at h
  obtain ⟨_, hclients, acc, hacc, h⟩ := bind_ok₂.mp h
  obtain ⟨hcount, hsum, hmax, hbound⟩ := foldlM_add hacc
  cases h
  refine ⟨require_ok.mp hclients, ?_, ?_, hmax, hbound (by decide)⟩
  · simpa using hcount
  · rw [hsum, zero_add]

-- ==== list

/-- The row of an entry. -/
def FeedbackRow.of (x : Address × Nat × Feedback) : FeedbackRow :=
  ⟨x.1, x.2.1, x.2.2.value, x.2.2.valueDecimals, x.2.2.tag1, x.2.2.tag2,
    x.2.2.isRevoked⟩

theorem count_entries {α : Type} (l : List α) :
    ∀ {n : Nat}, n + l.length < 2 ^ 256 →
      l.foldlM (fun n _ => checked 256 (n + 1)) n = .ok (n + l.length) := by
  induction l with
  | nil => exact fun _ => rfl
  | cons x rest ih =>
    intro n h
    rw [List.length_cons] at h ⊢
    rw [List.foldlM_cons]
    refine bind_ok.mpr ⟨n + 1, checked_ok.mpr ⟨by omega, rfl⟩, ?_⟩
    rw [ih (by omega), Nat.add_right_comm, Nat.add_assoc]

/-- The rows are written one after the other, over the zeros they are
allocated with. -/
theorem write_entries (l : List (Address × Nat × Feedback)) :
    ∀ rows : List FeedbackRow, rows.length + l.length < 2 ^ 256 →
      l.foldlM (fun acc x => FeedbackStore.writeRow acc x.1 x.2.1 x.2.2)
          (rows.length, rows ++ List.replicate l.length .zero)
        = .ok (rows.length + l.length, rows ++ l.map FeedbackRow.of) := by
  induction l with
  | nil => simp [pure, Except.pure]
  | cons x rest ih =>
    intro rows h
    rw [List.length_cons] at h ⊢
    have hwrite : FeedbackStore.writeRow (rows.length,
        rows ++ List.replicate (rest.length + 1) .zero) x.1 x.2.1 x.2.2
          = .ok (rows.length + 1, rows ++ [FeedbackRow.of x]
            ++ List.replicate rest.length .zero) := by
      refine bind_ok.mpr ⟨(), require_ok.mpr (by simp), ?_⟩
      refine bind_ok.mpr ⟨_, checked_ok.mpr ⟨by dsimp only; omega, rfl⟩, ?_⟩
      simp [List.replicate_succ, FeedbackRow.of, pure, Except.pure]
    have hrest := ih (rows ++ [FeedbackRow.of x]) (by
      rw [List.length_append, List.length_singleton]
      omega)
    rw [List.foldlM_cons]
    refine bind_ok.mpr ⟨_, hwrite, ?_⟩
    rw [List.length_append, List.length_singleton] at hrest
    rw [hrest, List.map_cons, List.append_assoc, List.singleton_append,
      Nat.add_right_comm, Nat.add_assoc]

theorem readAllFeedback_eq {includeRevoked : Bool}
    (hclients : clientAddresses ≠ [])
    (hlength : (s.matching agentId clientAddresses tag1 tag2
      includeRevoked).length < 2 ^ 256) :
    s.readAllFeedback agentId clientAddresses tag1 tag2 includeRevoked
      = .ok ((s.matching agentId clientAddresses tag1 tag2
        includeRevoked).map FeedbackRow.of) := by
  have hcount : s.countMatchingFeedback agentId clientAddresses tag1 tag2
      includeRevoked = .ok (s.matching agentId clientAddresses tag1 tag2
        includeRevoked).length := by
    unfold FeedbackStore.countMatchingFeedback
    rw [overFeedback_matching (f := fun n _ _ _ => checked 256 (n + 1)),
      count_entries _ (by omega), Nat.zero_add]
  refine bind_ok.mpr ⟨(), require_ok.mpr hclients, ?_⟩
  refine bind_ok.mpr ⟨_, hcount, ?_⟩
  unfold FeedbackStore.populateFeedbackArrays
  rw [overFeedback_matching (f := FeedbackStore.writeRow)]
  refine bind_ok.mpr ⟨_, write_entries _ [] ?_, rfl⟩
  simpa using hlength

-- ==== exactness

/-- In units of their finest scale the values add up to an `int128`, which
differs from their sum as they are by a multiple of `2 ^ 128`. -/
def SummaryExact (l : List Feedback) : Prop :=
  -2 ^ 127 ≤ scaledSum (finest l) l ∧ scaledSum (finest l) l < 2 ^ 127
    ∧ (2 ^ 128 : Int) ∣ scaledSum (finest l) l - rawSum l
  deriving Decidable

theorem exactSum_eq_iff :
    (int 128 (rawSum l) : ℚ) / 10 ^ finest l = exactSum l ↔ SummaryExact l := by
  have hpos : (10 : ℚ) ^ finest l ≠ 0 := by positivity
  rw [exactSum_eq fun fb => le_finest, div_left_inj' hpos, Int.cast_inj,
    int, Int.bmod_eq_iff (by decide)]
  rfl

/-- A summary counts what the list of the same query without revoked
feedback has, and is the sum of what that stands for if and only if scaling
the values leaves their sum as it is, up to what does not fit. -/
theorem getSummary_exact_iff {c d : Nat} {v : Int}
    (h : s.getSummary agentId clientAddresses tag1 tag2 = .ok (c, v, d)) :
    ∃ rows, s.readAllFeedback agentId clientAddresses tag1 tag2 false = .ok rows
      ∧ c = rows.length
      ∧ ((v : ℚ) / 10 ^ d
          = (rows.map fun r => (r.value : ℚ) / 10 ^ r.valueDecimals).sum
        ↔ SummaryExact (s.seen agentId clientAddresses tag1 tag2)) := by
  obtain ⟨hclients, hc, rfl, rfl, hbound⟩ := getSummary_ok h
  have hlength : (s.matching agentId clientAddresses tag1 tag2 false).length
      = c := by
    rw [hc, List.length_map]
  refine ⟨_, readAllFeedback_eq hclients ?_, ?_, ?_⟩
  · rw [hlength]
    exact hbound.trans (by decide)
  · rw [List.length_map, hlength]
  · rw [← exactSum_eq_iff, exactSum, List.map_map, List.map_map]
    rfl

-- ==== totality

/-- Stored values are of 128 bits. -/
def Ranged (s : FeedbackStore) : Prop :=
  ∀ i c j, -2 ^ 127 ≤ (s.feedback i c j).value
    ∧ (s.feedback i c j).value < 2 ^ 127

theorem put_feedback (P : Feedback → Prop)
    {m : Nat → Address → Nat → Feedback} (i : Nat) (c : Address) (j : Nat)
    {fb : Feedback} (hm : ∀ i c j, P (m i c j)) (hfb : P fb) :
    ∀ i' c' j', P (update m i (update (m i) c (update (m i c) j fb)) i' c' j') := by
  intro i' c' j'
  by_cases hi : i' = i
  · subst hi
    rw [update_self]
    by_cases hc : c' = c
    · subst hc
      rw [update_self]
      by_cases hj : j' = j
      · rw [hj, update_self]
        exact hfb
      · rw [update_of_ne hj]
        exact hm _ _ _
    · rw [update_of_ne hc]
      exact hm _ _ _
  · rw [update_of_ne hi]
    exact hm _ _ _

theorem ranged_step {a : FeedbackAction} {s s' : FeedbackStore}
    (h : Ranged s) (hstep : feedbackStep a s = .ok s') : Ranged s' := by
  obtain ⟨sender, timestamp, agentExists, call⟩ := a
  cases call with
  | giveFeedback agentId value valueDecimals tag1 tag2 =>
    obtain ⟨_, hvalue, hstep⟩ := bind_ok.mp hstep
    iterate 4 obtain ⟨_, -, hstep⟩ := bind_ok.mp hstep
    obtain ⟨hrange, rfl⟩ := checkedInt_ok.mp hvalue
    cases hstep
    exact put_feedback (fun fb => -2 ^ 127 ≤ fb.value ∧ fb.value < 2 ^ 127)
      _ _ _ h hrange
  | revokeFeedback agentId feedbackIndex =>
    obtain ⟨_, -, _, -, hstep⟩ := bind_ok₂.mp hstep
    cases hstep
    exact put_feedback (fun fb => -2 ^ 127 ≤ fb.value ∧ fb.value < 2 ^ 127)
      _ _ _ h (h agentId sender feedbackIndex)
  | setPaused paused =>
    obtain ⟨_, -, _, -, hstep⟩ := bind_ok₂.mp hstep
    cases hstep
    exact h

theorem ranged_reachable {s : FeedbackStore}
    (hs : Reachable feedbackStep FeedbackStore.Blank s) : Ranged s := by
  refine reachable_induct ?_ (fun _ _ _ => ranged_step) hs
  intro s h i c j
  rw [h.feedback]
  decide

/-- Values of 128 bits, fewer than `2 ^ 64` of them, do not overflow the
256 bits they are added in. -/
theorem add_entries (h : ∀ fb ∈ l, -2 ^ 127 ≤ fb.value ∧ fb.value < 2 ^ 127) :
    ∀ acc : Summary, acc.count + l.length < 2 ^ 64 →
      -2 ^ 127 * (acc.count : Int) ≤ acc.sum →
      acc.sum ≤ 2 ^ 127 * (acc.count : Int) →
      ∃ acc', l.foldlM Summary.add acc = .ok acc' := by
  induction l with
  | nil => exact fun _ _ _ _ => ⟨_, rfl⟩
  | cons fb rest ih =>
    intro acc hcount hlow hhigh
    obtain ⟨hfl, hfh⟩ := h fb List.mem_cons_self
    rw [List.length_cons] at hcount
    rw [List.foldlM_cons]
    have hadd : acc.add fb = .ok ⟨acc.count + 1, acc.sum + fb.value,
        if acc.maxDecimals < fb.valueDecimals then fb.valueDecimals
        else acc.maxDecimals⟩ := by
      refine bind_ok.mpr ⟨_, checkedInt_ok.mpr ⟨⟨?_, ?_⟩, rfl⟩, ?_⟩
      · norm_num
        omega
      · norm_num
        omega
      · exact bind_ok.mpr ⟨_, checked_ok.mpr ⟨by omega, rfl⟩, rfl⟩
    obtain ⟨acc', hacc'⟩ := ih
      (fun x hx => h x (List.mem_cons_of_mem _ hx))
      ⟨acc.count + 1, acc.sum + fb.value, _⟩ (by
        dsimp only
        omega) (by
        push_cast
        omega) (by
        push_cast
        omega)
    exact ⟨acc', bind_ok.mpr ⟨_, hadd, hacc'⟩⟩

/-- In a reachable store every summary of fewer than `2 ^ 64` entries, of at
least one client, returns. -/
theorem getSummary_returns (hs : Reachable feedbackStep FeedbackStore.Blank s)
    (hclients : clientAddresses ≠ [])
    (hlength : (s.seen agentId clientAddresses tag1 tag2).length < 2 ^ 64) :
    ∃ r, s.getSummary agentId clientAddresses tag1 tag2 = .ok r := by
  have hrange : ∀ fb ∈ s.seen agentId clientAddresses tag1 tag2,
      -2 ^ 127 ≤ fb.value ∧ fb.value < 2 ^ 127 := by
    intro fb hfb
    obtain ⟨x, hx, rfl⟩ := List.mem_map.mp hfb
    obtain ⟨client, -, hx⟩ := List.mem_flatMap.mp (List.mem_filter.mp hx).1
    obtain ⟨j, -, rfl⟩ := List.mem_map.mp hx
    exact ranged_reachable hs agentId client j
  obtain ⟨acc, hacc⟩ := add_entries hrange ⟨0, 0, 0⟩
    (by simpa using hlength) (by simp) (by simp)
  rw [getSummary_eq]
  exact require_isOk hclients ⟨_, bind_ok.mpr ⟨acc, hacc, rfl⟩⟩

-- ==== examples

namespace Concrete

def noFeedback : FeedbackStore where
  owner := 1
  paused := false
  feedback := fun _ _ _ => .zero
  feedbackCount := fun _ _ => 0
  agentClients := fun _ => []
  hasSubmittedFeedback := fun _ _ => false

theorem noFeedback_blank : noFeedback.Blank :=
  ⟨fun _ _ _ => rfl, fun _ _ => rfl⟩

/-- Feedback on agent 3. -/
def feedbackBy (client : Address) (value : Int) (decimals : Nat) :
    FeedbackAction :=
  ⟨client, 1000, true, .giveFeedback 3 value decimals 0 0⟩

/-- Two clients on one scale, and one who takes it back. -/
def scaledAlike : List FeedbackAction :=
  [feedbackBy 5 45 1, feedbackBy 6 (-20) 1, feedbackBy 5 99 1,
    ⟨5, 1001, true, .revokeFeedback 3 1⟩]

/-- A one, and a half. -/
def scaledApart : List FeedbackAction := [feedbackBy 5 1 0, feedbackBy 6 5 1]

end Concrete

theorem getSummary_returns_alike :
    ∃ s r, Reachable feedbackStep FeedbackStore.Blank s
      ∧ s.getSummary 3 [5, 6] 0 0 = .ok r := by
  obtain ⟨s, hrun, hs⟩ := check_ok (show check (fun s : FeedbackStore =>
      decide ((s.seen 3 [5, 6] 0 0).length < 2 ^ 64))
    (run feedbackStep Concrete.noFeedback Concrete.scaledAlike) = true
    by decide)
  have hreach : Reachable feedbackStep FeedbackStore.Blank s :=
    ⟨_, _, Concrete.noFeedback_blank, hrun⟩
  obtain ⟨r, hr⟩ := getSummary_returns hreach (by simp)
    (of_decide_eq_true hs)
  exact ⟨s, r, hreach, hr⟩

/-- Four and a half and minus two are two and a half. -/
theorem getSummary_alike :
    ∃ s rows, Reachable feedbackStep FeedbackStore.Blank s
      ∧ s.getSummary 3 [5, 6] 0 0 = .ok (2, 25, 1)
      ∧ s.readAllFeedback 3 [5, 6] 0 0 false = .ok rows ∧ 2 = rows.length
      ∧ ((25 : Int) : ℚ) / 10 ^ 1
        = (rows.map fun r => (r.value : ℚ) / 10 ^ r.valueDecimals).sum := by
  obtain ⟨s, hrun, hs⟩ := check_ok (show check (fun s : FeedbackStore =>
      decide (s.getSummary 3 [5, 6] 0 0 = .ok (2, 25, 1)
        ∧ SummaryExact (s.seen 3 [5, 6] 0 0)))
    (run feedbackStep Concrete.noFeedback Concrete.scaledAlike) = true
    by decide)
  obtain ⟨hget, hexact⟩ := of_decide_eq_true hs
  obtain ⟨rows, hrows, hlength, hiff⟩ := getSummary_exact_iff hget
  exact ⟨s, rows, ⟨_, _, Concrete.noFeedback_blank, hrun⟩, hget, hrows,
    hlength, hiff.mpr hexact⟩

/-- One and a half are six tenths. -/
theorem getSummary_apart :
    ∃ s rows, Reachable feedbackStep FeedbackStore.Blank s
      ∧ s.getSummary 3 [5, 6] 0 0 = .ok (2, 6, 1)
      ∧ s.readAllFeedback 3 [5, 6] 0 0 false = .ok rows
      ∧ ((6 : Int) : ℚ) / 10 ^ 1
        ≠ (rows.map fun r => (r.value : ℚ) / 10 ^ r.valueDecimals).sum := by
  obtain ⟨s, hrun, hs⟩ := check_ok (show check (fun s : FeedbackStore =>
      decide (s.getSummary 3 [5, 6] 0 0 = .ok (2, 6, 1)
        ∧ s.readAllFeedback 3 [5, 6] 0 0 false
          = .ok [⟨5, 0, 1, 0, 0, 0, false⟩, ⟨6, 0, 5, 1, 0, 0, false⟩]))
    (run feedbackStep Concrete.noFeedback Concrete.scaledApart) = true
    by decide)
  obtain ⟨hget, hrows⟩ := of_decide_eq_true hs
  refine ⟨s, _, ⟨_, _, Concrete.noFeedback_blank, hrun⟩, hget, hrows, ?_⟩
  norm_num

end KamiyoProtocol.ZkReputation
