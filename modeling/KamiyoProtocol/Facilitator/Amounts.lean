/-
The readers of amounts in requests.

A merchant asks for an amount and a payer signs one. Each is a string,
either of micro-units or of decimal USDC, and which of the two a signed
string of digits is, is settled by what was asked for: both readings are
candidates, and the one that matches is taken. All other strings have one
candidate at most.

An amount in USDC is a rational, so dividing by a million is exact.
-/
import KamiyoProtocol.Lib.EcmaNumber

namespace KamiyoProtocol.Facilitator

open Ecma

-- ==== readers

def usdcMicro : Nat := 1000000

/-- A positive safe integer. -/
def safeUnits (units : Rat) : Option Rat :=
  if ¬ IsSafeInteger units ∨ units ≤ 0 then none else some units

def parseUsdcMicroAmount (amountRaw : String) : Option Rat :=
  let trimmed := trim amountRaw
  if trimmed = "" then none
  else if AllDigits trimmed.toList then (toNumber trimmed).bind safeUnits
  else (toNumber trimmed).bind fun n =>
    if n ≤ 0 then none else safeUnits (mathRound (n * usdcMicro))

/-- The two groups of `/^(\d+)\.(\d{1,6})$/`. -/
def fixedPoint (l : List Char) : Option (List Char × List Char) :=
  match l.dropWhile Char.isDigit with
  | '.' :: frac =>
    if AllDigits (l.takeWhile Char.isDigit) ∧ AllDigits frac
        ∧ frac.length ≤ 6 then
      some (l.takeWhile Char.isDigit, frac)
    else none
  | _ => none

/-- `padEnd(6, '0')`. -/
def padEnd (l : List Char) : List Char :=
  l ++ List.replicate (6 - l.length) '0'

def parseUsdcMicroAmountBigint (amountRaw : String) : Option Nat :=
  let trimmed := trim amountRaw
  if trimmed = "" then none
  else if AllDigits trimmed.toList then
    let units := decimal trimmed.toList
    if 0 < units then some units else none
  else (fixedPoint trimmed.toList).bind fun m =>
    let units := decimal m.1 * usdcMicro + decimal (padEnd m.2)
    if 0 < units then some units else none

/-- The micro-units a signed amount can stand for. -/
def candidates (trimmed : String) : List Rat :=
  ((toNumber trimmed).bind fun asDecimal =>
    if 0 < asDecimal then safeUnits (mathRound (asDecimal * usdcMicro))
    else none).toList
    ++ (if AllDigits trimmed.toList then
      ((toNumber trimmed).bind safeUnits).toList else [])

/-- The micro-units asked for, if an amount is given that can be read. -/
def expectedMicro (expectedAmountRaw : Option String) : Option Rat :=
  expectedAmountRaw.bind fun r =>
    if trim r = "" then none else parseUsdcMicroAmount r

def parseSignedUsdcAmount (signedAmountRaw : String)
    (expectedAmountRaw : Option String) : Option Rat :=
  let trimmed := trim signedAmountRaw
  if trimmed = "" then none
  else
    let unique := (candidates trimmed).eraseDups
    match expectedMicro expectedAmountRaw with
    | none => unique.min?.map (· / usdcMicro)
    | some micro => if micro ∈ unique then some (micro / usdcMicro) else none

-- ==== candidates

theorem safeUnits_some {x units : Rat} :
    safeUnits x = some units ↔ units = x ∧ IsSafeInteger x ∧ 0 < x := by
  unfold safeUnits
  split
  next h =>
    simp only [reduceCtorEq, false_iff, not_and, not_lt]
    intro _ hsafe
    exact h.resolve_left fun hn => hn hsafe
  next h =>
    rw [not_or, not_not, not_le] at h
    simp only [Option.some.injEq, h, and_self, and_true]
    exact eq_comm

variable {n : Nat}

theorem isSafeInteger_natCast :
    IsSafeInteger (n : Rat) ↔ n ≤ 2 ^ 53 - 1 := by
  have hmax : maxSafeInteger = ((2 ^ 53 - 1 : Nat) : Rat) := by
    unfold maxSafeInteger
    norm_num
  unfold IsSafeInteger
  rw [abs_of_nonneg (Nat.cast_nonneg n), hmax, Nat.cast_le]
  constructor
  · intro h
    exact h.2
  · intro h
    exact ⟨Rat.den_natCast n, h⟩

theorem safeUnits_natCast {units : Rat} :
    safeUnits n = some units ↔ units = n ∧ 0 < n ∧ n ≤ 2 ^ 53 - 1 := by
  rw [safeUnits_some, isSafeInteger_natCast, Nat.cast_pos]
  constructor
  · intro h
    exact ⟨h.1, h.2.2, h.2.1⟩
  · intro h
    exact ⟨h.1, h.2.2, h.2.1⟩

variable {s : String}

theorem toNumber_digits (h : AllDigits s.toList) :
    toNumber s = some (decimal s.toList : Rat) := by
  have htrim := trim_digits h
  rw [String.ofList_toList] at htrim
  rw [toNumber, htrim, numericLiteral_digits h]

theorem mathRound_natCast (n : Nat) : mathRound n = n := by
  have := mathRound_intCast n
  push_cast at this
  exact this

theorem parseSigned_mem {r : Option String} {a : Rat}
    (h : parseSignedUsdcAmount s r = some a) :
    ∃ c ∈ candidates (trim s), a = c / usdcMicro := by
  unfold parseSignedUsdcAmount at h
  dsimp only at h
  split at h
  · cases h
  · split at h
    · obtain ⟨c, hmin, rfl⟩ := Option.map_eq_some_iff.mp h
      exact ⟨c, List.mem_eraseDups.mp (List.min?_mem hmin), rfl⟩
    · split at h
      next hmem =>
        cases h
        exact ⟨_, List.mem_eraseDups.mp hmem, rfl⟩
      · cases h

theorem candidates_digits {c : Rat}
    (h : AllDigits (trim s).toList) (hn : decimal (trim s).toList = n) :
    c ∈ candidates (trim s)
      ↔ (c = (n * usdcMicro : Nat) ∧ 0 < n ∧ n * usdcMicro ≤ 2 ^ 53 - 1)
        ∨ c = n ∧ 0 < n ∧ n ≤ 2 ^ 53 - 1 := by
  have hscaled : ((n : Rat) * usdcMicro) = ((n * usdcMicro : Nat) : Rat) := by
    push_cast
    rfl
  unfold candidates
  rw [toNumber_digits h, hn, if_pos h, Option.bind_some, Option.bind_some,
    List.mem_append, Option.mem_toList, Option.mem_toList,
    safeUnits_natCast, hscaled, mathRound_natCast]
  by_cases hpos : 0 < n
  · rw [if_pos (Nat.cast_pos.mpr hpos), safeUnits_natCast]
    have : 0 < n * usdcMicro := Nat.mul_pos hpos (by decide)
    simp only [this, hpos, true_and]
  · rw [if_neg (by simpa using hpos)]
    simp [hpos]

theorem candidates_other {c c' : Rat}
    (h : ¬ AllDigits (trim s).toList) (hc : c ∈ candidates (trim s))
    (hc' : c' ∈ candidates (trim s)) : c = c' := by
  unfold candidates at hc hc'
  rw [if_neg h, List.append_nil, Option.mem_toList] at hc hc'
  exact Option.some.inj (hc.symm.trans hc')

/-- Digits that can be read both ways: as micro-units, and as USDC. -/
def Reads (s : String) (n : Nat) : Prop :=
  AllDigits (trim s).toList ∧ decimal (trim s).toList = n ∧ 0 < n
    ∧ n * usdcMicro ≤ 2 ^ 53 - 1

/-- A text with two meanings. -/
def Ambiguous (s : String) : Prop := ∃ n, Reads s n

theorem candidates_unique {c c' : Rat} (h : ¬ Ambiguous s)
    (hc : c ∈ candidates (trim s)) (hc' : c' ∈ candidates (trim s)) :
    c = c' := by
  by_cases hd : AllDigits (trim s).toList
  · rw [candidates_digits hd rfl] at hc hc'
    rcases hc with ⟨-, hpos, hsafe⟩ | ⟨hc, -⟩
    · exact absurd ⟨_, hd, rfl, hpos, hsafe⟩ h
    · rcases hc' with ⟨-, hpos, hsafe⟩ | ⟨hc', -⟩
      · exact absurd ⟨_, hd, rfl, hpos, hsafe⟩ h
      · rw [hc, hc']
  · exact candidates_other hd hc hc'

theorem parseUsdcMicroAmount_digits {l : List Char} {units : Rat}
    (h : AllDigits l) :
    parseUsdcMicroAmount (String.ofList l) = some units
      ↔ units = decimal l ∧ 0 < decimal l ∧ decimal l ≤ 2 ^ 53 - 1 := by
  have hne : String.ofList l ≠ "" := by
    intro he
    exact h.1 (String.ofList_inj.mp he)
  unfold parseUsdcMicroAmount
  dsimp only
  rw [trim_digits h, if_neg hne, String.toList_ofList, if_pos h,
    toNumber_digits (by rwa [String.toList_ofList]), String.toList_ofList,
    Option.bind_some, safeUnits_natCast]

theorem parseSigned_expected {l : List Char}
    (h : AllDigits l) (hpos : 0 < decimal l) (hsafe : decimal l ≤ 2 ^ 53 - 1)
    (hne : trim s ≠ "")
    (hmem : (decimal l : Rat) ∈ candidates (trim s)) :
    parseSignedUsdcAmount s (some (String.ofList l))
      = some ((decimal l : Rat) / usdcMicro) := by
  have hexpected : expectedMicro (some (String.ofList l))
      = some (decimal l : Rat) := by
    have hl : String.ofList l ≠ "" := fun he => h.1 (String.ofList_inj.mp he)
    rw [expectedMicro, Option.bind_some, trim_digits h, if_neg hl]
    exact (parseUsdcMicroAmount_digits h).mpr ⟨rfl, hpos, hsafe⟩
  unfold parseSignedUsdcAmount
  dsimp only
  rw [if_neg hne, hexpected]
  exact if_pos (List.mem_eraseDups.mpr hmem)

-- ==== meanings

/-- Whatever is asked for, the signed amount is the same. -/
def OneMeaning (s : String) : Prop :=
  ∀ r r' a a', parseSignedUsdcAmount s r = some a →
    parseSignedUsdcAmount s r' = some a' → a = a'

theorem oneMeaning_iff (s : String) : OneMeaning s ↔ ¬ Ambiguous s := by
  constructor
  · intro h ⟨n, hdigits, hn, hpos, hsafe⟩
    have hne : trim s ≠ "" := by
      intro he
      rw [he] at hdigits
      exact hdigits.1 rfl
    have hle : n ≤ 2 ^ 53 - 1 :=
      le_trans (Nat.le_mul_of_pos_right n (by decide)) hsafe
    have hscaled : decimal ((trim s).toList ++ List.replicate 6 '0')
        = n * usdcMicro := by
      rw [decimal_zeros, hn]
      rfl
    have hzeros : ∀ c ∈ List.replicate 6 '0', c.isDigit = true := by
      intro c hc
      rw [List.eq_of_mem_replicate hc]
      rfl
    -- asked for as it stands, and with six more zeros
    have hunits := parseSigned_expected (s := s) hdigits
      (by rw [hn]; exact hpos) (by rw [hn]; exact hle) hne
      ((candidates_digits hdigits hn).mpr (.inr ⟨by rw [hn], hpos, hle⟩))
    have husdc := parseSigned_expected (s := s)
      (hdigits.append hzeros)
      (by rw [hscaled]; exact Nat.mul_pos hpos (by decide))
      (by rw [hscaled]; exact hsafe) hne
      ((candidates_digits hdigits hn).mpr
        (.inl ⟨by rw [hscaled], hpos, hsafe⟩))
    have heq := h _ _ _ _ hunits husdc
    rw [hn, hscaled, div_left_inj' (by norm_num [usdcMicro]),
      Nat.cast_inj] at heq
    have : n * 2 ≤ n * usdcMicro := Nat.mul_le_mul_left n (by decide)
    omega
  · intro h r r' a a' ha ha'
    obtain ⟨c, hc, rfl⟩ := parseSigned_mem ha
    obtain ⟨c', hc', rfl⟩ := parseSigned_mem ha'
    rw [candidates_unique h hc hc']

/-- Digits that can be read both ways mean what is asked for, and
micro-units where nothing is. -/
theorem reads_meaning {r : Option String} {a : Rat}
    (h : Reads s n) (ha : parseSignedUsdcAmount s r = some a) :
    (∀ micro, expectedMicro r = some micro → a = micro / usdcMicro
        ∧ (micro = n ∨ micro = (n * usdcMicro : Nat)))
      ∧ (expectedMicro r = none → a = n / usdcMicro) := by
  obtain ⟨hdigits, hn, hpos, hsafe⟩ := h
  have hcases : ∀ c ∈ candidates (trim s),
      c = n ∨ c = (n * usdcMicro : Nat) := by
    intro c hc
    rcases (candidates_digits hdigits hn).mp hc with ⟨hc, -⟩ | ⟨hc, -⟩
    · exact .inr hc
    · exact .inl hc
  unfold parseSignedUsdcAmount at ha
  dsimp only at ha
  split at ha
  · cases ha
  · split at ha
    next hnone =>
      rw [hnone]
      refine ⟨nofun, fun _ => ?_⟩
      obtain ⟨c, hmin, rfl⟩ := Option.map_eq_some_iff.mp ha
      obtain ⟨hmem, hleast⟩ := List.min?_eq_some_iff.mp hmin
      have hle : c ≤ n := by
        refine hleast n (List.mem_eraseDups.mpr ?_)
        exact (candidates_digits hdigits hn).mpr (.inr ⟨rfl, hpos,
          le_trans (Nat.le_mul_of_pos_right n (by decide)) hsafe⟩)
      rcases hcases c (List.mem_eraseDups.mp hmem) with hc | hc
      · rw [hc]
      · rw [hc, Nat.cast_le] at hle
        have : n * 2 ≤ n * usdcMicro := Nat.mul_le_mul_left n (by decide)
        omega
    next micro hmicro =>
      rw [hmicro]
      refine ⟨?_, nofun⟩
      intro micro' hmicro'
      cases hmicro'
      split at ha
      next hmem =>
        cases ha
        exact ⟨rfl, hcases micro (List.mem_eraseDups.mp hmem)⟩
      · cases ha

theorem fixedPoint_some {l whole frac : List Char}
    (h : fixedPoint l = some (whole, frac)) :
    l = whole ++ '.' :: frac ∧ AllDigits whole ∧ AllDigits frac
      ∧ frac.length ≤ 6 := by
  unfold fixedPoint at h
  split at h
  next rest hdrop =>
    split at h
    next hmatch =>
      cases h
      refine ⟨?_, hmatch⟩
      rw [← hdrop, List.takeWhile_append_dropWhile]
    · cases h
  · cases h

theorem fixedPoint_units {whole frac : List Char} (hlen : frac.length ≤ 6) :
    ((decimal whole : Rat) + decimal frac / 10 ^ frac.length) * usdcMicro
      = (decimal whole * usdcMicro + decimal (padEnd frac) : Nat) := by
  have hpad : decimal (padEnd frac) = decimal frac * 10 ^ (6 - frac.length) :=
    decimal_zeros frac _
  have hmicro : (usdcMicro : Rat)
      = 10 ^ frac.length * 10 ^ (6 - frac.length) := by
    rw [← pow_add, Nat.add_sub_cancel' hlen]
    norm_num [usdcMicro]
  rw [hpad]
  push_cast
  rw [add_mul]
  congr 1
  rw [hmicro]
  field_simp

theorem readers_agree {r : String} {units : Rat}
    (h : parseUsdcMicroAmount r = some units)
    (hn : parseUsdcMicroAmountBigint r = some n) : units = n := by
  unfold parseUsdcMicroAmount at h
  unfold parseUsdcMicroAmountBigint at hn
  dsimp only at h hn
  split at h
  · cases h
  · next hne =>
      rw [if_neg hne] at hn
      split at h
      next hd =>
        rw [if_pos hd] at hn
        rw [toNumber_digits hd, Option.bind_some, safeUnits_natCast] at h
        split at hn
        · cases hn
          exact h.1
        · cases hn
      next hd =>
        rw [if_neg hd] at hn
        obtain ⟨⟨whole, frac⟩, hfixed, hunits⟩ := Option.bind_eq_some_iff.mp hn
        obtain ⟨htrim, hwhole, hfrac, hlen⟩ := fixedPoint_some hfixed
        have hvalue : toNumber (trim r)
            = some ((decimal whole : Rat) + decimal frac / 10 ^ frac.length) := by
          rw [toNumber, trim_trim, htrim, numericLiteral_fixed hwhole hfrac.2]
        rw [hvalue, Option.bind_some] at h
        dsimp only at hunits
        split at h
        · cases h
        · rw [fixedPoint_units hlen, mathRound_natCast, safeUnits_natCast] at h
          split at hunits
          · cases hunits
            exact h.1
          · cases hunits

/-- A signed amount has one meaning unless it is digits that can be read
both ways; those mean what is asked for. What is asked for is the same to
both its readers. -/
theorem signed_amount_meaning :
    (∀ s, OneMeaning s ↔ ¬ Ambiguous s)
      ∧ (∀ s n r a, Reads s n → parseSignedUsdcAmount s r = some a →
        (∀ micro, expectedMicro r = some micro → a = micro / usdcMicro
          ∧ (micro = n ∨ micro = (n * usdcMicro : Nat)))
        ∧ (expectedMicro r = none → a = n / usdcMicro))
      ∧ ∀ r units n, parseUsdcMicroAmount r = some units →
        parseUsdcMicroAmountBigint r = some n → units = n :=
  ⟨oneMeaning_iff, fun _ _ _ _ => reads_meaning, fun _ _ _ => readers_agree⟩

/-- Five micro-units, and five USDC. -/
theorem five_meant_twice :
    parseSignedUsdcAmount "5" (some "5") = some (5 / 1000000)
      ∧ parseSignedUsdcAmount "5" (some "5.0") = some 5
      ∧ ¬ OneMeaning "5" := by
  have hunits : parseSignedUsdcAmount "5" (some "5")
      = some (5 / 1000000) := by decide +kernel
  have husdc : parseSignedUsdcAmount "5" (some "5.0") = some 5 := by
    decide +kernel
  refine ⟨hunits, husdc, ?_⟩
  intro h
  exact absurd (h _ _ _ _ hunits husdc) (by norm_num)

end KamiyoProtocol.Facilitator
