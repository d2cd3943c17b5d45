/-
What the metadata of a product allows.

A limit is the number that is written under the key of its metric, rounded to a double and cut to
its whole part.  Rounding keeps the order of numbers, and so does cutting, so a greater number is
never a smaller limit; and both leave alone what a double and a word can tell exactly.  A natural
of up to 53 bits is therefore the limit itself, any other number up to there is read as one of the
two naturals around it, and from two to the sixty-fourth on the limit is the greatest that there
is.

A number that is too large for a double is no limit, and neither is one below zero, except that
down to half of the least double it is not told from zero.
-/
import Mathlib.Data.Rat.Floor
import ProjectViews.Proofs.Command.Grammar
import ProjectViews.Proofs.Number.Range
import ProjectViews.Proofs.Usage.LimitText
import ProjectViews.Usage.Limits

namespace ProjectViews

open Number

namespace LimitText

/-! ### From numbers to limits -/

/-- The whole part of a magnitude, or the greatest limit if it does not fit. -/
def whole (m : Magnitude) : UInt64 := UInt64.ofNat (min m.floor (UInt64.size - 1))

theorem toNat_whole (m : Magnitude) : (whole m).toNat = min m.floor (UInt64.size - 1) :=
  UInt64.toNat_ofNat_of_lt' ((min_le_right _ _).trans_lt (by decide))

theorem whole_mono {m m' : Magnitude} (h : m.value ≤ m'.value) : whole m ≤ whole m' := by
  rw [UInt64.le_iff_toNat_le, toNat_whole, toNat_whole]
  exact min_le_min_right _ (Magnitude.floor_mono h)

theorem whole_zero : whole .zero = 0 := by decide +kernel

theorem ofNumber_eq (n : Scientific) : ofNumber n = n.magnitude?.bind fun m =>
    if n.negative ∧ m.mantissa ≠ 0 then none else some (whole m) := by
  rw [ofNumber, Scientific.double?]
  cases n.magnitude? <;> rfl

/-- A number that is not below zero is rounded, unless it is too large. -/
theorem ofNumber_of_nonneg {n : Scientific} (h : 0 ≤ number n) : number n = n.value ∧
    ofNumber n = if n.value < Magnitude.overflowPoint
      then some (whole (.nearest n.ratio.1 n.ratio.2)) else none := by
  have hnonneg := n.value_nonneg
  rw [ofNumber_eq]
  cases hnegative : n.negative with
  | false =>
      refine ⟨by rw [number, hnegative]; rfl, ?_⟩
      rw [n.magnitude?_eq]
      split <;> simp
  | true =>
      -- minus zero is zero
      have hvalue : number n = -n.value := by rw [number, hnegative]; rfl
      have hzero : n.value = 0 := by linarith
      obtain ⟨hd, hratio⟩ := n.ratio_spec
      have hround : Magnitude.nearest n.ratio.1 n.ratio.2 = .zero :=
        Magnitude.nearest_eq_zero hd (by rw [hratio, hzero]; positivity)
      refine ⟨by rw [hvalue, hzero, neg_zero], ?_⟩
      rw [n.magnitude?_eq, hround]
      split <;> rfl

/-- A number that is not above zero is no limit, unless it rounds to zero. -/
theorem ofNumber_of_nonpos {n : Scientific} (h : number n ≤ 0) :
    ofNumber n = if -2 ^ (-1075 : ℤ) ≤ number n then some 0 else none := by
  obtain ⟨hd, hratio⟩ := n.ratio_spec
  have hnonneg := n.value_nonneg
  have hhalf : (0 : ℚ) < 2 ^ (-1075 : ℤ) := by positivity
  by_cases hsmall : n.value ≤ 2 ^ (-1075 : ℤ)
  · have hround : Magnitude.nearest n.ratio.1 n.ratio.2 = .zero :=
      Magnitude.nearest_eq_zero hd (by rwa [hratio])
    have hge : -2 ^ (-1075 : ℤ) ≤ number n := by
      rw [number, signed]
      split <;> linarith
    rw [if_pos hge, ofNumber_eq, n.magnitude?_eq,
      if_pos (Magnitude.lt_overflowPoint_of_small hsmall), hround, Option.bind_some,
      if_neg fun hnot => hnot.2 rfl, whole_zero]
  · have hmantissa := Magnitude.mantissa_nearest_ne_zero hd (by rwa [hratio, ← not_le])
    have hnegative : n.negative = true := by
      by_contra hpositive
      rw [number, signed, if_neg hpositive] at h
      linarith
    have hlt : ¬-2 ^ (-1075 : ℤ) ≤ number n := by
      rw [number, signed, if_pos hnegative]
      linarith
    rw [if_neg hlt, ofNumber_eq, n.magnitude?_eq]
    split
    · rw [Option.bind_some, if_pos ⟨hnegative, hmantissa⟩]
    · rfl

/-! ### From texts to limits -/

/-- A text denotes a number: it has blanks around a decimal. -/
def Denotes (text : String) (q : ℚ) : Prop := ∃ cs, Text.Surrounds text.toList cs ∧ Decimal cs q

variable {text : String} {q : ℚ}

theorem denotes_iff :
    Denotes text q ↔ ∃ n, number? (Text.trimChars text.toList) = some n ∧ number n = q := by
  rw [← decimal_iff]
  constructor
  · rintro ⟨cs, hcs, hdecimal⟩
    rwa [Text.trimChars_eq_iff.mpr hcs]
  · intro hdecimal
    exact ⟨_, Text.trimChars_eq_iff.mp rfl, hdecimal⟩

/-- A text denotes one number at most. -/
theorem Denotes.unique {q' : ℚ} (h : Denotes text q) (h' : Denotes text q') : q = q' := by
  obtain ⟨cs, hcs, hdecimal⟩ := h
  obtain ⟨cs', hcs', hdecimal'⟩ := h'
  rw [← Text.trimChars_eq_iff.mpr hcs] at hdecimal
  rw [← Text.trimChars_eq_iff.mpr hcs'] at hdecimal'
  exact hdecimal.unique hdecimal'

/-- What is written for a natural denotes it. -/
theorem denotes_write (k : Nat) : Denotes (Number.write k) k := by
  have hnonempty : digits k ≠ [] := by
    obtain ⟨d, ds, hdigits, -⟩ := Json.digits_eq_cons k
    exact hdigits ▸ List.cons_ne_nil d ds
  have hblank : ∀ d : Digit, Text.isBlank d.char = false := by decide
  have hdecimal : Decimal (writeDigits (digits k)) k := by
    have hmk := Decimal.mk .absent (.whole hnonempty) .absent
    rwa [List.nil_append, List.append_nil, zpow_zero, mul_one, ofDigits_digits] at hmk
  refine ⟨writeDigits (digits k), ⟨⟨[], [], ?_, nofun, nofun⟩, fun c hc => ?_, fun c hc => ?_⟩,
    hdecimal⟩
  · rw [Number.write, String.toList_ofList, List.nil_append, List.append_nil]
  · obtain ⟨d, -, rfl⟩ := List.mem_map.mp (List.mem_of_head? hc)
    exact hblank d
  · obtain ⟨d, -, rfl⟩ := List.mem_map.mp (List.mem_of_getLast? hc)
    exact hblank d

/-- A number that is not below zero is read as what it rounds to, unless it is too large. -/
theorem parse?_of_nonneg (h : Denotes text q) (hq : 0 ≤ q) : ∃ k d : Nat, 0 < d ∧ (k / d : ℚ) = q ∧
    parse? text = if q < Magnitude.overflowPoint then some (whole (.nearest k d)) else none := by
  obtain ⟨n, hn, rfl⟩ := denotes_iff.mp h
  obtain ⟨hvalue, hlimit⟩ := ofNumber_of_nonneg hq
  obtain ⟨hd, hratio⟩ := n.ratio_spec
  refine ⟨n.ratio.1, n.ratio.2, hd, hratio.trans hvalue.symm, ?_⟩
  rw [parse?, hn, Option.bind_some, hlimit, hvalue]

/-- A number that is not above zero is read as zero or not at all. -/
theorem parse?_of_nonpos (h : Denotes text q) (hq : q ≤ 0) :
    parse? text = if -2 ^ (-1075 : ℤ) ≤ q then some 0 else none := by
  obtain ⟨n, hn, rfl⟩ := denotes_iff.mp h
  rw [parse?, hn, Option.bind_some, ofNumber_of_nonpos hq]

theorem parse?_of_negative (h : Denotes text q) (hq : q ≤ -2 ^ (-1074 : ℤ)) :
    parse? text = none := by
  have hhalf : (2 : ℚ) ^ (-1075 : ℤ) < 2 ^ (-1074 : ℤ) :=
    zpow_lt_zpow_right₀ (by norm_num) (by norm_num)
  have hpos : (0 : ℚ) < 2 ^ (-1075 : ℤ) := by positivity
  rw [parse?_of_nonpos h (by linarith), if_neg (by linarith)]

theorem parse?_of_not_denotes (h : ∀ q, ¬Denotes text q) : parse? text = none := by
  rw [parse?, Option.bind_eq_none_iff]
  intro n hn
  exact absurd (denotes_iff.mpr ⟨n, hn, rfl⟩) (h _)

/-- A number up to two to the fifty-third is read as one of the naturals around it. -/
theorem parse?_between (h : Denotes text q) (hq : 0 ≤ q) (hle : q ≤ 2 ^ 53) :
    ∃ limit, parse? text = some limit ∧ ⌊q⌋₊ ≤ limit.toNat ∧ limit.toNat ≤ ⌈q⌉₊ := by
  obtain ⟨k, d, hd, hratio, hlimit⟩ := parse?_of_nonneg h hq
  have hceil : ⌈q⌉₊ ≤ 2 ^ 53 := Nat.ceil_le.mpr (by exact_mod_cast hle)
  have hfloor : ⌊q⌋₊ ≤ 2 ^ 53 := (Nat.floor_le_ceil q).trans hceil
  have hsmall := Magnitude.lt_overflowPoint (hle.trans (by norm_num))
  have hlow := Magnitude.le_floor_nearest hd hfloor ((Nat.floor_le hq).trans_eq hratio.symm)
  have hhigh := Magnitude.floor_nearest_le hd hceil (hratio.trans_le (Nat.le_ceil q))
  have hword : 2 ^ 53 ≤ UInt64.size - 1 := by decide
  refine ⟨_, by rw [hlimit, if_pos hsmall], ?_, ?_⟩
  · rw [toNat_whole]
    exact le_min hlow (hfloor.trans hword)
  · rw [toNat_whole]
    exact (min_le_left _ _).trans hhigh

/-- A natural up to two to the fifty-third is the limit itself. -/
theorem parse?_of_natural {k : Nat} (h : Denotes text k) (hk : k ≤ 2 ^ 53) :
    parse? text = some (UInt64.ofNat k) := by
  obtain ⟨limit, hlimit, hlow, hhigh⟩ :=
    parse?_between h (Nat.cast_nonneg k) (by exact_mod_cast hk)
  rw [Nat.floor_natCast] at hlow
  rw [Nat.ceil_natCast] at hhigh
  have hvalue : limit.toNat = k := Nat.le_antisymm hhigh hlow
  rw [hlimit, ← hvalue, UInt64.ofNat_toNat]

/-- From two to the sixty-fourth on a number is the greatest limit, unless it is too large. -/
theorem parse?_of_great (h : Denotes text q) (hq : 2 ^ 64 ≤ q)
    (hsmall : q < Magnitude.overflowPoint) : parse? text = some (UInt64.ofNat (2 ^ 64 - 1)) := by
  have hnonneg : 0 ≤ q := le_trans (by norm_num) hq
  obtain ⟨k, d, hd, hratio, hlimit⟩ := parse?_of_nonneg h hnonneg
  have hfloor := Magnitude.two_pow_le_floor_nearest hd (hq.trans_eq hratio.symm)
  have hword : UInt64.size - 1 ≤ 2 ^ 64 := by decide
  rw [hlimit, if_pos hsmall, whole, min_eq_right (hword.trans hfloor)]
  rfl

theorem parse?_of_overflow (h : Denotes text q) (hq : Magnitude.overflowPoint ≤ q) :
    parse? text = none := by
  have hnonneg : 0 ≤ q := (Magnitude.lt_overflowPoint (by norm_num)).le.trans hq
  obtain ⟨k, d, -, -, hlimit⟩ := parse?_of_nonneg h hnonneg
  rw [hlimit, if_neg (not_lt.mpr hq)]

/-- A greater number is not a smaller limit. -/
theorem parse?_mono {text' : String} {q' : ℚ} {limit limit' : UInt64} (h : Denotes text q)
    (h' : Denotes text' q') (hq : 0 ≤ q) (hle : q ≤ q') (hlimit : parse? text = some limit)
    (hlimit' : parse? text' = some limit') : limit ≤ limit' := by
  obtain ⟨k, d, hd, hratio, heq⟩ := parse?_of_nonneg h hq
  obtain ⟨k', d', hd', hratio', heq'⟩ := parse?_of_nonneg h' (hq.trans hle)
  rw [heq] at hlimit
  rw [heq'] at hlimit'
  split at hlimit
  · split at hlimit'
    · rw [← Option.some.inj hlimit, ← Option.some.inj hlimit']
      exact whole_mono (Magnitude.nearest_mono hd hd' (by rwa [hratio, hratio']))
    · cases hlimit'
  · cases hlimit

/-- The word for no limit is not a number. -/
theorem not_denotes_unlimited (h : Phrase.Names text "unlimited") (q : ℚ) : ¬Denotes text q := by
  rw [denotes_iff]
  rintro ⟨n, hn, -⟩
  obtain ⟨cs, hcs, hsame⟩ := h
  rw [Text.trimChars_eq_iff.mpr hcs] at hn
  simp only [Text.sameLetters, beq_iff_eq, String.toList_ofList] at hsame
  -- the first letter is enough
  obtain ⟨c, rest, rfl, hfirst, -⟩ := List.map_eq_cons_iff.mp hsame.symm
  have hletter : c = 'u' ∨ c = 'U' := by
    rw [Text.lowerChar] at hfirst
    split at hfirst
    · rename_i hupper
      have hcodes : ∀ k < 91, Char.ofNat (k + 32) = 'u' → Char.ofNat k = 'U' := by decide
      have hcode := hcodes c.toNat (Nat.lt_succ_of_le hupper.2) hfirst
      rw [Char.ofNat_toNat] at hcode
      exact .inr hcode
    · exact .inl hfirst
  rcases hletter with rfl | rfl
  · cases hn
  · cases hn

end LimitText

/-! ### The rule of limits in metadata -/

theorem Metric.metadataKey_injective {m m' : Metric} (h : m.metadataKey = m'.metadataKey) :
    m = m' := by
  revert h
  cases m <;> cases m' <;> decide

namespace PlanLimits

/-- The metadata of a product has this text for a metric. -/
def Gives (metadata : List (String × String)) (m : Metric) (text : String) : Prop :=
  Json.lookup? m.metadataKey metadata = some text

theorem limit?_ofMetadata (metadata : List (String × String)) (m : Metric) :
    (ofMetadata metadata).limit? m
      = (Json.lookup? m.metadataKey metadata).bind LimitText.parse? := by
  cases m <;> rfl

theorem limit?_of_gives {metadata : List (String × String)} {m : Metric} {text : String}
    (h : Gives metadata m text) : (ofMetadata metadata).limit? m = LimitText.parse? text := by
  rw [limit?_ofMetadata, h, Option.bind_some]

end PlanLimits

open LimitText PlanLimits in
/-- What holds of the limits in the metadata of products. -/
structure MetadataRule : Prop where
  /-- What is written for a natural denotes it. -/
  written : ∀ k : Nat, Denotes (Number.write k) k
  /-- No text denotes two numbers. -/
  unique : ∀ text q q', Denotes text q → Denotes text q' → q = q'
  /-- A natural up to two to the fifty-third is the limit itself. -/
  exact : ∀ metadata m text (k : Nat), Gives metadata m text → Denotes text k → k ≤ 2 ^ 53 →
    (ofMetadata metadata).limit? m = some (UInt64.ofNat k)
  /-- Any number up to there is read as one of the naturals around it. -/
  around : ∀ metadata m text q, Gives metadata m text → Denotes text q → 0 ≤ q → q ≤ 2 ^ 53 →
    ∃ limit, (ofMetadata metadata).limit? m = some limit ∧
      ⌊q⌋₊ ≤ limit.toNat ∧ limit.toNat ≤ ⌈q⌉₊
  /-- From two to the sixty-fourth on the limit is the greatest word, as far as doubles go. -/
  greatest : ∀ metadata m text q, Gives metadata m text → Denotes text q → 2 ^ 64 ≤ q →
    q < Magnitude.overflowPoint →
    (ofMetadata metadata).limit? m = some (UInt64.ofNat (2 ^ 64 - 1))
  /-- A number that is too large for a double is no limit. -/
  overflow : ∀ metadata m text q, Gives metadata m text → Denotes text q →
    Magnitude.overflowPoint ≤ q → (ofMetadata metadata).limit? m = none
  /-- Any other number that is not below zero is one. -/
  given : ∀ metadata m text q, Gives metadata m text → Denotes text q → 0 ≤ q →
    q < Magnitude.overflowPoint → ∃ limit, (ofMetadata metadata).limit? m = some limit
  /-- A number that is not above zero is read as zero, up to half of the least double below it,
  and else is no limit. -/
  small : ∀ metadata m text q, Gives metadata m text → Denotes text q → q ≤ 0 →
    (ofMetadata metadata).limit? m = if -2 ^ (-1075 : ℤ) ≤ q then some 0 else none
  /-- So a number below zero is no limit, from the least double below zero on. -/
  negative : ∀ metadata m text q, Gives metadata m text → Denotes text q →
    q ≤ -2 ^ (-1074 : ℤ) → (ofMetadata metadata).limit? m = none
  /-- A greater number is not a smaller limit, of whatever metrics and products. -/
  ordered : ∀ metadata metadata' m m' text text' q q' limit limit', Gives metadata m text →
    Gives metadata' m' text' → Denotes text q → Denotes text' q' → 0 ≤ q → q ≤ q' →
    (ofMetadata metadata).limit? m = some limit →
    (ofMetadata metadata').limit? m' = some limit' → limit ≤ limit'
  /-- A text that denotes no number is no limit. -/
  other : ∀ metadata m text, Gives metadata m text → (∀ q, ¬Denotes text q) →
    (ofMetadata metadata).limit? m = none
  /-- The word for no limit is none, whatever the case of its letters. -/
  unlimited : ∀ metadata m text, Gives metadata m text → Phrase.Names text "unlimited" →
    (ofMetadata metadata).limit? m = none
  /-- Without an entry for a metric there is no limit. -/
  missing : ∀ metadata m, Json.lookup? m.metadataKey metadata = none →
    (ofMetadata metadata).limit? m = none
  /-- What stands under other keys does not matter. -/
  own : ∀ metadata metadata' m,
    Json.lookup? m.metadataKey metadata = Json.lookup? m.metadataKey metadata' →
    (ofMetadata metadata).limit? m = (ofMetadata metadata').limit? m
  /-- No two metrics share a key. -/
  apart : ∀ m m' : Metric, m.metadataKey = m'.metadataKey → m = m'

open LimitText PlanLimits in
/-- **Limits in metadata are what is written there: exact where doubles and words are, in the
order of the numbers everywhere, and none for anything else.** -/
theorem metadataRule : MetadataRule where
  written := denotes_write
  unique := fun _ _ _ => Denotes.unique
  exact := by
    intro metadata m text k hgives hdenotes hk
    rw [limit?_of_gives hgives, parse?_of_natural hdenotes hk]
  around := by
    intro metadata m text q hgives hdenotes hq hle
    rw [limit?_of_gives hgives]
    exact parse?_between hdenotes hq hle
  greatest := by
    intro metadata m text q hgives hdenotes hq hsmall
    rw [limit?_of_gives hgives, parse?_of_great hdenotes hq hsmall]
  overflow := by
    intro metadata m text q hgives hdenotes hq
    rw [limit?_of_gives hgives, parse?_of_overflow hdenotes hq]
  given := by
    intro metadata m text q hgives hdenotes hq hsmall
    obtain ⟨k, d, -, -, hlimit⟩ := parse?_of_nonneg hdenotes hq
    exact ⟨_, by rw [limit?_of_gives hgives, hlimit, if_pos hsmall]⟩
  small := by
    intro metadata m text q hgives hdenotes hq
    rw [limit?_of_gives hgives, parse?_of_nonpos hdenotes hq]
  negative := by
    intro metadata m text q hgives hdenotes hq
    rw [limit?_of_gives hgives, parse?_of_negative hdenotes hq]
  ordered := by
    intro metadata metadata' m m' text text' q q' limit limit' hgives hgives' hdenotes hdenotes' hq
      hle hlimit hlimit'
    rw [limit?_of_gives hgives] at hlimit
    rw [limit?_of_gives hgives'] at hlimit'
    exact parse?_mono hdenotes hdenotes' hq hle hlimit hlimit'
  other := by
    intro metadata m text hgives hother
    rw [limit?_of_gives hgives, parse?_of_not_denotes hother]
  unlimited := by
    intro metadata m text hgives hnames
    rw [limit?_of_gives hgives, parse?_of_not_denotes (not_denotes_unlimited hnames)]
  missing := by
    intro metadata m hmissing
    rw [limit?_ofMetadata, hmissing, Option.bind_none]
  own := by
    intro metadata metadata' m hsame
    rw [limit?_ofMetadata, limit?_ofMetadata, hsame]
  apart := fun _ _ => Metric.metadataKey_injective

-- behind two to the fifty-third a double cannot tell a natural from the one below
example : LimitText.parse? "9007199254740993" = some (UInt64.ofNat (2 ^ 53)) := by
  decide +kernel

end ProjectViews
