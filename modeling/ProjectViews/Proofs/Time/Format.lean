/-
Instants that were written are read back.

Reading is more forgiving than it has to be here.  What is written has no blanks, every number
in it has all its digits and ends before a mark that is no digit, and it is in universal time.
So each part is read as it was written, whatever stands behind it, and the parts make up the
second that they were taken from.  A leap second is the second 60, and it is read as one that
goes on for longer.

An instant is read back if it lies in the years that are reckoned with, and every instant that
was read does.
-/
import ProjectViews.Proofs.Json.Words
import ProjectViews.Proofs.Number.Digits
import ProjectViews.Proofs.Time.Calendar
import ProjectViews.Time.Format

namespace ProjectViews

namespace Instant

open Number

/-! ### Numbers -/

/-- A padded number is digits that write it, as many as the width if it is not too large. -/
theorem padded_spec (width n : Nat) : ∃ d ds, padded width n = writeDigits (d :: ds) ∧
    ofDigits (d :: ds) = n ∧
    (n < 10 ^ width → 0 < width → (d :: ds).length = width) := by
  have hzeros : padded width n
      = writeDigits (List.replicate (width - (digits n).length) .zero ++ digits n) := by
    unfold padded writeDigits
    dsimp only
    rw [List.map_append, List.map_replicate, List.length_map]
    rfl
  have hvalue : ofDigits (List.replicate (width - (digits n).length) .zero ++ digits n) = n := by
    rw [ofDigits_zeros_append, ofDigits_digits]
  have hlength : n < 10 ^ width → 0 < width →
      (List.replicate (width - (digits n).length) Digit.zero ++ digits n).length = width := by
    intro hn hwidth
    obtain ⟨w, rfl⟩ : ∃ w, width = w + 1 := ⟨width - 1, by omega⟩
    have hlength := length_digits hn
    rw [List.length_append, List.length_replicate]
    omega
  cases hds : List.replicate (width - (digits n).length) Digit.zero ++ digits n with
  | nil =>
      obtain ⟨d, ds, hdigits, -⟩ := Json.digits_eq_cons n
      rw [hdigits] at hds
      simp at hds
  | cons d ds =>
      rw [hds] at hzeros hvalue hlength
      exact ⟨d, ds, hzeros, hvalue, hlength⟩

theorem digit_char : ∀ d : Digit,
    Text.isBlank d.char = false ∧ d.char ≠ '-' ∧ d.char ≠ '+' := by decide

variable {rest : List Char}

theorem noDigit_cons {c : Char} (hc : digit? c = none) (rest : List Char) :
    Json.NoDigit (c :: rest) := by
  rintro c ⟨⟩
  exact hc

/-- No blanks stand before a number. -/
theorem trimLeft_padded (width n : Nat) (rest : List Char) :
    Text.trimLeft (padded width n ++ rest) = padded width n ++ rest := by
  obtain ⟨d, ds, hpadded, -⟩ := padded_spec width n
  rw [hpadded]
  show List.dropWhile Text.isBlank (d.char :: (writeDigits ds ++ rest)) = _
  rw [List.dropWhile_cons, (digit_char d).1]
  rfl

/-- Digits are read back by a reader that takes as many as there are. -/
theorem upTo_writeDigits {d : Digit} {ds : List Digit} {most : Nat}
    (hmost : (d :: ds).length ≤ most) (h : Json.NoDigit rest) :
    upTo most (writeDigits (d :: ds) ++ rest) = some (ofDigits (d :: ds), rest) := by
  rw [upTo, Json.takeDigits_writeDigits _ h]
  dsimp only
  rw [List.take_of_length_le hmost, List.drop_of_length_le hmost]
  rfl

theorem part_padded {low high n : Nat} (hn : low ≤ n ∧ n ≤ high) (hhigh : high < 100)
    (h : Json.NoDigit rest) : part low high (padded 2 n ++ rest) = some (n, rest) := by
  obtain ⟨d, ds, hpadded, hvalue, hlength⟩ := padded_spec 2 n
  have hlength := hlength (by omega) (by omega)
  rw [part, trimLeft_padded, hpadded, upTo_writeDigits (Nat.le_of_eq hlength) h, hvalue]
  exact if_pos hn

/-- A year is read back, with its sign if it has one. -/
theorem yearPart_yearText (year : Int) (h : Json.NoDigit rest) :
    yearPart (yearText year ++ rest) = some (year, rest) := by
  unfold yearText
  split
  · obtain ⟨d, ds, hpadded, hvalue, hlength⟩ := padded_spec 4 year.toNat
    have hlength := hlength (by omega) (by omega)
    have hread := upTo_writeDigits (Nat.le_of_eq hlength) h
    have hsign := digit_char d
    rw [yearPart, trimLeft_padded, hpadded]
    split
    · rename_i heq
      exact absurd (List.cons.inj heq).1 hsign.2.1
    · rename_i heq
      exact absurd (List.cons.inj heq).1 hsign.2.2
    · rw [hread, hvalue]
      show some ((year.toNat : Int), rest) = _
      rw [Int.toNat_of_nonneg (by omega)]
  · obtain ⟨d, ds, hpadded, hvalue, -⟩ := padded_spec 4 year.natAbs
    have hmost : (d :: ds).length ≤ (writeDigits (d :: ds) ++ rest).length := by
      rw [List.length_append, writeDigits, List.length_map]
      omega
    have hread := upTo_writeDigits hmost h
    rw [hpadded]
    split
    · show (upTo (writeDigits (d :: ds) ++ rest).length (writeDigits (d :: ds) ++ rest)).map _ = _
      rw [hread, hvalue]
      show some (-(year.natAbs : Int), rest) = _
      rw [show -(year.natAbs : Int) = year by omega]
    · show (upTo (writeDigits (d :: ds) ++ rest).length (writeDigits (d :: ds) ++ rest)).map _ = _
      rw [hread, hvalue]
      show some ((year.natAbs : Int), rest) = _
      rw [show (year.natAbs : Int) = year by omega]

/-- Digits behind the point are read back as nanoseconds. -/
theorem fractionPart_padded {width n : Nat} (hn : n < 10 ^ width) (hwidth : 0 < width)
    (hnine : width ≤ 9) (h : Json.NoDigit rest) :
    fractionPart ('.' :: padded width n ++ rest) = some (n * 10 ^ (9 - width), rest) := by
  obtain ⟨d, ds, hpadded, hvalue, hlength⟩ := padded_spec width n
  have hlength := hlength hn hwidth
  rw [hpadded]
  show fractionPart ('.' :: (writeDigits (d :: ds) ++ rest)) = _
  rw [fractionPart, Json.takeDigits_writeDigits _ h]
  dsimp only
  rw [if_neg (by simp), List.take_of_length_le (by omega), hvalue, hlength]
  rfl

theorem fractionPart_fractionText {nanos : Nat} (hnanos : nanos < 1000000000) (rest : List Char) :
    fractionPart (fractionText nanos ++ 'Z' :: rest) = some (nanos, 'Z' :: rest) := by
  have hend : Json.NoDigit ('Z' :: rest) := noDigit_cons rfl rest
  unfold fractionText
  split
  · rename_i hzero
    rw [hzero]
    rfl
  · split
    · rw [fractionPart_padded (by omega) (by omega) (by omega) hend]
      congr 2
      omega
    · split
      · rw [fractionPart_padded (by omega) (by omega) (by omega) hend]
        congr 2
        omega
      · rw [fractionPart_padded (by omega) (by omega) (by omega) hend]
        rw [Nat.sub_self, Nat.pow_zero, Nat.mul_one]

/-- A number that stands before a fraction ends there. -/
theorem noDigit_fractionText (nanos : Nat) : Json.NoDigit (fractionText nanos ++ ['Z']) := by
  unfold fractionText
  split
  · exact noDigit_cons rfl _
  · split
    · exact noDigit_cons rfl _
    · split
      · exact noDigit_cons rfl _
      · exact noDigit_cons rfl _

/-! ### Instants -/

theorem mark_cons {c : Char} (hc : Text.isBlank c = false) (rest : List Char) :
    mark c (c :: rest) = some rest := by
  have htrim : Text.trimLeft (c :: rest) = c :: rest := by
    rw [Text.trimLeft, List.dropWhile_cons, hc]
    rfl
  rw [mark, htrim]
  exact if_pos rfl

/-- The second that a clock shows, and the nanoseconds after it: the last second of a minute goes
on as the second 60. -/
def clockSecond (a : Instant) : Nat × Nat :=
  let second := (a.seconds % 86400).toNat % 60
  if 1000000000 ≤ a.nanos then (second + 1, a.nanos - 1000000000) else (second, a.nanos)

theorem clockSecond_spec (a : Instant) : a.clockSecond.1 ≤ 60 ∧ a.clockSecond.2 < 1000000000 ∧
    min a.clockSecond.1 59 = (a.seconds % 86400).toNat % 60 ∧
    (if a.clockSecond.1 = 60 then a.clockSecond.2 + 1000000000 else a.clockSecond.2) = a.nanos := by
  have hnanos := a.nanos_lt
  have hminute := a.leap_ends_minute
  unfold clockSecond
  dsimp only
  by_cases hleap : 1000000000 ≤ a.nanos
  · have hlast : (a.seconds % 86400).toNat % 60 = 59 := by
      have := hminute hleap
      omega
    rw [if_pos hleap]
    dsimp only
    rw [if_pos (by omega)]
    omega
  · rw [if_neg hleap]
    dsimp only
    rw [if_neg (by omega)]
    omega

/-- The clock of an instant gives the instant back. -/
theorem ofClock_clock {a : Instant} (reckoned : isReckoned a.seconds = true) :
    ofClock (Date.ofDays (a.seconds / 86400)) ((a.seconds % 86400).toNat / 3600)
      ((a.seconds % 86400).toNat / 60 % 60) a.clockSecond.1 a.clockSecond.2 0 = some a := by
  obtain ⟨-, -, hsecond, hnanos⟩ := a.clockSecond_spec
  have hseconds : (Date.ofDays (a.seconds / 86400)).toDays * 86400
      + ((a.seconds % 86400).toNat / 3600 : Nat) * 3600
      + (((a.seconds % 86400).toNat / 60 % 60 : Nat) - (0 : Int)) * 60
      + (min a.clockSecond.1 59 : Nat) = a.seconds := by
    rw [Date.toDays_ofDays, hsecond]
    omega
  unfold ofClock
  simp only [hseconds, hnanos]
  rw [dif_pos ⟨a.nanos_lt, a.leap_ends_minute⟩, if_pos]
  rw [Date.exists?_ofDays, reckoned, Bool.true_and, Bool.and_true]
  exact reckoned

/-- The parts of what is written, each with what stands behind it. -/
theorem printChars_eq (a : Instant) :
    let date := Date.ofDays (a.seconds / 86400)
    let second := (a.seconds % 86400).toNat
    a.printChars = yearText date.year ++ '-' :: (padded 2 date.month ++ '-' :: (padded 2 date.day
      ++ 'T' :: (padded 2 (second / 3600) ++ ':' :: (padded 2 (second / 60 % 60)
      ++ ':' :: (padded 2 a.clockSecond.1 ++ (fractionText a.clockSecond.2 ++ ['Z'])))))) := by
  unfold printChars clockSecond
  dsimp only
  split <;> rfl

/-- **An instant that was written is read back.** -/
theorem parse_print {a : Instant} (reckoned : isReckoned a.seconds = true) :
    parse a.print = some a := by
  have hclock := ofClock_clock reckoned
  obtain ⟨hsecond, hnanos, -⟩ := a.clockSecond_spec
  obtain ⟨hmonth, hday⟩ := Date.bounds_of_exists? (Date.exists?_ofDays (a.seconds / 86400))
  have hdash : ∀ cs, Json.NoDigit ('-' :: cs) := noDigit_cons rfl
  have hcolon : ∀ cs, Json.NoDigit (':' :: cs) := noDigit_cons rfl
  have hletter : ∀ cs, Json.NoDigit ('T' :: cs) := noDigit_cons rfl
  rw [parse, print, String.toList_ofList, printChars_eq]
  refine Option.bind_eq_some_iff.mpr ⟨_, yearPart_yearText _ (hdash _), ?_⟩
  refine Option.bind_eq_some_iff.mpr ⟨_, mark_cons (by decide) _, ?_⟩
  refine Option.bind_eq_some_iff.mpr ⟨_, part_padded hmonth (by omega) (hdash _), ?_⟩
  refine Option.bind_eq_some_iff.mpr ⟨_, mark_cons (by decide) _, ?_⟩
  refine Option.bind_eq_some_iff.mpr ⟨_, part_padded hday (by omega) (hletter _), ?_⟩
  refine Option.bind_eq_some_iff.mpr ⟨_, part_padded (by omega) (by omega) (hcolon _), ?_⟩
  refine Option.bind_eq_some_iff.mpr ⟨_, mark_cons (by decide) _, ?_⟩
  refine Option.bind_eq_some_iff.mpr ⟨_, part_padded (by omega) (by omega) (hcolon _), ?_⟩
  refine Option.bind_eq_some_iff.mpr ⟨_, mark_cons (by decide) _, ?_⟩
  refine Option.bind_eq_some_iff.mpr
    ⟨_, part_padded ⟨Nat.zero_le _, hsecond⟩ (by omega) (noDigit_fractionText _), ?_⟩
  refine Option.bind_eq_some_iff.mpr ⟨_, fractionPart_fractionText hnanos _, ?_⟩
  exact hclock

/-- What a clock shows is in the years that are reckoned with. -/
theorem isReckoned_of_ofClock {date : Date} {hour minute second nanos : Nat} {shift : Int}
    {a : Instant} (h : ofClock date hour minute second nanos shift = some a) :
    isReckoned a.seconds = true := by
  simp only [ofClock, Option.dite_none_right_eq_some, Option.ite_none_right_eq_some,
    Option.some.injEq, Bool.and_eq_true] at h
  obtain ⟨-, ⟨-, hreckoned⟩, rfl⟩ := h
  exact hreckoned

/-- What was read is in the years that are reckoned with. -/
theorem isReckoned_of_parse {s : String} {a : Instant} (h : parse s = some a) :
    isReckoned a.seconds = true := by
  unfold parse parseChars at h
  obtain ⟨⟨year, cs⟩, -, h⟩ := Option.bind_eq_some_iff.mp h
  obtain ⟨cs, -, h⟩ := Option.bind_eq_some_iff.mp h
  obtain ⟨⟨month, cs⟩, -, h⟩ := Option.bind_eq_some_iff.mp h
  obtain ⟨cs, -, h⟩ := Option.bind_eq_some_iff.mp h
  obtain ⟨⟨day, cs⟩, -, h⟩ := Option.bind_eq_some_iff.mp h
  dsimp only at h
  split at h
  · split at h
    · obtain ⟨cs, -, h⟩ := Option.bind_eq_some_iff.mp h
      obtain ⟨⟨hour, cs⟩, -, h⟩ := Option.bind_eq_some_iff.mp h
      obtain ⟨cs, -, h⟩ := Option.bind_eq_some_iff.mp h
      obtain ⟨⟨minute, cs⟩, -, h⟩ := Option.bind_eq_some_iff.mp h
      obtain ⟨cs, -, h⟩ := Option.bind_eq_some_iff.mp h
      obtain ⟨⟨second, cs⟩, -, h⟩ := Option.bind_eq_some_iff.mp h
      obtain ⟨⟨nanos, cs⟩, -, h⟩ := Option.bind_eq_some_iff.mp h
      obtain ⟨⟨shift, cs⟩, -, h⟩ := Option.bind_eq_some_iff.mp h
      dsimp only at h
      split at h
      · exact isReckoned_of_ofClock h
      · cases h
    · cases h
  · cases h

end Instant

end ProjectViews
