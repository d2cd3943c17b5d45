/-
Which texts write a number, and which number that is.

A decimal number is a sign that may be left out, digits with at most one point among or around
them, and an exponent that may be left out: `Decimal` says so, with the exact number beside it.
Each part ends where the next one begins, since no character can go on with the one and begin the
other.  So reading from the front finds the parts, all of them and no others, and a text writes
one number at most.
-/
import ProjectViews.Proofs.Json.Words
import ProjectViews.Proofs.Number.Shortest
import ProjectViews.Usage.LimitText

namespace ProjectViews

open Number

/-! ### Runs of digits -/

namespace Number

theorem char_of_digit? {c : Char} {d : Digit} (h : digit? c = some d) : d.char = c := by
  rw [digit?] at h
  split at h
  · obtain rfl := Option.some.inj h
    rw [← Char.toNat_inj, Digit.toNat_char]
    dsimp only
    omega
  · cases h

/-- A text is its first digits and what follows them. -/
theorem takeDigits_spec (cs : List Char) :
    cs = writeDigits (takeDigits cs).1 ++ (takeDigits cs).2 ∧ Json.NoDigit (takeDigits cs).2 := by
  induction cs with
  | nil => exact ⟨rfl, nofun⟩
  | cons c cs ih =>
      rw [takeDigits]
      cases hc : digit? c with
      | none =>
          refine ⟨rfl, fun d hd => ?_⟩
          rw [← Option.some.inj hd]
          exact hc
      | some d =>
          refine ⟨?_, ih.2⟩
          show c :: cs = d.char :: (writeDigits (takeDigits cs).1 ++ (takeDigits cs).2)
          rw [← ih.1, char_of_digit? hc]

end Number

namespace LimitText

/-! ### The parts of a number -/

/-- A sign that may be left out, and whether it is a minus sign. -/
inductive Sign : List Char → Bool → Prop
  | absent : Sign [] false
  | plus : Sign ['+'] false
  | minus : Sign ['-'] true

/-- Digits with at most one point among or around them, and the number that they write. -/
inductive Mantissa : List Char → ℚ → Prop
  | whole {ds : List Digit} (nonempty : ds ≠ []) : Mantissa (writeDigits ds) (ofDigits ds)
  | pointed {ds fraction : List Digit} (nonempty : ds ≠ [] ∨ fraction ≠ []) :
      Mantissa (writeDigits ds ++ '.' :: writeDigits fraction)
        (ofDigits ds + ofDigits fraction / 10 ^ fraction.length)

/-- An exponent that may be left out. -/
inductive Exponent : List Char → ℤ → Prop
  | absent : Exponent [] 0
  | present {letter : Char} {sign : List Char} {negative : Bool} {ds : List Digit}
      (isLetter : letter = 'e' ∨ letter = 'E') (isSign : Sign sign negative)
      (nonempty : ds ≠ []) :
      Exponent (letter :: (sign ++ writeDigits ds))
        (if negative then -(ofDigits ds : ℤ) else ofDigits ds)

/-- A number by its sign. -/
def signed (negative : Bool) (q : ℚ) : ℚ := if negative then -q else q

/-- A decimal number, and its exact value. -/
inductive Decimal : List Char → ℚ → Prop
  | mk {sign mantissa exponent : List Char} {negative : Bool} {m : ℚ} {e : ℤ}
      (isSign : Sign sign negative) (isMantissa : Mantissa mantissa m)
      (isExponent : Exponent exponent e) :
      Decimal (sign ++ (mantissa ++ exponent)) (signed negative (m * 10 ^ e))

/-! ### Signs -/

/-- The sign in front of a text and what follows it. -/
def readSign (cs : List Char) : Bool × List Char :=
  match cs with
  | '-' :: rest => (true, rest)
  | '+' :: rest => (false, rest)
  | _ => (false, cs)

theorem readSign_spec (cs : List Char) :
    ∃ sign, Sign sign (readSign cs).1 ∧ cs = sign ++ (readSign cs).2 := by
  rw [readSign.eq_def]
  split
  · exact ⟨['-'], .minus, rfl⟩
  · exact ⟨['+'], .plus, rfl⟩
  · exact ⟨[], .absent, rfl⟩

/-- No sign stands at the front of a text. -/
def NoSign (cs : List Char) : Prop := cs.head? ≠ some '-' ∧ cs.head? ≠ some '+'

theorem readSign_of_noSign {cs : List Char} (h : NoSign cs) : readSign cs = (false, cs) := by
  rw [readSign.eq_def]
  split
  · exact absurd rfl h.1
  · exact absurd rfl h.2
  · rfl

theorem readSign_append {sign rest : List Char} {negative : Bool} (h : Sign sign negative)
    (noSign : NoSign rest) : readSign (sign ++ rest) = (negative, rest) := by
  cases h with
  | absent => exact readSign_of_noSign noSign
  | plus => rfl
  | minus => rfl

theorem noSign_digits {ds : List Digit} (h : ds ≠ []) (rest : List Char) :
    NoSign (writeDigits ds ++ rest) := by
  obtain ⟨d, ds, rfl⟩ := List.exists_cons_of_ne_nil h
  have hchar : ∀ d : Digit, d.char ≠ '-' ∧ d.char ≠ '+' := by decide
  exact ⟨fun hc => (hchar d).1 (Option.some.inj hc), fun hc => (hchar d).2 (Option.some.inj hc)⟩

theorem Mantissa.noSign {mantissa : List Char} {m : ℚ} (h : Mantissa mantissa m)
    (rest : List Char) : NoSign (mantissa ++ rest) := by
  cases h with
  | whole nonempty => exact noSign_digits nonempty rest
  | @pointed ds fraction nonempty =>
      rw [List.append_assoc]
      cases ds with
      | nil => exact ⟨nofun, nofun⟩
      | cons d ds => exact noSign_digits (List.cons_ne_nil d ds) _

/-! ### Exponents -/

theorem exponent?_cons (c : Char) (cs : List Char) : exponent? (c :: cs)
    = if c = 'e' ∨ c = 'E' then
        match readSign cs with
        | (negative, cs) =>
          match takeDigits cs with
          | ([], _) => none
          | (ds, []) => some (if negative then -(ofDigits ds : ℤ) else ofDigits ds)
          | _ => none
      else none := rfl

/-- **An exponent is read exactly where one is written.** -/
theorem exponent?_eq_some_iff {cs : List Char} {e : ℤ} : exponent? cs = some e ↔ Exponent cs e := by
  constructor
  · intro h
    cases cs with
    | nil =>
        obtain rfl := Option.some.inj h
        exact .absent
    | cons c cs =>
        obtain ⟨sign, hsign, hcs⟩ := readSign_spec cs
        rw [exponent?_cons] at h
        generalize readSign cs = parts at h hsign hcs
        obtain ⟨negative, rest⟩ := parts
        dsimp only at h hsign hcs
        split at h
        · rename_i hletter
          obtain ⟨hdigits, -⟩ := takeDigits_spec rest
          split at h
          · cases h
          · rename_i ds hnonempty htake
            rw [htake, List.append_nil] at hdigits
            obtain rfl := Option.some.inj h
            rw [hcs, hdigits]
            exact .present hletter hsign hnonempty
          · cases h
        · cases h
  · intro h
    cases h with
    | absent => rfl
    | @present letter sign negative ds isLetter isSign nonempty =>
        have hsign : readSign (sign ++ writeDigits ds) = (negative, writeDigits ds) :=
          readSign_append isSign (by simpa using noSign_digits nonempty [])
        have htake : takeDigits (writeDigits ds) = (ds, []) := by
          have hread := Json.takeDigits_writeDigits ds (show Json.NoDigit [] from nofun)
          rwa [List.append_nil] at hread
        obtain ⟨d, ds, rfl⟩ := List.exists_cons_of_ne_nil nonempty
        rw [exponent?_cons, if_pos isLetter, hsign]
        dsimp only
        rw [htake]

theorem Exponent.noDigit {cs : List Char} {e : ℤ} (h : Exponent cs e) :
    Json.NoDigit cs ∧ cs.head? ≠ some '.' := by
  cases h with
  | absent => exact ⟨nofun, nofun⟩
  | present isLetter =>
      rcases isLetter with rfl | rfl
      · exact ⟨fun c hc => Option.some.inj hc ▸ rfl, nofun⟩
      · exact ⟨fun c hc => Option.some.inj hc ▸ rfl, nofun⟩

/-! ### Numbers -/

/-- The digits behind a point and what follows them. -/
def readFraction (cs : List Char) : List Digit × List Char :=
  match cs with
  | '.' :: rest => takeDigits rest
  | _ => ([], cs)

theorem unsigned?_eq (negative : Bool) (cs : List Char) : unsigned? negative cs
    = match takeDigits cs with
      | (whole, cs) =>
        match readFraction cs with
        | (fraction, cs) =>
          if whole.isEmpty ∧ fraction.isEmpty then none
          else (exponent? cs).map fun e =>
            ⟨negative, ofDigits (whole ++ fraction), e - fraction.length⟩ := rfl

theorem number?_eq (cs : List Char) :
    number? cs = unsigned? (readSign cs).1 (readSign cs).2 := by
  rw [number?.eq_def]
  split
  · rfl
  · rfl
  · rename_i hminus hplus
    rw [readSign_of_noSign]
    cases cs with
    | nil => exact ⟨nofun, nofun⟩
    | cons c cs =>
        refine ⟨fun hc => ?_, fun hc => ?_⟩
        · exact hminus cs (congrArg (· :: cs) (Option.some.inj hc))
        · exact hplus cs (congrArg (· :: cs) (Option.some.inj hc))

/-- The point among digits is a power of ten. -/
theorem value_pointed (negative : Bool) (ds fraction : List Digit) (e : ℤ) :
    (Scientific.mk negative (ofDigits (ds ++ fraction)) (e - fraction.length)).value
      = (ofDigits ds + ofDigits fraction / 10 ^ fraction.length) * 10 ^ e := by
  rw [Scientific.value]
  dsimp only
  rw [ofDigits_append, zpow_sub₀ (by norm_num), zpow_natCast]
  push_cast
  field_simp

theorem readFraction_cases (cs : List Char) :
    (∃ rest, cs = '.' :: rest ∧ readFraction cs = takeDigits rest) ∨
      readFraction cs = ([], cs) := by
  rw [readFraction.eq_def]
  split
  · rename_i rest
    exact .inl ⟨rest, rfl, rfl⟩
  · exact .inr rfl

/-- What is read of a number without its sign is written there. -/
theorem unsigned?_sound {negative : Bool} {cs : List Char} {n : Scientific}
    (h : unsigned? negative cs = some n) : ∃ mantissa exponent m e, cs = mantissa ++ exponent ∧
      Mantissa mantissa m ∧ Exponent exponent e ∧ n.negative = negative ∧ n.value = m * 10 ^ e := by
  obtain ⟨hcs, -⟩ := takeDigits_spec cs
  rw [unsigned?_eq] at h
  generalize takeDigits cs = parts at h hcs
  obtain ⟨ds, rest⟩ := parts
  have hfraction := readFraction_cases rest
  dsimp only at h hcs hfraction
  generalize readFraction rest = parts at h hfraction
  obtain ⟨fraction, exponent⟩ := parts
  dsimp only at h
  split at h
  · cases h
  rename_i hempty
  obtain ⟨e, hexponent, rfl⟩ := Option.map_eq_some_iff.mp h
  have isExponent := exponent?_eq_some_iff.mp hexponent
  rcases hfraction with ⟨behind, hpoint, htake⟩ | hnone
  · obtain ⟨hbehind, -⟩ := takeDigits_spec behind
    rw [← htake] at hbehind
    have nonempty : ds ≠ [] ∨ fraction ≠ [] := by
      rw [List.isEmpty_iff, List.isEmpty_iff, not_and_or] at hempty
      exact hempty
    refine ⟨_, exponent, _, e, ?_, .pointed nonempty, isExponent, rfl,
      value_pointed negative ds fraction e⟩
    rw [hcs, hpoint, hbehind, List.append_assoc, List.cons_append]
  · obtain ⟨rfl, rfl⟩ := Prod.mk.inj hnone
    have nonempty : ds ≠ [] := fun hnil => hempty ⟨List.isEmpty_iff.mpr hnil, rfl⟩
    refine ⟨_, exponent, _, e, hcs, .whole nonempty, isExponent, rfl, ?_⟩
    rw [value_pointed]
    simp [ofDigits, ofDigitsFrom]

/-- A number without its sign is read where it is written. -/
theorem unsigned?_complete (negative : Bool) {mantissa exponent : List Char} {m : ℚ} {e : ℤ}
    (isMantissa : Mantissa mantissa m) (isExponent : Exponent exponent e) :
    ∃ n, unsigned? negative (mantissa ++ exponent) = some n ∧ n.negative = negative ∧
      n.value = m * 10 ^ e := by
  obtain ⟨noDigit, noPoint⟩ := isExponent.noDigit
  have hexponent := exponent?_eq_some_iff.mpr isExponent
  cases isMantissa with
  | @whole ds nonempty =>
      have hfraction : readFraction exponent = ([], exponent) := by
        refine (readFraction_cases exponent).resolve_left ?_
        rintro ⟨rest, rfl, -⟩
        exact noPoint rfl
      refine ⟨⟨negative, ofDigits (ds ++ []), e - ([] : List Digit).length⟩, ?_, rfl, ?_⟩
      · rw [unsigned?_eq, Json.takeDigits_writeDigits ds noDigit]
        dsimp only
        rw [hfraction]
        dsimp only
        rw [hexponent, if_neg fun h => nonempty (List.isEmpty_iff.mp h.1)]
        rfl
      · rw [value_pointed]
        simp [ofDigits, ofDigitsFrom]
  | @pointed ds fraction nonempty =>
      refine ⟨⟨negative, ofDigits (ds ++ fraction), e - fraction.length⟩, ?_, rfl,
        value_pointed negative ds fraction e⟩
      have noDigit' : Json.NoDigit ('.' :: (writeDigits fraction ++ exponent)) :=
        fun c hc => Option.some.inj hc ▸ rfl
      have hfraction : readFraction ('.' :: (writeDigits fraction ++ exponent))
          = (fraction, exponent) := Json.takeDigits_writeDigits fraction noDigit
      rw [List.append_assoc, List.cons_append, unsigned?_eq,
        Json.takeDigits_writeDigits ds noDigit']
      dsimp only
      rw [hfraction]
      dsimp only
      rw [hexponent, if_neg]
      · rfl
      · rw [List.isEmpty_iff, List.isEmpty_iff, not_and_or]
        exact nonempty

/-- The number in scientific notation, with its sign. -/
def number (n : Scientific) : ℚ := signed n.negative n.value

/-- **A number is read exactly where one is written, and it is the one that is written.** -/
theorem decimal_iff {cs : List Char} {q : ℚ} :
    Decimal cs q ↔ ∃ n, number? cs = some n ∧ number n = q := by
  constructor
  · rintro ⟨isSign, isMantissa, isExponent⟩
    rename_i negative m e
    obtain ⟨n, hn, hnegative, hvalue⟩ := unsigned?_complete negative isMantissa isExponent
    refine ⟨n, ?_, by rw [number, hnegative, hvalue]⟩
    rw [number?_eq, readSign_append isSign (isMantissa.noSign _)]
    exact hn
  · rintro ⟨n, hn, rfl⟩
    obtain ⟨sign, isSign, hcs⟩ := readSign_spec cs
    rw [number?_eq] at hn
    obtain ⟨mantissa, exponent, m, e, hrest, isMantissa, isExponent, hnegative, hvalue⟩ :=
      unsigned?_sound hn
    rw [hcs, hrest, number, hnegative, hvalue]
    exact .mk isSign isMantissa isExponent

/-- A text writes one number at most. -/
theorem Decimal.unique {cs : List Char} {q q' : ℚ} (h : Decimal cs q) (h' : Decimal cs q') :
    q = q' := by
  obtain ⟨n, hn, rfl⟩ := decimal_iff.mp h
  obtain ⟨n', hn', rfl⟩ := decimal_iff.mp h'
  rw [hn] at hn'
  rw [Option.some.inj hn']

end LimitText

end ProjectViews
