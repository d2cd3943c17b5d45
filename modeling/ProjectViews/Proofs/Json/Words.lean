/-
Strings and numbers that were written are read back.

A reader takes what it needs from the front of a text, so what it reads back is stated for
a text with anything behind it.  A string ends with its quote, and it does not matter what
follows.  A number has no end of its own: it ends before the first character that cannot go
on with it, and what follows has to begin with such a one.
-/
import ProjectViews.Json.Printer
import ProjectViews.Json.Reader

namespace ProjectViews

namespace Json

open Reader

/-! ### Strings -/

/-- What stands for a character in a string: itself, or its number. -/
def Piece.Means (p : Piece) (c : Char) : Prop :=
  p = .char c ∨ p = .unit c.toNat ∧ c.toNat < 0xD800

theorem stringPieces_plain {c : Char} (quote : c ≠ '"') (backslash : c ≠ '\\')
    (printable : ¬ c.toNat < 32) (rest : List Char) :
    stringPieces (c :: rest) = (stringPieces rest).map fun x => (.char c :: x.1, x.2) := by
  rw [stringPieces, if_neg printable]
  · cases stringPieces rest <;> rfl
  · exact quote
  · exact fun _ _ _ _ _ h _ => backslash h
  · exact fun _ _ h _ => backslash h

theorem stringPieces_letter {e c : Char} (letter : escaped? e = some c) (rest : List Char) :
    stringPieces ('\\' :: e :: rest) = (stringPieces rest).map fun x => (.char c :: x.1, x.2) := by
  rw [stringPieces, letter]
  · cases stringPieces rest <;> rfl
  · rintro _ _ _ _ _ rfl
    cases letter

theorem stringPieces_unit {a b c d : Char} {n : Nat} (unit : hexUnit? a b c d = some n)
    (rest : List Char) :
    stringPieces ('\\' :: 'u' :: a :: b :: c :: d :: rest)
      = (stringPieces rest).map fun x => (.unit n :: x.1, x.2) := by
  rw [stringPieces, unit]
  cases stringPieces rest <;> rfl

theorem hexUnit?_control :
    ∀ n < 32, hexUnit? '0' '0' (hexDigit (n / 16)) (hexDigit (n % 16)) = some n := by decide

/-- A character in a string is read back. -/
theorem stringPieces_escape (c : Char) (rest : List Char) :
    ∃ p : Piece, Piece.Means p c ∧
      stringPieces (escape c ++ rest) = (stringPieces rest).map fun x => (p :: x.1, x.2) := by
  have letter : ∀ e, escape c = ['\\', e] → escaped? e = some c → ∃ p : Piece, Piece.Means p c ∧
      stringPieces (escape c ++ rest) = (stringPieces rest).map fun x => (p :: x.1, x.2) := by
    intro e hescape he
    rw [hescape]
    exact ⟨.char c, Or.inl rfl, stringPieces_letter he rest⟩
  by_cases hquote : c = '"'
  · subst hquote
    exact letter '"' rfl rfl
  by_cases hbackslash : c = '\\'
  · subst hbackslash
    exact letter '\\' rfl rfl
  by_cases hb : c = '\x08'
  · subst hb
    exact letter 'b' rfl rfl
  by_cases hf : c = '\x0c'
  · subst hf
    exact letter 'f' rfl rfl
  by_cases hn : c = '\n'
  · subst hn
    exact letter 'n' rfl rfl
  by_cases hr : c = '\r'
  · subst hr
    exact letter 'r' rfl rfl
  by_cases ht : c = '\t'
  · subst ht
    exact letter 't' rfl rfl
  rw [escape, if_neg hquote, if_neg hbackslash, if_neg hb, if_neg hf, if_neg hn, if_neg hr,
    if_neg ht]
  by_cases hcontrol : c.toNat < 32
  · rw [if_pos hcontrol]
    exact ⟨.unit c.toNat, Or.inr ⟨rfl, by omega⟩,
      stringPieces_unit (hexUnit?_control c.toNat hcontrol) rest⟩
  · rw [if_neg hcontrol]
    exact ⟨.char c, Or.inl rfl, stringPieces_plain hquote hbackslash hcontrol rest⟩

/-- What stands for a character is joined as that character. -/
theorem joinPieces_means {p : Piece} {c : Char} (h : Piece.Means p c) (ps : List Piece) :
    joinPieces (p :: ps) = (joinPieces ps).map (c :: ·) := by
  rcases h with rfl | ⟨rfl, hc⟩
  · rw [joinPieces]
  · -- a unit this small is no surrogate, so the one behind it does not matter
    have hhigh : ¬ (0xD800 ≤ c.toNat ∧ c.toNat < 0xDC00) := by omega
    have hlow : ¬ (0xDC00 ≤ c.toNat ∧ c.toNat < 0xE000) := by omega
    have hany : ¬ (0xD800 ≤ c.toNat ∧ c.toNat < 0xE000) := by omega
    rcases ps with _ | ⟨d | l, qs⟩
    · simp only [joinPieces, if_neg hany, Char.ofNat_toNat]
    · simp only [joinPieces, if_neg hany, Char.ofNat_toNat]
    · rw [joinPieces, if_neg hhigh, if_neg hlow, Char.ofNat_toNat]

/-- The characters of a string are read back, up to the quote. -/
theorem stringPieces_escapes (cs rest : List Char) :
    ∃ ps, joinPieces ps = some cs ∧
      stringPieces (cs.flatMap escape ++ '"' :: rest) = some (ps, rest) := by
  induction cs with
  | nil => exact ⟨[], rfl, by simp [stringPieces]⟩
  | cons c cs ih =>
      obtain ⟨ps, hjoin, hpieces⟩ := ih
      obtain ⟨p, hmeans, hescape⟩ := stringPieces_escape c (cs.flatMap escape ++ '"' :: rest)
      refine ⟨p :: ps, ?_, ?_⟩
      · rw [joinPieces_means hmeans, hjoin]
        rfl
      · rw [List.flatMap_cons, List.append_assoc, hescape, hpieces]
        rfl

/-- **A string that was written is read back.** -/
theorem stringBody_escapes (s : String) (rest : List Char) :
    stringBody (s.toList.flatMap escape ++ '"' :: rest) = some (some s, rest) := by
  obtain ⟨ps, hjoin, hpieces⟩ := stringPieces_escapes s.toList rest
  rw [stringBody, hpieces]
  show some ((joinPieces ps).map String.ofList, rest) = _
  rw [hjoin, Option.map_some, String.ofList_toList]

/-! ### Numbers -/

/-- Whether a text goes on with what is not a digit. -/
def NoDigit (cs : List Char) : Prop := ∀ c ∈ cs.head?, Number.digit? c = none

/-- Whether a text goes on with what no number goes on with. -/
def EndsNumber (cs : List Char) : Prop :=
  NoDigit cs ∧ cs.head? ≠ some '.' ∧ cs.head? ≠ some 'e' ∧ cs.head? ≠ some 'E'

/-- Digits that were written are read back. -/
theorem takeDigits_writeDigits (ds : List Number.Digit) {rest : List Char} (h : NoDigit rest) :
    Number.takeDigits (Number.writeDigits ds ++ rest) = (ds, rest) := by
  induction ds with
  | nil =>
      cases rest with
      | nil => rfl
      | cons c cs =>
          show Number.takeDigits (c :: cs) = _
          rw [Number.takeDigits, h c rfl]
  | cons d ds ih =>
      show Number.takeDigits (d.char :: (Number.writeDigits ds ++ rest)) = _
      rw [Number.takeDigits, Number.digit?_char, ih]

/-- There is a first digit, and only zero begins with a zero. -/
theorem digits_eq_cons (n : Nat) :
    ∃ d ds, Number.digits n = d :: ds ∧ (0 < n → d ≠ .zero) := by
  rw [Number.digits]
  generalize ([] : List Number.Digit) = found
  induction n using Nat.strongRecOn generalizing found with
  | ind n ih =>
      rw [Number.digitsOnto]
      by_cases hn : n < 10
      · rw [if_pos hn]
        refine ⟨_, _, rfl, fun hpos hzero => ?_⟩
        have hval : n % 10 = 0 := congrArg Fin.val hzero
        omega
      · rw [if_neg hn]
        obtain ⟨d, ds, hdigits, hd⟩ := ih (n / 10) (by omega) (Fin.ofNat 10 (n % 10) :: found)
        exact ⟨d, ds, hdigits, fun _ => hd (by omega)⟩

/-- The whole part of a number is read back. -/
theorem wholePart_digits (n : Nat) {rest : List Char} (h : NoDigit rest) :
    wholePart (Number.writeDigits (Number.digits n) ++ rest) = some (n, rest) := by
  rcases Nat.eq_zero_or_pos n with rfl | hn
  · rw [Number.digits, Number.digitsOnto]
    rfl
  · obtain ⟨d, ds, hdigits, hd⟩ := digits_eq_cons n
    have htake := takeDigits_writeDigits (Number.digits n) h
    have hchar : d.char ≠ '0' := by
      intro hc
      have hdigit := Number.digit?_char d
      rw [hc] at hdigit
      exact hd hn (Option.some.inj hdigit).symm
    have hzero : ∀ cs, Number.writeDigits (Number.digits n) ++ rest ≠ '0' :: cs := by
      intro cs hc
      rw [hdigits] at hc
      exact hchar (List.cons.inj hc).1
    rw [wholePart, htake, hdigits]
    · show some (Number.ofDigits (d :: ds), rest) = _
      rw [← hdigits, Number.ofDigits_digits]
    · exact hzero

/-- The digits behind the point are read back. -/
theorem fractionPart_digits (ds : List Number.Digit) {rest : List Char} (h : NoDigit rest)
    (hpoint : rest.head? ≠ some '.') :
    fractionPart ((if ds.isEmpty then [] else '.' :: Number.writeDigits ds) ++ rest)
      = some (ds, rest) := by
  cases ds with
  | nil =>
      show fractionPart rest = _
      rw [fractionPart]
      rintro _ rfl
      exact hpoint rfl
  | cons d ds =>
      show fractionPart ('.' :: (Number.writeDigits (d :: ds) ++ rest)) = _
      rw [fractionPart, takeDigits_writeDigits (d :: ds) h]

/-- The digits of an exponent are read back. -/
theorem exponentDigits_digits (negative : Bool) (n : Nat) {rest : List Char} (h : NoDigit rest) :
    exponentDigits negative (Number.writeDigits (Number.digits n) ++ rest)
      = some (some (if negative then -(n : Int) else n), rest) := by
  obtain ⟨d, ds, hdigits, -⟩ := digits_eq_cons n
  rw [exponentDigits, takeDigits_writeDigits _ h, hdigits]
  show some (some (if negative then -(Number.ofDigits (d :: ds) : Int) else _), rest) = _
  rw [← hdigits, Number.ofDigits_digits]

/-- An exponent as it is written, or nothing when there is none. -/
def exponentText : Option Int → List Char
  | none => []
  | some e => 'e' :: (if e < 0 then '-' else '+') :: Number.writeDigits (Number.digits e.natAbs)

/-- An exponent is read back, when there is one. -/
theorem exponentPart_text (exponent : Option Int) {rest : List Char} (h : EndsNumber rest) :
    exponentPart (exponentText exponent ++ rest) = some (exponent, rest) := by
  cases exponent with
  | none =>
      show exponentPart rest = _
      rw [exponentPart]
      · rintro _ rfl
        exact h.2.2.1 rfl
      · rintro _ rfl
        exact h.2.2.2 rfl
  | some e =>
      by_cases he : e < 0
      · have htext : exponentText (some e) ++ rest
            = 'e' :: '-' :: (Number.writeDigits (Number.digits e.natAbs) ++ rest) := by
          simp [exponentText, he]
        rw [htext, exponentPart, exponentBody, exponentDigits_digits _ _ h.1]
        simp only [if_true]
        congr
        omega
      · have htext : exponentText (some e) ++ rest
            = 'e' :: '+' :: (Number.writeDigits (Number.digits e.natAbs) ++ rest) := by
          simp [exponentText, he]
        rw [htext, exponentPart, exponentBody, exponentDigits_digits _ _ h.1]
        simp only [Bool.false_eq_true, if_false]
        congr
        omega

/-- What is behind the digits is none. -/
theorem noDigit_exponentText (exponent : Option Int) {rest : List Char} (h : EndsNumber rest) :
    NoDigit (exponentText exponent ++ rest) ∧ (exponentText exponent ++ rest).head? ≠ some '.' := by
  cases exponent with
  | none => exact ⟨h.1, h.2.1⟩
  | some e =>
      refine ⟨fun c hc => ?_, nofun⟩
      obtain rfl : 'e' = c := Option.some.inj hc
      rfl

theorem noDigit_point (ds : List Number.Digit) {rest : List Char} (h : NoDigit rest) :
    NoDigit ((if ds.isEmpty then [] else '.' :: Number.writeDigits ds) ++ rest) := by
  cases ds with
  | nil => exact h
  | cons d ds =>
      intro c hc
      obtain rfl : '.' = c := Option.some.inj hc
      rfl

theorem unsigned_print (negative : Bool) (n : Numeral) {rest : List Char} (h : EndsNumber rest) :
    unsigned negative (Number.writeDigits (Number.digits n.whole)
        ++ ((if n.fraction.isEmpty then [] else '.' :: Number.writeDigits n.fraction)
          ++ (exponentText n.exponent ++ rest)))
      = some (⟨negative, n.whole, n.fraction, n.exponent⟩, rest) := by
  obtain ⟨hdigit, hpoint⟩ := noDigit_exponentText n.exponent h
  rw [unsigned, wholePart_digits _ (noDigit_point _ hdigit)]
  show (fractionPart _).bind _ = _
  rw [fractionPart_digits _ hdigit hpoint]
  show (exponentPart _).bind _ = _
  rw [exponentPart_text _ h]
  rfl

/-- A number begins with its sign or with a digit. -/
theorem Numeral.print_eq_cons (n : Numeral) :
    ∃ c cs, n.print = c :: cs ∧ (c = '-' ∨ ∃ d : Number.Digit, c = d.char) := by
  obtain ⟨d, ds, hdigits, -⟩ := digits_eq_cons n.whole
  unfold Numeral.print
  cases n.negative with
  | true => exact ⟨_, _, rfl, Or.inl rfl⟩
  | false =>
      rw [hdigits]
      exact ⟨_, _, rfl, Or.inr ⟨d, rfl⟩⟩

/-- **A number that was written is read back.** -/
theorem numeral_print (n : Numeral) {rest : List Char} (h : EndsNumber rest) :
    numeral (n.print ++ rest) = some (n, rest) := by
  have htext : n.print ++ rest = (if n.negative then ['-'] else [])
      ++ (Number.writeDigits (Number.digits n.whole)
        ++ ((if n.fraction.isEmpty then [] else '.' :: Number.writeDigits n.fraction)
          ++ (exponentText n.exponent ++ rest))) := by
    simp only [Numeral.print, List.append_assoc]
    rfl
  have hread := unsigned_print n.negative n h
  rw [htext]
  obtain ⟨negative, whole, fraction, exponent⟩ := n
  cases negative with
  | true => exact hread
  | false =>
      show numeral (Number.writeDigits (Number.digits whole) ++ _) = _
      rw [numeral]
      · exact hread
      · -- a digit is no sign
        intro cs hc
        obtain ⟨d, ds, hdigits, -⟩ := digits_eq_cons whole
        rw [hdigits] at hc
        have hdigit := Number.digit?_char d
        rw [(List.cons.inj hc).1] at hdigit
        cases hdigit

end Json

end ProjectViews
