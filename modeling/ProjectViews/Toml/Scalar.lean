/-
The simple TOML values as text: strings, numbers, and dates and times.

A string stands between double quotes, where a backslash starts an escape, or between
single quotes, where it does not.  Between three quotes a string may go over several
lines: a line end right behind the opening quotes does not count, every other one
counts as a line feed, and up to two quotes may stand right before the closing ones.
In a string of double quotes a backslash at the end of a line takes the line end and
all blanks behind it away.

Each reader takes what it needs from the front of a text and returns what is left.
-/
import ProjectViews.Number.Double
import ProjectViews.Number.Digits
import ProjectViews.Text.Percent
import ProjectViews.Text.Split
import ProjectViews.Time.Calendar
import ProjectViews.Toml.Value

namespace ProjectViews

namespace Toml

/-! ### Characters -/

/-- Whether a character is a blank within a line. -/
def isSpace (c : Char) : Bool := c == ' ' || c == '\t'

/-- Whether a character may stand in comments and strings: every one but the control
characters other than the tab. -/
def isPlain (c : Char) : Bool := c == '\t' || (32 ≤ c.toNat && c.toNat != 127)

/-- A text without the blanks it starts with. -/
def skipSpace (cs : List Char) : List Char := cs.dropWhile isSpace

/-- What follows a line end at the front of a text. -/
def afterLineEnd? : List Char → Option (List Char)
  | '\n' :: rest => some rest
  | '\r' :: '\n' :: rest => some rest
  | _ => none

/-- A text without the blanks and line ends it starts with. -/
def skipLines : List Char → List Char
  | ' ' :: rest => skipLines rest
  | '\t' :: rest => skipLines rest
  | '\n' :: rest => skipLines rest
  | '\r' :: '\n' :: rest => skipLines rest
  | cs => cs

/-! ### Strings -/

/-- The character with a number. -/
def charOf? (n : Nat) : Option Char := if h : n.isValidChar then some (Char.ofNatAux n h) else none

/-- The character that a number of hexadecimal digits write, and what follows them. -/
def hexChar? (width : Nat) (cs : List Char) : Option (Char × List Char) := do
  let digits ← (cs.take width).mapM Percent.value?
  if digits.length = width then do
    let c ← charOf? (digits.foldl (fun n d => 16 * n + d) 0)
    pure (c, cs.drop width)
  else none

/-- The character that an escape stands for, behind its backslash, and what follows the
escape. -/
def escaped? : List Char → Option (Char × List Char)
  | '"' :: rest => some ('"', rest)
  | '\\' :: rest => some ('\\', rest)
  | 'b' :: rest => some ('\x08', rest)
  | 'f' :: rest => some ('\x0c', rest)
  | 'n' :: rest => some ('\n', rest)
  | 'r' :: rest => some ('\r', rest)
  | 't' :: rest => some ('\t', rest)
  | 'u' :: rest => hexChar? 4 rest
  | 'U' :: rest => hexChar? 8 rest
  | _ => none

/-- A string on one line behind its opening quote, for at most `fuel` characters. -/
def lineString (quote : Char) : (fuel : Nat) → List Char → Option (List Char × List Char)
  | 0, _ => none
  | _, [] => none
  | fuel + 1, c :: cs =>
    if c = quote then some ([], cs)
    else if c = '\\' ∧ quote = '"' then do
      let (e, rest) ← escaped? cs
      let (s, rest) ← lineString quote fuel rest
      pure (e :: s, rest)
    else if isPlain c then do
      let (s, rest) ← lineString quote fuel cs
      pure (c :: s, rest)
    else none

/-- What a run of quotes in a string of several lines means: the quotes that belong to
the string, and what follows the string when it ends here. -/
def closing (quote : Char) (cs : List Char) : List Char × Option (List Char) :=
  let run := cs.takeWhile (· == quote)
  if run.length < 3 then (run, none)
  else
    let own := min (run.length - 3) 2
    (List.replicate own quote, some (cs.drop (own + 3)))

/-- A string of several lines behind its opening quotes, for at most `fuel` steps. -/
def blockString (quote : Char) : (fuel : Nat) → List Char → Option (List Char × List Char)
  | 0, _ => none
  | _, [] => none
  | fuel + 1, c :: cs =>
    if c = quote then
      match closing quote (c :: cs) with
      | (own, some rest) => some (own, rest)
      | (own, none) => do
        let (s, rest) ← blockString quote fuel ((c :: cs).drop own.length)
        pure (own ++ s, rest)
    else if c = '\\' ∧ quote = '"' then
      match afterLineEnd? (skipSpace cs) with
      | some rest => blockString quote fuel (skipLines rest)
      | none => do
        let (e, rest) ← escaped? cs
        let (s, rest) ← blockString quote fuel rest
        pure (e :: s, rest)
    else
      match afterLineEnd? (c :: cs) with
      | some rest => do
        let (s, rest) ← blockString quote fuel rest
        pure ('\n' :: s, rest)
      | none =>
        if isPlain c then do
          let (s, rest) ← blockString quote fuel cs
          pure (c :: s, rest)
        else none

/-- A string on one line. -/
def shortString? (cs : List Char) : Option (String × List Char) :=
  match cs with
  | quote :: rest =>
    if quote = '"' ∨ quote = '\'' then
      (lineString quote (rest.length + 1) rest).map fun (s, rest) => (String.ofList s, rest)
    else none
  | [] => none

/-- A string. -/
def string? (cs : List Char) : Option (String × List Char) :=
  match cs with
  | a :: b :: c :: rest =>
    if (a = '"' ∨ a = '\'') ∧ b = a ∧ c = a then
      let rest := (afterLineEnd? rest).getD rest
      (blockString a (rest.length + 1) rest).map fun (s, rest) => (String.ofList s, rest)
    else shortString? cs
  | _ => shortString? cs

/-! ### Numbers -/

/-- More digits at the front of a text, each perhaps behind an underscore. -/
def moreDigits (isDigit : Char → Bool) : List Char → List Char × List Char
  | '_' :: c :: cs =>
    if isDigit c then
      let (ds, rest) := moreDigits isDigit cs
      (c :: ds, rest)
    else ([], '_' :: c :: cs)
  | c :: cs =>
    if isDigit c then
      let (ds, rest) := moreDigits isDigit cs
      (c :: ds, rest)
    else ([], c :: cs)
  | [] => ([], [])

/-- The digits at the front of a text, with single underscores between them. -/
def digitRun (isDigit : Char → Bool) (cs : List Char) : List Char × List Char :=
  match cs with
  | c :: rest =>
    if isDigit c then
      let (ds, rest) := moreDigits isDigit rest
      (c :: ds, rest)
    else ([], cs)
  | [] => ([], [])

/-- Decimal digits at the front of a text. -/
def decimals (cs : List Char) : Option (List Number.Digit × List Char) :=
  let (ds, rest) := digitRun Number.isDigit cs
  match Number.digitsOf? ds with
  | some (d :: ds) => some (d :: ds, rest)
  | _ => none

/-- A whole part: a zero alone, or digits that do not start with a zero. -/
def wholePart (cs : List Char) : Option (List Number.Digit × List Char) :=
  match cs with
  | '0' :: rest => some ([.zero], rest)
  | _ => decimals cs

/-- The sign at the front of a number: whether it is a minus sign, and what follows. -/
def signPart (cs : List Char) : Bool × List Char :=
  match cs with
  | '-' :: rest => (true, rest)
  | '+' :: rest => (false, rest)
  | _ => (false, cs)

/-- The digits behind a point, none when there is no point. -/
def fraction (cs : List Char) : Option (List Number.Digit × List Char) :=
  match cs with
  | '.' :: rest => decimals rest
  | _ => some ([], cs)

/-- The exponent behind its letter, when there is one. -/
def exponent (cs : List Char) : Option (Option Int × List Char) :=
  match cs with
  | c :: rest =>
    if c = 'e' ∨ c = 'E' then do
      let (negative, rest) := signPart rest
      let (ds, rest) ← decimals rest
      let n : Int := Number.ofDigits ds
      pure (some (if negative then -n else n), rest)
    else some (none, cs)
  | [] => some (none, cs)

/-- Whether a whole number fits into 64 bits with its sign. -/
def fits (i : Int) : Bool := decide (-9223372036854775808 ≤ i ∧ i < 9223372036854775808)

/-- A whole number as a value, when it is not too large. -/
def integer? (i : Int) : Option Value := if fits i then some (.integer i) else none

/-- A number with a fraction or an exponent.  One that is too large for a double is
infinite, which only a negative one may be. -/
def float? (x : Number.Scientific) : Option Value :=
  match x.double? with
  | some d => some (.float (some d))
  | none => if x.negative then some (.float none) else none

/-- A decimal number. -/
def decimal? (cs : List Char) : Option (Value × List Char) := do
  let (negative, cs) := signPart cs
  let (whole, cs) ← wholePart cs
  let (places, cs) ← fraction cs
  let (power, cs) ← exponent cs
  if places.isEmpty ∧ power.isNone then do
    let n : Int := Number.ofDigits whole
    let v ← integer? (if negative then -n else n)
    pure (v, cs)
  else do
    let v ← float?
      ⟨negative, Number.ofDigits (whole ++ places), power.getD 0 - (places.length : Int)⟩
    pure (v, cs)

/-- Whether a character is a digit of a base. -/
def isDigitOf (base : Nat) (c : Char) : Bool :=
  match Percent.value? c with
  | some d => d < base
  | none => false

/-- A whole number in a base, behind the letters that say which. -/
def based? (base : Nat) (cs : List Char) : Option (Value × List Char) := do
  let (ds, rest) := digitRun (isDigitOf base) cs
  if ds.isEmpty then none
  else do
    let n := ds.foldl (fun n c => base * n + (Percent.value? c).getD 0) 0
    let v ← integer? n
    pure (v, rest)

/-- A number. -/
def number? (cs : List Char) : Option (Value × List Char) :=
  match cs with
  | '0' :: 'x' :: rest => based? 16 rest
  | '0' :: 'o' :: rest => based? 8 rest
  | '0' :: 'b' :: rest => based? 2 rest
  | _ =>
    match (signPart cs).2 with
    | 'i' :: 'n' :: 'f' :: rest => some (.float none, rest)
    | 'n' :: 'a' :: 'n' :: rest => some (.float none, rest)
    | _ => decimal? cs

/-! ### Dates and times -/

/-- A number of exactly `width` digits between two bounds. -/
def clockPart (width low high : Nat) (cs : List Char) : Option (Nat × List Char) := do
  let ds ← Number.digitsOf? (cs.take width)
  let n := Number.ofDigits ds
  if ds.length = width ∧ low ≤ n ∧ n ≤ high then some (n, cs.drop width) else none

/-- What follows a sign that must stand at the front of a text. -/
def mark (c : Char) (cs : List Char) : Option (List Char) := Text.after? [c] cs

/-- What follows a date. -/
def afterDate? (cs : List Char) : Option (List Char) := do
  let (year, cs) ← clockPart 4 0 9999 cs
  let cs ← mark '-' cs
  let (month, cs) ← clockPart 2 1 12 cs
  let cs ← mark '-' cs
  let (day, cs) ← clockPart 2 1 31 cs
  if (Date.mk year month day).exists? then some cs else none

/-- What follows a time of day, whose second may have a fraction. -/
def afterTime? (cs : List Char) : Option (List Char) := do
  let (_, cs) ← clockPart 2 0 23 cs
  let cs ← mark ':' cs
  let (_, cs) ← clockPart 2 0 59 cs
  let cs ← mark ':' cs
  let (_, cs) ← clockPart 2 0 60 cs
  match cs with
  | '.' :: rest =>
    match Number.takeDigits rest with
    | ([], _) => none
    | (_, rest) => some rest
  | _ => some cs

/-- What follows a shift against universal time, when there is one. -/
def afterShift? (cs : List Char) : Option (List Char) :=
  match cs with
  | c :: rest =>
    if c = 'Z' ∨ c = 'z' then some rest
    else if c = '+' ∨ c = '-' then do
      let (_, cs) ← clockPart 2 0 23 rest
      let cs ← mark ':' cs
      let (_, cs) ← clockPart 2 0 59 cs
      pure cs
    else some cs
  | [] => some []

/-- What follows a date, a time of day or both. -/
def afterMoment? (cs : List Char) : Option (List Char) :=
  match afterDate? cs with
  | none => afterTime? cs
  | some rest =>
    match rest with
    | c :: clock =>
      if c = 'T' ∨ c = 't' ∨ c = ' ' then
        match afterTime? clock with
        | some rest => afterShift? rest
        | none => some rest
      else some rest
    | [] => some []

/-- A date, a time of day or both. -/
def moment? (cs : List Char) : Option (Value × List Char) := do
  let rest ← afterMoment? cs
  pure (.moment (String.ofList (cs.take (cs.length - rest.length))), rest)

end Toml

end ProjectViews
