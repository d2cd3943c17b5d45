/-
Reading JSON.

The grammar is the strict one: blanks are the space, the tab, the line feed and the
carriage return; numbers have no leading zeros and no plus sign; strings hold no raw
control characters; nothing but blanks follows the value.  Each reader takes what it
needs from the front of a text and returns what is left.  The value itself is read
with a bound on its nesting; `parse` gives a bound that no text of that length can
reach.
-/
import ProjectViews.Json.Tree

namespace ProjectViews

namespace Json

namespace Reader

/-- Whether a character may stand between the parts of a JSON text. -/
def isSpace (c : Char) : Bool := c == ' ' || c == '\t' || c == '\n' || c == '\r'

/-- A text without the blanks it starts with. -/
def skipSpace (cs : List Char) : List Char := cs.dropWhile isSpace

/-- The value of a hexadecimal digit. -/
def hexValue? (c : Char) : Option Nat :=
  if '0' ≤ c ∧ c ≤ '9' then some (c.toNat - 48)
  else if 'a' ≤ c ∧ c ≤ 'f' then some (c.toNat - 87)
  else if 'A' ≤ c ∧ c ≤ 'F' then some (c.toNat - 55)
  else none

/-- The value of four hexadecimal digits. -/
def hexUnit? (a b c d : Char) : Option Nat := do
  let a ← hexValue? a
  let b ← hexValue? b
  let c ← hexValue? c
  let d ← hexValue? d
  pure (((a * 16 + b) * 16 + c) * 16 + d)

/-- What stands in a string: a character, or a 16-bit unit written in hexadecimal. -/
inductive Piece where
  | char (c : Char)
  | unit (n : Nat)
deriving DecidableEq, Repr

/-- The character that a letter behind a backslash stands for. -/
def escaped? (c : Char) : Option Char :=
  if c = '"' then some '"'
  else if c = '\\' then some '\\'
  else if c = '/' then some '/'
  else if c = 'b' then some '\x08'
  else if c = 'f' then some '\x0c'
  else if c = 'n' then some '\n'
  else if c = 'r' then some '\r'
  else if c = 't' then some '\t'
  else none

/-- What stands in a string, up to its closing quote, and what follows the quote. -/
def stringPieces : List Char → Option (List Piece × List Char)
  | [] => none
  | '"' :: rest => some ([], rest)
  | '\\' :: 'u' :: a :: b :: c :: d :: rest => do
    let n ← hexUnit? a b c d
    let (ps, rest) ← stringPieces rest
    pure (.unit n :: ps, rest)
  | '\\' :: e :: rest => do
    let c ← escaped? e
    let (ps, rest) ← stringPieces rest
    pure (.char c :: ps, rest)
  | c :: rest =>
    if c.toNat < 32 then none
    else do
      let (ps, rest) ← stringPieces rest
      pure (.char c :: ps, rest)

/-- The characters of a string: two surrogates in a row, a high one and a low one,
are one character, and a surrogate on its own is none. -/
def joinPieces : List Piece → Option (List Char)
  | [] => some []
  | .char c :: ps => (joinPieces ps).map (c :: ·)
  | .unit h :: .unit l :: ps =>
    if 0xD800 ≤ h ∧ h < 0xDC00 then
      if 0xDC00 ≤ l ∧ l < 0xE000 then
        (joinPieces ps).map (Char.ofNat (0x10000 + (h - 0xD800) * 0x400 + (l - 0xDC00)) :: ·)
      else none
    else if 0xDC00 ≤ h ∧ h < 0xE000 then none
    else (joinPieces (.unit l :: ps)).map (Char.ofNat h :: ·)
  | .unit h :: ps =>
    if 0xD800 ≤ h ∧ h < 0xE000 then none else (joinPieces ps).map (Char.ofNat h :: ·)

/-- A string behind its opening quote, and what follows it. -/
def stringBody (cs : List Char) : Option (Option String × List Char) := do
  let (ps, rest) ← stringPieces cs
  pure ((joinPieces ps).map String.ofList, rest)

/-- A whole part: a zero alone, or digits that do not start with a zero. -/
def wholePart (cs : List Char) : Option (Nat × List Char) :=
  match cs with
  | '0' :: rest => some (0, rest)
  | _ =>
    match Number.takeDigits cs with
    | ([], _) => none
    | (ds, rest) => some (Number.ofDigits ds, rest)

/-- The digits behind a decimal point, when there is one. -/
def fractionPart (cs : List Char) : Option (List Number.Digit × List Char) :=
  match cs with
  | '.' :: rest =>
    match Number.takeDigits rest with
    | ([], _) => none
    | (ds, rest) => some (ds, rest)
  | _ => some ([], cs)

/-- The digits of an exponent, with the sign that stood before them. -/
def exponentDigits (negative : Bool) (cs : List Char) : Option (Option Int × List Char) :=
  match Number.takeDigits cs with
  | ([], _) => none
  | (ds, rest) =>
    let n : Int := Number.ofDigits ds
    some (some (if negative then -n else n), rest)

/-- The exponent behind the letter that starts it. -/
def exponentBody (cs : List Char) : Option (Option Int × List Char) :=
  match cs with
  | '-' :: rest => exponentDigits true rest
  | '+' :: rest => exponentDigits false rest
  | _ => exponentDigits false cs

/-- An exponent, when there is one. -/
def exponentPart (cs : List Char) : Option (Option Int × List Char) :=
  match cs with
  | 'e' :: rest => exponentBody rest
  | 'E' :: rest => exponentBody rest
  | _ => some (none, cs)

/-- A number without its sign. -/
def unsigned (negative : Bool) (cs : List Char) : Option (Numeral × List Char) := do
  let (whole, cs) ← wholePart cs
  let (fraction, cs) ← fractionPart cs
  let (exponent, cs) ← exponentPart cs
  pure (⟨negative, whole, fraction, exponent⟩, cs)

/-- A number. -/
def numeral (cs : List Char) : Option (Numeral × List Char) :=
  match cs with
  | '-' :: rest => unsigned true rest
  | _ => unsigned false cs

/-- The items of an array behind its first one, for at most `fuel` of them. -/
def items {α : Type} (item : List Char → Option (α × List Char)) :
    (fuel : Nat) → List Char → Option (List α × List Char)
  | 0, _ => none
  | fuel + 1, cs =>
    match skipSpace cs with
    | ',' :: rest => do
      let (x, rest) ← item rest
      let (xs, rest) ← items item fuel rest
      pure (x :: xs, rest)
    | ']' :: rest => some ([], rest)
    | _ => none

/-- An array behind its opening bracket. -/
def arrayBody {α : Type} (item : List Char → Option (α × List Char)) (cs : List Char) :
    Option (List α × List Char) :=
  match skipSpace cs with
  | ']' :: rest => some ([], rest)
  | _ => do
    let (x, rest) ← item cs
    let (xs, rest) ← items item cs.length rest
    pure (x :: xs, rest)

/-- A name, its colon and the value behind it. -/
def member {α : Type} (item : List Char → Option (α × List Char)) (cs : List Char) :
    Option ((Option String × α) × List Char) :=
  match skipSpace cs with
  | '"' :: rest => do
    let (name, rest) ← stringBody rest
    match skipSpace rest with
    | ':' :: rest => do
      let (x, rest) ← item rest
      pure ((name, x), rest)
    | _ => none
  | _ => none

/-- The members of an object behind its first one, for at most `fuel` of them. -/
def members {α : Type} (item : List Char → Option (α × List Char)) :
    (fuel : Nat) → List Char → Option (List (Option String × α) × List Char)
  | 0, _ => none
  | fuel + 1, cs =>
    match skipSpace cs with
    | ',' :: rest => do
      let (x, rest) ← member item rest
      let (xs, rest) ← members item fuel rest
      pure (x :: xs, rest)
    | '\x7d' :: rest => some ([], rest)
    | _ => none

/-- An object behind its opening brace. -/
def objectBody {α : Type} (item : List Char → Option (α × List Char)) (cs : List Char) :
    Option (List (Option String × α) × List Char) :=
  match skipSpace cs with
  | '\x7d' :: rest => some ([], rest)
  | _ => do
    let (x, rest) ← member item cs
    let (xs, rest) ← members item cs.length rest
    pure (x :: xs, rest)

/-- A value, with at most `levels - 1` arrays and objects open at any place. -/
def value : (levels : Nat) → List Char → Option (Tree × List Char)
  | 0, _ => none
  | levels + 1, cs =>
    match skipSpace cs with
    | 'n' :: 'u' :: 'l' :: 'l' :: rest => some (.null, rest)
    | 't' :: 'r' :: 'u' :: 'e' :: rest => some (.bool true, rest)
    | 'f' :: 'a' :: 'l' :: 's' :: 'e' :: rest => some (.bool false, rest)
    | '"' :: rest => (stringBody rest).map fun (s, rest) => (.string s, rest)
    | '[' :: rest => (arrayBody (value levels) rest).map fun (ts, rest) => (.array ts, rest)
    | '\x7b' :: rest => (objectBody (value levels) rest).map fun (ms, rest) => (.object ms, rest)
    | cs => (numeral cs).map fun (n, rest) => (.number n, rest)

end Reader

/-- The tree of a JSON text, or `none` when the text is not JSON. -/
def Tree.parseChars (cs : List Char) : Option Tree :=
  match Reader.value (cs.length + 1) cs with
  | some (t, rest) => if (Reader.skipSpace rest).isEmpty then some t else none
  | none => none

/-- The tree of a JSON text, or `none` when the text is not JSON. -/
def Tree.parse (s : String) : Option Tree := Tree.parseChars s.toList

end Json

end ProjectViews
