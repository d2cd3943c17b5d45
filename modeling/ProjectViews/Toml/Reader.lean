/-
Reading TOML.

A text is a list of lines.  Each holds a header, an entry or nothing, and may end in a
comment; an entry goes on over several lines inside an array and inside a string
between three quotes, and nowhere else.  Names are bare, of letters, digits, dashes and
underscores, or quoted, and dots between them make one name of several.  At most
seventy-nine arrays and tables between braces are open at any place, and a name has at
most as many parts.
-/
import ProjectViews.Toml.Document
import ProjectViews.Toml.Scalar

namespace ProjectViews

namespace Toml

/-- How many values may be open at a place, and how many parts a name may have. -/
def depthLimit : Nat := 79

/-! ### Names -/

/-- Whether a character may stand in a bare name. -/
def isBare (c : Char) : Bool := c.isAlphanum || c == '-' || c == '_'

/-- A name without dots. -/
def name? (cs : List Char) : Option (String × List Char) :=
  match shortString? cs with
  | some found => some found
  | none =>
    let bare := cs.takeWhile isBare
    if bare.isEmpty then none else some (String.ofList bare, cs.drop bare.length)

/-- The parts of a name, with blanks around them, for at most `fuel` of them. -/
def names? : (fuel : Nat) → List Char → Option (List String × List Char)
  | 0, _ => none
  | fuel + 1, cs => do
    let (name, rest) ← name? (skipSpace cs)
    match skipSpace rest with
    | '.' :: rest => do
      let (names, rest) ← names? fuel rest
      pure (name :: names, rest)
    | rest => some ([name], rest)

/-! ### Values -/

/-- What follows a comment at the front of a text, up to its line end. -/
def afterComment? (cs : List Char) : Option (List Char) :=
  match cs with
  | '#' :: rest => some (rest.dropWhile isPlain)
  | _ => none

/-- A text without the blanks, line ends and comments it starts with, for at most
`fuel` comments. -/
def skipComments : (fuel : Nat) → List Char → List Char
  | 0, cs => cs
  | fuel + 1, cs =>
    let cs := skipLines cs
    match (afterComment? cs).bind afterLineEnd? with
    | some rest => skipComments fuel rest
    | none => cs

/-- A text without what may stand around the items of an array. -/
def skipGaps (cs : List Char) : List Char := skipComments (cs.length + 1) cs

/-- The items of an array up to its closing bracket, for at most `fuel` of them. -/
def items? (value : List Char → Option (Value × List Char)) :
    (fuel : Nat) → List Char → Option (List Value × List Char)
  | 0, _ => none
  | fuel + 1, cs =>
    match skipGaps cs with
    | ']' :: rest => some ([], rest)
    | cs => do
      let (v, rest) ← value cs
      match skipGaps rest with
      | ',' :: rest => do
        let (vs, rest) ← items? value fuel rest
        pure (v :: vs, rest)
      | ']' :: rest => some ([v], rest)
      | _ => none

/-- A name, an equals sign and a value. -/
def assignment? (value : List Char → Option (Value × List Char)) (cs : List Char) :
    Option ((List String × Value) × List Char) := do
  let (names, rest) ← names? depthLimit cs
  match rest with
  | '=' :: rest => do
    let (v, rest) ← value (skipSpace rest)
    pure ((names, v), rest)
  | _ => none

/-- The entries of a table up to its closing brace, added to those before them, for at
most `fuel` of them. -/
def braced? (value : List Char → Option (Value × List Char)) :
    (fuel : Nat) → Entries → List Char → Option (Entries × List Char)
  | 0, _, _ => none
  | fuel + 1, es, cs => do
    let ((names, v), rest) ← assignment? value cs
    let es ← assign names v es
    match skipSpace rest with
    | ',' :: rest => braced? value fuel es rest
    | '\x7d' :: rest => some (es, rest)
    | _ => none

/-- A table behind its opening brace. -/
def bracedTable? (value : List Char → Option (Value × List Char)) (cs : List Char) :
    Option (Value × List Char) :=
  match skipSpace cs with
  | '\x7d' :: rest => some (.table .braces [], rest)
  | _ => (braced? value (cs.length + 1) [] cs).map fun (es, rest) => (.table .braces es, rest)

/-- A value without others inside it. -/
def simple? (cs : List Char) : Option (Value × List Char) :=
  match cs with
  | 't' :: 'r' :: 'u' :: 'e' :: rest => some (.boolean true, rest)
  | 'f' :: 'a' :: 'l' :: 's' :: 'e' :: rest => some (.boolean false, rest)
  | _ =>
    match string? cs with
    | some (s, rest) => some (.string s, rest)
    | none =>
      match moment? cs with
      | some found => some found
      | none => number? cs

/-- A value with at most `depth` others around a place in it. -/
def value? : (depth : Nat) → List Char → Option (Value × List Char)
  | 0, cs => simple? cs
  | depth + 1, cs =>
    match cs with
    | '[' :: rest =>
      (items? (value? depth) (rest.length + 1) rest).map fun (vs, rest) => (.array vs, rest)
    | '\x7b' :: rest => bracedTable? (value? depth) rest
    | _ => simple? cs

/-! ### Lines -/

/-- What follows the end of a line, before which blanks and a comment may stand. -/
def endLine? (cs : List Char) : Option (List Char) :=
  let cs := skipSpace cs
  let cs := (afterComment? cs).getD cs
  if cs.isEmpty then some [] else afterLineEnd? cs

/-- A header. -/
def header? (cs : List Char) : Option (Statement × List Char) :=
  match cs with
  | '[' :: '[' :: rest => do
    let (names, rest) ← names? depthLimit rest
    let rest ← Text.after? [']', ']'] rest
    pure (.item names, rest)
  | '[' :: rest => do
    let (names, rest) ← names? depthLimit rest
    let rest ← Text.after? [']'] rest
    pure (.header names, rest)
  | _ => none

/-- The statement of a line that holds one. -/
def statement? (cs : List Char) : Option (Statement × List Char) :=
  match cs with
  | '[' :: _ => header? cs
  | _ => (assignment? (value? depthLimit) cs).map fun ((names, v), rest) => (.entry names v, rest)

/-- The statements of a text, for at most `fuel` lines. -/
def statements? : (fuel : Nat) → List Char → Option (List Statement)
  | 0, _ => none
  | fuel + 1, cs =>
    let cs := skipSpace cs
    if cs.isEmpty then some []
    else
      match endLine? cs with
      | some rest => statements? fuel rest
      | none => do
        let (s, rest) ← statement? cs
        let rest ← endLine? rest
        let more ← statements? fuel rest
        pure (s :: more)

/-- The table that a text writes, or `none` when the text is not TOML.  A byte order
mark at its start does not count. -/
def parse (s : String) : Option Entries :=
  let cs := match s.toList with
    | '\uFEFF' :: rest => rest
    | cs => cs
  (statements? (cs.length + 1) cs).bind assemble

end Toml

end ProjectViews
