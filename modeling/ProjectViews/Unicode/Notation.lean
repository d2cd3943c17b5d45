/-
Tables of characters, written as text.

A character is written as its number in hexadecimal.  A set of characters is a text of
single characters and of ranges, such as `ad 2060-2064`.

A table says for characters what others belong to them.  Each of its entries starts with
a character and goes on with those that follow it one by one: `132:69.6a,6b` gives the
first of two neighbours two characters and the second one.  A range stands for as many
items as it has characters.  After a slash the entry goes on with every second character,
and so do its ranges: `246/247-24b` gives 246, 248 and 24a their successors.
-/
import Std.Data.HashMap
import ProjectViews.Text.Percent
import ProjectViews.Text.Split

namespace ProjectViews

namespace Unicode

/-- The number that hexadecimal digits write. -/
def number (digits : List Char) : Nat :=
  digits.foldl (fun n c => 16 * n + (Percent.value? c).getD 0) 0

/-- The words on the lines of a text. -/
def words (text : String) : List (List Char) :=
  ((Text.pieces ['\n'] text.toList).flatMap (Text.pieces [' '])).filter fun word => !word.isEmpty

/-! ### Sets -/

/-- A set of characters, as ranges of their numbers. -/
structure Ranges where
  bounds : List (Nat × Nat)
deriving DecidableEq, Repr, Inhabited

namespace Ranges

/-- Whether a character is in a set. -/
def contains (r : Ranges) (c : Char) : Bool :=
  r.bounds.any fun (first, last) => first ≤ c.toNat && c.toNat ≤ last

/-- The set that a text writes. -/
def ofText (text : String) : Ranges :=
  ⟨(words text).map fun word =>
    match Text.cut? ['-'] word with
    | some (first, last) => (number first, number last)
    | none => (number word, number word)⟩

end Ranges

/-! ### Tables -/

/-- A table: for the numbers of characters, the characters that belong to them. -/
abbrev Table := Std.HashMap Nat (List Char)

/-- The characters of a range with a step between neighbours. -/
def stretch (step first last : Nat) : List Char :=
  (List.range ((last - first) / step + 1)).map fun i => Char.ofNat (first + step * i)

/-- What an item of an entry gives to one character, or to several. -/
def items (step : Nat) (item : List Char) : List (List Char) :=
  match Text.cut? ['-'] item with
  | some (first, last) => (stretch step (number first) (number last)).map fun c => [c]
  | none => [(Text.pieces ['.'] item).map fun part => Char.ofNat (number part)]

/-- What an entry gives to characters from a first one on. -/
def entry (step : Nat) (first rest : List Char) : List (Nat × List Char) :=
  ((Text.pieces [','] rest).flatMap (items step)).zipIdx.map fun (cs, i) =>
    (number first + step * i, cs)

/-- The rows of a table. -/
def rows (text : String) : List (Nat × List Char) :=
  (words text).flatMap fun word =>
    match Text.cut? [':'] word with
    | some (first, rest) => entry 1 first rest
    | none =>
      match Text.cut? ['/'] word with
      | some (first, rest) => entry 2 first rest
      | none => []

/-- The table that a text writes. -/
def Table.ofText (text : String) : Table := .ofList (rows text)

end Unicode

end ProjectViews
