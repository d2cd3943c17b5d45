/-
TOML values and tables.

A table remembers how it was written, because that decides what may still be added to
it.  A table between braces is finished where it stands.  A table with a header of its
own may get further tables below it by later headers.  A table that was only passed on
the way to another header may still get its own header, once.  A table made by a dotted
name grows by further dotted names next to the first one.
-/
import ProjectViews.Number.Double

namespace ProjectViews

namespace Toml

/-- How a table was written. -/
inductive Form where
  /-- Between braces. -/
  | braces
  /-- With a header of its own. -/
  | header
  /-- As a part of the way in another header. -/
  | passed
  /-- As a part of a dotted name. -/
  | dotted
deriving DecidableEq, Repr, Inhabited

/-- A TOML value. -/
inductive Value where
  | string (s : String)
  | integer (i : Int)
  /-- A number with a fraction or an exponent; there is no value for an infinite number
  and for one that is none. -/
  | float (x : Option Number.Double)
  | boolean (b : Bool)
  /-- A date, a time of day or both, as it is written. -/
  | moment (text : String)
  | array (items : List Value)
  | table (form : Form) (entries : List (String × Value))
  /-- Tables with the same header, one after the other. -/
  | tables (items : List (List (String × Value)))
deriving Repr, Inhabited

/-- The names of a table and their values, in the order in which they came. -/
abbrev Entries := List (String × Value)

/-- The value of a name. -/
def get? (name : String) (es : Entries) : Option Value :=
  (es.find? fun e => e.1 == name).map (·.2)

/-- Puts a value in the place of the one that a name has. -/
def replace (name : String) (v : Value) (es : Entries) : Entries :=
  es.map fun e => if e.1 == name then (name, v) else e

/-- Adds a name with its value, unless the name is taken. -/
def insertNew? (name : String) (v : Value) (es : Entries) : Option Entries :=
  match get? name es with
  | some _ => none
  | none => some (es ++ [(name, v)])

/-- Whether names of a kind of way lead into a table: a header leads into every table
that is not between braces, a dotted name only into those without a header. -/
def Form.admits (table way : Form) : Bool :=
  match table with
  | braces => false
  | header => way == passed
  | passed | dotted => true

/-- Changes the table at the end of a way, given as the names on it.  Tables that are
not there yet are made, in the form of the way.  Where several tables have the same
header, the way leads through the last one. -/
def change (way : Form) (act : Form → Entries → Option Entries) :
    (names : List String) → (form : Form) → Entries → Option Entries
  | [], form, es => act form es
  | name :: names, _, es =>
    match get? name es with
    | none => do
      let made ← change way act names way []
      pure (es ++ [(name, .table way made)])
    | some (.table form inner) =>
      if form.admits way then do
        let inner ← change way act names form inner
        pure (replace name (.table form inner) es)
      else none
    | some (.tables items) => do
      let last ← items.getLast?
      let last ← change way act names .header last
      pure (replace name (.tables (items.dropLast ++ [last])) es)
    | some _ => none

/-- Adds a value under a dotted name, given as its parts.  The last part must be new,
and a name with several parts adds only to tables that such names have made. -/
def assign (names : List String) (v : Value) (es : Entries) : Option Entries :=
  match names.getLast? with
  | none => none
  | some last =>
    change .dotted (fun form es =>
      if 1 < names.length ∧ form ≠ .dotted then none else insertNew? last v es)
      names.dropLast .header es

end Toml

end ProjectViews
