/-
Reading records from JSON.

A record is an object with known names.  Names it does not know are passed over
whatever they hold, but a known name may stand only once.  A record may also be
written as an array of its values in the order of its names, where names at the end
may be left out.  Each field then says for itself whether it must be there.
-/
import ProjectViews.Json.Value

namespace ProjectViews

namespace Json

/-- The values of a record by name. -/
abbrev Fields := String → Option Tree

/-- The values of a list of members by name. -/
def fieldsOf (members : List (Option String × Tree)) : Fields :=
  fun name => (members.find? fun m => m.1 == some name).map (·.2)

/-- Whether no known name stands twice, and every name is a text. -/
def unambiguous (names : List String) (members : List (Option String × Tree)) : Bool :=
  members.all (·.1.isSome) &&
    names.all fun name => decide ((members.filter fun m => m.1 == some name).length ≤ 1)

/-- The values of a record with the given names. -/
def fields? (names : List String) : Tree → Option Fields
  | .object members => if unambiguous names members then some (fieldsOf members) else none
  | .array items =>
    if items.length ≤ names.length then some (fieldsOf ((names.map some).zip items)) else none
  | _ => none

/-- A field that must be there. -/
def required {α : Type} (read : Tree → Option α) : Option Tree → Option α
  | some t => read t
  | none => none

/-- A field that has a value of its own when it is left out. -/
def orElse {α : Type} (default : α) (read : Tree → Option α) : Option Tree → Option α
  | some t => read t
  | none => some default

/-- A field that may be left out or null. -/
def optional {α : Type} (read : Tree → Option α) : Option Tree → Option (Option α)
  | some .null => some none
  | some t => (read t).map some
  | none => some none

/-- A string. -/
def string? : Tree → Option String
  | .string s => s
  | _ => none

/-- A natural number of at most 64 bits, written plainly. -/
def word? : Tree → Option UInt64
  | .number n =>
    if n.isWhole ∧ ¬ n.negative ∧ n.whole < UInt64.size then some (UInt64.ofNat n.whole)
    else none
  | _ => none

/-- A list. -/
def list? {α : Type} (read : Tree → Option α) : Tree → Option (List α)
  | .array items => items.mapM read
  | _ => none

/-- A member whose name is a text. -/
def named? {α : Type} (read : Tree → Option α) : Option String × Tree → Option (String × α)
  | (some name, t) => (read t).map fun x => (name, x)
  | (none, _) => none

/-- A dictionary of strings, of which the last one of each name counts. -/
def strings? : Tree → Option (List (String × String))
  | .object members => (members.mapM (named? string?)).map dictionary
  | _ => none

/-- One of a set of names, written as a string or as the one name of an object that
holds null. -/
def variant? {α : Type} (ofText : String → Option α) : Tree → Option α
  | .string (some s) => ofText s
  | .object [(some s, .null)] => ofText s
  | _ => none

/-- The JSON text of a dictionary of strings. -/
def ofStrings (entries : List (String × String)) : Tree :=
  .record (entries.map fun (name, s) => (name, .text s))

/-- A word as JSON. -/
def ofWord (n : UInt64) : Tree := .nat n.toNat

end Json

end ProjectViews
