/-
The selection: the projects that a person has picked among the loaded rows.

A selection belongs to the generation of rows it was made in.  When it meets a
snapshot of another generation it is dropped, and when it meets one of its own it
forgets the projects whose rows have left the view.  Rows are never copied into it.
-/
import ProjectViews.View.State

namespace ProjectViews

/-- What can be done with the selected projects. -/
inductive Affordance where
  | none
  | single (row : Row)
  | bulk (rows : List Row)
deriving Repr, Inhabited

/-- The rows that an affordance is about. -/
def Affordance.rows : Affordance → List Row
  | none => []
  | single row => [row]
  | bulk rows => rows

/-- The name of a kind of affordance. -/
def Affordance.kind : Affordance → String
  | none => "none"
  | single _ => "single"
  | bulk _ => "bulk"

/-- An affordance in words. -/
def Affordance.describe : Affordance → String
  | none => "no projects selected"
  | single row => "selected project: " ++ row.name ++ " (" ++ row.uid ++ ")"
  | bulk rows => Number.write rows.length ++ " projects selected"

/-- The affordance for a number of rows. -/
def Affordance.ofRows : List Row → Affordance
  | [] => none
  | [row] => single row
  | rows => bulk rows

/-- The selected projects and the generation in which they were selected. -/
structure Selection where
  uids : List String
  generation : Option Nat
deriving DecidableEq, Repr

namespace Selection

/-- Nothing is selected. -/
def empty : Selection := ⟨[], none⟩

instance : Inhabited Selection := ⟨empty⟩

/-- Selects the given projects, as far as they are loaded, instead of all others. -/
def set (snapshot : Snapshot) (uids : List String) : Selection :=
  ⟨firsts (uids.filter fun uid => (snapshot.row? uid).isSome), some snapshot.generation⟩

/-- The selection after it has met a snapshot. -/
def sync (s : Selection) (snapshot : Snapshot) : Selection :=
  if s.generation = some snapshot.generation then
    { s with uids := s.uids.filter fun uid => (snapshot.row? uid).isSome }
  else ⟨[], some snapshot.generation⟩

/-- The selection with nothing selected. -/
def clear (s : Selection) : Selection := { s with uids := [] }

/-- Whether a project is selected. -/
def contains (s : Selection) (uid : String) : Bool := s.uids.contains uid

/-- How many projects are selected. -/
def size (s : Selection) : Nat := s.uids.length

/-- The rows of a snapshot whose projects are selected. -/
def rowsOf (s : Selection) (snapshot : Snapshot) : List Row :=
  snapshot.rows.filter fun row => s.contains row.uid

/-- The selected rows of a snapshot, in its order, and the selection after it has met
the snapshot. -/
def selectedRows (s : Selection) (snapshot : Snapshot) : List Row × Selection :=
  let s := s.sync snapshot
  (s.rowsOf snapshot, s)

/-- What can be done with the selected rows of a snapshot, and the selection after it
has met the snapshot. -/
def affordance (s : Selection) (snapshot : Snapshot) : Affordance × Selection :=
  let (rows, s) := s.selectedRows snapshot
  (.ofRows rows, s)

end Selection

end ProjectViews
