/-
Cutting texts at separators, and joining them again.

Cutting is from left to right: the first place where the separator stands is a
cut, and the search goes on behind it.  The pieces of a text are therefore one
more than its cuts, and an empty text has one piece, the empty one.
-/
namespace ProjectViews

namespace Text

/-- What follows `lead` in a text that starts with it. -/
def after? : (lead cs : List Char) → Option (List Char)
  | [], cs => some cs
  | _ :: _, [] => none
  | l :: lead, c :: cs => if l = c then after? lead cs else none

/-- What follows `lead` is what the text has behind it. -/
theorem after?_eq_some_iff {lead cs rest : List Char} :
    after? lead cs = some rest ↔ cs = lead ++ rest := by
  induction lead generalizing cs with
  | nil => simp [after?]
  | cons l lead ih =>
    cases cs with
    | nil => simp [after?]
    | cons c cs =>
      rw [after?, List.cons_append, List.cons.injEq]
      by_cases h : l = c
      · rw [if_pos h, ih]
        exact ⟨fun hcs => ⟨h.symm, hcs⟩, fun hcs => hcs.2⟩
      · rw [if_neg h]
        exact ⟨fun hcs => (by cases hcs), fun hcs => absurd hcs.1.symm h⟩

/-- A text up to the first `separator` and what follows it, when it has one. -/
def cut? (separator : List Char) : List Char → Option (List Char × List Char)
  | [] => if separator.isEmpty then some ([], []) else none
  | c :: cs =>
    match after? separator (c :: cs) with
    | some rest => some ([], rest)
    | none => (cut? separator cs).map fun (piece, rest) => (c :: piece, rest)

/-- A text is cut where the separator stands for the first time. -/
theorem cut?_of_not_mem {c : Char} {piece : List Char} (h : c ∉ piece) (rest : List Char) :
    cut? [c] (piece ++ c :: rest) = some (piece, rest) := by
  induction piece with
  | nil => simp [cut?, after?]
  | cons d piece ih =>
    obtain ⟨hd, hpiece⟩ := not_or.mp (mt List.mem_cons.mpr h)
    simp [cut?, after?, hd, ih hpiece]

/-- A list of pieces with one more character at the front of the first. -/
def extendFirst (c : Char) : List (List Char) → List (List Char)
  | [] => [[c]]
  | piece :: rest => (c :: piece) :: rest

/-- The pieces of a text between the places where `separator` stands, once `skip`
characters that belong to a separator already found have been passed over. -/
def piecesAfter (separator : List Char) : (skip : Nat) → List Char → List (List Char)
  | _, [] => [[]]
  | skip + 1, _ :: cs => piecesAfter separator skip cs
  | 0, c :: cs =>
    match after? separator (c :: cs) with
    | some _ => [] :: piecesAfter separator (separator.length - 1) cs
    | none => extendFirst c (piecesAfter separator 0 cs)

/-- The pieces of a text between the places where `separator`, which is not empty,
stands. -/
def pieces (separator cs : List Char) : List (List Char) := piecesAfter separator 0 cs

/-- The pieces of a string between the places where `separator` stands. -/
def split (separator s : String) : List String :=
  (pieces separator.toList s.toList).map String.ofList

/-- A string up to the first `separator` and what follows it, when it has one. -/
def cutAt (separator s : String) : Option (String × String) :=
  (cut? separator.toList s.toList).map fun (a, b) => (String.ofList a, String.ofList b)

/-- The strings of a list with `separator` between neighbours. -/
def join (separator : String) : List String → String
  | [] => ""
  | [s] => s
  | s :: t :: rest => s ++ separator ++ join separator (t :: rest)

/-- What follows `lead` in a string that starts with it. -/
def afterStart? (lead s : String) : Option String :=
  (after? lead.toList s.toList).map String.ofList

/-- Whether a string starts with another. -/
def startsWith (s lead : String) : Bool := (after? lead.toList s.toList).isSome

/-- Whether a string ends with another. -/
def endsWith (s tail : String) : Bool := (after? tail.toList.reverse s.toList.reverse).isSome

/-- Whether a string holds another somewhere. -/
def holds (s part : String) : Bool := (cut? part.toList s.toList).isSome

end Text

end ProjectViews
