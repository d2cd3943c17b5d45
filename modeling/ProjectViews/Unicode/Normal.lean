/-
The normal form of texts.

Texts that mean the same have one normal form: every character is taken apart, the marks
behind a letter are put in the order of their classes, and what can be written as one
character is.  Marks of one class keep their order, for it says how they lie on each
other.
-/
import ProjectViews.Unicode.Composition
import ProjectViews.Unicode.Marks

namespace ProjectViews

namespace Unicode

/-! ### The order of marks -/

/-- Puts a character of a class behind others, of which the last one comes first, but
before marks of a higher class. -/
def settle (c : Char) (k : Nat) : List (Char × Nat) → List (Char × Nat)
  | [] => [(c, k)]
  | (d, j) :: front =>
    if 0 < k ∧ k < j then (d, j) :: settle c k front else (c, k) :: (d, j) :: front

/-- Characters with their classes, the marks in their order. -/
def inOrder (cs : List Char) : List (Char × Nat) :=
  (cs.foldl (fun front c => settle c (markClass c) front) []).reverse

/-! ### Composition -/

/-- A text while it is put together, its last character first. -/
structure Draft where
  /-- What stands before the letter. -/
  front : List Char
  /-- The letter that marks are waited for. -/
  letter : Option Char
  /-- The marks behind the letter that are not part of it. -/
  marks : List Char
  /-- The class of the last of them. -/
  lastClass : Nat
deriving Repr, Inhabited

namespace Draft

/-- A draft with nothing in it. -/
def empty : Draft := ⟨[], none, [], 0⟩

/-- All that stands in a draft. -/
def all (d : Draft) : List Char := d.marks ++ d.letter.toList ++ d.front

/-- A draft with a character that stays by itself. -/
def push (d : Draft) (c : Char) (k : Nat) : Draft :=
  if k = 0 then ⟨d.all, some c, [], 0⟩ else { d with marks := c :: d.marks, lastClass := k }

/-- A draft with one more character.  It becomes part of the letter if that can be and
no mark of its own class or a higher one lies between them. -/
def add (d : Draft) (c : Char) (k : Nat) : Draft :=
  match d.letter with
  | none => d.push c k
  | some letter =>
    if d.marks.isEmpty ∨ d.lastClass < k then
      match compose? letter c with
      | some whole => { d with letter := some whole }
      | none => d.push c k
    else d.push c k

end Draft

/-- Characters in order as few characters. -/
def composed (cs : List (Char × Nat)) : List Char :=
  (cs.foldl (fun d (c, k) => d.add c k) Draft.empty).all.reverse

/-- The normal form of a text.  Characters before the marks change nothing about each
other. -/
def normalize (cs : List Char) : List Char :=
  if cs.all fun c => c.toNat < 0x300 then cs else composed (inOrder (cs.flatMap decompose))

end Unicode

end ProjectViews
