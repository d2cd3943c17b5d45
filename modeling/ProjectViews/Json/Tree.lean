/-
JSON texts as they are written.

A tree keeps what a JSON text says before anyone decides what it means: a number is
its digits, an object is all of its members in their order, repeated names included,
and a string that no text can hold, one with an unpaired surrogate, is kept as
`none`.  What a reader does not look at may therefore be anything that is
well-formed, and what it does look at is judged when it is looked at.
-/
import ProjectViews.Number.Digits
import ProjectViews.Number.Stepwise

namespace ProjectViews

namespace Json

/-- A number as it is written: its sign, the whole part, the digits behind the point
and the exponent, when there is one. -/
structure Numeral where
  negative : Bool
  whole : Nat
  fraction : List Number.Digit
  exponent : Option Int
deriving DecidableEq, Repr, Inhabited

namespace Numeral

/-- Whether a number is written without a point and without an exponent. -/
def isWhole (n : Numeral) : Bool := n.fraction.isEmpty && n.exponent.isNone

/-- The number in scientific notation. -/
def scientific (n : Numeral) : Number.Scientific where
  negative := n.negative
  coefficient := Number.ofDigitsFrom n.whole n.fraction
  exponent := n.exponent.getD 0 - n.fraction.length

/-- The number with as many of its digits as there is room for in a word.  A digit in front of the
point for which there is none still counts as a place, and the digits behind the point are taken
as if it had not been there. -/
def leading (n : Numeral) : Number.Scientific :=
  let whole := Number.fillWord 0 (Number.digits n.whole)
  let all := Number.fillWord whole.1 n.fraction
  { negative := n.negative
    coefficient := all.1
    exponent := n.exponent.getD 0 + whole.2.length - n.fraction.length + all.2.length }

/-- A whole number, written plainly. -/
def ofInt (i : Int) : Numeral := ⟨decide (i < 0), i.natAbs, [], none⟩

end Numeral

/-- A JSON text as it is written. -/
inductive Tree where
  | null
  | bool (b : Bool)
  | number (n : Numeral)
  | string (s : Option String)
  | array (items : List Tree)
  | object (members : List (Option String × Tree))
deriving Repr, Inhabited

namespace Tree

/-- A string. -/
def text (s : String) : Tree := .string (some s)

/-- A natural number. -/
def nat (n : Nat) : Tree := .number (.ofInt n)

/-- An object with the given members. -/
def record (members : List (String × Tree)) : Tree :=
  .object (members.map fun (name, value) => (some name, value))

/-- A value, or null for none. -/
def orNull : Option Tree → Tree
  | some t => t
  | none => .null

mutual

/-- How many arrays and objects are open at the deepest place of a tree. -/
def nesting : Tree → Nat
  | .array items => nestingOfItems items + 1
  | .object members => nestingOfMembers members + 1
  | _ => 0

/-- The deepest nesting of the items of an array. -/
def nestingOfItems : List Tree → Nat
  | [] => 0
  | t :: rest => max t.nesting (nestingOfItems rest)

/-- The deepest nesting of the members of an object. -/
def nestingOfMembers : List (Option String × Tree) → Nat
  | [] => 0
  | (_, t) :: rest => max t.nesting (nestingOfMembers rest)

end

end Tree

end Json

end ProjectViews
