/-
Numbers as people type them: decimal digits, perhaps behind a sign.

A plus sign may stand before every number, a minus sign only where a negative number
could be meant.  Leading zeros do not matter.
-/
import ProjectViews.Number.Digits

namespace ProjectViews

namespace Number

/-- The number that digits write, at least one of them and nothing else. -/
def typedDigits? (cs : List Char) : Option Nat :=
  match digitsOf? cs with
  | some (d :: ds) => some (ofDigits (d :: ds))
  | _ => none

/-- The natural number that a text writes, perhaps behind a plus sign. -/
def typedNat? (s : String) : Option Nat :=
  match s.toList with
  | '+' :: cs => typedDigits? cs
  | cs => typedDigits? cs

/-- The whole number that a text writes, perhaps behind a sign. -/
def typedInt? (s : String) : Option Int :=
  match s.toList with
  | '-' :: cs => (typedDigits? cs).map fun n => -(n : Int)
  | _ => (typedNat? s).map fun n => (n : Int)

/-- A whole number as a 32-bit word, when it fits into one. -/
def toWord32? (i : Int) : Option UInt32 :=
  if 0 ≤ i ∧ i < 4294967296 then some (UInt32.ofNat i.toNat) else none

end Number

end ProjectViews
