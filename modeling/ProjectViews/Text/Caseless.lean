/-
Comparing texts without regard to the case of ASCII letters.

Names that people type are matched caselessly, but only the letters `A` to `Z`
have a case here: every other character, accented letters included, stands for
itself alone.
-/
namespace ProjectViews

namespace Text

/-- The lower case of an ASCII letter; any other character is kept. -/
def lowerChar (c : Char) : Char := if 'A' ≤ c ∧ c ≤ 'Z' then Char.ofNat (c.toNat + 32) else c

/-- A string with its ASCII letters in lower case. -/
def lower (s : String) : String := String.ofList (s.toList.map lowerChar)

/-- Whether two strings agree up to the case of ASCII letters. -/
def sameLetters (s t : String) : Bool := s.toList.map lowerChar == t.toList.map lowerChar

end Text

end ProjectViews
