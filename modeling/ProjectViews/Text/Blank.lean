/-
Blank characters.

A character is blank when it has the Unicode property `White_Space`: the five
ASCII control characters from tab to carriage return, the space, and nineteen
characters beyond ASCII.  Texts that people type (field names, conditions, plan
intervals, limits, organization ids, database URLs) are trimmed of blanks at both
ends before they are read, and inside a text a blank is a character like any other.
-/
namespace ProjectViews

namespace Text

/-- The characters with the Unicode property `White_Space`. -/
def blanks : List Char :=
  ['\x09', '\x0a', '\x0b', '\x0c', '\x0d', ' ', '\u0085', '\u00a0', '\u1680',
   '\u2000', '\u2001', '\u2002', '\u2003', '\u2004', '\u2005', '\u2006', '\u2007',
   '\u2008', '\u2009', '\u200a', '\u2028', '\u2029', '\u202f', '\u205f', '\u3000']

/-- Whether a character is blank. -/
def isBlank (c : Char) : Bool := blanks.contains c

/-- A text without the blanks it starts with. -/
def trimLeft (cs : List Char) : List Char := cs.dropWhile isBlank

/-- A text without the blanks it ends with. -/
def trimRight (cs : List Char) : List Char := (cs.reverse.dropWhile isBlank).reverse

/-- A text without the blanks at its two ends. -/
def trimChars (cs : List Char) : List Char := trimRight (trimLeft cs)

/-- A string without the blanks at its two ends. -/
def trim (s : String) : String := String.ofList (trimChars s.toList)

end Text

end ProjectViews
