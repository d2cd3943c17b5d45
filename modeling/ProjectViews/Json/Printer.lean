/-
Writing JSON.

A tree is written without any blanks, its members in their order.  In a string the
quote, the backslash and the control characters are escaped, with a letter where
JSON has one and with four hexadecimal digits otherwise; every other character
stands for itself.  An exponent is always written with its sign.
-/
import ProjectViews.Json.Tree

namespace ProjectViews

namespace Json

/-- The character of a hexadecimal digit. -/
def hexDigit (n : Nat) : Char := if n < 10 then Char.ofNat (48 + n) else Char.ofNat (87 + n)

/-- A character inside a quoted string. -/
def escape (c : Char) : List Char :=
  if c = '"' then ['\\', '"']
  else if c = '\\' then ['\\', '\\']
  else if c = '\x08' then ['\\', 'b']
  else if c = '\x0c' then ['\\', 'f']
  else if c = '\n' then ['\\', 'n']
  else if c = '\r' then ['\\', 'r']
  else if c = '\t' then ['\\', 't']
  else if c.toNat < 32 then
    ['\\', 'u', '0', '0', hexDigit (c.toNat / 16), hexDigit (c.toNat % 16)]
  else [c]

/-- A string in quotes. -/
def quote (s : String) : List Char := '"' :: (s.toList.flatMap escape ++ ['"'])

/-- A number. -/
def Numeral.print (n : Numeral) : List Char :=
  (if n.negative then ['-'] else [])
    ++ Number.writeDigits (Number.digits n.whole)
    ++ (if n.fraction.isEmpty then [] else '.' :: Number.writeDigits n.fraction)
    ++ match n.exponent with
      | none => []
      | some e =>
        'e' :: (if e < 0 then '-' else '+') :: Number.writeDigits (Number.digits e.natAbs)

namespace Tree

mutual

/-- A tree as JSON text.  A string that no text can hold is written as the empty
one. -/
def printChars : Tree → List Char
  | .null => ['n', 'u', 'l', 'l']
  | .bool true => ['t', 'r', 'u', 'e']
  | .bool false => ['f', 'a', 'l', 's', 'e']
  | .number n => n.print
  | .string s => quote (s.getD "")
  | .array [] => ['[', ']']
  | .array (t :: rest) => '[' :: (t.printChars ++ printItems rest)
  | .object [] => ['\x7b', '\x7d']
  | .object ((name, t) :: rest) =>
    '\x7b' :: (quote (name.getD "") ++ ':' :: (t.printChars ++ printMembers rest))

/-- The items of an array behind the first one, and its end. -/
def printItems : List Tree → List Char
  | [] => [']']
  | t :: rest => ',' :: (t.printChars ++ printItems rest)

/-- The members of an object behind the first one, and its end. -/
def printMembers : List (Option String × Tree) → List Char
  | [] => ['\x7d']
  | (name, t) :: rest =>
    ',' :: (quote (name.getD "") ++ ':' :: (t.printChars ++ printMembers rest))

end

/-- A tree as JSON text. -/
def print (t : Tree) : String := String.ofList t.printChars

end Tree

end Json

end ProjectViews
