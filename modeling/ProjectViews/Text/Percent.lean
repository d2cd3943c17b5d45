/-
Percent encoding: bytes written as a percent sign and two hexadecimal digits.

Which characters are written so depends on where they stand; the others stand for
themselves.  Decoding takes a percent sign for itself when no two hexadecimal digits
follow it.
-/
import ProjectViews.Text.Utf8

namespace ProjectViews

namespace Percent

/-- The upper-case hexadecimal digit of a number below sixteen. -/
def digit (n : Nat) : Char := if n < 10 then Char.ofNat (48 + n) else Char.ofNat (55 + n)

/-- The value of a hexadecimal digit. -/
def value? (c : Char) : Option Nat :=
  if '0' ≤ c ∧ c ≤ '9' then some (c.toNat - 48)
  else if 'a' ≤ c ∧ c ≤ 'f' then some (c.toNat - 87)
  else if 'A' ≤ c ∧ c ≤ 'F' then some (c.toNat - 55)
  else none

/-- A byte as a percent sign and two digits. -/
def ofByte (b : Utf8.Byte) : List Char := ['%', digit (b.val / 16), digit (b.val % 16)]

/-- A character as it stands in a place that encodes the characters of `set`. -/
def encodeChar (set : Char → Bool) (c : Char) : List Char :=
  if set c then (Utf8.encodeChar c).flatMap ofByte else [c]

/-- A text as it stands in a place that encodes the characters of `set`. -/
def encode (set : Char → Bool) (cs : List Char) : List Char := cs.flatMap (encodeChar set)

/-- The bytes that a text writes. -/
def decode : List Char → List Utf8.Byte
  | [] => []
  | '%' :: a :: b :: rest =>
    match value? a, value? b with
    | some a, some b => Utf8.byte (a * 16 + b) :: decode rest
    | _, _ => Utf8.byte 37 :: decode (a :: b :: rest)
  | c :: rest => Utf8.encodeChar c ++ decode rest

/-- The text that a text writes, when its bytes are UTF-8. -/
def decodeText? (cs : List Char) : Option (List Char) := Utf8.decode? (decode cs)

end Percent

/-! ### Forms

In a form a space is written as a plus sign, and every character except letters,
digits and four signs is percent-encoded.
-/

namespace Form

/-- Whether a character is percent-encoded in a form. -/
def isEncoded (c : Char) : Bool :=
  !(('a' ≤ c ∧ c ≤ 'z') || ('A' ≤ c ∧ c ≤ 'Z') || ('0' ≤ c ∧ c ≤ '9')
    || c == '*' || c == '-' || c == '.' || c == '_')

/-- A character of a form. -/
def encodeChar (c : Char) : List Char :=
  if c = ' ' then ['+'] else Percent.encodeChar isEncoded c

/-- A text of a form. -/
def encode (cs : List Char) : List Char := cs.flatMap encodeChar

/-- Names and their values as one text. -/
def encodePairs : List (List Char × List Char) → List Char
  | [] => []
  | [(name, value)] => encode name ++ '=' :: encode value
  | (name, value) :: rest => encode name ++ '=' :: (encode value ++ '&' :: encodePairs rest)

/-- The text that a text of a form writes. -/
def decode (cs : List Char) : List Char :=
  Utf8.decodeLossy (Percent.decode (cs.map fun c => if c = '+' then ' ' else c))

end Form

end ProjectViews
