/-
UTF-8: characters as bytes.

A character takes one to four bytes.  Decoding accepts exactly what encoding gives: no
character has a longer form than it needs, and no surrogates or numbers beyond the last
character are taken.
-/
namespace ProjectViews

namespace Utf8

/-- A byte. -/
abbrev Byte := Fin 256

/-- A byte from a natural number. -/
def byte (n : Nat) : Byte := Fin.ofNat 256 n

/-- The bytes of a character. -/
def encodeChar (c : Char) : List Byte :=
  let n := c.toNat
  if n < 0x80 then [byte n]
  else if n < 0x800 then [byte (0xC0 + n / 0x40), byte (0x80 + n % 0x40)]
  else if n < 0x10000 then
    [byte (0xE0 + n / 0x1000), byte (0x80 + n / 0x40 % 0x40), byte (0x80 + n % 0x40)]
  else
    [byte (0xF0 + n / 0x40000), byte (0x80 + n / 0x1000 % 0x40), byte (0x80 + n / 0x40 % 0x40),
     byte (0x80 + n % 0x40)]

/-- The bytes of a text. -/
def encode (cs : List Char) : List Byte := cs.flatMap encodeChar

/-- The six bits that a byte after the first one carries. -/
def tail? (b : Byte) : Option Nat := if b.val / 0x40 = 2 then some (b.val % 0x40) else none

/-- The character with a number in a range, unless it is a surrogate. -/
def charIn? (least n : Nat) : Option Char :=
  if least ≤ n ∧ n.isValidChar then some (Char.ofNat n) else none

/-- The text that bytes write, or `none` when they are not UTF-8. -/
def decode? : List Byte → Option (List Char)
  | [] => some []
  | a :: rest =>
    if a.val < 0x80 then (decode? rest).map (Char.ofNat a.val :: ·)
    else
      match rest with
      | [] => none
      | b :: rest =>
        match tail? b with
        | none => none
        | some b =>
          if 0xC0 ≤ a.val ∧ a.val < 0xE0 then
            match charIn? 0x80 ((a.val - 0xC0) * 0x40 + b), decode? rest with
            | some c, some cs => some (c :: cs)
            | _, _ => none
          else
            match rest with
            | [] => none
            | c :: rest =>
              match tail? c with
              | none => none
              | some c =>
                if 0xE0 ≤ a.val ∧ a.val < 0xF0 then
                  match charIn? 0x800 ((a.val - 0xE0) * 0x1000 + b * 0x40 + c),
                    decode? rest with
                  | some x, some cs => some (x :: cs)
                  | _, _ => none
                else
                  match rest with
                  | [] => none
                  | d :: rest =>
                    match tail? d with
                    | none => none
                    | some d =>
                      if 0xF0 ≤ a.val ∧ a.val < 0xF8 then
                        match charIn? 0x10000
                            ((a.val - 0xF0) * 0x40000 + b * 0x1000 + c * 0x40 + d),
                          decode? rest with
                        | some x, some cs => some (x :: cs)
                        | _, _ => none
                      else none

/-! ### Bytes that need not be UTF-8 -/

/-- The least and the greatest byte that may follow a first byte. -/
def secondBytes (first : Nat) : Nat × Nat :=
  if first = 0xE0 then (0xA0, 0xBF)
  else if first = 0xED then (0x80, 0x9F)
  else if first = 0xF0 then (0x90, 0xBF)
  else if first = 0xF4 then (0x80, 0x8F)
  else (0x80, 0xBF)

/-- How many bytes follow the first byte of a character. -/
def tailLength (first : Nat) : Nat :=
  if first < 0xC2 then 0
  else if first < 0xE0 then 1
  else if first < 0xF0 then 2
  else if first < 0xF5 then 3
  else 0

/-- How many of some bytes go on with a character that starts with a byte. -/
def followers (first : Byte) (rest : List Byte) : Nat :=
  match rest.take (tailLength first.val) with
  | [] => 0
  | second :: others =>
    if (secondBytes first.val).1 ≤ second.val ∧ second.val ≤ (secondBytes first.val).2 then
      1 + (others.takeWhile fun b => (tail? b).isSome).length
    else 0

/-- The text that bytes write.  The replacement character stands for bytes that begin a
character and do not end it, and for each byte that begins none. -/
def decodeLossy : List Byte → List Char
  | [] => []
  | first :: rest =>
    let n := followers first rest
    ((decode? (first :: rest.take n)).getD ['\uFFFD']) ++ decodeLossy (rest.drop n)
termination_by bytes => bytes.length
decreasing_by simp only [List.length_drop, List.length_cons]; omega

end Utf8

end ProjectViews
