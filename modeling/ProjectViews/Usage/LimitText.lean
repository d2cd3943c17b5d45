/-
Limits as product metadata writes them.

A limit is a decimal number: an optional sign, digits with at most one point among or
around them, and an optional exponent.  It is read as the nearest double, and a limit
is the whole part of that, at most the greatest 64-bit word.  A number below zero, a
number too large for a double, the word `unlimited` and any other text are no limit.
-/
import ProjectViews.Number.Digits
import ProjectViews.Number.Double
import ProjectViews.Text.Blank
import ProjectViews.Text.Caseless

namespace ProjectViews

namespace LimitText

/-- An exponent: a letter, an optional sign and digits, up to the end of the text. -/
def exponent? (cs : List Char) : Option Int :=
  match cs with
  | [] => some 0
  | c :: cs =>
    if c = 'e' ∨ c = 'E' then
      let (negative, cs) := match cs with
        | '-' :: rest => (true, rest)
        | '+' :: rest => (false, rest)
        | _ => (false, cs)
      match Number.takeDigits cs with
      | ([], _) => none
      | (ds, []) =>
        let n : Int := Number.ofDigits ds
        some (if negative then -n else n)
      | _ => none
    else none

/-- A number without its sign, up to the end of the text. -/
def unsigned? (negative : Bool) (cs : List Char) : Option Number.Scientific :=
  let (whole, cs) := Number.takeDigits cs
  let (fraction, cs) := match cs with
    | '.' :: rest => Number.takeDigits rest
    | _ => ([], cs)
  if whole.isEmpty ∧ fraction.isEmpty then none
  else (exponent? cs).map fun e =>
    ⟨negative, Number.ofDigits (whole ++ fraction), e - fraction.length⟩

/-- The number that a text writes. -/
def number? (cs : List Char) : Option Number.Scientific :=
  match cs with
  | '-' :: rest => unsigned? true rest
  | '+' :: rest => unsigned? false rest
  | _ => unsigned? false cs

/-- The limit that a number stands for. -/
def ofNumber (n : Number.Scientific) : Option UInt64 :=
  match n.double? with
  | some x =>
    if x.negative ∧ x.magnitude.mantissa ≠ 0 then none
    else some (UInt64.ofNat (min x.magnitude.floor (UInt64.size - 1)))
  | none => none

/-- The limit that a text writes. -/
def parse? (s : String) : Option UInt64 :=
  (number? (Text.trimChars s.toList)).bind ofNumber

end LimitText

end ProjectViews
