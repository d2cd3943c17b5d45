/-
Doubles that are read step by step.

The nearest double to a decimal takes numbers of any size to find.  Here a decimal is read with
words and doubles alone: as many of its digits as there is room for in a word are turned into a
double, and this is multiplied with a power of ten or divided by one.  Each step rounds, so the
result may be next to the nearest double.
-/
import ProjectViews.Number.Digits
import ProjectViews.Number.Double

namespace ProjectViews

namespace Number

/-- The number that a run of digits writes behind `n`, as far as there is room in a word, and the
digits for which there is none. -/
def fillWord (n : Nat) : List Digit → Nat × List Digit
  | [] => (n, [])
  | d :: ds =>
    if 10 * n + d.val < UInt64.size then fillWord (10 * n + d.val) ds else (n, d :: ds)

/-- The exponent of the greatest power of ten that is a double. -/
def greatestTen : Nat := 308

namespace Magnitude

/-- A power of ten, rounded. -/
def tenPow (n : Nat) : Magnitude := ofNat (Nat.pow 10 n)

/-- A magnitude divided by the greatest power of ten, as often as is said or until nothing is left
of it. -/
def scaleDown : (times : Nat) → Magnitude → Magnitude
  | 0, x => x
  | times + 1, x =>
    if x.mantissa = 0 then x else scaleDown times (x.div (tenPow greatestTen))

end Magnitude

namespace Scientific

/-- The magnitude of a number by one product with a power of ten or by quotients, or `none` when it
is too large for a double.  The coefficient has room in a word. -/
def stepwise? (x : Scientific) : Option Magnitude :=
  let coefficient := Magnitude.ofNat x.coefficient
  if 0 ≤ x.exponent then
    let power := x.exponent.toNat
    if greatestTen < power then
      if x.coefficient = 0 then some .zero else none
    else
      let product := coefficient.mul (.tenPow power)
      if product.isFinite then some product else none
  else
    let places := (-x.exponent).toNat
    let times := (places - 1) / greatestTen
    some ((coefficient.scaleDown times).div (.tenPow (places - times * greatestTen)))

end Scientific

end Number

end ProjectViews
