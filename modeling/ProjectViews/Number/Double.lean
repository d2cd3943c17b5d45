/-
Double-precision numbers, exactly.

A double is a sign and a magnitude `mantissa * 2 ^ exponent`: a mantissa below
2^53 and an exponent of at least -1074, and the mantissa is at least 2^52 unless the
exponent is the least one.  Infinities and not-a-number are no values here; an
operation whose result is too large says so.

Everything is computed with natural numbers: a quotient of naturals is rounded to
the nearest double, a tie goes to the even mantissa, and nothing is ever rounded
twice.
-/
namespace ProjectViews

namespace Number

/-- The magnitude of a finite double. -/
structure Magnitude where
  mantissa : Nat
  exponent : Int
deriving DecidableEq, Repr, Inhabited

/-- A finite double. -/
structure Double where
  negative : Bool
  magnitude : Magnitude
deriving DecidableEq, Repr, Inhabited

/-- The quotient of two naturals rounded to the nearest natural, a tie to the even
one. -/
def roundQuotient (n d : Nat) : Nat :=
  let q := n / d
  let r := n % d
  if d < 2 * r ∨ (d = 2 * r ∧ q % 2 = 1) then q + 1 else q

/-- The greatest `k` with `2 ^ k ≤ n / d`, for positive `n` and `d`. -/
def floorLog2 (n d : Nat) : Int :=
  let a := Nat.log2 n
  let b := Nat.log2 d
  let reached := if b ≤ a then d * Nat.pow 2 (a - b) ≤ n else d ≤ n * Nat.pow 2 (b - a)
  if reached then (a : Int) - b else (a : Int) - b - 1

/-- The least exponent of a double. -/
def leastExponent : Int := -1074

/-- The greatest exponent of a double. -/
def greatestExponent : Int := 971

namespace Magnitude

/-- Zero. -/
def zero : Magnitude := ⟨0, leastExponent⟩

/-- The mantissa that rounding `n / d` to a multiple of `2 ^ exponent` gives. -/
def roundAt (n d : Nat) (exponent : Int) : Nat :=
  if 0 ≤ exponent then roundQuotient n (d * Nat.pow 2 exponent.toNat)
  else roundQuotient (n * Nat.pow 2 (-exponent).toNat) d

/-- The exponent with which `n / d` has 53 significant bits, or the least one when
that is not reached. -/
def exponentFor (n d : Nat) : Int := max (floorLog2 n d - 52) leastExponent

/-- The magnitude nearest to `n / d`, with an exponent as large as it takes. -/
def nearest (n d : Nat) : Magnitude :=
  if n = 0 then zero
  else
    let e := exponentFor n d
    let m := roundAt n d e
    if m = Nat.pow 2 53 then ⟨Nat.pow 2 52, e + 1⟩ else ⟨m, e⟩

/-- Whether a magnitude is small enough to be a double's. -/
def isFinite (x : Magnitude) : Bool := decide (x.exponent ≤ greatestExponent)

/-- The magnitude as a quotient of naturals. -/
def ratio (x : Magnitude) : Nat × Nat :=
  if 0 ≤ x.exponent then (x.mantissa * Nat.pow 2 x.exponent.toNat, 1)
  else (x.mantissa, Nat.pow 2 (-x.exponent).toNat)

/-- Whether one magnitude is at most another. -/
def le (x y : Magnitude) : Bool :=
  decide (x.ratio.1 * y.ratio.2 ≤ y.ratio.1 * x.ratio.2)

/-- The magnitude without its fraction. -/
def floor (x : Magnitude) : Nat := x.ratio.1 / x.ratio.2

/-- The product of two magnitudes, rounded. -/
def mul (x y : Magnitude) : Magnitude :=
  nearest (x.ratio.1 * y.ratio.1) (x.ratio.2 * y.ratio.2)

/-- The quotient of two magnitudes, rounded.  The second one is not zero. -/
def div (x y : Magnitude) : Magnitude :=
  nearest (x.ratio.1 * y.ratio.2) (x.ratio.2 * y.ratio.1)

/-- A natural number, rounded. -/
def ofNat (n : Nat) : Magnitude := nearest n 1

end Magnitude

/-- A number in scientific notation: `coefficient * 10 ^ exponent`, with a sign. -/
structure Scientific where
  negative : Bool
  coefficient : Nat
  exponent : Int
deriving DecidableEq, Repr, Inhabited

namespace Scientific

/-- A power of ten that the number is not below, for a positive coefficient: each
ten bits of the coefficient are worth at least three decimal places. -/
def leastPower (x : Scientific) : Int := x.exponent + (Nat.log2 x.coefficient * 3 / 10 : Nat)

/-- A power of ten that the number is below: a hundred bits of the coefficient are
worth at most thirty-one decimal places. -/
def greatestPower (x : Scientific) : Int :=
  x.exponent + ((Nat.log2 x.coefficient + 1) * 31 / 100 + 1 : Nat)

/-- The number as a quotient of naturals, without its sign. -/
def ratio (x : Scientific) : Nat × Nat :=
  if 0 ≤ x.exponent then (x.coefficient * Nat.pow 10 x.exponent.toNat, 1)
  else (x.coefficient, Nat.pow 10 (-x.exponent).toNat)

/-- The magnitude nearest to the number, or `none` when it is too large for a
double.  Numbers that are far too large or far too small are told by their power of
ten, so that no huge power is ever computed. -/
def magnitude? (x : Scientific) : Option Magnitude :=
  if x.coefficient = 0 then some Magnitude.zero
  else if 309 < x.leastPower then none
  else if x.greatestPower < -330 then some Magnitude.zero
  else
    let m := Magnitude.nearest x.ratio.1 x.ratio.2
    if m.isFinite then some m else none

/-- The double nearest to the number, or `none` when it is too large. -/
def double? (x : Scientific) : Option Double := x.magnitude?.map fun m => ⟨x.negative, m⟩

end Scientific

end Number

end ProjectViews
