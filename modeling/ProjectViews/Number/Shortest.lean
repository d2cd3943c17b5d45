/-
The shortest decimal that rounds to a given double.

Each double is the nearest one to every number of an interval around it; the ends
of the interval belong to it exactly when the mantissa is even.  Among the decimals
with one, two, three, … significant digits the first grid that meets the interval
wins, and on that grid the number nearest to the double is taken: one of its two
neighbours.
-/
import ProjectViews.Number.Digits
import ProjectViews.Number.Double

namespace ProjectViews

namespace Number

/-- The significant digits of a positive decimal and the place of its point: the
number is `0.d₁d₂… * 10 ^ point`. -/
structure Significant where
  digits : List Digit
  point : Int
deriving DecidableEq, Repr, Inhabited

namespace Magnitude

/-- The interval of the numbers that round to a magnitude: its lower end, the
magnitude itself and its upper end, as numerators over one denominator.  The
neighbour below a power of two is half as far away as the one above. -/
def interval (x : Magnitude) : (Nat × Nat × Nat) × Nat :=
  let low := if x.mantissa = Nat.pow 2 52 ∧ leastExponent < x.exponent then 4 * x.mantissa - 1
    else 4 * x.mantissa - 2
  let e := x.exponent - 2
  if 0 ≤ e then
    let unit := Nat.pow 2 e.toNat
    ((low * unit, 4 * x.mantissa * unit, (4 * x.mantissa + 2) * unit), 1)
  else ((low, 4 * x.mantissa, 4 * x.mantissa + 2), Nat.pow 2 (-e).toNat)

/-- Whether the number `n / d` rounds to the magnitude. -/
def roundsFrom (x : Magnitude) (n d : Nat) : Bool :=
  let ((low, _, high), den) := x.interval
  if x.mantissa % 2 = 0 then decide (low * d ≤ n * den) && decide (n * den ≤ high * d)
  else decide (low * d < n * den) && decide (n * den < high * d)

/-- The multiple `k` of `10 ^ place` as a quotient of naturals. -/
def gridPoint (k : Nat) (place : Int) : Nat × Nat :=
  if 0 ≤ place then (k * Nat.pow 10 place.toNat, 1) else (k, Nat.pow 10 (-place).toNat)

/-- The multiple of `10 ^ place` that is nearest to the magnitude among those that
round to it, a tie to the even one. -/
def onGrid? (x : Magnitude) (place : Int) : Option Nat :=
  let (n, d) := x.ratio
  let (sn, sd) := gridPoint 1 place
  let below := n * sd / (d * sn)
  let rest := n * sd % (d * sn)
  let fits (k : Nat) : Bool := x.roundsFrom (gridPoint k place).1 (gridPoint k place).2
  let preferAbove := d * sn < 2 * rest ∨ (d * sn = 2 * rest ∧ below % 2 = 1)
  let lowFits := 0 < below ∧ fits below
  if rest = 0 then (if lowFits then some below else none)
  else if fits (below + 1) ∧ (preferAbove ∨ ¬ lowFits) then some (below + 1)
  else if lowFits then some below
  else none

/-- The greatest `p` with `10 ^ p ≤ n / d`, searched for downwards from `p`. -/
def powerFrom (n d : Nat) : (tries : Nat) → (p : Int) → Int
  | 0, p => p
  | tries + 1, p =>
    if (gridPoint 1 p).1 * d ≤ n * (gridPoint 1 p).2 then p else powerFrom n d tries (p - 1)

/-- The power of ten of the first significant digit of a positive magnitude. -/
def power (x : Magnitude) : Int :=
  let (n, d) := x.ratio
  let bits : Int := floorLog2 n d + 1
  powerFrom n d 400 (if 0 ≤ bits then bits * 31 / 100 + 1 else bits * 30 / 100 + 1)

/-- The first grid with a decimal that rounds to the magnitude, from `places` digits
on, for at most `tries` grids. -/
def firstGrid (x : Magnitude) (power : Int) : (tries places : Nat) → Option (Nat × Int)
  | 0, _ => none
  | tries + 1, places =>
    let place := power + 1 - (places : Int)
    match x.onGrid? place with
    | some k => some (k, place)
    | none => firstGrid x power tries (places + 1)

/-- Digits without the zeros they end with. -/
def dropTrailingZeros (ds : List Digit) : List Digit :=
  (ds.reverse.dropWhile (· == .zero)).reverse

/-- The shortest decimal that rounds to a positive magnitude. -/
def shortest (x : Magnitude) : Significant :=
  match x.firstGrid x.power 17 1 with
  | some (k, place) =>
    let ds := Number.digits k
    ⟨dropTrailingZeros ds, place + (ds.length : Int)⟩
  | none => ⟨[], 0⟩

end Magnitude

end Number

end ProjectViews
