/-
Instants as text.

Instants are written in universal time, as a date, a `T`, a time and a `Z`, with as
many fraction digits as are needed among none, three, six and nine.  Years outside the
range of four digits carry a sign.

Reading is more forgiving.  Each number may be short of its leading zeros, blanks may
stand before each number and each sign between them, the letters may be in lower case
and a blank may stand for the `T`.  A year with a sign may have any number of digits,
and digits of a fraction beyond the ninth are passed over.  The zone is `Z`, `UTC` or a
shift of hours and minutes, with or without a colon, and the instant is the one in
universal time.
-/
import ProjectViews.Number.Digits
import ProjectViews.Text.Blank
import ProjectViews.Time.Instant

namespace ProjectViews

namespace Instant

/-- A number with zeros in front of it up to a width. -/
def padded (width n : Nat) : List Char :=
  let ds := Number.writeDigits (Number.digits n)
  List.replicate (width - ds.length) '0' ++ ds

/-- A year: four digits, or a sign and at least four digits outside their range. -/
def yearText (year : Int) : List Char :=
  if 0 ≤ year ∧ year ≤ 9999 then padded 4 year.toNat
  else (if year < 0 then '-' else '+') :: padded 4 year.natAbs

/-- A fraction of a second in nanoseconds, with as few digits as possible. -/
def fractionText (nanos : Nat) : List Char :=
  if nanos = 0 then []
  else if nanos % 1000000 = 0 then '.' :: padded 3 (nanos / 1000000)
  else if nanos % 1000 = 0 then '.' :: padded 6 (nanos / 1000)
  else '.' :: padded 9 nanos

/-- An instant in universal time. -/
def printChars (a : Instant) : List Char :=
  let date := Date.ofDays (a.seconds / 86400)
  let time := (a.seconds % 86400).toNat
  let leap := 1000000000 ≤ a.nanos
  let second := if leap then time % 60 + 1 else time % 60
  let nanos := if leap then a.nanos - 1000000000 else a.nanos
  yearText date.year ++ '-' :: (padded 2 date.month ++ '-' :: (padded 2 date.day
    ++ 'T' :: (padded 2 (time / 3600) ++ ':' :: (padded 2 (time / 60 % 60)
    ++ ':' :: (padded 2 second ++ (fractionText nanos ++ ['Z']))))))

/-- An instant in universal time. -/
def print (a : Instant) : String := String.ofList a.printChars

/-- The number that at most `most` digits at the front of a text write, at least one
of them. -/
def upTo (most : Nat) (cs : List Char) : Option (Nat × List Char) :=
  let (ds, rest) := Number.takeDigits cs
  if ds.isEmpty then none
  else some (Number.ofDigits (ds.take most), Number.writeDigits (ds.drop most) ++ rest)

/-- A number between two bounds, behind blanks. -/
def part (low high : Nat) (cs : List Char) : Option (Nat × List Char) := do
  let (n, rest) ← upTo 2 (Text.trimLeft cs)
  if low ≤ n ∧ n ≤ high then some (n, rest) else none

/-- A year, behind blanks: at most four digits, or a sign and any number of them. -/
def yearPart (cs : List Char) : Option (Int × List Char) :=
  match Text.trimLeft cs with
  | '-' :: rest => (upTo rest.length rest).map fun (n, rest) => (-(n : Int), rest)
  | '+' :: rest => (upTo rest.length rest).map fun (n, rest) => ((n : Int), rest)
  | cs => (upTo 4 cs).map fun (n, rest) => ((n : Int), rest)

/-- A sign that must stand at the front of a text, behind blanks. -/
def mark (c : Char) (cs : List Char) : Option (List Char) :=
  match Text.trimLeft cs with
  | d :: rest => if c = d then some rest else none
  | [] => none

/-- The nanoseconds of a fraction, when there is one. -/
def fractionPart (cs : List Char) : Option (Nat × List Char) :=
  match cs with
  | '.' :: rest =>
    let (ds, rest) := Number.takeDigits rest
    if ds.isEmpty then none
    else
      let ds := ds.take 9
      some (Number.ofDigits ds * Nat.pow 10 (9 - ds.length), rest)
  | _ => some (0, cs)

/-- Two digits at the front of a text. -/
def twoDigits (cs : List Char) : Option (Nat × List Char) :=
  match cs with
  | a :: b :: rest => do
    let a ← Number.digit? a
    let b ← Number.digit? b
    pure (10 * a.val + b.val, rest)
  | _ => none

/-- A shift against universal time in minutes, behind its sign. -/
def shiftPart (cs : List Char) : Option (Int × List Char) := do
  let (hours, rest) ← twoDigits cs
  let (minutes, rest) ← twoDigits (rest.dropWhile fun c => c == ':' || Text.isBlank c)
  if minutes < 60 ∧ hours < 24 then some ((hours : Int) * 60 + minutes, rest) else none

/-- The zone of a time: its shift against universal time in minutes. -/
def zonePart (cs : List Char) : Option (Int × List Char) :=
  match Text.trimLeft cs with
  | 'Z' :: rest => some (0, rest)
  | 'z' :: rest => some (0, rest)
  | '+' :: rest => shiftPart rest
  | '-' :: rest => (shiftPart rest).map fun (m, rest) => (-m, rest)
  | '\u2212' :: rest => (shiftPart rest).map fun (m, rest) => (-m, rest)
  | u :: t :: c :: rest =>
    if (u = 'U' ∨ u = 'u') ∧ (t = 'T' ∨ t = 't') ∧ (c = 'C' ∨ c = 'c') then some (0, rest)
    else none
  | _ => none

/-- The instant of a date and a time with a shift against universal time in minutes.
The second 60 is a leap second. -/
def ofClock (date : Date) (hour minute second nanos : Nat) (shift : Int) : Option Instant :=
  let seconds :=
    date.toDays * 86400 + hour * 3600 + (minute - shift) * 60 + (min second 59 : Nat)
  let nanos := if second = 60 then nanos + 1000000000 else nanos
  if h : nanos < 2000000000 ∧ (1000000000 ≤ nanos → seconds % 60 = 59) then
    if date.exists? && yearInRange date.year && isReckoned seconds
    then some ⟨seconds, nanos, h.1, h.2⟩
    else none
  else none

/-- The instant that a text writes. -/
def parseChars (cs : List Char) : Option Instant := do
  let (year, cs) ← yearPart cs
  let cs ← mark '-' cs
  let (month, cs) ← part 1 12 cs
  let cs ← mark '-' cs
  let (day, cs) ← part 1 31 cs
  let cs ← match cs with
    | c :: rest => if c = 'T' ∨ c = 't' ∨ c = ' ' then some rest else none
    | [] => none
  let (hour, cs) ← part 0 23 cs
  let cs ← mark ':' cs
  let (minute, cs) ← part 0 59 cs
  let cs ← mark ':' cs
  let (second, cs) ← part 0 60 cs
  let (nanos, cs) ← fractionPart cs
  let (shift, cs) ← zonePart cs
  if (Text.trimLeft cs).isEmpty then
    ofClock ⟨year, month, day⟩ hour minute second nanos shift
  else none

/-- The instant that a text writes. -/
def parse (s : String) : Option Instant := parseChars s.toList

end Instant

end ProjectViews
