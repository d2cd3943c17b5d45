/-
Instants: points in time, to the nanosecond.

An instant is a number of seconds from the start of 1970 and a number of nanoseconds.
Within a leap second the nanoseconds go on past a full second, up to just below two,
so that the leap second lies between the last ordinary second of its minute and the
next minute.  Instants are ordered by their seconds and then by their nanoseconds.
-/
import ProjectViews.Time.Calendar

namespace ProjectViews

/-- A point in time. -/
structure Instant where
  seconds : Int
  nanos : Nat
  /-- A leap second is the longest that a second can be. -/
  nanos_lt : nanos < 2000000000 := by decide
  /-- Only the last second of a minute can be followed by a leap second. -/
  leap_ends_minute : 1000000000 ≤ nanos → seconds % 60 = 59 := by decide
deriving DecidableEq, Repr

namespace Instant

/-- The start of 1970. -/
def epoch : Instant where
  seconds := 0
  nanos := 0

instance : Inhabited Instant := ⟨epoch⟩

/-- The start of a second. -/
def ofSeconds (n : Int) : Instant where
  seconds := n
  nanos := 0
  leap_ends_minute := fun h => absurd h (by decide)

/-- Whether one instant is not later than another. -/
def le (a b : Instant) : Bool :=
  decide (a.seconds < b.seconds ∨ (a.seconds = b.seconds ∧ a.nanos ≤ b.nanos))

theorem le_iff {a b : Instant} :
    a.le b = true ↔ a.seconds < b.seconds ∨ (a.seconds = b.seconds ∧ a.nanos ≤ b.nanos) :=
  decide_eq_true_iff

theorem le_trans {a b c : Instant} (h : a.le b = true) (h' : b.le c = true) : a.le c = true := by
  rw [le_iff] at h h' ⊢
  omega

/-- The years that an instant can lie in. -/
def yearInRange (year : Int) : Bool := decide (-262143 ≤ year ∧ year ≤ 262142)

/-- Whether a second lies in those years. -/
def isReckoned (seconds : Int) : Bool := yearInRange (Date.ofDays (seconds / 86400)).year

/-- The instant one day later, unless the years end before it.  A day after a leap second
there is none, so the last ordinary second of the minute takes its place. -/
def nextDay? (a : Instant) : Option Instant :=
  if !isReckoned (a.seconds + 86400) then none
  else if h : a.nanos < 1000000000 then
    some ⟨a.seconds + 86400, a.nanos, a.nanos_lt, by omega⟩
  else
    some ⟨a.seconds + 86400, a.nanos - 1000000000, by have := a.nanos_lt; omega, by
      have := a.nanos_lt; omega⟩

/-- A day has 86400 seconds. -/
theorem seconds_of_nextDay? {a b : Instant} (h : a.nextDay? = some b) :
    b.seconds = a.seconds + 86400 := by
  unfold nextDay? at h
  split at h
  · cases h
  · split at h
    · cases h
      rfl
    · cases h
      rfl

/-- The next day is later. -/
theorem le_nextDay {a b : Instant} (h : a.nextDay? = some b) : a.le b = true := by
  have := seconds_of_nextDay? h
  rw [le_iff]
  omega

theorem not_nextDay_le {a b : Instant} (h : a.nextDay? = some b) : b.le a ≠ true := by
  have := seconds_of_nextDay? h
  rw [Ne, le_iff]
  omega

end Instant

end ProjectViews
