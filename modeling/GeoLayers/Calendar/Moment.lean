import GeoLayers.Calendar.Date

/-!
Moments of time: whole seconds counted from 1970-01-01T00:00:00 and nanoseconds. In a leap second
the nanoseconds go on from the second before, beyond a thousand million.
-/

namespace GeoLayers.Calendar

structure Moment where
  seconds : Int
  nanos : Nat := 0
  deriving DecidableEq, Repr, Inhabited

namespace Moment

abbrev daySeconds : Int := 86400

/-- The day that a moment lies in. -/
def date (m : Moment) : Date := Date.ofDays (m.seconds / daySeconds)

/-- Whether a moment lies in the years that are allowed. -/
def isValid (m : Moment) : Bool := inRange m.date.year

/-- Whether a moment comes before another. -/
def before (a b : Moment) : Bool :=
  a.seconds < b.seconds || (a.seconds == b.seconds && a.nanos < b.nanos)

/-- The moment with a number of milliseconds, if it lies in the years that are allowed. -/
def ofMillis? (millis : Int) : Option Moment :=
  let m : Moment := ⟨millis / 1000, (millis % 1000).toNat * 1000000⟩
  if m.isValid then some m else none

/-- The number of milliseconds of a moment; what is less than one is dropped. -/
def toMillis (m : Moment) : Int := m.seconds * 1000 + m.nanos / 1000000

/-- The microseconds between 2000-01-01T00:00:00 and a moment, cut off toward zero. -/
def microsSince2000 (m : Moment) : Int :=
  Int.tdiv ((m.seconds - 946684800) * 1000000000 + m.nanos) 1000

/-- A number with at least `width` digits. -/
def padded (width n : Nat) : String :=
  let digits := toString n
  String.ofList (List.replicate (width - digits.length) '0') ++ digits

/-- A year with at least four digits; a sign stands before years that need more, and before
negative ones. -/
def yearText (year : Int) : String :=
  if year < 0 then "-" ++ padded 4 year.natAbs
  else if 9999 < year then "+" ++ padded 4 year.natAbs
  else padded 4 year.natAbs

/-- The part of a second, in as many groups of three digits as it needs. -/
def fractionText (nanos : Nat) : String :=
  if nanos = 0 then ""
  else if nanos % 1000000 = 0 then "." ++ padded 3 (nanos / 1000000)
  else if nanos % 1000 = 0 then "." ++ padded 6 (nanos / 1000)
  else "." ++ padded 9 nanos

/-- The text of a moment: the day, `T`, and the time of the day. -/
def text (m : Moment) : String :=
  let d := m.date
  let second := (m.seconds % daySeconds).toNat
  let leap := m.nanos / 1000000000
  yearText d.year ++ "-" ++ padded 2 d.month ++ "-" ++ padded 2 d.day ++ "T" ++
    padded 2 (second / 3600) ++ ":" ++ padded 2 (second / 60 % 60) ++ ":" ++
    padded 2 (second % 60 + leap) ++ fractionText (m.nanos % 1000000000)

end Moment

end GeoLayers.Calendar
