/-!
Days of the Gregorian calendar, also before its introduction, and their numbers counted from
1970-01-01. Years are counted from March, so that the day a leap year has more is the last of its
year, and in eras of 400 years, which all have the same number of days.
-/

namespace GeoLayers.Calendar

/-- A day. The year before year 1 is year 0. -/
structure Date where
  year : Int
  month : Nat
  day : Nat
  deriving DecidableEq, Repr, Inhabited

/-- The days of an era of 400 years. -/
abbrev eraDays : Int := 146097

/-- The days from the start of the first era to 1970-01-01. -/
abbrev epochDays : Int := 719468

def isLeap (year : Int) : Bool := year % 4 = 0 && (year % 100 ≠ 0 || year % 400 = 0)

/-- The number of days of a month. -/
def monthDays (year : Int) (month : Nat) : Nat :=
  if month = 2 then (if isLeap year then 29 else 28)
  else if month = 4 ∨ month = 6 ∨ month = 9 ∨ month = 11 then 30
  else 31

/-- Whether a day exists. -/
def Date.isValid (d : Date) : Bool :=
  1 ≤ d.month && d.month ≤ 12 && 1 ≤ d.day && d.day ≤ monthDays d.year d.month

/-- The number of a day. -/
def Date.toDays (d : Date) : Int :=
  let year := if d.month ≤ 2 then d.year - 1 else d.year
  let month : Int := if d.month ≤ 2 then d.month + 9 else d.month - 3
  let yearOfEra := year % 400
  let dayOfYear := (153 * month + 2) / 5 + d.day - 1
  let dayOfEra := yearOfEra * 365 + yearOfEra / 4 - yearOfEra / 100 + dayOfYear
  year / 400 * eraDays + dayOfEra - epochDays

/-- The day with a number. -/
def Date.ofDays (days : Int) : Date :=
  let shifted := days + epochDays
  let era := shifted / eraDays
  let dayOfEra := shifted % eraDays
  let yearOfEra := (dayOfEra - dayOfEra / 1460 + dayOfEra / 36524 - dayOfEra / 146096) / 365
  let dayOfYear := dayOfEra - (365 * yearOfEra + yearOfEra / 4 - yearOfEra / 100)
  let month := (5 * dayOfYear + 2) / 153
  let day := dayOfYear - (153 * month + 2) / 5 + 1
  let year := yearOfEra + era * 400
  if month < 10 then ⟨year, (month + 3).toNat, day.toNat⟩
  else ⟨year + 1, (month - 9).toNat, day.toNat⟩

/-- The years that moments may lie in. -/
def inRange (year : Int) : Bool := -262143 ≤ year && year ≤ 262142

end GeoLayers.Calendar
