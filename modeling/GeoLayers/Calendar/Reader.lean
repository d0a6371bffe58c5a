import GeoLayers.Calendar.Moment
import GeoLayers.Number.Numeral

/-!
Reading moments from text. Four notations are tried in turn: day and time with an offset from UTC,
day and time apart by blanks, day and time apart by `T`, and a day alone.
-/

namespace GeoLayers.Calendar.Reader

/-- Between `least` and `most` digits, read as a number. -/
def digits (least most : Nat) (cs : List Char) : Option (Nat × List Char) :=
  let run := (cs.take most).takeWhile Number.isDigit
  if run.length < least then none else some (Number.digitsFrom 0 run, cs.drop run.length)

/-- A character that has to be in front. -/
def char (c : Char) : List Char → Option (List Char)
  | c' :: cs => if c' == c then some cs else none
  | [] => none

/-- The nanoseconds of a fraction's digits after the point. From the tenth digit on they are
dropped. -/
def nanoseconds (cs : List Char) : Option (Nat × List Char) :=
  let run := cs.takeWhile Number.isDigit
  let kept := run.take 9
  if kept.isEmpty then none
  else some (Number.digitsFrom 0 kept * Nat.pow 10 (9 - kept.length), cs.drop run.length)

/-- A fraction, if a point is in front. -/
def fraction : List Char → Option (Nat × List Char)
  | '.' :: cs => nanoseconds cs
  | cs => some (0, cs)

/-- The time of a day: hours, minutes, seconds and nanoseconds. The sixtieth second is a leap
second. -/
structure Clock where
  hour : Nat
  minute : Nat
  second : Nat
  nanos : Nat

/-- The moment of a day and a time of the day, both of which have to exist. -/
def moment? (date : Date) (clock : Clock) : Option Moment :=
  if !date.isValid || !inRange date.year then none
  else if 24 ≤ clock.hour || 60 ≤ clock.minute || 60 < clock.second then none
  else
    let leap := clock.second = 60
    let second : Int := if leap then 59 else clock.second
    let nanos := if leap then clock.nanos + 1000000000 else clock.nanos
    some ⟨date.toDays * Moment.daySeconds + clock.hour * 3600 + clock.minute * 60 + second, nanos⟩

/-- The seconds of an offset from UTC: `Z`, or a sign, two digits, a colon and two digits. -/
def offset : List Char → Option (Int × List Char)
  | 'Z' :: cs | 'z' :: cs => some (0, cs)
  | '+' :: cs => hoursMinutes 1 cs
  | '-' :: cs => hoursMinutes (-1) cs
  | c :: cs => if c.toNat = 0x2212 then hoursMinutes (-1) cs else none
  | [] => none
where
  hoursMinutes (sign : Int) (cs : List Char) : Option (Int × List Char) := do
    let (hours, cs) ← digits 2 2 cs
    let cs ← char ':' cs
    let (minutes, cs) ← digits 2 2 cs
    if minutes < 60 then some (sign * (hours * 3600 + minutes * 60), cs) else none

/-- The letter or blank between day and time. -/
def separator : List Char → Option (List Char)
  | 'T' :: cs | 't' :: cs | ' ' :: cs => some cs
  | _ => none

/-- Day and time with an offset from UTC, every number with all its digits. -/
def withOffset (cs : List Char) : Option Moment := do
  let (year, cs) ← digits 4 4 cs
  let cs ← char '-' cs
  let (month, cs) ← digits 2 2 cs
  let cs ← char '-' cs
  let (day, cs) ← digits 2 2 cs
  let cs ← separator cs
  let (hour, cs) ← digits 2 2 cs
  let cs ← char ':' cs
  let (minute, cs) ← digits 2 2 cs
  let cs ← char ':' cs
  let (second, cs) ← digits 2 2 cs
  let (nanos, cs) ← fraction cs
  let (shift, cs) ← offset cs
  let m ← moment? ⟨year, month, day⟩ ⟨hour, minute, second, nanos⟩
  if cs.isEmpty ∧ shift.natAbs < 86400 then
    let utc : Moment := { m with seconds := m.seconds - shift }
    if utc.isValid then some utc else none
  else none

/-- A number of one or two digits after blanks. -/
def small (cs : List Char) : Option (Nat × List Char) := digits 1 2 (Text.trimStart cs)

/-- A year after blanks. With a sign it may have any number of digits. -/
def year (cs : List Char) : Option (Int × List Char) :=
  match Text.trimStart cs with
  | '-' :: cs => (digits 1 cs.length cs).map fun (n, cs) => (-(n : Int), cs)
  | '+' :: cs => (digits 1 cs.length cs).map fun (n, cs) => ((n : Int), cs)
  | cs => (digits 1 4 cs).map fun (n, cs) => ((n : Int), cs)

/-- A day, whose numbers may lack leading zeros. -/
def date (cs : List Char) : Option (Date × List Char) := do
  let (year, cs) ← year cs
  let cs ← char '-' cs
  let (month, cs) ← small cs
  let cs ← char '-' cs
  let (day, cs) ← small cs
  some (⟨year, month, day⟩, cs)

/-- A time of the day, whose numbers may lack leading zeros. -/
def clock (cs : List Char) : Option (Clock × List Char) := do
  let (hour, cs) ← small cs
  let cs ← char ':' cs
  let (minute, cs) ← small cs
  let cs ← char ':' cs
  let (second, cs) ← small cs
  let (nanos, cs) ← fraction cs
  some (⟨hour, minute, second, nanos⟩, cs)

/-- Day and time with something between them. -/
def dateAndTime (between : List Char → Option (List Char)) (cs : List Char) : Option Moment := do
  let (date, cs) ← date cs
  let cs ← between cs
  let (clock, cs) ← clock cs
  if cs.isEmpty then moment? date clock else none

/-- The first moment of a day. -/
def dateAlone (cs : List Char) : Option Moment := do
  let (date, cs) ← date cs
  if cs.isEmpty then moment? date ⟨0, 0, 0, 0⟩ else none

end Reader

/-- Reads a moment in any of the notations. -/
def Moment.ofText? (text : String) : Option Moment :=
  let cs := Text.trimChars text.toList
  Reader.withOffset cs
    <|> Reader.dateAndTime (fun cs => some (Text.trimStart cs)) cs
    <|> Reader.dateAndTime (Reader.char 'T') cs
    <|> Reader.dateAlone cs

end GeoLayers.Calendar
