import GeoLayers.Proofs.Calendar.Civil
import GeoLayers.Proofs.Calendar.Numerals

/-!
The texts of an instant: its day and time of the day without a zone, the same of any zone with the
offset from UTC behind it, and the day alone for the start of a day. All of them are read as one
moment, the one that the number of milliseconds since 1970 is read as and has again.
-/

namespace GeoLayers.Calendar

/-- The day as it is written: year, month and day. -/
def Date.text (d : Date) : String :=
  Moment.padded 4 d.year.toNat ++ "-" ++ Moment.padded 2 d.month ++ "-" ++ Moment.padded 2 d.day

/-- An offset of less than a day from UTC. -/
inductive Zone
  | utc
  | ahead (hours : Fin 24) (minutes : Fin 60)
  | behind (hours : Fin 24) (minutes : Fin 60)

namespace Zone

/-- The minutes that a clock of the zone is ahead of UTC. -/
def offset : Zone → Int
  | utc => 0
  | ahead hours minutes => hours * 60 + minutes
  | behind hours minutes => -(hours * 60 + minutes)

/-- Hours and minutes as they are written. -/
def numbers (hours : Fin 24) (minutes : Fin 60) : String :=
  Moment.padded 2 hours ++ ":" ++ Moment.padded 2 minutes

def text : Zone → String
  | utc => "Z"
  | ahead hours minutes => "+" ++ numbers hours minutes
  | behind hours minutes => "-" ++ numbers hours minutes

end Zone

namespace Civil

/-- The time of the day as it is written. -/
def clockText (c : Civil) (fraction : String) : String :=
  Moment.padded 2 c.hour ++ ":" ++ Moment.padded 2 c.minute ++ ":" ++ Moment.padded 2 c.second ++
    fraction

def text (c : Civil) (separator : Char) (fraction : String) : String :=
  c.date.text ++ String.singleton separator ++ c.clockText fraction

end Civil

/-- The texts that denote an instant, which is given in milliseconds: the day and the time of UTC, the
day and the time of a zone with its offset behind them, and the day alone for its first moment. -/
inductive Denotes : String → Int → Prop
  | plain {c : Civil} {millis : Int} {separator : Char} {fraction : String} (hc : c.IsAt millis)
      (hyear : c.date.HasFourDigitYear) (hseparator : separator = 'T' ∨ separator = ' ')
      (hfraction : IsFraction c.milli fraction) : Denotes (c.text separator fraction) millis
  | zoned {c : Civil} {millis : Int} {fraction : String} (zone : Zone)
      (hc : c.IsAt (millis + zone.offset * 60000)) (hyear : c.date.HasFourDigitYear)
      (hfraction : IsFraction c.milli fraction) : Denotes (c.text 'T' fraction ++ zone.text) millis
  | day {d : Date} {days : Int} (hd : d.Numbered days) (hyear : d.HasFourDigitYear) :
    Denotes d.text (days * 86400000)

namespace Reader

variable {rest : List Char}

/-! ### Reading days and times of the day -/

section Parts

variable {d : Date} {c : Civil} {fraction : String}

theorem toList_dateText : d.text.toList ++ rest = (Moment.padded 4 d.year.toNat).toList ++
    '-' :: ((Moment.padded 2 d.month).toList ++ '-' :: ((Moment.padded 2 d.day).toList ++ rest)) := by
  simp [Date.text]

theorem toList_clockText : (c.clockText fraction).toList ++ rest =
    (Moment.padded 2 c.hour).toList ++ ':' :: ((Moment.padded 2 c.minute).toList ++
      ':' :: ((Moment.padded 2 c.second).toList ++ (fraction.toList ++ rest))) := by
  simp [Civil.clockText]

/-- The numbers of a day that exists have as many digits as they are written with. -/
theorem date_lt (hd : d.isValid = true) (hyear : d.HasFourDigitYear) :
    d.year.toNat < 10000 ∧ d.month < 100 ∧ d.day < 100 := by
  obtain ⟨-, hmonth, -, hday⟩ := Date.isValid_iff.1 hd
  have hlength : monthDays d.year d.month ≤ 31 := by
    unfold monthDays
    split_ifs <;> omega
  obtain ⟨hfirst, hlast⟩ := hyear
  omega

/-- And so have the numbers of a time of the day. -/
theorem clock_lt (c : Civil) :
    (c.hour : Nat) < 100 ∧ (c.minute : Nat) < 100 ∧ (c.second : Nat) < 100 := by
  omega

theorem date_text (hd : d.isValid = true) (hyear : d.HasFourDigitYear) :
    date (d.text.toList ++ rest) = some (d, rest) := by
  obtain ⟨hyear', hmonth, hday⟩ := date_lt hd hyear
  rw [toList_dateText]
  simp only [date, year_padded hyear', small_padded hmonth, small_padded hday, char_cons,
    Option.bind_eq_bind, Option.bind_some, Int.toNat_of_nonneg hyear.1]

theorem clock_text (hfraction : IsFraction c.milli fraction) (hrest : EndsFraction rest) :
    clock ((c.clockText fraction).toList ++ rest) = some (c.clock, rest) := by
  obtain ⟨hhour, hminute, hsecond⟩ := clock_lt c
  rw [toList_clockText]
  simp only [clock, small_padded hhour, small_padded hminute, small_padded hsecond, char_cons,
    fraction_append hfraction hrest, Option.bind_eq_bind, Option.bind_some]
  rfl

theorem hoursMinutes_numbers (sign : Int) (hours : Fin 24) (minutes : Fin 60) :
    offset.hoursMinutes sign (Zone.numbers hours minutes).toList =
      some (sign * (hours * 3600 + minutes * 60), []) := by
  have hhours : (hours : Nat) < 100 := by omega
  have hminutes : (minutes : Nat) < 100 := by omega
  have htext : (Zone.numbers hours minutes).toList = (Moment.padded 2 hours).toList ++
      ':' :: ((Moment.padded 2 minutes).toList ++ []) := by
    simp [Zone.numbers]
  rw [htext]
  refine (bind_of_eq_some (two_padded hhours)).trans ?_
  refine (bind_of_eq_some (char_cons ':')).trans ?_
  refine (bind_of_eq_some (two_padded hminutes)).trans ?_
  exact if_pos minutes.2

/-- The offset of a zone is read in seconds. -/
theorem offset_text (zone : Zone) : offset zone.text.toList = some (zone.offset * 60, []) := by
  cases zone with
  | utc => rfl
  | ahead hours minutes =>
      have htext : (Zone.ahead hours minutes).text.toList =
          '+' :: (Zone.numbers hours minutes).toList := by
        simp [Zone.text]
      have hseconds : (Zone.ahead hours minutes).offset * 60 = 1 * (hours * 3600 + minutes * 60) := by
        rw [Zone.offset]
        ring
      rw [htext, hseconds]
      exact hoursMinutes_numbers 1 hours minutes
  | behind hours minutes =>
      have htext : (Zone.behind hours minutes).text.toList =
          '-' :: (Zone.numbers hours minutes).toList := by
        simp [Zone.text]
      have hseconds : (Zone.behind hours minutes).offset * 60 =
          -1 * (hours * 3600 + minutes * 60) := by
        rw [Zone.offset]
        ring
      rw [htext, hseconds]
      exact hoursMinutes_numbers (-1) hours minutes

theorem endsFraction_zone (zone : Zone) : EndsFraction zone.text.toList := by
  intro c hc
  cases zone with
  | utc =>
      obtain rfl : 'Z' = c := by simpa [Zone.text] using hc
      decide
  | ahead hours minutes =>
      obtain rfl : '+' = c := by simpa [Zone.text] using hc
      decide
  | behind hours minutes =>
      obtain rfl : '-' = c := by simpa [Zone.text] using hc
      decide

theorem withOffset_text {separator : Char} (hd : c.date.isValid = true)
    (hyear : c.date.HasFourDigitYear) (hseparator : separator = 'T' ∨ separator = ' ')
    (hfraction : IsFraction c.milli fraction) (hrest : EndsFraction rest) :
    withOffset ((c.text separator fraction).toList ++ rest) =
      (offset rest).bind fun (shift, cs) => (moment? c.date c.clock).bind fun m =>
        if cs.isEmpty ∧ shift.natAbs < 86400 then
          if Moment.isValid ⟨m.seconds - shift, m.nanos⟩ then some ⟨m.seconds - shift, m.nanos⟩
          else none
        else none := by
  obtain ⟨hyear', hmonth, hday⟩ := date_lt hd hyear
  obtain ⟨hhour, hminute, hsecond⟩ := clock_lt c
  have htext : (c.text separator fraction).toList ++ rest =
      c.date.text.toList ++ (separator :: ((c.clockText fraction).toList ++ rest)) := by
    simp [Civil.text]
  have hskip : Reader.separator (separator :: ((c.clockText fraction).toList ++ rest)) =
      some ((c.clockText fraction).toList ++ rest) := by
    rcases hseparator with rfl | rfl <;> rfl
  rw [htext, toList_dateText]
  refine (bind_of_eq_some (four_padded hyear')).trans ?_
  refine (bind_of_eq_some (char_cons '-')).trans ?_
  refine (bind_of_eq_some (two_padded hmonth)).trans ?_
  refine (bind_of_eq_some (char_cons '-')).trans ?_
  refine (bind_of_eq_some (two_padded hday)).trans ?_
  refine (bind_of_eq_some hskip).trans ?_
  rw [toList_clockText]
  refine (bind_of_eq_some (two_padded hhour)).trans ?_
  refine (bind_of_eq_some (char_cons ':')).trans ?_
  refine (bind_of_eq_some (two_padded hminute)).trans ?_
  refine (bind_of_eq_some (char_cons ':')).trans ?_
  refine (bind_of_eq_some (two_padded hsecond)).trans ?_
  refine (bind_of_eq_some (fraction_append hfraction hrest)).trans ?_
  simp only [Int.toNat_of_nonneg hyear.1]
  rfl

theorem trimStart_clockText : Text.trimStart (' ' :: ((c.clockText fraction).toList ++ rest)) =
    (c.clockText fraction).toList ++ rest := by
  obtain ⟨hhour, -, -⟩ := clock_lt c
  have hskip (cs : List Char) : Text.trimStart (' ' :: cs) = Text.trimStart cs :=
    List.dropWhile_cons_of_pos (by decide)
  rw [hskip, toList_clockText]
  exact trimStart_padded Nat.two_pos hhour

theorem dateAndTime_text {between : List Char → Option (List Char)} {separator : Char}
    (hd : c.date.isValid = true) (hyear : c.date.HasFourDigitYear)
    (hbetween : between (separator :: ((c.clockText fraction).toList ++ [])) =
      some ((c.clockText fraction).toList ++ [])) (hfraction : IsFraction c.milli fraction) :
    dateAndTime between (c.text separator fraction).toList = moment? c.date c.clock := by
  have htext : (c.text separator fraction).toList =
      c.date.text.toList ++ (separator :: ((c.clockText fraction).toList ++ [])) := by
    simp [Civil.text]
  rw [htext]
  refine (bind_of_eq_some (date_text hd hyear)).trans ?_
  refine (bind_of_eq_some hbetween).trans ?_
  exact bind_of_eq_some (clock_text hfraction endsFraction_nil)

theorem clock_letter (cs : List Char) : clock ('T' :: cs) = none := by
  have hstart : Text.trimStart ('T' :: cs) = 'T' :: cs := List.dropWhile_cons_of_neg (by decide)
  have hread : small ('T' :: cs) = none := by
    rw [small, hstart]
    rfl
  rw [clock, hread]
  rfl

/-- The letter between day and time is not read as the start of the time. -/
theorem dateAndTime_letter (hd : c.date.isValid = true) (hyear : c.date.HasFourDigitYear) :
    dateAndTime (fun cs => some (Text.trimStart cs)) (c.text 'T' fraction).toList = none := by
  have htext : (c.text 'T' fraction).toList =
      c.date.text.toList ++ ('T' :: (c.clockText fraction).toList) := by
    simp [Civil.text]
  have hstart : Text.trimStart ('T' :: (c.clockText fraction).toList) =
      'T' :: (c.clockText fraction).toList := List.dropWhile_cons_of_neg (by decide)
  rw [htext]
  refine (bind_of_eq_some (date_text hd hyear)).trans ?_
  refine (bind_of_eq_some (congrArg some hstart)).trans ?_
  dsimp only
  rw [clock_letter]
  rfl

theorem endsUnblank_clockText (hfraction : IsFraction c.milli fraction) :
    EndsUnblank (c.clockText fraction).toList := by
  obtain ⟨-, -, hsecond⟩ := clock_lt c
  rw [Civil.clockText, String.toList_append]
  cases hfraction with
  | whole h =>
      rw [String.toList_empty, List.append_nil, String.toList_append]
      exact (endsUnblank_padded Nat.two_pos hsecond).after _
  | digits hdigits =>
      apply EndsUnblank.after
      rw [String.toList_append]
      exact (endsUnblank_of_areDigits hdigits).after _

theorem endsUnblank_zoneText (zone : Zone) : EndsUnblank zone.text.toList := by
  have hnumbers (mark : String) (hours : Fin 24) (minutes : Fin 60) :
      EndsUnblank (mark ++ Zone.numbers hours minutes).toList := by
    have hminutes : (minutes : Nat) < 10 ^ 2 := by omega
    rw [String.toList_append]
    apply EndsUnblank.after
    rw [Zone.numbers, String.toList_append]
    exact (endsUnblank_padded Nat.two_pos hminutes).after _
  cases zone with
  | utc => exact ⟨[], 'Z', rfl, by decide⟩
  | ahead hours minutes => exact hnumbers "+" hours minutes
  | behind hours minutes => exact hnumbers "-" hours minutes

/-- A text that starts with a day and does not end with a blank is not trimmed. -/
theorem trimChars_dated (hd : d.isValid = true) (hyear : d.HasFourDigitYear)
    (hends : EndsUnblank (d.text.toList ++ rest)) :
    Text.trimChars (d.text.toList ++ rest) = d.text.toList ++ rest := by
  obtain ⟨hyear', -, -⟩ := date_lt hd hyear
  obtain ⟨first, cs, hcons, hdigit⟩ := @padded_eq_cons 4 _ (by decide) hyear'
  obtain ⟨before, last, heq, hlast⟩ := hends
  apply Text.trimChars_eq_self
  · intro c hc
    rw [toList_dateText, hcons] at hc
    obtain rfl : first = c := Option.some.inj hc
    exact Number.isBlank_of_isDigit hdigit
  · intro c hc
    rw [heq, List.getLast?_concat] at hc
    obtain rfl : last = c := Option.some.inj hc
    exact hlast

end Parts

end Reader

variable {c : Civil} {d : Date} {separator : Char} {fraction : String}

open Reader

theorem ofText?_plain {m : Moment} (hd : c.date.isValid = true) (hyear : c.date.HasFourDigitYear)
    (hseparator : separator = 'T' ∨ separator = ' ') (hfraction : IsFraction c.milli fraction)
    (hm : moment? c.date c.clock = some m) :
    Moment.ofText? (c.text separator fraction) = some m := by
  have htrim : Text.trimChars (c.text separator fraction).toList =
      (c.text separator fraction).toList := by
    have htext : (c.text separator fraction).toList =
        c.date.text.toList ++ ([separator] ++ (c.clockText fraction).toList) := by
      simp [Civil.text]
    rw [htext]
    exact trimChars_dated hd hyear (((endsUnblank_clockText hfraction).after _).after _)
  have hoffset : withOffset (c.text separator fraction).toList = none := by
    have hread := withOffset_text hd hyear hseparator hfraction endsFraction_nil
    rwa [List.append_nil] at hread
  rw [Moment.ofText?, htrim, hoffset]
  rcases hseparator with rfl | rfl
  · have hblank : dateAndTime (fun cs => some (Text.trimStart cs)) (c.text 'T' fraction).toList =
        none := dateAndTime_letter hd hyear
    have hletter : dateAndTime (char 'T') (c.text 'T' fraction).toList = some m :=
      (dateAndTime_text hd hyear (char_cons 'T') hfraction).trans hm
    rw [hblank, hletter]
    rfl
  · have hskip : some (Text.trimStart (' ' :: ((c.clockText fraction).toList ++ []))) =
        some ((c.clockText fraction).toList ++ []) := congrArg some trimStart_clockText
    have hblank : dateAndTime (fun cs => some (Text.trimStart cs)) (c.text ' ' fraction).toList =
        some m := by
      refine (dateAndTime_text hd hyear ?_ hfraction).trans hm
      exact hskip
    rw [hblank]
    rfl

theorem ofText?_zoned {seconds : Int} {nanos : Nat} (zone : Zone) (hd : c.date.isValid = true)
    (hyear : c.date.HasFourDigitYear) (hfraction : IsFraction c.milli fraction)
    (hm : moment? c.date c.clock = some ⟨seconds + zone.offset * 60, nanos⟩)
    (hvalid : Moment.isValid ⟨seconds, nanos⟩ = true) :
    Moment.ofText? (c.text 'T' fraction ++ zone.text) = some ⟨seconds, nanos⟩ := by
  have htrim : Text.trimChars (c.text 'T' fraction ++ zone.text).toList =
      (c.text 'T' fraction).toList ++ zone.text.toList := by
    have htext : (c.text 'T' fraction ++ zone.text).toList =
        c.date.text.toList ++ (['T'] ++ (c.clockText fraction).toList ++ zone.text.toList) := by
      simp [Civil.text]
    rw [htext, trimChars_dated hd hyear (((endsUnblank_zoneText zone).after _).after _), ← htext,
      String.toList_append]
  have hoffset : withOffset ((c.text 'T' fraction).toList ++ zone.text.toList) =
      some ⟨seconds, nanos⟩ := by
    rw [withOffset_text hd hyear (.inl rfl) hfraction (endsFraction_zone zone), offset_text, hm]
    have hshift : (zone.offset * 60).natAbs < 86400 := by
      cases zone <;> rw [Zone.offset] <;> omega
    have hback : seconds + zone.offset * 60 - zone.offset * 60 = seconds := by omega
    rw [Option.bind_some]
    dsimp only
    rw [Option.bind_some, hback, if_pos ⟨rfl, hshift⟩, if_pos hvalid]
  rw [Moment.ofText?, htrim, hoffset]
  rfl

theorem ofText?_day {m : Moment} (hd : d.isValid = true) (hyear : d.HasFourDigitYear)
    (hm : moment? d ⟨0, 0, 0, 0⟩ = some m) : Moment.ofText? d.text = some m := by
  obtain ⟨hyear', hmonth, hday⟩ := date_lt hd hyear
  have hdate : date d.text.toList = some (d, []) := by
    rw [← List.append_nil d.text.toList]
    exact date_text hd hyear
  have htrim : Text.trimChars d.text.toList = d.text.toList := by
    have hends : EndsUnblank d.text.toList := by
      rw [Date.text, String.toList_append]
      exact (endsUnblank_padded Nat.two_pos hday).after _
    rw [← List.append_nil d.text.toList] at hends ⊢
    exact trimChars_dated hd hyear hends
  have hoffset : withOffset d.text.toList = none := by
    rw [← List.append_nil d.text.toList, toList_dateText]
    refine (bind_of_eq_some (four_padded hyear')).trans ?_
    refine (bind_of_eq_some (char_cons '-')).trans ?_
    refine (bind_of_eq_some (two_padded hmonth)).trans ?_
    refine (bind_of_eq_some (char_cons '-')).trans ?_
    exact bind_of_eq_some (two_padded hday)
  have hblank : dateAndTime (fun cs => some (Text.trimStart cs)) d.text.toList = none :=
    bind_of_eq_some hdate
  have hletter : dateAndTime (char 'T') d.text.toList = none := bind_of_eq_some hdate
  have halone : dateAlone d.text.toList = some m := (bind_of_eq_some hdate).trans hm
  rw [Moment.ofText?, htrim, hoffset, hblank, hletter, halone]
  rfl

/-- Every text that denotes an instant is read as the moment of the instant. -/
theorem ofText?_of_denotes {millis : Int} {text : String} (hc : c.IsAt millis)
    (hyear : c.date.HasFourDigitYear) (htext : Denotes text millis) :
    Moment.ofText? text = some (Moment.atMillis millis) := by
  cases htext with
  | plain hat hfour hseparator hfraction =>
      exact ofText?_plain hat.isValid hfour hseparator hfraction (hat.moment?_eq hfour)
  | zoned zone hat hfour hfraction =>
      have hshifted : Moment.atMillis (millis + zone.offset * 60000) =
          ⟨millis / 1000 + zone.offset * 60, (millis % 1000).toNat * 1000000⟩ := by
        rw [Moment.atMillis, Moment.mk.injEq]
        omega
      have hm := hat.moment?_eq hfour
      rw [hshifted] at hm
      exact ofText?_zoned zone hat.isValid hfour hfraction hm (hc.isValid_atMillis hyear)
  | day hd hfour =>
      rename_i d days
      let start : Civil := ⟨d, 0, 0, 0, 0⟩
      have hstart : start.IsAt (days * 86400000) := ⟨days, hd, by dsimp only [start]; omega⟩
      have hclock : start.clock = ⟨0, 0, 0, 0⟩ := by simp [Civil.clock, start]
      have hm := hstart.moment?_eq hfour
      rw [hclock] at hm
      exact ofText?_day hstart.isValid hfour hm

/-- **Every text of an instant denotes one moment, which the number of milliseconds denotes as well.**
Each number of milliseconds has one day and one time of the day in UTC. If that day has a year of four
digits, the number is read as a moment with this number of milliseconds, and so is each of its texts:
day and time with a letter or a blank between them, the day and time of each zone with its offset,
and the day alone if it has just started. -/
theorem momentOfValue_denotes (millis : Int) :
    (∃! c : Civil, c.IsAt millis) ∧ ∀ c : Civil, c.IsAt millis → c.date.HasFourDigitYear →
      ∃ m : Moment, momentOfValue (.integer millis) = .ok m ∧ m.toMillis = millis ∧
        ∀ text : String, Denotes text millis → momentOfValue (.text text) = .ok m := by
  refine ⟨Civil.existsUnique_isAt millis, fun c hc hyear => ?_⟩
  refine ⟨Moment.atMillis millis, momentOfValue_integer hc hyear, toMillis_atMillis millis, ?_⟩
  intro text htext
  simp only [momentOfValue, ofText?_of_denotes hc hyear htext]

/-- The last millisecond of February 1900, which had 28 days, and the same instant on the clocks that
are a minute ahead, where March has begun. -/
theorem momentOfValue_denotes_february : ∃ m : Moment,
    momentOfValue (.integer (-2203891200001)) = .ok m ∧ m.toMillis = -2203891200001 ∧
      momentOfValue (.text "1900-02-28 23:59:59.999") = .ok m ∧
      momentOfValue (.text "1900-03-01T00:00:59.999+00:01") = .ok m := by
  have hfebruary : Civil.IsAt ⟨⟨1900, 2, 28⟩, 23, 59, 59, 999⟩ (-2203891200001) :=
    ⟨-25509, Date.numbered_iff.2 ⟨by decide, by decide⟩, by decide⟩
  have hmarch : Civil.IsAt ⟨⟨1900, 3, 1⟩, 0, 0, 59, 999⟩
      (-2203891200001 + (Zone.ahead 0 1).offset * 60000) :=
    ⟨-25508, Date.numbered_iff.2 ⟨by decide, by decide⟩, by decide⟩
  have hyear (month day : Nat) : Date.HasFourDigitYear ⟨1900, month, day⟩ :=
    ⟨show (0 : Int) ≤ 1900 by decide, show (1900 : Int) ≤ 9999 by decide⟩
  have hplain : Civil.text ⟨⟨1900, 2, 28⟩, 23, 59, 59, 999⟩ ' ' ("." ++ Moment.padded 3 999) =
      "1900-02-28 23:59:59.999" := by cbv
  have hzoned : Civil.text ⟨⟨1900, 3, 1⟩, 0, 0, 59, 999⟩ 'T' ("." ++ Moment.padded 3 999) ++
      (Zone.ahead 0 1).text = "1900-03-01T00:00:59.999+00:01" := by cbv
  obtain ⟨m, hm, hmillis, htexts⟩ := (momentOfValue_denotes _).2 _ hfebruary (hyear 2 28)
  refine ⟨m, hm, hmillis, ?_, ?_⟩
  · rw [← hplain]
    apply htexts
    exact .plain hfebruary (hyear 2 28) (.inr rfl) (isFraction_padded 999)
  · rw [← hzoned]
    apply htexts
    exact .zoned (.ahead 0 1) hmarch (hyear 3 1) (isFraction_padded 999)

end GeoLayers.Calendar
