import GeoLayers.Calendar.Date
import Mathlib.Data.Int.Init
import Mathlib.Tactic.IntervalCases

/-!
Days and their numbers. Counting goes one day after the other from 1970-01-01 on and back, with the
lengths of the months and years; the arithmetic of eras finds the number of each day that exists
without counting, and the day of each number.
-/

namespace GeoLayers.Calendar

/-! ### Months and years -/

theorem isLeap_iff {year : Int} :
    isLeap year = true ↔ year % 4 = 0 ∧ (year % 100 ≠ 0 ∨ year % 400 = 0) := by
  simp only [isLeap, Bool.and_eq_true, Bool.or_eq_true, decide_eq_true_eq]

/-- The days from the first of March of year 0 to the first of March of another year. -/
def yearStart (year : Int) : Int := 365 * year + year / 4 - year / 100 + year / 400

/-- A year that starts in March ends with the leap day of the next year, if that has one. -/
theorem yearStart_succ (year : Int) :
    yearStart (year + 1) = yearStart year + (if isLeap (year + 1) then 366 else 365) := by
  unfold yearStart
  split
  case isTrue h =>
    have hleap := isLeap_iff.1 h
    omega
  case isFalse h =>
    have hleap := mt isLeap_iff.2 h
    omega

/-- The days of a year that starts in March before the month with a number. -/
def monthStart (month : Int) : Int := (153 * month + 2) / 5

/-- The days from the first of March of an era's first year to a day of one of its years. -/
def dayOfEra (year day : Int) : Int := year * 365 + year / 4 - year / 100 + day

namespace Date

/-- The day that follows. -/
def next (d : Date) : Date :=
  if d.day < monthDays d.year d.month then ⟨d.year, d.month, d.day + 1⟩
  else if d.month < 12 then ⟨d.year, d.month + 1, 1⟩
  else ⟨d.year + 1, 1, 1⟩

/-- The days with their numbers, as they are counted on and back from 1970-01-01. -/
inductive Numbered : Date → Int → Prop
  | epoch : Numbered ⟨1970, 1, 1⟩ 0
  | next {d : Date} {n : Int} (h : Numbered d n) : Numbered d.next (n + 1)
  | previous {d : Date} {n : Int} (hd : d.isValid = true) (h : Numbered d.next (n + 1)) : Numbered d n

/-- The year that a day belongs to, if years start in March. -/
def marchYear (d : Date) : Int := if d.month ≤ 2 then d.year - 1 else d.year

/-- The months from March to the month of a day. -/
def marchMonth (d : Date) : Int := if d.month ≤ 2 then d.month + 9 else d.month - 3

/-- The days from the first of March to a day. -/
def marchDay (d : Date) : Int := monthStart d.marchMonth + d.day - 1

variable {d : Date}

theorem isValid_iff :
    d.isValid = true ↔ 1 ≤ d.month ∧ d.month ≤ 12 ∧ 1 ≤ d.day ∧ d.day ≤ monthDays d.year d.month := by
  simp only [isValid, Bool.and_eq_true, decide_eq_true_eq, and_assoc]

theorem toDays_eq_dayOfEra :
    d.toDays = d.marchYear / 400 * eraDays + dayOfEra (d.marchYear % 400) d.marchDay - epochDays :=
  rfl

/-- The number of a day is the sum of the days of the years, of the months and of the month. -/
theorem toDays_eq : d.toDays = yearStart d.marchYear + d.marchDay - epochDays := by
  rw [toDays_eq_dayOfEra]
  unfold dayOfEra yearStart eraDays
  omega

/-- A month other than February is as long as the months from March on let the next one start. -/
theorem monthStart_succ (hd : d.isValid = true) (hmonth : d.month ≠ 2) :
    monthStart (d.marchMonth + 1) = monthStart d.marchMonth + monthDays d.year d.month := by
  obtain ⟨year, month, day⟩ := d
  obtain ⟨hfirst, hlast, -⟩ := isValid_iff.1 hd
  dsimp only at hfirst hlast hmonth
  unfold marchMonth monthStart monthDays
  interval_cases month <;> simp at hmonth ⊢

/-- February is the last month of a year that starts in March. -/
theorem monthStart_february (hmonth : d.month = 2) :
    monthStart d.marchMonth + monthDays d.year d.month = if isLeap d.year then 366 else 365 := by
  have hstart : monthStart d.marchMonth = 337 := by
    simp [marchMonth, hmonth, monthStart]
  rw [hstart, hmonth, monthDays, if_pos rfl]
  split <;> rfl

/-- After the last day of a month other than February the next month of the same year starts. -/
theorem march_next (hd : d.isValid = true) (hmonth : d.month ≠ 2)
    (hend : ¬d.day < monthDays d.year d.month) :
    d.next.marchYear = d.marchYear ∧ d.next.marchMonth = d.marchMonth + 1 ∧ d.next.day = 1 := by
  obtain ⟨hfirst, hlast, -⟩ := isValid_iff.1 hd
  rw [next, if_neg hend]
  unfold marchYear marchMonth
  split <;> dsimp only <;> refine ⟨?_, ?_, rfl⟩ <;> omega

/-- The next day has the next number. -/
theorem toDays_next (hd : d.isValid = true) : d.next.toDays = d.toDays + 1 := by
  obtain ⟨hfirst, hlast, -, hday⟩ := isValid_iff.1 hd
  rw [toDays_eq, toDays_eq]
  by_cases hend : d.day < monthDays d.year d.month
  · rw [next, if_pos hend]
    simp only [marchYear, marchDay, marchMonth]
    omega
  · by_cases hmonth : d.month = 2
    · have hnext : d.next = ⟨d.year, 3, 1⟩ := by rw [next, if_neg hend, if_pos (by omega), hmonth]
      have hyear : d.marchYear = d.year - 1 := if_pos (by omega)
      have hstart := yearStart_succ (d.year - 1)
      have hlength := monthStart_february hmonth
      have hmarch : marchDay ⟨d.year, 3, 1⟩ = 0 := by simp [marchDay, marchMonth, monthStart]
      rw [Int.sub_add_cancel] at hstart
      rw [hnext, hmarch, hyear, marchDay]
      change yearStart d.year + 0 - epochDays = _
      omega
    · obtain ⟨hyear, hnext, hone⟩ := march_next hd hmonth hend
      have hlength := monthStart_succ hd hmonth
      rw [marchDay, marchDay, hyear, hnext, hone]
      omega

theorem monthDays_pos (year : Int) (month : Nat) : 1 ≤ monthDays year month := by
  unfold monthDays
  split_ifs <;> omega

/-- The next day exists. -/
theorem isValid_next (hd : d.isValid = true) : d.next.isValid = true := by
  rw [isValid_iff] at hd ⊢
  unfold next
  split_ifs with hend hyear
  · exact ⟨hd.1, hd.2.1, Nat.le_add_left .., hend⟩
  · exact ⟨Nat.le_add_left .., hyear, le_rfl, monthDays_pos ..⟩
  · exact ⟨le_rfl, Nat.le_add_left .., le_rfl, monthDays_pos ..⟩

/-- Each number is the number of a day that exists: going on from the start of its era, counting
comes to it. -/
theorem exists_toDays_eq (n : Int) : ∃ d : Date, d.isValid = true ∧ d.toDays = n := by
  have hgoingOn {d : Date} (hd : d.isValid = true) (k : Nat) :
      ∃ e : Date, e.isValid = true ∧ e.toDays = d.toDays + k := by
    induction k with
    | zero => exact ⟨d, hd, (Int.add_zero _).symm⟩
    | succ k ih =>
        obtain ⟨e, he, hk⟩ := ih
        refine ⟨e.next, isValid_next he, ?_⟩
        rw [toDays_next he, hk, Int.natCast_succ, Int.add_assoc]
  have hstart (era : Int) : toDays ⟨400 * era, 3, 1⟩ = 146097 * era - epochDays := by
    have hmarch : marchDay ⟨400 * era, 3, 1⟩ = 0 := by simp [marchDay, marchMonth, monthStart]
    have hyear : marchYear ⟨400 * era, 3, 1⟩ = 400 * era := rfl
    rw [toDays_eq, hmarch, hyear, yearStart]
    omega
  obtain ⟨d, hd, hdays⟩ := hgoingOn (d := ⟨400 * ((n + epochDays) / 146097), 3, 1⟩)
    (isValid_iff.2 ⟨Nat.le_add_left 1 2, Nat.le_add_left 3 9, le_rfl, monthDays_pos ..⟩)
    ((n + epochDays) % 146097).toNat
  refine ⟨d, hd, ?_⟩
  rw [hdays, hstart]
  omega

/-! ### The day of a number -/

/-- The year of an era is found from the day of the era. -/
theorem dayOfEra_year {year day : Int} (hyear : 0 ≤ year ∧ year < 400)
    (hday : 0 ≤ day ∧ day < if isLeap (year + 1) then 366 else 365) {n : Int}
    (hn : n = dayOfEra year day) :
    (n - n / 1460 + n / 36524 - n / 146096) / 365 = year := by
  unfold dayOfEra at hn
  have hleap : day ≤ 364 ∨ (year + 1) % 4 = 0 ∧ ((year + 1) % 100 ≠ 0 ∨ (year + 1) % 400 = 0) := by
    split at hday
    case isTrue hleap => exact .inr (isLeap_iff.1 hleap)
    case isFalse => exact .inl (by omega)
  have hlast : day ≤ 365 := by
    split at hday <;> omega
  -- Whole centuries: only the last day of the era would start another one.
  have hcentury : n / 36524 - n / 146096 = year / 100 := by
    have hsplit : n = 36524 * (year / 100) + (365 * (year % 100) + year % 100 / 4 + day) := by
      omega
    by_cases hend : year = 399 ∧ day = 365
    · obtain ⟨rfl, rfl⟩ := hend
      rw [hn]
      rfl
    · have hrest : 365 * (year % 100) + year % 100 / 4 + day < 36524 := by omega
      have hwhole : n / 36524 = year / 100 := by
        rw [hsplit, Int.add_comm, Int.add_mul_ediv_left _ _ (by decide),
          Int.ediv_eq_zero_of_lt (by omega) hrest, Int.zero_add]
      have hera : n / 146096 = 0 := Int.ediv_eq_zero_of_lt (by omega) (by omega)
      rw [hwhole, hera, Int.sub_zero]
  -- Whole periods of four years: days of the fourth year may be counted to the next period.
  have hperiod : n / 1460 = year / 4 ∧ day ≤ 364 ∨ n / 1460 = year / 4 + 1 ∧ 1 ≤ day := by
    have hsplit : n = 1460 * (year / 4) + (365 * (year % 4) + (year / 4 - year / 100) + day) := by
      omega
    omega
  omega

theorem dayOfEra_range {year day : Int} (hyear : 0 ≤ year ∧ year < 400)
    (hday : 0 ≤ day ∧ day < if isLeap (year + 1) then 366 else 365) :
    0 ≤ dayOfEra year day ∧ dayOfEra year day < eraDays := by
  unfold dayOfEra eraDays
  split at hday <;> omega

/-- A day comes before the next month of its year, which for February is one that no day is in. -/
theorem marchDay_lt_monthStart (hd : d.isValid = true) :
    d.marchDay < monthStart (d.marchMonth + 1) := by
  obtain ⟨hfirst, hlast, hone, hday⟩ := isValid_iff.1 hd
  rw [marchDay]
  by_cases hmonth : d.month = 2
  · have hlength := monthStart_february hmonth
    have hnext : monthStart (d.marchMonth + 1) = 367 := by simp [marchMonth, hmonth, monthStart]
    split at hlength <;> omega
  · have hlength := monthStart_succ hd hmonth
    omega

/-- A day lies in its year. -/
theorem marchDay_range (hd : d.isValid = true) :
    0 ≤ d.marchDay ∧ d.marchDay < if isLeap (d.marchYear + 1) then 366 else 365 := by
  obtain ⟨hfirst, hlast, hone, hday⟩ := isValid_iff.1 hd
  by_cases hmonth : d.month = 2
  · have hlength := monthStart_february hmonth
    have hyear : d.marchYear + 1 = d.year := by
      rw [marchYear, if_pos (by omega), Int.sub_add_cancel]
    have hstart : monthStart d.marchMonth = 337 := by simp [marchMonth, hmonth, monthStart]
    rw [hyear, ← hlength, marchDay]
    omega
  · have hbefore := marchDay_lt_monthStart hd
    have hmonths : 0 ≤ d.marchMonth ∧ d.marchMonth ≤ 10 := by
      unfold marchMonth
      split <;> omega
    rw [marchDay] at hbefore ⊢
    unfold monthStart at hbefore ⊢
    split <;> omega

/-- The months from March on that are over on a day of the year. -/
theorem marchDay_month (hd : d.isValid = true) : (5 * d.marchDay + 2) / 153 = d.marchMonth := by
  obtain ⟨-, -, hone, -⟩ := isValid_iff.1 hd
  have hbefore := marchDay_lt_monthStart hd
  rw [marchDay] at hbefore ⊢
  unfold monthStart at hbefore ⊢
  omega

/-- Every era has the same leap years. -/
theorem isLeap_yearOfEra (year : Int) : isLeap (year % 400 + 1) = isLeap (year + 1) := by
  rw [Bool.eq_iff_iff, isLeap_iff, isLeap_iff]
  omega

/-- The arithmetic of eras finds each day that exists from its number. -/
theorem ofDays_toDays (hd : d.isValid = true) : ofDays d.toDays = d := by
  obtain ⟨hfirst, hlast, hone, -⟩ := isValid_iff.1 hd
  have hrange := marchDay_range hd
  rw [← isLeap_yearOfEra] at hrange
  have hyear : 0 ≤ d.marchYear % 400 ∧ d.marchYear % 400 < 400 := by omega
  obtain ⟨hera, hdayOfEra⟩ : (d.toDays + epochDays) / eraDays = d.marchYear / 400 ∧
      (d.toDays + epochDays) % eraDays = dayOfEra (d.marchYear % 400) d.marchDay := by
    have hbounds := dayOfEra_range hyear hrange
    rw [toDays_eq_dayOfEra]
    unfold eraDays at hbounds ⊢
    omega
  have hyearOfEra := dayOfEra_year hyear hrange rfl
  have hdayOfYear : dayOfEra (d.marchYear % 400) d.marchDay - (365 * (d.marchYear % 400) +
      d.marchYear % 400 / 4 - d.marchYear % 400 / 100) = d.marchDay := by
    unfold dayOfEra
    omega
  have hmarchYear : d.marchYear % 400 + d.marchYear / 400 * 400 = d.marchYear := by omega
  have hday : (d.marchDay - (153 * d.marchMonth + 2) / 5 + 1).toNat = d.day := by
    rw [marchDay, monthStart]
    omega
  unfold ofDays
  dsimp only
  rw [hera, hdayOfEra, hyearOfEra, hdayOfYear, marchDay_month hd, hmarchYear, hday]
  obtain ⟨year, month, day⟩ := d
  unfold marchMonth marchYear
  dsimp only at hfirst hlast ⊢
  split
  case isTrue =>
    rw [if_neg (by omega), Int.sub_add_cancel, Date.mk.injEq]
    exact ⟨rfl, by omega, rfl⟩
  case isFalse =>
    rw [if_pos (by omega), Date.mk.injEq]
    exact ⟨rfl, by omega, rfl⟩

theorem isValid_ofDays (n : Int) : (ofDays n).isValid = true := by
  obtain ⟨d, hd, rfl⟩ := exists_toDays_eq n
  rwa [ofDays_toDays hd]

theorem toDays_ofDays (n : Int) : (ofDays n).toDays = n := by
  obtain ⟨d, hd, rfl⟩ := exists_toDays_eq n
  rw [ofDays_toDays hd]

theorem toDays_injective {e : Date} (hd : d.isValid = true) (he : e.isValid = true)
    (h : d.toDays = e.toDays) : d = e := by
  rw [← ofDays_toDays hd, h, ofDays_toDays he]

theorem next_ofDays (n : Int) : (ofDays n).next = ofDays (n + 1) := by
  have hvalid := isValid_ofDays n
  apply toDays_injective (isValid_next hvalid) (isValid_ofDays _)
  rw [toDays_next hvalid, toDays_ofDays, toDays_ofDays]

/-! ### Counting -/

/-- What is counted are the days that exist, each with the number that the arithmetic of eras finds. -/
theorem numbered_iff {n : Int} : d.Numbered n ↔ d.isValid = true ∧ d.toDays = n := by
  constructor
  · intro h
    induction h with
    | epoch => exact ⟨rfl, rfl⟩
    | next h ih => exact ⟨isValid_next ih.1, by rw [toDays_next ih.1, ih.2]⟩
    | previous hd h ih =>
        have hnext := toDays_next hd
        exact ⟨hd, by omega⟩
  · rintro ⟨hd, rfl⟩
    have hcounted (n : Int) : (ofDays n).Numbered n := by
      induction n using Int.induction_on with
      | zero => exact .epoch
      | succ n ih =>
          rw [← next_ofDays]
          exact ih.next
      | pred n ih =>
          apply Numbered.previous (isValid_ofDays _)
          rw [next_ofDays, Int.sub_add_cancel]
          exact ih
    have h := hcounted d.toDays
    rwa [ofDays_toDays hd] at h

end Date

end GeoLayers.Calendar
