import GeoLayers.Proofs.Calendar.Days
import GeoLayers.Time

/-!
Instants, given in milliseconds since 1970-01-01T00:00:00 UTC, and what the clocks of UTC show at
them. Each instant has one day and one time of the day; reading these gives the moment that the number
of milliseconds is read as.
-/

namespace GeoLayers.Calendar

/-- A day and a time of the day, to the millisecond. -/
structure Civil where
  date : Date
  hour : Fin 24
  minute : Fin 60
  second : Fin 60
  milli : Fin 1000

/-- The year of a day is written with four digits. -/
def Date.HasFourDigitYear (d : Date) : Prop := 0 ≤ d.year ∧ d.year ≤ 9999

namespace Civil

/-- The number of milliseconds from 1970-01-01T00:00:00 on at which the clocks of UTC show a day and
a time of the day. -/
def IsAt (c : Civil) (millis : Int) : Prop :=
  ∃ days : Int, c.date.Numbered days ∧
    millis = (((days * 24 + c.hour) * 60 + c.minute) * 60 + c.second) * 1000 + c.milli

/-- The time of the day as it is read. -/
def clock (c : Civil) : Reader.Clock := ⟨c.hour, c.minute, c.second, c.milli * 1000000⟩

end Civil

/-- The moment a number of milliseconds after 1970-01-01T00:00:00. -/
def Moment.atMillis (millis : Int) : Moment := ⟨millis / 1000, (millis % 1000).toNat * 1000000⟩

theorem toMillis_atMillis (millis : Int) : (Moment.atMillis millis).toMillis = millis := by
  unfold Moment.atMillis Moment.toMillis
  dsimp only
  omega

/-- The quotient and the remainder of a number that is put together from both. -/
theorem ediv_emod_eq {n q k : Int} {r : Nat} (h : n = q * k + r) (hr : r < k) :
    n / k = q ∧ n % k = r := by
  have hpositive : 0 < k := lt_of_le_of_lt (Int.natCast_nonneg r) hr
  apply (Int.ediv_emod_unique hpositive).2
  refine ⟨?_, Int.natCast_nonneg r, hr⟩
  rw [h, Int.mul_comm q k, Int.add_comm]

variable {c : Civil} {d : Date}

namespace Civil

variable {millis : Int}

/-- Every instant has one day and one time of the day in UTC. -/
theorem existsUnique_isAt (millis : Int) : ∃! c : Civil, c.IsAt millis := by
  have hhour : (millis / 1000 / 60 / 60 % 24).toNat < 24 := by omega
  have hminute : (millis / 1000 / 60 % 60).toNat < 60 := by omega
  have hsecond : (millis / 1000 % 60).toNat < 60 := by omega
  have hmilli : (millis % 1000).toNat < 1000 := by omega
  refine ⟨⟨Date.ofDays (millis / 1000 / 60 / 60 / 24), ⟨_, hhour⟩, ⟨_, hminute⟩, ⟨_, hsecond⟩,
    ⟨_, hmilli⟩⟩, ⟨millis / 1000 / 60 / 60 / 24, ?_, ?_⟩, ?_⟩
  · exact Date.numbered_iff.2 ⟨Date.isValid_ofDays _, Date.toDays_ofDays _⟩
  · dsimp only
    omega
  · rintro ⟨date, hour, minute, second, milli⟩ ⟨days, hdays, hmillis⟩
    dsimp only at hdays hmillis
    obtain ⟨hvalid, hnumber⟩ := Date.numbered_iff.1 hdays
    obtain ⟨hseconds, hmilli⟩ := ediv_emod_eq hmillis (Int.ofNat_lt.2 milli.2)
    obtain ⟨hminutes, hsecond⟩ := ediv_emod_eq hseconds (Int.ofNat_lt.2 second.2)
    obtain ⟨hhours, hminute⟩ := ediv_emod_eq hminutes (Int.ofNat_lt.2 minute.2)
    obtain ⟨hday, hhour⟩ := ediv_emod_eq hhours (Int.ofNat_lt.2 hour.2)
    rw [Civil.mk.injEq, hday, ← hnumber, Date.ofDays_toDays hvalid]
    refine ⟨rfl, Fin.ext ?_, Fin.ext ?_, Fin.ext ?_, Fin.ext ?_⟩
    · exact (congrArg Int.toNat hhour).symm
    · exact (congrArg Int.toNat hminute).symm
    · exact (congrArg Int.toNat hsecond).symm
    · exact (congrArg Int.toNat hmilli).symm

theorem inRange_of_hasFourDigitYear (hyear : d.HasFourDigitYear) : inRange d.year = true := by
  obtain ⟨hfirst, hlast⟩ := hyear
  simp only [inRange, Bool.and_eq_true, decide_eq_true_eq]
  omega

theorem IsAt.isValid (hc : c.IsAt millis) : c.date.isValid = true := by
  obtain ⟨days, hdays, -⟩ := hc
  exact (Date.numbered_iff.1 hdays).1

/-- The day and the time of an instant make up its moment. -/
theorem IsAt.moment?_eq (hc : c.IsAt millis) (hyear : c.date.HasFourDigitYear) :
    Reader.moment? c.date c.clock = some (Moment.atMillis millis) := by
  obtain ⟨days, hdays, hmillis⟩ := hc
  obtain ⟨hvalid, hnumber⟩ := Date.numbered_iff.1 hdays
  have hhour : ¬24 ≤ c.clock.hour := Nat.not_le.2 c.hour.2
  have hminute : ¬60 ≤ c.clock.minute := Nat.not_le.2 c.minute.2
  have hsecond : ¬60 < c.clock.second := Nat.not_lt.2 c.second.2.le
  have hleap : ¬c.clock.second = 60 := c.second.2.ne
  simp only [Reader.moment?, hvalid, inRange_of_hasFourDigitYear hyear, hhour, hminute, hsecond, hleap,
    hnumber, Bool.not_true, Bool.or_self, decide_false, Bool.false_eq_true, if_false]
  rw [Moment.atMillis, Option.some.injEq, Moment.mk.injEq]
  unfold Moment.daySeconds clock
  dsimp only
  omega

/-- The moment of an instant lies in the years that are allowed. -/
theorem IsAt.isValid_atMillis (hc : c.IsAt millis) (hyear : c.date.HasFourDigitYear) :
    (Moment.atMillis millis).isValid = true := by
  obtain ⟨days, hdays, hmillis⟩ := hc
  obtain ⟨hvalid, hnumber⟩ := Date.numbered_iff.1 hdays
  have hday : (Moment.atMillis millis).seconds / Moment.daySeconds = days := by
    unfold Moment.atMillis Moment.daySeconds
    dsimp only
    omega
  rw [Moment.isValid, Moment.date, hday, ← hnumber, Date.ofDays_toDays hvalid]
  exact inRange_of_hasFourDigitYear hyear

/-- An instant in these years is a signed word of 64 bits. -/
theorem IsAt.within (hc : c.IsAt millis) (hyear : c.date.HasFourDigitYear) :
    Number.minInt64 ≤ millis ∧ millis ≤ Number.maxInt64 := by
  obtain ⟨days, hdays, hmillis⟩ := hc
  obtain ⟨hvalid, hnumber⟩ := Date.numbered_iff.1 hdays
  have hdayOfYear := Date.marchDay_range hvalid
  have hmarchYear : -1 ≤ c.date.marchYear ∧ c.date.marchYear ≤ 9999 := by
    obtain ⟨hfirst, hlast⟩ := hyear
    unfold Date.marchYear
    split <;> omega
  have hbounds : -800000 ≤ days ∧ days ≤ 3000000 := by
    rw [Date.toDays_eq] at hnumber
    unfold yearStart epochDays at hnumber
    split at hdayOfYear <;> omega
  unfold Number.minInt64 Number.maxInt64
  omega

end Civil

theorem momentOfValue_integer {millis : Int} (hc : c.IsAt millis)
    (hyear : c.date.HasFourDigitYear) :
    momentOfValue (.integer millis) = .ok (Moment.atMillis millis) := by
  obtain ⟨hlow, hhigh⟩ := hc.within hyear
  have hmoment : Moment.ofMillis? millis = some (Moment.atMillis millis) :=
    if_pos (hc.isValid_atMillis hyear)
  have hread : momentOfMillis millis = .ok (Moment.atMillis millis) := by
    unfold momentOfMillis
    rw [hmoment]
  have hword : max Number.minInt64 (min Number.maxInt64 millis) = millis := by
    rw [min_eq_right hhigh, max_eq_right hlow]
  exact (congrArg momentOfMillis hword).trans hread

end GeoLayers.Calendar
