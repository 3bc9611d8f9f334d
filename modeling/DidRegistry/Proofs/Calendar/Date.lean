import DidRegistry.Calendar
import Mathlib.Order.Monotone.Basic
import Mathlib.Tactic.IntervalCases

/-!
The Gregorian calendar, and the computation of dates by it. The calendar is given by the lengths of
its months and by its leap years; `Date.toDays` adds them up, from the epoch to a date. `ofDays`
finds the one date of the calendar that is so many days away (`ofDays_eq_iff`), and the days have
the order of the dates (`Date.before_iff`).
-/

namespace DidRegistry.Calendar

/-! ### The calendar -/

/-- The leap day of a year: every fourth year has one, except for every hundredth, except for
every four hundredth. -/
def leapDay (year : Int) : Nat :=
  if year % 4 = 0 ∧ (year % 100 ≠ 0 ∨ year % 400 = 0) then 1 else 0

/-- The days of a month, January being the first; there are twelve. -/
def monthLength (year : Int) : Nat → Nat
  | 1 | 3 | 5 | 7 | 8 | 10 | 12 => 31
  | 4 | 6 | 9 | 11 => 30
  | 2 => 28 + leapDay year
  | _ => 0

/-- The days of a year that come before a month. -/
def daysBefore (year : Int) : Nat → Nat
  | 0 => 0
  | month + 1 => daysBefore year month + monthLength year month

/-- The leap days since the first year, up to a year; negative before it. -/
def leapDaysBefore (year : Int) : Int := (year - 1) / 4 - (year - 1) / 100 + (year - 1) / 400

/-- The first of January of a year, in days since the epoch. -/
def newYear (year : Int) : Int :=
  365 * (year - 1970) + leapDaysBefore year - leapDaysBefore 1970

/-- The month is one of the twelve, and the day is one that it has in that year. -/
structure Date.IsValid (date : Date) : Prop where
  month_pos : 1 ≤ date.month
  month_le : date.month ≤ 12
  day_pos : 1 ≤ date.day
  day_le : date.day ≤ monthLength date.year date.month

/-- A date in days since the epoch. -/
def Date.toDays (date : Date) : Int :=
  newYear date.year + daysBefore date.year date.month + date.day - 1

-- The epoch begins on the first of January 1970.
example : Date.toDays ⟨1970, 1, 1⟩ = 0 := rfl

theorem leapDay_le_one (year : Int) : leapDay year ≤ 1 := by
  unfold leapDay
  split <;> omega

/-- The leap years repeat after four hundred years. -/
theorem leapDay_era_add (era year : Int) : leapDay (400 * era + year) = leapDay year := by
  unfold leapDay
  split <;> split <;> omega

/-- A year is 365 days long, and one day longer when it has a leap day. -/
theorem newYear_succ (year : Int) : newYear (year + 1) = newYear year + 365 + leapDay year := by
  unfold newYear leapDaysBefore leapDay
  split <;> omega

theorem newYear_mono {year other : Int} (before : year ≤ other) : newYear year ≤ newYear other := by
  unfold newYear leapDaysBefore
  omega

theorem daysBefore_mono (year : Int) : Monotone (daysBefore year) :=
  monotone_nat_of_le_succ fun _ => Nat.le_add_right ..

/-- The months fill up the year. -/
theorem newYear_add_daysBefore (year : Int) :
    newYear year + daysBefore year 13 = newYear (year + 1) := by
  rw [newYear_succ]
  simp only [daysBefore, monthLength]
  omega

/-! ### The order of dates -/

namespace Date

variable {date other : Date}

/-- A date comes before the month that follows its own. -/
theorem IsValid.toDays_lt_month (valid : date.IsValid) :
    date.toDays < newYear date.year + daysBefore date.year (date.month + 1) := by
  have fits := valid.day_le
  simp only [toDays, daysBefore]
  omega

theorem IsValid.month_le_toDays (valid : date.IsValid) :
    newYear date.year + daysBefore date.year date.month ≤ date.toDays := by
  have starts := valid.day_pos
  unfold toDays
  omega

theorem IsValid.newYear_le_toDays (valid : date.IsValid) : newYear date.year ≤ date.toDays := by
  have begun := valid.month_le_toDays
  omega

/-- A date comes before the year that follows its own. -/
theorem IsValid.toDays_lt_newYear (valid : date.IsValid) :
    date.toDays < newYear (date.year + 1) := by
  have within : daysBefore date.year (date.month + 1) ≤ daysBefore date.year 13 :=
    daysBefore_mono date.year (Nat.add_le_add_right valid.month_le 1)
  have ends := valid.toDays_lt_month
  rw [← newYear_add_daysBefore]
  omega

/-- The years of dates, told by the days. -/
theorem IsValid.le_year_iff (valid : date.IsValid) (year : Int) :
    year ≤ date.year ↔ newYear year ≤ date.toDays := by
  constructor
  · intro before
    exact (newYear_mono before).trans valid.newYear_le_toDays
  · intro begun
    by_contra after
    have ended := newYear_mono (Int.lt_iff_add_one_le.mp (not_le.mp after))
    have ends := valid.toDays_lt_newYear
    omega

/-- The date is earlier: the year decides, then the month, then the day. -/
def Before (date other : Date) : Prop :=
  date.year < other.year ∨ date.year = other.year ∧
    (date.month < other.month ∨ date.month = other.month ∧ date.day < other.day)

theorem before_trichotomy (date other : Date) :
    date.Before other ∨ date = other ∨ other.Before date := by
  rcases date with ⟨year, month, day⟩
  rcases other with ⟨otherYear, otherMonth, otherDay⟩
  simp only [Before, mk.injEq]
  omega

theorem Before.toDays_lt (before : date.Before other) (valid : date.IsValid)
    (also : other.IsValid) : date.toDays < other.toDays := by
  rcases before with years | ⟨years, months | ⟨months, days⟩⟩
  · calc
      date.toDays < newYear (date.year + 1) := valid.toDays_lt_newYear
      _ ≤ newYear other.year := newYear_mono years
      _ ≤ other.toDays := also.newYear_le_toDays
  · have ends := valid.toDays_lt_month
    have begins := also.month_le_toDays
    have between : daysBefore other.year (date.month + 1) ≤ daysBefore other.year other.month :=
      daysBefore_mono other.year (Nat.succ_le_of_lt months)
    rw [years] at ends
    omega
  · simp only [toDays, years, months]
    omega

/-- The days since the epoch have the order of the dates. -/
theorem before_iff (valid : date.IsValid) (also : other.IsValid) :
    date.Before other ↔ date.toDays < other.toDays := by
  constructor
  · intro before
    exact before.toDays_lt valid also
  · intro less
    rcases before_trichotomy date other with before | rfl | after
    · exact before
    · exact absurd less (lt_irrefl _)
    · exact absurd less (after.toDays_lt also valid).asymm

/-- Dates that are as many days from the epoch are the same. -/
theorem IsValid.eq_of_toDays_eq (valid : date.IsValid) (also : other.IsValid)
    (same : date.toDays = other.toDays) : date = other := by
  rcases before_trichotomy date other with before | equal | after
  · exact absurd same (before.toDays_lt valid also).ne
  · exact equal
  · exact absurd same (after.toDays_lt also valid).ne'

end Date

/-! ### Years that begin in March -/

/-- The days of a year before the months from March on, which begin every 30.6 days. -/
theorem daysBefore_march_add (year : Int) {month : Nat} (within : month ≤ 10) :
    daysBefore year (month + 3) = 59 + leapDay year + (153 * month + 2) / 5 := by
  interval_cases month <;> simp +arith [daysBefore, monthLength]

/-- The first of March of a year, in days since the epoch. -/
def march (year : Int) : Int := newYear year + daysBefore year 3

/-- The leap day is the last day before March, so the leap days before March are counted evenly. -/
theorem march_eq (year : Int) :
    march year = 365 * year + year / 4 - year / 100 + year / 400 - epochDay := by
  have leap : daysBefore year 3 = 59 + leapDay year := daysBefore_march_add year (Nat.zero_le _)
  rw [march, leap]
  unfold newYear leapDaysBefore leapDay epochDay
  split <;> push_cast <;> omega

/-- The last year and the last day of a century, a cycle of four years or a year may be cut short:
the day of an era in parts of which each is the largest that fits. -/
theorem exists_parts {day : Nat} (within : day < 146097) :
    ∃ century cycle year dayOfYear, century ≤ 3 ∧ cycle ≤ 24 ∧ year ≤ 3 ∧
      (dayOfYear < 365 ∨ dayOfYear = 365 ∧ year = 3 ∧ (cycle < 24 ∨ century = 3)) ∧
      day = 36524 * century + 1461 * cycle + 365 * year + dayOfYear := by
  let century := min (day / 36524) 3
  let cycle := (day - 36524 * century) / 1461
  let year := min ((day - 36524 * century - 1461 * cycle) / 365) 3
  refine ⟨century, cycle, year, day - 36524 * century - 1461 * cycle - 365 * year, ?_⟩
  omega

/-- The corrections of `yearOfEra` take off the leap days of the cycles and put back those that the
centuries lack. The last day of the era is in a cycle, a century and an era of its own. -/
theorem yearOfEra_parts {century cycle year dayOfYear : Nat} (centuries : century ≤ 3)
    (cycles : cycle ≤ 24) (years : year ≤ 3)
    (fits : dayOfYear < 365 ∨ dayOfYear = 365 ∧ year = 3 ∧ (cycle < 24 ∨ century = 3)) :
    yearOfEra (36524 * century + 1461 * cycle + 365 * year + dayOfYear) =
      100 * century + 4 * cycle + year := by
  have hundreds : (36524 * century + 1461 * cycle + 365 * year + dayOfYear) / 36524 = century ∨
      (36524 * century + 1461 * cycle + 365 * year + dayOfYear) / 36524 = 4 ∧
        century = 3 ∧ cycle = 24 ∧ year = 3 ∧ dayOfYear = 365 := by omega
  have last : (36524 * century + 1461 * cycle + 365 * year + dayOfYear) / 146096 = 0 ∨
      (36524 * century + 1461 * cycle + 365 * year + dayOfYear) / 146096 = 1 ∧
        century = 3 ∧ cycle = 24 ∧ year = 3 ∧ dayOfYear = 365 := by omega
  have quarters : (36524 * century + 1461 * cycle + 365 * year + dayOfYear) / 1460 =
      25 * century + (24 * century + 1461 * cycle + 365 * year + dayOfYear) / 1460 := by omega
  unfold yearOfEra
  omega

/-- A day of an era comes after the first of March of the year that `yearOfEra` gives, by fewer
days than that year has. -/
theorem exists_dayOfYear {day : Nat} (within : day < 146097) :
    ∃ dayOfYear, dayOfYear < 365 + leapDay (yearOfEra day + 1) ∧ yearOfEra day < 400 ∧
      day = 365 * yearOfEra day + yearOfEra day / 4 - yearOfEra day / 100 + dayOfYear := by
  obtain ⟨century, cycle, year, dayOfYear, centuries, cycles, years, fits, rfl⟩ :=
    exists_parts within
  rw [yearOfEra_parts centuries cycles years fits]
  have quarters : (100 * century + 4 * cycle + year) / 4 = 25 * century + cycle := by omega
  have hundreds : (100 * century + 4 * cycle + year) / 100 = century := by omega
  refine ⟨dayOfYear, ?_, by omega, by omega⟩
  unfold leapDay
  split <;> omega

/-- The date that is so many days after the first of March of a year. -/
def ofMarch (year : Int) (dayOfYear : Nat) : Date :=
  let month := (5 * dayOfYear + 2) / 153
  let date := dayOfYear - (153 * month + 2) / 5 + 1
  if month < 10 then ⟨year, month + 3, date⟩ else ⟨year + 1, month - 9, date⟩

/-- The date of a day is found from its year, begun in March. -/
theorem exists_ofMarch (days : Int) :
    ∃ (year : Int) (dayOfYear : Nat), dayOfYear < 365 + leapDay (year + 1) ∧
      days = march year + dayOfYear ∧ ofDays days = ofMarch year dayOfYear := by
  have within : ((days + epochDay) % eraDays).toNat < 146097 := by
    unfold eraDays epochDay
    omega
  have whole : ((days + epochDay) % eraDays).toNat = days + epochDay -
      146097 * ((days + epochDay) / eraDays) := by
    unfold eraDays epochDay
    omega
  obtain ⟨dayOfYear, fits, below, day⟩ := exists_dayOfYear within
  generalize ofEra : yearOfEra ((days + epochDay) % eraDays).toNat = year at *
  refine ⟨400 * ((days + epochDay) / eraDays) + year, dayOfYear, ?_, ?_, ?_⟩
  · rw [add_assoc, leapDay_era_add]
    exact fits
  · generalize (days + epochDay) / eraDays = era at *
    have quarters : (400 * era + year) / 4 = 100 * era + (year / 4 : Nat) := by omega
    have hundreds : (400 * era + year) / 100 = 4 * era + (year / 100 : Nat) := by omega
    have eras : (400 * era + year) / 400 = era := by omega
    rw [march_eq, quarters, hundreds, eras]
    omega
  · have rest : ((days + epochDay) % eraDays).toNat - (365 * year + year / 4 - year / 100) =
        dayOfYear := by omega
    simp only [ofDays, ofMarch, ofEra, rest]

/-! ### The date of a day -/

theorem ofMarch_isValid {year : Int} {dayOfYear : Nat}
    (fits : dayOfYear < 365 + leapDay (year + 1)) : (ofMarch year dayOfYear).IsValid := by
  have leap := leapDay_le_one (year + 1)
  generalize month : (5 * dayOfYear + 2) / 153 = offset
  have offsets : offset ≤ 11 := by omega
  have day : dayOfYear - (153 * offset + 2) / 5 + 1 ≤
      if offset < 10 then monthLength year (offset + 3)
      else monthLength (year + 1) (offset - 9) := by
    interval_cases offset <;> simp [monthLength] <;> omega
  simp only [ofMarch, month]
  split at day
  · rw [if_pos ‹_›]
    exact ⟨by simp, by simp; omega, by simp, day⟩
  · rw [if_neg ‹_›]
    exact ⟨by simp; omega, by simp; omega, by simp, day⟩

theorem toDays_ofMarch {year : Int} {dayOfYear : Nat}
    (fits : dayOfYear < 365 + leapDay (year + 1)) :
    (ofMarch year dayOfYear).toDays = march year + dayOfYear := by
  have leap := leapDay_le_one (year + 1)
  have start : daysBefore year 3 = 59 + leapDay year := daysBefore_march_add year (Nat.zero_le _)
  simp only [ofMarch, march]
  generalize month : (5 * dayOfYear + 2) / 153 = offset
  have offsets : offset ≤ 11 := by omega
  by_cases early : offset < 10
  · rw [if_pos early, Date.toDays]
    simp only [daysBefore_march_add year early.le, start]
    omega
  · have last : offset = 10 ∨ offset = 11 := by omega
    have january : daysBefore (year + 1) 1 = 0 := rfl
    have february : daysBefore (year + 1) 2 = 31 := rfl
    rw [if_neg early, Date.toDays, start, newYear_succ]
    rcases last with rfl | rfl
    · dsimp only
      rw [january]
      omega
    · dsimp only
      rw [february]
      omega

theorem isValid_ofDays (days : Int) : (ofDays days).IsValid := by
  obtain ⟨year, dayOfYear, fits, -, date⟩ := exists_ofMarch days
  rw [date]
  exact ofMarch_isValid fits

@[simp] theorem toDays_ofDays (days : Int) : (ofDays days).toDays = days := by
  obtain ⟨year, dayOfYear, fits, whole, date⟩ := exists_ofMarch days
  rw [date, whole]
  exact toDays_ofMarch fits

/-- The date of a day is the one date of the calendar that is so many days from the epoch. -/
theorem ofDays_eq_iff {days : Int} {date : Date} :
    ofDays days = date ↔ date.IsValid ∧ date.toDays = days := by
  constructor
  · rintro rfl
    exact ⟨isValid_ofDays days, toDays_ofDays days⟩
  · rintro ⟨valid, rfl⟩
    exact (isValid_ofDays date.toDays).eq_of_toDays_eq valid (toDays_ofDays date.toDays)

end DidRegistry.Calendar
