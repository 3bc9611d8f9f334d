import DidRegistry.Text.Digits

/-!
Points in time as calendar dates. A second since the epoch is a date of the proleptic Gregorian
calendar and a time of day, both in UTC; `timestamp?` writes it for the seconds that have a date
between the years −262143 and 262142.
-/

namespace DidRegistry.Calendar

/-- A date of the Gregorian calendar, reckoned backwards without limit. -/
structure Date where
  year : Int
  month : Nat
  day : Nat
  deriving DecidableEq, Repr

/-- The days from the first of March of year zero to the epoch, 1970-01-01. -/
def epochDay : Int := 719468

/-- The days of four hundred years, after which the calendar repeats. -/
def eraDays : Int := 146097

/-- The year, counted from March, that a day of an era falls into. Every fourth year is a day
longer, except for every hundredth, except for the last of the era. -/
def yearOfEra (day : Nat) : Nat := (day - day / 1460 + day / 36524 - day / 146096) / 365

/-- The date of a day, counted from the epoch. Years begin in March inside the computation, so that
the day that comes and goes is the last of its year; months of a year then begin every
30.6 days. -/
def ofDays (days : Int) : Date :=
  let day := days + epochDay
  let era := day / eraDays
  let dayOfEra := (day % eraDays).toNat
  let year := yearOfEra dayOfEra
  let dayOfYear := dayOfEra - (365 * year + year / 4 - year / 100)
  let month := (5 * dayOfYear + 2) / 153
  let date := dayOfYear - (153 * month + 2) / 5 + 1
  if month < 10 then ⟨400 * era + year, month + 3, date⟩
  else ⟨400 * era + year + 1, month - 9, date⟩

/-- A year in four digits; a year that does not fit carries its sign. -/
def yearText (year : Int) : List Char :=
  if 0 ≤ year ∧ year ≤ 9999 then Digits.padded 4 year.toNat
  else (if year < 0 then '-' else '+') :: Digits.padded 4 year.natAbs

def pair (value : Nat) : List Char := Digits.padded 2 value

/-- The date and time of a second since the epoch, as `YYYY-MM-DDThh:mm:ssZ`. -/
def timestampChars (epoch : Int) : List Char :=
  let date := ofDays (epoch / 86400)
  let second := (epoch % 86400).toNat
  yearText date.year ++ '-' :: pair date.month ++ '-' :: pair date.day ++
    'T' :: pair (second / 3600) ++ ':' :: pair (second / 60 % 60) ++ ':' :: pair (second % 60) ++
    ['Z']

/-- The first second of the year −262143. -/
def firstSecond : Int := -8334601228800

/-- The last second of the year 262142. -/
def lastSecond : Int := 8210266876799

/-- The date and time of a second since the epoch, if it is in range. -/
def timestamp? (epoch : Int) : Option String :=
  if firstSecond ≤ epoch ∧ epoch ≤ lastSecond then some (String.ofList (timestampChars epoch))
  else none

end DidRegistry.Calendar
