import DidRegistry.Proofs.Calendar.Date
import DidRegistry.Proofs.Text.FixedWidth

/-!
Points in time and the texts for them. `rfc3339?` reads the date and time that RFC 3339 writes for a
point in time in UTC, in whole seconds, and gives the second since the epoch; `expanded?` also reads
years of more than four digits and years before the first, which then carry a sign. A timestamp is
always read back by the second (`expanded?_of_timestamp?`) and by the first for just the years from
0 to 9999 (`rfc3339?_of_timestamp?`). In these years the texts have the order of the points in time
(`ofText_timestamp_lt`).
-/

namespace DidRegistry.Calendar

/-! ### Reading -/

instance (date : Date) : Decidable date.IsValid :=
  decidable_of_iff (1 ≤ date.month ∧ date.month ≤ 12 ∧ 1 ≤ date.day ∧
      date.day ≤ monthLength date.year date.month)
    ⟨fun ⟨first, second, third, fourth⟩ => ⟨first, second, third, fourth⟩,
      fun valid => ⟨valid.month_pos, valid.month_le, valid.day_pos, valid.day_le⟩⟩

/-- The columns after the year: month, day, hour, minute and second, of two digits each. -/
def columns : List Column :=
  [⟨2, '-', by decide⟩, ⟨2, 'T', by decide⟩, ⟨2, ':', by decide⟩, ⟨2, ':', by decide⟩,
    ⟨2, 'Z', by decide⟩]

def yearColumn : Column := ⟨4, '-', by decide⟩

/-- The second since the epoch that a year and the numbers after it denote in UTC, if the calendar
has such a date and the day such a time. -/
def second? (year : Int) : List Nat → Option Int
  | [month, day, hour, minute, second] =>
      if (Date.mk year month day).IsValid ∧ hour < 24 ∧ minute < 60 ∧ second < 60 then
        some (86400 * (Date.mk year month day).toDays + (3600 * hour + 60 * minute + second : Nat))
      else none
  | _ => none

/-- The second that `YYYY-MM-DDThh:mm:ssZ` denotes. -/
def readChars? (text : List Char) : Option Int :=
  (FixedWidth.read? (yearColumn :: columns) text).bind fun
    | year :: numbers => second? year numbers
    | [] => none

/-- The same after a sign, with a year of any number of digits. -/
def readSigned? (sign : Int) (text : List Char) : Option Int :=
  let digits := text.takeWhile (· != '-')
  (Digits.number? 10 Digits.decimal? digits).bind fun year =>
    (FixedWidth.read? columns (text.drop (digits.length + 1))).bind (second? (sign * year))

/-- The second since the epoch that a date and time of RFC 3339 denotes, in UTC and without a
fraction. -/
def rfc3339? (text : String) : Option Int := readChars? text.toList

/-- The same with years that carry a sign. -/
def expanded? (text : String) : Option Int :=
  match text.toList with
  | '+' :: rest => readSigned? 1 rest
  | '-' :: rest => readSigned? (-1) rest
  | unsigned => readChars? unsigned

/-- A sign is no digit of a year. -/
theorem readChars?_signed {sign : Char} (isSign : sign = '+' ∨ sign = '-') (rest : List Char) :
    readChars? (sign :: rest) = none := by
  rcases isSign with rfl | rfl <;> rfl

/-- What has no sign is read in the one way only. -/
theorem expanded?_of_rfc3339? {text : String} {epoch : Int} (read : rfc3339? text = some epoch) :
    expanded? text = some epoch := by
  unfold rfc3339? at read
  unfold expanded?
  split
  · rw [‹text.toList = _›, readChars?_signed (Or.inl rfl)] at read
    exact absurd read (by simp)
  · rw [‹text.toList = _›, readChars?_signed (Or.inr rfl)] at read
    exact absurd read (by simp)
  · exact read

/-! ### Writing in columns -/

def yearOf (epoch : Int) : Int := (ofDays (epoch / 86400)).year

def numbers (epoch : Int) : List Nat :=
  let date := ofDays (epoch / 86400)
  let second := (epoch % 86400).toNat
  [date.month, date.day, second / 3600, second / 60 % 60, second % 60]

theorem monthLength_le (year : Int) (month : Nat) : monthLength year month ≤ 31 := by
  have leap := leapDay_le_one year
  unfold monthLength
  split <;> omega

theorem fits_numbers (epoch : Int) : FixedWidth.Fits columns (numbers epoch) := by
  have valid := isValid_ofDays (epoch / 86400)
  have month := valid.month_le
  have day := valid.day_le.trans (monthLength_le _ _)
  refine .cons ?_ (.cons ?_ (.cons ?_ (.cons ?_ (.cons ?_ .nil)))) <;> norm_num <;> omega

/-- The numbers of a second denote this second. -/
theorem second?_numbers (epoch : Int) : second? (yearOf epoch) (numbers epoch) = some epoch := by
  have valid := isValid_ofDays (epoch / 86400)
  have days := toDays_ofDays (epoch / 86400)
  have clock : (epoch % 86400).toNat / 3600 < 24 ∧ (epoch % 86400).toNat / 60 % 60 < 60 ∧
      (epoch % 86400).toNat % 60 < 60 := by omega
  calc
    second? (yearOf epoch) (numbers epoch) = some _ := if_pos ⟨valid, clock⟩
    _ = some epoch := by
      rw [Option.some.injEq]
      change 86400 * (ofDays (epoch / 86400)).toDays + _ = epoch
      rw [days]
      omega

/-- The years that four digits write. -/
def FourDigits (year : Int) : Prop := 0 ≤ year ∧ year ≤ 9999

theorem yearText_of_fourDigits {year : Int} (four : FourDigits year) :
    yearText year = Digits.padded 4 year.toNat := if_pos four

theorem yearText_of_not_fourDigits {year : Int} (signed : ¬ FourDigits year) :
    yearText year = (if year < 0 then '-' else '+') :: Digits.padded 4 year.natAbs := if_neg signed

theorem timestampChars_eq (epoch : Int) :
    timestampChars epoch =
      yearText (yearOf epoch) ++ '-' :: FixedWidth.write columns (numbers epoch) := by
  simp [timestampChars, columns, numbers, FixedWidth.write, pair, yearOf]

/-- A timestamp with a year of four digits is a row of numbers. -/
theorem timestampChars_of_fourDigits {epoch : Int} (year : FourDigits (yearOf epoch)) :
    timestampChars epoch =
      FixedWidth.write (yearColumn :: columns) ((yearOf epoch).toNat :: numbers epoch) := by
  rw [timestampChars_eq, yearText_of_fourDigits year]
  rfl

theorem fits_of_fourDigits {epoch : Int} (year : FourDigits (yearOf epoch)) :
    FixedWidth.Fits (yearColumn :: columns) ((yearOf epoch).toNat :: numbers epoch) := by
  obtain ⟨first, last⟩ := year
  refine .cons ?_ (fits_numbers epoch)
  change (yearOf epoch).toNat < 10 ^ 4
  omega

/-- A timestamp with a year of four digits is read back. -/
theorem rfc3339?_of_fourDigits {epoch : Int} (year : FourDigits (yearOf epoch)) :
    rfc3339? (String.ofList (timestampChars epoch)) = some epoch := by
  rw [rfc3339?, String.toList_ofList, readChars?, timestampChars_of_fourDigits year,
    FixedWidth.read?_write (fits_of_fourDigits year), Option.bind_some]
  change second? ((yearOf epoch).toNat : Int) (numbers epoch) = some epoch
  rw [Int.toNat_of_nonneg year.1, second?_numbers]

/-- A timestamp with a sign is not. -/
theorem rfc3339?_of_not_fourDigits {epoch : Int} (signed : ¬ FourDigits (yearOf epoch)) :
    rfc3339? (String.ofList (timestampChars epoch)) = none := by
  rw [rfc3339?, String.toList_ofList, timestampChars_eq, yearText_of_not_fourDigits signed,
    List.cons_append]
  apply readChars?_signed
  split <;> simp

/-- No numeral has a hyphen, so what precedes the first one is the year. -/
theorem readSigned?_padded {sign epoch : Int} {year : Nat} (whole : sign * year = yearOf epoch)
    (width : Nat) :
    readSigned? sign
        (Digits.padded width year ++ '-' :: FixedWidth.write columns (numbers epoch)) =
      some epoch := by
  have read := Digits.number?_padded width year
  have digits : ∀ c ∈ Digits.padded width year, (c != '-') = true := by
    intro c member
    rw [bne_iff_ne]
    rintro rfl
    have digit := Digits.isSome_of_number? read _ member
    exact absurd digit (by decide)
  have front : (Digits.padded width year ++
      '-' :: FixedWidth.write columns (numbers epoch)).takeWhile (· != '-') =
        Digits.padded width year := by
    rw [List.takeWhile_append_of_pos digits]
    simp
  simp only [readSigned?, front, read, Option.bind_some, ← List.drop_drop, List.drop_left',
    List.drop_succ_cons, List.drop_zero, FixedWidth.read?_write (fits_numbers epoch), whole]
  exact second?_numbers epoch

/-- A timestamp is read back, its year signed or not. -/
theorem expanded?_timestampChars (epoch : Int) :
    expanded? (String.ofList (timestampChars epoch)) = some epoch := by
  by_cases year : FourDigits (yearOf epoch)
  · exact expanded?_of_rfc3339? (rfc3339?_of_fourDigits year)
  · rw [expanded?, String.toList_ofList, timestampChars_eq, yearText_of_not_fourDigits year]
    by_cases negative : yearOf epoch < 0
    · rw [if_pos negative]
      apply readSigned?_padded
      omega
    · rw [if_neg negative]
      apply readSigned?_padded
      omega

/-! ### Timestamps -/

theorem timestamp?_eq_some_iff {epoch : Int} {text : String} :
    timestamp? epoch = some text ↔
      (firstSecond ≤ epoch ∧ epoch ≤ lastSecond) ∧ String.ofList (timestampChars epoch) = text := by
  simp [timestamp?]

/-- A year has begun as soon as its first second has come. -/
theorem le_yearOf_iff (year epoch : Int) : year ≤ yearOf epoch ↔ 86400 * newYear year ≤ epoch := by
  rw [yearOf, (isValid_ofDays _).le_year_iff, toDays_ofDays]
  omega

/-- A second has no timestamp just if its year is none of those from −262143 to 262142. -/
theorem timestamp?_eq_none_iff (epoch : Int) :
    timestamp? epoch = none ↔ yearOf epoch < -262143 ∨ 262142 < yearOf epoch := by
  have first : 86400 * newYear (-262143) = firstSecond := by decide
  have last : 86400 * newYear 262143 = lastSecond + 1 := by decide
  have begun := le_yearOf_iff (-262143) epoch
  have ended := le_yearOf_iff 262143 epoch
  rw [timestamp?, ite_eq_right_iff]
  simp only [reduceCtorEq, imp_false, not_and_or]
  omega

/-- The date of a second, in UTC, is of a year from 0 to 9999. -/
def WithinFourDigits (epoch : Int) : Prop :=
  ∃ date : Date, date.IsValid ∧ date.toDays = epoch / 86400 ∧ FourDigits date.year

theorem withinFourDigits_iff_yearOf (epoch : Int) :
    WithinFourDigits epoch ↔ FourDigits (yearOf epoch) := by
  constructor
  · rintro ⟨date, valid, days, four⟩
    rwa [yearOf, ofDays_eq_iff.mpr ⟨valid, days⟩]
  · intro four
    exact ⟨_, isValid_ofDays _, toDays_ofDays _, four⟩

/-- These are the seconds from 0000-01-01T00:00:00Z to 9999-12-31T23:59:59Z. -/
theorem withinFourDigits_iff (epoch : Int) :
    WithinFourDigits epoch ↔ -62167219200 ≤ epoch ∧ epoch < 253402300800 := by
  have first : 86400 * newYear 0 = -62167219200 := by decide
  have last : 86400 * newYear 10000 = 253402300800 := by decide
  have begun := le_yearOf_iff 0 epoch
  have ended := le_yearOf_iff 10000 epoch
  rw [withinFourDigits_iff_yearOf, FourDigits]
  omega

/-- A timestamp denotes its second. -/
theorem expanded?_of_timestamp? {epoch : Int} {text : String}
    (written : timestamp? epoch = some text) : expanded? text = some epoch := by
  obtain ⟨-, rfl⟩ := timestamp?_eq_some_iff.mp written
  exact expanded?_timestampChars epoch

/-- It is a date and time of RFC 3339 in the years of four digits. -/
theorem rfc3339?_of_timestamp? {epoch : Int} {text : String}
    (written : timestamp? epoch = some text) (within : WithinFourDigits epoch) :
    rfc3339? text = some epoch := by
  obtain ⟨-, rfl⟩ := timestamp?_eq_some_iff.mp written
  exact rfc3339?_of_fourDigits ((withinFourDigits_iff_yearOf epoch).mp within)

/-- In other years it is none. -/
theorem rfc3339?_eq_none_of_timestamp? {epoch : Int} {text : String}
    (written : timestamp? epoch = some text) (beyond : ¬ WithinFourDigits epoch) :
    rfc3339? text = none := by
  obtain ⟨-, rfl⟩ := timestamp?_eq_some_iff.mp written
  exact rfc3339?_of_not_fourDigits (mt (withinFourDigits_iff_yearOf epoch).mpr beyond)

/-- Points in time that differ have timestamps that differ. -/
theorem timestamp?_injective {epoch other : Int} {text : String}
    (written : timestamp? epoch = some text) (also : timestamp? other = some text) :
    epoch = other := by
  have read := expanded?_of_timestamp? written
  rw [expanded?_of_timestamp? also] at read
  exact (Option.some.inj read).symm

/-! ### The order of timestamps -/

/-- The numbers of a later second are greater, the first that differs deciding. -/
theorem numbers_lt {epoch other : Int} (before : epoch < other) (years : 0 ≤ yearOf epoch) :
    (yearOf epoch).toNat :: numbers epoch < (yearOf other).toNat :: numbers other := by
  have days : epoch / 86400 < other / 86400 ∨ epoch / 86400 = other / 86400 ∧
      (epoch % 86400).toNat < (other % 86400).toNat := by omega
  simp only [yearOf, numbers, List.cons_lt_cons_iff] at years ⊢
  rcases days with earlier | ⟨same, earlier⟩
  · -- The dates differ, and decide before the times are looked at.
    rw [← toDays_ofDays (epoch / 86400), ← toDays_ofDays (other / 86400),
      ← Date.before_iff (isValid_ofDays _) (isValid_ofDays _)] at earlier
    unfold Date.Before at earlier
    omega
  · rw [same]
    omega

/-- In the years of four digits the octets of the timestamps have the order of the points in
time. -/
theorem ofText_timestamp_lt {epoch other : Int} {text later : String} (before : epoch < other)
    (written : timestamp? epoch = some text) (also : timestamp? other = some later)
    (within : WithinFourDigits epoch) (withinOther : WithinFourDigits other) :
    Bytes.ofText text < Bytes.ofText later := by
  have year := (withinFourDigits_iff_yearOf epoch).mp within
  have another := (withinFourDigits_iff_yearOf other).mp withinOther
  obtain ⟨-, rfl⟩ := timestamp?_eq_some_iff.mp written
  obtain ⟨-, rfl⟩ := timestamp?_eq_some_iff.mp also
  rw [timestampChars_of_fourDigits year, timestampChars_of_fourDigits another]
  apply FixedWidth.ofText_write_lt (by decide) (fits_of_fourDigits year)
    (fits_of_fourDigits another)
  exact numbers_lt before year.1

end DidRegistry.Calendar
