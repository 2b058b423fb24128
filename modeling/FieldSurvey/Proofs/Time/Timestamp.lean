import FieldSurvey.Time.Reader
import FieldSurvey.Proofs.Number.Literal
import Mathlib.Algebra.Order.Group.Nat
import Mathlib.Data.Nat.Basic
import Mathlib.Tactic.IntervalCases

/-!
# Timestamps read back

Days and dates correspond, also for years before 0.  What is written for a timestamp is read as the
timestamp again just if it is valid, that is, if its year has dates and if a leap second ends its
minute.  Every timestamp that is read from a text is valid, however the text was written.
-/

namespace FieldSurvey.Time

/-! ## The calendar -/

/-- The days of an era of 400 years before one of its years, which start in March. -/
def daysBeforeYear (year : Nat) : Nat :=
  365 * year + year / 4 - year / 100 + year / 400

/-- A year has 365 days, or 366 if the next year has a leap day. -/
theorem daysBeforeYear_succ (year : Nat) :
    daysBeforeYear (year + 1) = daysBeforeYear year + 365 ∨
      daysBeforeYear (year + 1) = daysBeforeYear year + 366 ∧ (year + 1) % 4 = 0 ∧
        ((year + 1) % 100 ≠ 0 ∨ (year + 1) % 400 = 0) := by
  have fewer : year / 100 ≤ year / 4 := Nat.div_le_div_left (by decide) (by decide)
  have fourth := (Nat.succ_div : (year + 1) / 4 = _)
  have century := (Nat.succ_div : (year + 1) / 100 = _)
  have era := (Nat.succ_div : (year + 1) / 400 = _)
  unfold daysBeforeYear
  split at fourth <;> split at century <;> split at era <;> omega

/-- The days of an era up to a day, less the leap days before it, so that all years have 365. -/
def commonDays (dayOfEra : Nat) : Nat :=
  dayOfEra - dayOfEra / 1460 + dayOfEra / 36524 - dayOfEra / 146096

theorem commonDays_mono {first second : Nat} (le : first ≤ second) (within : second < 146097) :
    commonDays first ≤ commonDays second := by
  induction le with
  | refl => exact Nat.le_refl _
  | @step middle _ ih =>
      refine Nat.le_trans (ih (by omega)) ?_
      unfold commonDays
      omega

/-- The first and the last day of every year of an era are counted to this year. -/
theorem commonDays_of_year : ∀ year < 400,
    365 * year ≤ commonDays (daysBeforeYear year) ∧
      commonDays (daysBeforeYear (year + 1) - 1) < 365 * (year + 1) := by
  decide +kernel

/-- Every day is in some year. -/
theorem exists_year {dayOfEra count : Nat} (before : dayOfEra < daysBeforeYear count) :
    ∃ year < count, daysBeforeYear year ≤ dayOfEra ∧ dayOfEra < daysBeforeYear (year + 1) := by
  induction count with
  | zero => exact absurd before (Nat.not_lt_zero _)
  | succ count ih =>
      by_cases earlier : dayOfEra < daysBeforeYear count
      · obtain ⟨year, less, within⟩ := ih earlier
        exact ⟨year, Nat.lt_succ_of_lt less, within⟩
      · exact ⟨count, Nat.lt_succ_self count, Nat.le_of_not_lt earlier, before⟩

/-- The year of an era that a day of it is in. -/
def yearOf (dayOfEra : Nat) : Nat :=
  commonDays dayOfEra / 365

/-- A day is in its year, from the first to the last day of this. -/
theorem yearOf_bounds {dayOfEra : Nat} (within : dayOfEra < 146097) :
    yearOf dayOfEra < 400 ∧ daysBeforeYear (yearOf dayOfEra) ≤ dayOfEra ∧
      dayOfEra < daysBeforeYear (yearOf dayOfEra + 1) := by
  obtain ⟨year, less, started, ends⟩ := exists_year (show dayOfEra < daysBeforeYear 400 from within)
  obtain ⟨least, most⟩ := commonDays_of_year year less
  have low := commonDays_mono started within
  have last : daysBeforeYear (year + 1) ≤ 146097 := by
    unfold daysBeforeYear
    omega
  have high := commonDays_mono (Nat.le_sub_one_of_lt ends) (by omega)
  have same : yearOf dayOfEra = year := by
    unfold yearOf
    omega
  rw [same]
  exact ⟨less, started, ends⟩

/-- The month of a day of a year that starts in March, counted from March on. -/
def monthFromMarch (dayOfYear : Nat) : Nat :=
  (5 * dayOfYear + 2) / 153

/-- A day of such a year is in its month, from the first to the last day of this. -/
theorem monthFromMarch_bounds : ∀ day < 366,
    monthFromMarch day < 12 ∧
    (153 * monthFromMarch day + 2) / 5 ≤ day ∧
    day - (153 * monthFromMarch day + 2) / 5 + 1 ≤
      (match monthFromMarch day with
      | 11 => if day = 365 then 29 else 28
      | 1 | 3 | 6 | 8 => 30
      | _ => 31) := by
  decide +kernel

/-- The date of a day of a year of an era. -/
def dateOf (era : Int) (year dayOfYear : Nat) : Date :=
  { year := era * 400 + year + (if monthFromMarch dayOfYear < 10 then 0 else 1)
    month := if monthFromMarch dayOfYear < 10 then monthFromMarch dayOfYear + 3
      else monthFromMarch dayOfYear - 9
    day := dayOfYear - (153 * monthFromMarch dayOfYear + 2) / 5 + 1 }

/-- Where a day is: in a year of an era, which has a leap day at its end or has none. -/
structure IsPlaced (days era : Int) (year dayOfYear : Nat) : Prop where
  days_eq : days = era * 146097 + (365 * year + year / 4 - year / 100 + dayOfYear : Nat) - 719468
  year_lt : year < 400
  dayOfYear_lt : dayOfYear < 366
  isLeap : dayOfYear = 365 → (year + 1) % 4 = 0 ∧ ((year + 1) % 100 ≠ 0 ∨ (year + 1) % 400 = 0)

/-- The day of its year that a day of an era is. -/
def dayOfYearOf (dayOfEra : Nat) : Nat :=
  dayOfEra - (365 * yearOf dayOfEra + yearOf dayOfEra / 4 - yearOf dayOfEra / 100)

theorem isPlaced_dayOfEra {days era : Int} {dayOfEra : Nat} (within : dayOfEra < 146097)
    (days_eq : days = era * 146097 + dayOfEra - 719468) :
    IsPlaced days era (yearOf dayOfEra) (dayOfYearOf dayOfEra) := by
  obtain ⟨year_lt, started, ends⟩ := yearOf_bounds within
  unfold dayOfYearOf
  generalize yearOf dayOfEra = year at *
  have next := daysBeforeYear_succ year
  have start : daysBeforeYear year = 365 * year + year / 4 - year / 100 := by
    unfold daysBeforeYear
    omega
  rw [start] at started next
  constructor
  case days_eq => omega
  case year_lt => exact year_lt
  case dayOfYear_lt => omega
  case isLeap => omega

theorem ofDays_dayOfEra {days era : Int} {dayOfEra : Nat} (within : dayOfEra < 146097)
    (days_eq : days = era * 146097 + dayOfEra - 719468) :
    Date.ofDays days = dateOf era (yearOf dayOfEra) (dayOfYearOf dayOfEra) := by
  obtain ⟨-, started, -⟩ := yearOf_bounds within
  have placed := isPlaced_dayOfEra within days_eq
  obtain ⟨month_lt, month_le, -⟩ := monthFromMarch_bounds _ placed.dayOfYear_lt
  have era_eq : (days + 719468) / 146097 = era := by omega
  have rest : days + 719468 - era * 146097 = dayOfEra := by omega
  have year : ((dayOfEra : Int) - dayOfEra / 1460 + dayOfEra / 36524 - dayOfEra / 146096) / 365 =
      yearOf dayOfEra := by
    unfold yearOf commonDays
    omega
  have day : (dayOfEra : Int) - (365 * (yearOf dayOfEra : Int) + (yearOf dayOfEra : Int) / 4 -
      (yearOf dayOfEra : Int) / 100) = dayOfYearOf dayOfEra := by
    unfold daysBeforeYear at started
    unfold dayOfYearOf
    omega
  have month : (5 * (dayOfYearOf dayOfEra : Int) + 2) / 153 =
      (monthFromMarch (dayOfYearOf dayOfEra) : Int) := by
    unfold monthFromMarch
    omega
  unfold Date.ofDays dateOf
  simp only [era_eq, rest, year, day, month]
  by_cases early : monthFromMarch (dayOfYearOf dayOfEra) < 10
  · simp only [early, if_true, Date.mk.injEq]
    omega
  · simp only [early, if_false, Date.mk.injEq]
    omega

/-- Every day is somewhere in a year, which makes up its date. -/
theorem exists_placed (days : Int) : ∃ era year dayOfYear, IsPlaced days era year dayOfYear ∧
    Date.ofDays days = dateOf era year dayOfYear := by
  obtain ⟨dayOfEra, dayOfEra_eq⟩ := Int.eq_ofNat_of_zero_le
    (show 0 ≤ days + 719468 - (days + 719468) / 146097 * 146097 by omega)
  have within : dayOfEra < 146097 := by omega
  have days_eq : days = (days + 719468) / 146097 * 146097 + dayOfEra - 719468 := by omega
  exact ⟨_, _, _, isPlaced_dayOfEra within days_eq, ofDays_dayOfEra within days_eq⟩

theorem toDays_dateOf {days era : Int} {year dayOfYear : Nat}
    (placed : IsPlaced days era year dayOfYear) : (dateOf era year dayOfYear).toDays = days := by
  obtain ⟨days_eq, year_lt, dayOfYear_lt, -⟩ := placed
  obtain ⟨month_lt, month_le, -⟩ := monthFromMarch_bounds dayOfYear dayOfYear_lt
  have era_eq : (era * 400 + (year : Int)) / 400 = era := by omega
  unfold dateOf Date.toDays
  by_cases early : monthFromMarch dayOfYear < 10
  · have late : ¬monthFromMarch dayOfYear + 3 ≤ 2 := by omega
    simp only [early, late, if_true, if_false, Int.add_zero, era_eq]
    omega
  · have late : monthFromMarch dayOfYear - 9 ≤ 2 := by omega
    simp only [early, late, if_true, if_false, Int.add_sub_cancel, era_eq]
    omega

/-- Days and dates correspond. -/
theorem toDays_ofDays (days : Int) : (Date.ofDays days).toDays = days := by
  obtain ⟨era, year, dayOfYear, placed, date⟩ := exists_placed days
  rw [date]
  exact toDays_dateOf placed

theorem isLeapYear_next {year : Nat} (era : Int) (fourth : (year + 1) % 4 = 0)
    (century : (year + 1) % 100 ≠ 0 ∨ (year + 1) % 400 = 0) :
    isLeapYear (era * 400 + year + 1) := by
  simp only [isLeapYear, Bool.and_eq_true, Bool.or_eq_true, beq_iff_eq, bne_iff_ne]
  omega

/-- No day is beyond the end of its month. -/
theorem day_dateOf_le {days era : Int} {year dayOfYear : Nat}
    (placed : IsPlaced days era year dayOfYear) : (dateOf era year dayOfYear).day ≤
      daysInMonth (dateOf era year dayOfYear).year (dateOf era year dayOfYear).month := by
  obtain ⟨-, -, dayOfYear_lt, isLeap⟩ := placed
  obtain ⟨month_lt, -, day_le⟩ := monthFromMarch_bounds dayOfYear dayOfYear_lt
  unfold dateOf
  generalize monthFromMarch dayOfYear = month at month_lt day_le
  by_cases february : month = 11
  · subst february
    change _ ≤ if isLeapYear (era * 400 + year + 1) = true then 29 else 28
    by_cases last : dayOfYear = 365
    · rw [if_pos (isLeapYear_next era (isLeap last).1 (isLeap last).2)]
      simpa only [last, if_true] using day_le
    · simp only [last, if_false] at day_le
      exact Nat.le_trans day_le (by split <;> omega)
  · have earlier : month < 11 := by omega
    interval_cases month <;> exact day_le

theorem isValid_ofDays {days : Int} (isYear_year : isYear (Date.ofDays days).year) :
    (Date.ofDays days).isValid := by
  obtain ⟨era, year, dayOfYear, placed, date⟩ := exists_placed days
  have inMonth := day_dateOf_le placed
  obtain ⟨month_lt, -, -⟩ := monthFromMarch_bounds dayOfYear placed.dayOfYear_lt
  rw [date] at isYear_year ⊢
  simp only [Date.isValid, isYear_year, inMonth, Bool.and_eq_true, decide_eq_true_eq, true_and,
    and_true]
  unfold dateOf
  dsimp only
  split <;> omega

/-! ## Written numbers -/

/-- A number with zeros in front, as characters. -/
def paddedChars (width n : Nat) : List Char :=
  List.replicate (width - (Number.digits n).length) '0' ++ Number.digits n

theorem toList_padded (width n : Nat) : (padded width n).toList = paddedChars width n := by
  rw [padded, String.toList_ofList]
  rfl

theorem isNumeral_paddedChars (width n : Nat) : Number.IsNumeral n (paddedChars width n) where
  digits := by
    intro c isHere
    rcases List.mem_append.mp isHere with isZero | isDigit
    · rw [List.eq_of_mem_replicate isZero]
      decide
    · exact Number.isDigit_of_mem_digits isDigit
  ne_nil := List.append_ne_nil_of_right_ne_nil _ (Number.digits_ne_nil n)
  value := by
    rw [paddedChars, Nat.ofDigitChars_append, Nat.ofDigitChars_replicate_zero, Nat.mul_zero]
    exact Nat.ofDigitChars_toDigits (by decide) (by decide)

theorem length_paddedChars {width n : Nat} (positive : 0 < width) (fits : n < 10 ^ width) :
    (paddedChars width n).length = width := by
  have within : (Number.digits n).length ≤ width :=
    (Nat.length_toDigits_le_iff (by decide) positive).mpr fits
  rw [paddedChars, List.length_append, List.length_replicate]
  omega

namespace Reader

open FieldSurvey.Text (trimStart)

variable {limit n : Nat} {cs numeral rest : List Char} {c : Char}

/-- A text that does not go on with a digit. -/
def EndsNumber (rest : List Char) : Prop :=
  ∀ c ∈ rest.head?, c.isDigit = false

theorem endsNumber_cons (isOther : c.isDigit = false) (rest : List Char) :
    EndsNumber (c :: rest) := by
  intro first isFirst
  cases isFirst
  exact isOther

theorem takeWhile_take_of_ends (ends : EndsNumber rest) (count : Nat) :
    (rest.take count).takeWhile Char.isDigit = [] := by
  cases rest with
  | nil => rw [List.take_nil, List.takeWhile_nil]
  | cons c rest =>
      cases count with
      | zero => rfl
      | succ count =>
          rw [List.take_succ_cons, List.takeWhile_cons_of_neg]
          simp [ends c rfl]

/-- A numeral is read up to its end, which a limit may set. -/
theorem number_append (isNumeral : Number.IsNumeral n numeral) (within : numeral.length ≤ limit)
    (ends : numeral.length = limit ∨ EndsNumber rest) :
    number limit (numeral ++ rest) = some (n, rest) := by
  have after : (rest.take (limit - numeral.length)).takeWhile Char.isDigit = [] := by
    rcases ends with full | ends
    · rw [full, Nat.sub_self, List.take_zero, List.takeWhile_nil]
    · exact takeWhile_take_of_ends ends _
  have digits : ((numeral ++ rest).take limit).takeWhile Char.isDigit = numeral := by
    rw [List.take_append, List.take_of_length_le within,
      List.takeWhile_append_of_pos isNumeral.digits, after, List.append_nil]
  have nonempty : numeral.isEmpty = false := by
    cases numeral with
    | nil => exact absurd rfl isNumeral.ne_nil
    | cons _ _ => rfl
  have value : numeral.foldl (fun value c => value * 10 + (c.toNat - '0'.toNat)) 0 = n := by
    rw [← isNumeral.value, Nat.ofDigitChars_eq_foldl]
    simp only [Nat.mul_comm]
  simp only [number, digits, nonempty, Bool.false_eq_true, if_false, value, List.drop_left]

theorem isBlank_of_isDigit (isDigit : c.isDigit) : Text.isBlank c = false := by
  have bounds := Number.toNat_of_isDigit isDigit
  have zero : '0'.toNat = 48 := rfl
  have nine : '9'.toNat = 57 := rfl
  simp only [Text.isBlank, Bool.or_eq_false_iff, Bool.and_eq_false_iff, decide_eq_false_iff_not,
    beq_eq_false_iff_ne]
  omega

theorem trimStart_numeral (isNumeral : Number.IsNumeral n numeral) (rest : List Char) :
    trimStart (numeral ++ rest) = numeral ++ rest := by
  cases numeral with
  | nil => exact absurd rfl isNumeral.ne_nil
  | cons c digits =>
      have solid := isBlank_of_isDigit (isNumeral.digits c List.mem_cons_self)
      rw [List.cons_append, trimStart, List.dropWhile_cons_of_neg]
      simp [solid]

/-- A part of a date or of a time of day is written with two digits and read back. -/
theorem field_paddedChars (fits : n < 100) (rest : List Char) :
    field (paddedChars 2 n ++ rest) = some (n, rest) := by
  have isNumeral := isNumeral_paddedChars 2 n
  have length := length_paddedChars (show 0 < 2 by decide) fits
  rw [field, trimStart_numeral isNumeral, number_append isNumeral length.le (.inl length)]

theorem mark_cons (solid : Text.isBlank c = false) (rest : List Char) :
    mark c (c :: rest) = some rest := by
  rw [mark, trimStart, List.dropWhile_cons_of_neg (by simp [solid])]
  exact if_pos rfl

/-- What starts with a digit has no sign. -/
theorem year_numeral (isNumeral : Number.IsNumeral n numeral) (rest : List Char) :
    year (numeral ++ rest) =
      (number 4 (numeral ++ rest)).map fun (value, rest) => ((value : Int), rest) := by
  rw [year, trimStart_numeral isNumeral]
  cases numeral with
  | nil => exact absurd rfl isNumeral.ne_nil
  | cons c digits =>
      have isDigit := isNumeral.digits c List.mem_cons_self
      split
      · next starts =>
          cases starts
          exact absurd isDigit (by decide)
      · next starts =>
          cases starts
          exact absurd isDigit (by decide)
      · rfl

/-- A year is read back, whatever its sign and the number of its digits. -/
theorem year_yearText (value : Int) (ends : EndsNumber rest) :
    year ((yearText value).toList ++ rest) = some (value, rest) := by
  have signed : ∀ n, number (paddedChars 4 n ++ rest).length (paddedChars 4 n ++ rest) =
      some (n, rest) := by
    intro n
    refine number_append (isNumeral_paddedChars 4 n) ?_ (.inr ends)
    rw [List.length_append]
    exact Nat.le_add_right _ _
  unfold yearText
  split
  · next small =>
      have isNumeral := isNumeral_paddedChars 4 value.toNat
      have length := length_paddedChars (show 0 < 4 by decide) (show value.toNat < 10 ^ 4 by omega)
      simp only [toList_padded, year_numeral isNumeral,
        number_append isNumeral length.le (.inl length), Option.map_some,
        Int.toNat_of_nonneg small.1]
  · split
    · next negative =>
        have value_eq : -(value.natAbs : Int) = value := by omega
        rw [String.toList_append, toList_padded, List.append_assoc]
        change (number (paddedChars 4 value.natAbs ++ rest).length
          (paddedChars 4 value.natAbs ++ rest)).map _ = _
        simp only [signed, Option.map_some, value_eq]
    · next large =>
        have value_eq : (value.toNat : Int) = value := by omega
        rw [String.toList_append, toList_padded, List.append_assoc]
        change (number (paddedChars 4 value.toNat ++ rest).length
          (paddedChars 4 value.toNat ++ rest)).map _ = _
        simp only [signed, Option.map_some, value_eq]

/-- The digits behind a point are read as nanoseconds. -/
theorem fraction_paddedChars {width part : Nat} (positive : 0 < width) (within : width ≤ 9)
    (whole : part * 10 ^ (9 - width) = n) (fits : n < 1000000000) (ends : EndsNumber rest) :
    fraction ('.' :: (paddedChars width part ++ rest)) = some (n, rest) := by
  have part_lt : part < 10 ^ width := by
    apply Nat.lt_of_mul_lt_mul_right (a := 10 ^ (9 - width))
    rw [whole, ← Nat.pow_add, Nat.add_sub_cancel' within]
    exact fits
  have length := length_paddedChars positive part_lt
  have read := number_append (isNumeral_paddedChars width part) (length.trans_le within)
    (.inr ends)
  have count : (paddedChars width part ++ rest).length - rest.length = width := by
    rw [List.length_append, length, Nat.add_sub_cancel]
  have nothing : rest.dropWhile Char.isDigit = rest := by
    cases rest with
    | nil => rfl
    | cons c rest =>
        rw [List.dropWhile_cons_of_neg]
        simp [ends c rfl]
  simp only [fraction, read, Option.map_some, count, nothing, ite_self, Option.some.injEq,
    Prod.mk.injEq, and_true]
  exact whole

theorem fraction_fractionText (fits : n < 1000000000) :
    fraction ((fractionText n).toList ++ ['Z']) = some (n, ['Z']) := by
  have ends : EndsNumber ['Z'] := endsNumber_cons rfl []
  unfold fractionText
  split
  · next zero =>
      subst zero
      rfl
  · split
    · next thousandths =>
        rw [String.toList_append, toList_padded]
        exact fraction_paddedChars (by decide) (by decide) (by omega) fits ends
    · split
      · next millionths =>
          rw [String.toList_append, toList_padded]
          exact fraction_paddedChars (by decide) (by decide) (by omega) fits ends
      · rw [String.toList_append, toList_padded]
        exact fraction_paddedChars (by decide) (by decide) (by omega) fits ends

end Reader

/-! ## Texts of timestamps -/

/-- How a date and a time of day are written. -/
def dateTimeText (date : Date) (hour minute second nanos : Nat) : String :=
  yearText date.year ++ "-" ++ padded 2 date.month ++ "-" ++ padded 2 date.day ++ "T" ++
    padded 2 hour ++ ":" ++ padded 2 minute ++ ":" ++ padded 2 second ++ fractionText nanos ++ "Z"

/-- Whether a timestamp is in a year that has dates, and in a leap second at most at the end of a
minute. -/
structure Timestamp.IsValid (time : Timestamp) : Prop where
  isYear : isYear (Date.ofDays (time.seconds / 86400)).year
  nanos_lt : time.nanos < 2000000000
  isLeap : 1000000000 ≤ time.nanos → time.seconds % 60 = 59

theorem Date.isValid_iff {date : Date} : date.isValid ↔ isYear date.year ∧
    (1 ≤ date.month ∧ date.month ≤ 12) ∧
      1 ≤ date.day ∧ date.day ≤ daysInMonth date.year date.month := by
  simp only [isValid, Bool.and_eq_true, decide_eq_true_eq, and_assoc]

theorem daysInMonth_le (year : Int) (month : Nat) : daysInMonth year month ≤ 31 := by
  unfold daysInMonth
  split
  · split <;> decide
  all_goals decide

namespace Reader

theorem bind_of_eq_some {α β : Type} {read : Option α} {value : α} {next : α → Option β}
    (isSome : read = some value) : (read >>= next) = next value := by
  rw [isSome]
  rfl

/-- A date and a time of day are read from their text. -/
theorem timestamp?_dateTimeText {date : Date} {hour minute second nanos : Nat}
    (isValid : date.isValid) (hour_lt : hour < 24) (minute_lt : minute < 60)
    (second_le : second ≤ 60) (nanos_lt : nanos < 1000000000) :
    timestamp? (dateTimeText date hour minute second nanos) =
      let seconds := date.toDays * 86400 +
        (hour * 3600 + minute * 60 + (if second == 60 then 59 else second : Nat))
      if isYear (Date.ofDays (seconds / 86400)).year then
        some ⟨seconds, if second == 60 then nanos + 1000000000 else nanos⟩
      else none := by
  have dash : Text.isBlank '-' = false := rfl
  have colon : Text.isBlank ':' = false := rfl
  have utc : offset (Text.trimStart ['Z']) = some (0, []) := rfl
  have chars : (dateTimeText date hour minute second nanos).toList =
      (yearText date.year).toList ++ '-' :: (paddedChars 2 date.month ++
        '-' :: (paddedChars 2 date.day ++ 'T' :: (paddedChars 2 hour ++
          ':' :: (paddedChars 2 minute ++ ':' :: (paddedChars 2 second ++
            ((fractionText nanos).toList ++ ['Z'])))))) := by
    simp only [dateTimeText, String.toList_append, toList_padded, show "-".toList = ['-'] from rfl,
      show "T".toList = ['T'] from rfl, show ":".toList = [':'] from rfl,
      show "Z".toList = ['Z'] from rfl, List.append_assoc, List.cons_append, List.nil_append]
  obtain ⟨-, month_range, day_range⟩ := Date.isValid_iff.mp isValid
  have day_le := daysInMonth_le date.year date.month
  rw [timestamp?, chars]
  -- the parts one after the other, with the marks between them
  refine (bind_of_eq_some (year_yearText _ (endsNumber_cons (c := '-') rfl _))).trans ?_
  refine (bind_of_eq_some (mark_cons dash _)).trans ?_
  refine (bind_of_eq_some (field_paddedChars (by omega) _)).trans ?_
  refine (bind_of_eq_some (mark_cons dash _)).trans ?_
  refine (bind_of_eq_some (field_paddedChars (by omega) _)).trans ?_
  refine (if_pos (Or.inl rfl)).trans ?_
  refine (bind_of_eq_some rfl).trans ?_
  refine (bind_of_eq_some (field_paddedChars (by omega) _)).trans ?_
  refine (bind_of_eq_some (mark_cons colon _)).trans ?_
  refine (bind_of_eq_some (field_paddedChars (by omega) _)).trans ?_
  refine (bind_of_eq_some (mark_cons colon _)).trans ?_
  refine (bind_of_eq_some (field_paddedChars (by omega) _)).trans ?_
  refine (bind_of_eq_some (fraction_fractionText nanos_lt)).trans ?_
  refine (bind_of_eq_some utc).trans ?_
  refine (if_neg ?_).trans ?_
  · simp only [isValid, Text.trimStart, List.dropWhile_nil, List.isEmpty_nil, Bool.not_true,
      Bool.false_or, Bool.or_eq_true, decide_eq_true_eq, Int.natAbs_zero]
    omega
  · simp only [Int.sub_zero]

/-- A valid timestamp is read back. -/
theorem timestamp?_toText {time : Timestamp} (isValid : time.IsValid) :
    timestamp? time.toText = some time := by
  obtain ⟨isYear, nanos_lt, isLeap⟩ := isValid
  obtain ⟨seconds, nanos⟩ := time
  obtain ⟨day, day_eq⟩ : ∃ day, seconds / 86400 = day := ⟨_, rfl⟩
  obtain ⟨second, second_eq⟩ : ∃ second, (seconds % 86400).toNat = second := ⟨_, rfl⟩
  dsimp only at *
  by_cases leap : nanos ≥ 1000000000
  · have last := isLeap leap
    have text : Timestamp.toText ⟨seconds, nanos⟩ = dateTimeText (Date.ofDays day)
        (second / 3600) (second / 60 % 60) 60 (nanos - 1000000000) := by
      have sixty : second % 60 + 1 = 60 := by omega
      simp only [Timestamp.toText, dateTimeText, day_eq, second_eq, leap, if_true, Nat.one_mul,
        sixty]
    have whole : day * 86400 + ((second / 3600 : Nat) * 3600 + (second / 60 % 60 : Nat) * 60 +
        (59 : Nat)) = seconds := by omega
    have start : nanos - 1000000000 + 1000000000 = nanos := by omega
    rw [day_eq] at isYear
    rw [text, timestamp?_dateTimeText (isValid_ofDays isYear) (by omega) (by omega) (by omega)
      (by omega), toDays_ofDays]
    simp only [BEq.rfl, if_true, whole, day_eq, isYear, start]
  · have text : Timestamp.toText ⟨seconds, nanos⟩ = dateTimeText (Date.ofDays day)
        (second / 3600) (second / 60 % 60) (second % 60) nanos := by
      simp only [Timestamp.toText, dateTimeText, day_eq, second_eq, leap, if_false, Nat.zero_mul,
        Nat.add_zero, Nat.sub_zero]
    have whole : day * 86400 + ((second / 3600 : Nat) * 3600 + (second / 60 % 60 : Nat) * 60 +
        (second % 60 : Nat)) = seconds := by omega
    have regular : (second % 60 == 60) = false := by
      rw [beq_eq_false_iff_ne]
      omega
    rw [day_eq] at isYear
    rw [text, timestamp?_dateTimeText (isValid_ofDays isYear) (by omega) (by omega) (by omega)
      (by omega), toDays_ofDays]
    simp only [regular, Bool.false_eq_true, if_false, if_true, whole, day_eq, isYear]

/-! ## What is read as a timestamp -/

theorem ofDigitChars_lt (areDigits : ∀ c ∈ cs, c.isDigit) :
    Nat.ofDigitChars 10 cs 0 < 10 ^ cs.length := by
  induction cs with
  | nil => decide
  | cons c rest ih =>
      obtain ⟨isDigit, others⟩ := List.forall_mem_cons.mp areDigits
      have digit := Number.digit_lt isDigit
      have rest_lt := ih others
      rw [Nat.ofDigitChars_cons, Nat.ofDigitChars_eq_ofDigitChars_zero, List.length_cons,
        Nat.pow_succ, Nat.mul_zero, Nat.zero_add]
      have scaled := Nat.mul_le_mul_left (10 ^ rest.length) (Nat.le_of_lt_succ digit)
      omega

/-- A number is below the power of ten for the digits that it is read from. -/
theorem number_lt (read : number limit cs = some (n, rest)) :
    cs.length - rest.length ≤ limit ∧ n < 10 ^ (cs.length - rest.length) := by
  unfold number at read
  obtain ⟨digits, digits_eq⟩ : ∃ digits, (cs.take limit).takeWhile Char.isDigit = digits :=
    ⟨_, rfl⟩
  have sublist : digits.length ≤ (cs.take limit).length := by
    rw [← digits_eq]
    exact (List.takeWhile_sublist _).length_le
  have areDigits : ∀ c ∈ digits, c.isDigit := by
    rw [← digits_eq]
    exact List.all_eq_true.mp List.all_takeWhile
  rw [List.length_take] at sublist
  simp only [digits_eq] at read
  split at read
  · contradiction
  · cases read
    have count : cs.length - (cs.drop digits.length).length = digits.length := by
      rw [List.length_drop]
      omega
    have value := ofDigitChars_lt areDigits
    rw [Nat.ofDigitChars_eq_foldl] at value
    simp only [Nat.mul_comm] at value
    rw [count]
    exact ⟨by omega, value⟩

theorem fraction_lt (read : fraction cs = some (n, rest)) : n < 1000000000 := by
  unfold fraction at read
  split at read
  · next digits =>
      obtain ⟨⟨value, left⟩, read, result⟩ := Option.map_eq_some_iff.mp read
      obtain ⟨within, value_lt⟩ := number_lt read
      cases result
      calc value * 10 ^ (9 - (digits.length - left.length))
          < 10 ^ (digits.length - left.length) * 10 ^ (9 - (digits.length - left.length)) :=
            Nat.mul_lt_mul_of_pos_right value_lt (Nat.pow_pos (by decide))
        _ = 1000000000 := by
            rw [← Nat.pow_add, Nat.add_sub_cancel' within]
  · cases read
    decide

theorem offsetSize_mod (read : offsetSize cs = some (n, rest)) : n % 60 = 0 := by
  obtain ⟨⟨hours, _⟩, -, read⟩ := Option.bind_eq_some_iff.mp read
  obtain ⟨⟨minutes, _⟩, -, read⟩ := Option.bind_eq_some_iff.mp read
  dsimp only at read
  split at read
  · cases read
    omega
  · contradiction

/-- Offsets are whole minutes. -/
theorem offset_emod {value : Int} (read : offset cs = some (value, rest)) : value % 60 = 0 := by
  unfold offset at read
  split at read
  · repeat' split at read
    · cases read
      rfl
    · obtain ⟨⟨size, _⟩, sizeRead, result⟩ := Option.map_eq_some_iff.mp read
      have whole := offsetSize_mod sizeRead
      cases result
      omega
    · obtain ⟨⟨size, _⟩, sizeRead, result⟩ := Option.map_eq_some_iff.mp read
      have whole := offsetSize_mod sizeRead
      cases result
      omega
    · cases read
      rfl
    · contradiction
  · contradiction

/-- Only valid timestamps are read. -/
theorem isValid_of_timestamp? {text : String} {time : Timestamp}
    (read : timestamp? text = some time) : time.IsValid := by
  obtain ⟨⟨year, _⟩, -, read⟩ := Option.bind_eq_some_iff.mp read
  obtain ⟨_, -, read⟩ := Option.bind_eq_some_iff.mp read
  obtain ⟨⟨month, _⟩, -, read⟩ := Option.bind_eq_some_iff.mp read
  obtain ⟨_, -, read⟩ := Option.bind_eq_some_iff.mp read
  obtain ⟨⟨day, cs⟩, -, read⟩ := Option.bind_eq_some_iff.mp read
  rcases cs with - | ⟨c, cs⟩
  · contradiction
  dsimp only at read
  split at read
  · obtain ⟨_, -, read⟩ := Option.bind_eq_some_iff.mp read
    obtain ⟨⟨hour, _⟩, -, read⟩ := Option.bind_eq_some_iff.mp read
    obtain ⟨_, -, read⟩ := Option.bind_eq_some_iff.mp read
    obtain ⟨⟨minute, _⟩, -, read⟩ := Option.bind_eq_some_iff.mp read
    obtain ⟨_, -, read⟩ := Option.bind_eq_some_iff.mp read
    obtain ⟨⟨second, _⟩, -, read⟩ := Option.bind_eq_some_iff.mp read
    obtain ⟨⟨nanos, _⟩, fractionRead, read⟩ := Option.bind_eq_some_iff.mp read
    obtain ⟨⟨offset, _⟩, offsetRead, read⟩ := Option.bind_eq_some_iff.mp read
    obtain ⟨-, read⟩ := Option.ite_none_left_eq_some.mp read
    obtain ⟨isYear, isTime⟩ := Option.ite_none_right_eq_some.mp read
    cases isTime
    have nanos_lt := fraction_lt fractionRead
    have offset_whole := offset_emod offsetRead
    refine ⟨isYear, ?_, ?_⟩
    · dsimp only
      split <;> omega
    · -- only second 60 counts as a leap second, and no offset moves it within its minute
      intro leap
      dsimp only at leap ⊢
      split at leap
      · next sixty =>
          rw [if_pos sixty]
          omega
      · omega
  · contradiction

/-- Just the valid timestamps are read back. -/
theorem timestamp?_toText_iff {time : Timestamp} :
    timestamp? time.toText = some time ↔ time.IsValid :=
  ⟨isValid_of_timestamp?, timestamp?_toText⟩

end Reader

end FieldSurvey.Time
