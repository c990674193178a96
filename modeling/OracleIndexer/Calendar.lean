import OracleIndexer.Text.Numeral
set_option autoImplicit false

/-!
# Calendar

Days and dates of the Gregorian calendar, carried back to the year 1.  Day zero is 1 January of that
year.
-/

namespace OracleIndexer

/-- A calendar date. -/
structure Date where
  year : Nat
  month : Nat
  day : Nat
  deriving DecidableEq, Repr, Inhabited

namespace Date

/-- A year with 29 February. -/
def isLeap (year : Nat) : Bool :=
  year % 4 == 0 && (year % 100 != 0 || year % 400 == 0)

/-- The lengths of a year's months. -/
def monthLengths (leap : Bool) : List Nat :=
  [31, if leap then 29 else 28, 31, 30, 31, 30, 31, 31, 30, 31, 30, 31]

/-- The days before a year. -/
def daysBeforeYear (year : Nat) : Nat :=
  let past := year - 1
  past * 365 + past / 4 - past / 100 + past / 400

/-- Month and day of the month, by the lengths of the months from `month` on. -/
def inMonths (month day : Nat) : List Nat → Nat × Nat
  | [] => (month, day + 1)
  | length :: rest =>
    if day < length then (month, day + 1) else inMonths (month + 1) (day - length) rest

/-- The date of a day.  Centuries and years at the end of their cycle are one day longer than the
others, and take the day that would start the next. -/
def ofDay (day : Nat) : Date :=
  let cycle := day / 146097
  let inCycle := day % 146097
  let century := min (inCycle / 36524) 3
  let inCentury := inCycle - century * 36524
  let olympiad := inCentury / 1461
  let inOlympiad := inCentury % 1461
  let yearOfFour := min (inOlympiad / 365) 3
  let inYear := inOlympiad - yearOfFour * 365
  let year := 400 * cycle + 100 * century + 4 * olympiad + yearOfFour + 1
  let (month, dayOfMonth) := inMonths 1 inYear (monthLengths (isLeap year))
  ⟨year, month, dayOfMonth⟩

/-- The day of a date. -/
def toDay (date : Date) : Nat :=
  daysBeforeYear date.year
    + ((monthLengths (isLeap date.year)).take (date.month - 1)).foldl (· + ·) 0 + (date.day - 1)

/-- A date of the years 1 to 9999 that exists. -/
def isValid (date : Date) : Bool :=
  decide (1 ≤ date.year ∧ date.year ≤ 9999 ∧ 1 ≤ date.month ∧ date.month ≤ 12 ∧ 1 ≤ date.day
    ∧ date.day ≤ ((monthLengths (isLeap date.year))[date.month - 1]?).getD 0)

/-- Year, month and day with dashes. -/
def digits (date : Date) : List Char :=
  Text.Numeral.paddedDecimal 4 date.year ++ '-' :: Text.Numeral.paddedDecimal 2 date.month
    ++ '-' :: Text.Numeral.paddedDecimal 2 date.day

end Date

end OracleIndexer
