import Mathlib.Data.Nat.Digits.Defs
import OracleIndexer.Calendar
set_option autoImplicit false

/-!
# Counting days

The date of a day is the one that is reached by counting: the days of all years before its year,
those of all months before its month, and the days before it in its month.  Dates that exist stand,
by year, month and day, in the order of their days, so no two of them share a day.
-/

namespace OracleIndexer.Date

/-! ## Years -/

/-- The days of a year. -/
def yearLength (year : Nat) : Nat := (monthLengths (isLeap year)).sum

theorem yearLength_eq (year : Nat) : yearLength year = if isLeap year then 366 else 365 := by
  unfold yearLength
  cases isLeap year <;> rfl

theorem isLeap_iff {year : Nat} :
    isLeap year = true ↔ year % 4 = 0 ∧ (year % 100 ≠ 0 ∨ year % 400 = 0) := by
  simp [isLeap]

/-- The days of the years from the first one up to a year, one year after the other. -/
def daysOfYears (year : Nat) : Nat := ((List.range' 1 (year - 1)).map yearLength).sum

theorem daysBeforeYear_succ {year : Nat} (h : 1 ≤ year) :
    daysBeforeYear (year + 1) = daysBeforeYear year + yearLength year := by
  obtain ⟨past, rfl⟩ := Nat.exists_eq_add_of_le' h
  have hle : past / 100 ≤ past / 4 := Nat.div_le_div_left (by decide) (by decide)
  simp only [daysBeforeYear, yearLength_eq, isLeap_iff, Nat.add_sub_cancel, Nat.succ_div,
    Nat.dvd_iff_mod_eq_zero]
  -- a year is longer as it is counted: with the fours, not with the hundreds, with their fours
  by_cases hfour : (past + 1) % 4 = 0
  · by_cases hcentury : (past + 1) % 100 = 0
    · by_cases hcycle : (past + 1) % 400 = 0
      · simp only [hfour, hcentury, hcycle, if_true, ne_eq, not_true, false_or, true_and]
        omega
      · simp only [hfour, hcentury, hcycle, if_true, if_false, ne_eq, not_true, false_or, and_false]
        omega
    · have hcycle : (past + 1) % 400 ≠ 0 := by omega
      simp only [hfour, hcentury, hcycle, if_true, if_false, ne_eq, not_false_eq_true, true_or,
        true_and]
      omega
  · have hcentury : (past + 1) % 100 ≠ 0 := by omega
    have hcycle : (past + 1) % 400 ≠ 0 := by omega
    simp only [hfour, hcentury, hcycle, if_false, false_and]
    omega

/-- Each fourth year is longer, but of the centuries only each fourth. -/
theorem daysBeforeYear_eq {year : Nat} (h : 1 ≤ year) : daysBeforeYear year = daysOfYears year := by
  obtain ⟨past, rfl⟩ := Nat.exists_eq_add_of_le' h
  induction past with
  | zero => rfl
  | succ past ih =>
    rw [daysBeforeYear_succ (by omega), ih (by omega), daysOfYears, daysOfYears, Nat.add_sub_cancel,
      Nat.add_sub_cancel, List.range'_1_concat, List.map_append, List.sum_append, Nat.add_comm 1]
    rfl

theorem daysBeforeYear_le {year later : Nat} (hyear : 1 ≤ year) (h : year < later) :
    daysBeforeYear year + yearLength year ≤ daysBeforeYear later := by
  induction h with
  | refl => exact Nat.le_of_eq (daysBeforeYear_succ hyear).symm
  | step hlater ih =>
    rw [daysBeforeYear_succ (Nat.le_trans hyear (Nat.le_of_succ_le hlater))]
    omega

/-- The days before a year by its place among the cycles, centuries and fours of years. -/
theorem daysBeforeYear_of_parts {cycle century olympiad yearOfFour : Nat} (hcentury : century ≤ 3)
    (holympiad : olympiad ≤ 24) (hyear : yearOfFour ≤ 3) :
    daysBeforeYear (400 * cycle + 100 * century + 4 * olympiad + yearOfFour + 1)
      = 146097 * cycle + 36524 * century + 1461 * olympiad + 365 * yearOfFour := by
  have hfours : (400 * cycle + 100 * century + 4 * olympiad + yearOfFour) / 4
      = 100 * cycle + 25 * century + olympiad := by omega
  have hcenturies : (400 * cycle + 100 * century + 4 * olympiad + yearOfFour) / 100
      = 4 * cycle + century := by omega
  have hcycles : (400 * cycle + 100 * century + 4 * olympiad + yearOfFour) / 400 = cycle := by omega
  simp only [daysBeforeYear, Nat.add_sub_cancel, hfours, hcenturies, hcycles]
  omega

theorem isLeap_of_parts {cycle century olympiad yearOfFour : Nat} (hcentury : century ≤ 3)
    (holympiad : olympiad ≤ 24) (hyear : yearOfFour ≤ 3) :
    isLeap (400 * cycle + 100 * century + 4 * olympiad + yearOfFour + 1) = true ↔
      yearOfFour = 3 ∧ (olympiad ≠ 24 ∨ century = 3) := by
  rw [isLeap_iff]
  omega

/-- The year of a day, and the place of the day in it. -/
theorem exists_year (day : Nat) :
    ∃ year inYear : Nat, 1 ≤ year ∧ inYear < yearLength year ∧
      daysBeforeYear year + inYear = day ∧
      ofDay day = ⟨year, (inMonths 1 inYear (monthLengths (isLeap year))).1,
        (inMonths 1 inYear (monthLengths (isLeap year))).2⟩ := by
  obtain ⟨cycle, inCycle, hcycle, hinCycle, hday⟩ :
      ∃ cycle inCycle, cycle = day / 146097 ∧ inCycle = day % 146097 ∧
        day = 146097 * cycle + inCycle := ⟨_, _, rfl, rfl, by omega⟩
  obtain ⟨century, inCentury, hcentury, hinCentury, hcenturyLe, hcenturyDay⟩ :
      ∃ century inCentury, century = min (inCycle / 36524) 3 ∧
        inCentury = inCycle - century * 36524 ∧ century ≤ 3 ∧
        inCycle = 36524 * century + inCentury := ⟨_, _, rfl, rfl, by omega, by omega⟩
  have hinCenturyLt : inCentury < 36524 ∨ century = 3 ∧ inCentury = 36524 := by omega
  obtain ⟨olympiad, inOlympiad, holympiad, hinOlympiad, holympiadLe, holympiadDay⟩ :
      ∃ olympiad inOlympiad, olympiad = inCentury / 1461 ∧ inOlympiad = inCentury % 1461 ∧
        olympiad ≤ 24 ∧ inCentury = 1461 * olympiad + inOlympiad :=
    ⟨_, _, rfl, rfl, by omega, by omega⟩
  obtain ⟨yearOfFour, inYear, hyear, hinYear, hyearLe, hyearDay⟩ :
      ∃ yearOfFour inYear, yearOfFour = min (inOlympiad / 365) 3 ∧
        inYear = inOlympiad - yearOfFour * 365 ∧ yearOfFour ≤ 3 ∧
        inOlympiad = 365 * yearOfFour + inYear := ⟨_, _, rfl, rfl, by omega, by omega⟩
  refine ⟨400 * cycle + 100 * century + 4 * olympiad + yearOfFour + 1, inYear, by omega, ?_, ?_, ?_⟩
  · rw [yearLength_eq]
    simp only [isLeap_of_parts hcenturyLe holympiadLe hyearLe]
    split <;> omega
  · rw [daysBeforeYear_of_parts hcenturyLe holympiadLe hyearLe]
    omega
  · subst hinYear hyear hinOlympiad holympiad hinCentury hcentury hinCycle hcycle
    rfl

/-! ## Months -/

/-- The days of the months of a year before a month. -/
def daysOfMonths (year month : Nat) : Nat :=
  ((monthLengths (isLeap year)).take (month - 1)).sum

/-- Walking through months ends in the month and at the day that the walk has reached. -/
theorem inMonths_of_lt {lengths : List Nat} (month : Nat) {day : Nat} (h : day < lengths.sum) :
    ∃ (i : Nat) (hi : i < lengths.length), ∃ inMonth < lengths[i],
      inMonths month day lengths = (month + i, inMonth + 1) ∧
        (lengths.take i).sum + inMonth = day := by
  induction lengths generalizing month day with
  | nil => simp at h
  | cons length rest ih =>
    by_cases hfirst : day < length
    · refine ⟨0, by simp, day, hfirst, ?_, by simp⟩
      rw [inMonths, if_pos hfirst]
      rfl
    · rw [List.sum_cons] at h
      obtain ⟨i, hi, inMonth, hinMonth, hwalk, hsum⟩ := ih (month + 1)
        (show day - length < rest.sum by omega)
      refine ⟨i + 1, by simpa using hi, inMonth, by simpa using hinMonth, ?_, ?_⟩
      · rw [inMonths, if_neg hfirst, hwalk, Nat.add_assoc, Nat.add_comm 1 i]
      · rw [List.take_succ_cons, List.sum_cons]
        omega

theorem sum_take_le (lengths : List Nat) (i : Nat) : (lengths.take i).sum ≤ lengths.sum := by
  conv => rhs; rw [← List.take_append_drop i lengths, List.sum_append]
  exact Nat.le_add_right _ _

/-- A month that comes before a place in the year is over there. -/
theorem sum_take_add_le {lengths : List Nat} {i j : Nat} (hi : i < lengths.length) (h : i < j) :
    (lengths.take i).sum + lengths[i] ≤ (lengths.take j).sum := by
  have hmonth : (lengths.take (i + 1)).sum = (lengths.take i).sum + lengths[i] := by
    rw [List.take_succ_eq_append_getElem hi, List.sum_append, List.sum_singleton]
  have hfront : lengths.take (i + 1) = (lengths.take j).take (i + 1) := by
    rw [List.take_take, Nat.min_eq_left h]
  rw [← hmonth, hfront]
  exact sum_take_le _ _

/-- A date exists if its month has its day. -/
theorem isValid_iff {date : Date} :
    date.isValid = true ↔ (1 ≤ date.year ∧ date.year ≤ 9999) ∧
      ∃ (i : Nat) (hi : i < (monthLengths (isLeap date.year)).length), date.month = i + 1 ∧
        1 ≤ date.day ∧ date.day ≤ (monthLengths (isLeap date.year))[i] := by
  have hlength : (monthLengths (isLeap date.year)).length = 12 := rfl
  simp only [isValid, decide_eq_true_eq]
  constructor
  · rintro ⟨hyear, hlast, hmonth, hmonthLe, hday, hdayLe⟩
    have hi : date.month - 1 < (monthLengths (isLeap date.year)).length := by omega
    rw [List.getElem?_eq_getElem hi, Option.getD_some] at hdayLe
    exact ⟨⟨hyear, hlast⟩, date.month - 1, hi, by omega, hday, hdayLe⟩
  · rintro ⟨⟨hyear, hlast⟩, i, hi, hmonth, hday, hdayLe⟩
    rw [hmonth, Nat.add_sub_cancel, List.getElem?_eq_getElem hi, Option.getD_some]
    exact ⟨hyear, hlast, by omega, by omega, hday, hdayLe⟩

/-- Year, month and day of a date that exists have four, two and two digits. -/
theorem lt_of_isValid {date : Date} (h : date.isValid = true) :
    date.year < 10 ^ 4 ∧ date.month < 10 ^ 2 ∧ date.day < 10 ^ 2 := by
  obtain ⟨⟨_, hyear⟩, i, hi, hmonth, _, hday⟩ := isValid_iff.mp h
  have hlength : (monthLengths (isLeap date.year)).length = 12 := rfl
  have hlongest : ∀ leap, ∀ length ∈ monthLengths leap, length ≤ 31 := by decide
  have hmonthLength := hlongest _ _ (List.getElem_mem hi)
  exact ⟨by omega, by omega, by omega⟩

/-! ## Days -/

/-- The days from the first one to a date, counted by years, months and days. -/
def elapsed (date : Date) : Nat :=
  daysOfYears date.year + daysOfMonths date.year date.month + (date.day - 1)

/-- The date of a day is reached by counting the days. -/
theorem elapsed_ofDay (day : Nat) : elapsed (ofDay day) = day := by
  obtain ⟨year, inYear, hyear, hinYear, hsum, hday⟩ := exists_year day
  obtain ⟨i, hi, inMonth, _, hwalk, hmonths⟩ := inMonths_of_lt 1 hinYear
  rw [hday, hwalk]
  simp only [elapsed, daysOfMonths, ← daysBeforeYear_eq hyear, Nat.add_sub_cancel_left,
    Nat.add_sub_cancel]
  omega

/-- The days of the years 1 to 9999 have dates that exist. -/
theorem isValid_ofDay {day : Nat} (h : day < 3652059) : (ofDay day).isValid = true := by
  obtain ⟨year, inYear, hyear, hinYear, hsum, hday⟩ := exists_year day
  obtain ⟨i, hi, inMonth, hinMonth, hwalk, _⟩ := inMonths_of_lt 1 hinYear
  have hlast : year ≤ 9999 := by
    refine Nat.le_of_not_lt fun hlate => ?_
    have hbefore := daysBeforeYear_le (by decide) hlate
    have hend : daysBeforeYear 9999 + yearLength 9999 = 3652059 := by decide
    omega
  rw [hday, hwalk, isValid_iff]
  exact ⟨⟨hyear, hlast⟩, i, hi, Nat.add_comm 1 i, Nat.le_add_left 1 inMonth, hinMonth⟩

/-! ## The order of dates -/

/-- The earlier date, by year, month and day. -/
def lt (x y : Date) : Prop :=
  x.year < y.year ∨ (x.year = y.year ∧ (x.month < y.month ∨ (x.month = y.month ∧ x.day < y.day)))

theorem lt_or_eq_or_gt (x y : Date) : x.lt y ∨ x = y ∨ y.lt x := by
  cases x; cases y
  simp only [lt, Date.mk.injEq]
  omega

/-- An earlier date that exists has fewer days before it. -/
theorem elapsed_lt_of_lt {x y : Date} (hx : x.isValid = true) (hy : y.isValid = true)
    (h : x.lt y) : x.elapsed < y.elapsed := by
  obtain ⟨⟨hxYear, _⟩, i, hi, hxMonth, hxDay, hxDayLe⟩ := isValid_iff.mp hx
  obtain ⟨⟨hyYear, _⟩, j, hj, hyMonth, hyDay, hyDayLe⟩ := isValid_iff.mp hy
  simp only [elapsed, daysOfMonths, hxMonth, hyMonth, Nat.add_sub_cancel]
  rcases h with hyear | ⟨hyear, hmonth | ⟨hmonth, hday⟩⟩
  · have hmonths := sum_take_add_le hi hi
    rw [List.take_length] at hmonths
    have hyears := daysBeforeYear_le hxYear hyear
    rw [daysBeforeYear_eq hxYear, daysBeforeYear_eq hyYear, yearLength] at hyears
    omega
  · have hmonths := sum_take_add_le hi (show i < j by omega)
    rw [← hyear]
    omega
  · obtain rfl : i = j := by omega
    rw [← hyear]
    omega

theorem lt_of_elapsed_lt {x y : Date} (hx : x.isValid = true) (hy : y.isValid = true)
    (h : x.elapsed < y.elapsed) : x.lt y := by
  rcases lt_or_eq_or_gt x y with hlt | rfl | hgt
  · exact hlt
  · exact absurd h (Nat.lt_irrefl _)
  · exact absurd (elapsed_lt_of_lt hy hx hgt) (Nat.lt_asymm h)

theorem eq_of_elapsed_eq {x y : Date} (hx : x.isValid = true) (hy : y.isValid = true)
    (h : x.elapsed = y.elapsed) : x = y := by
  rcases lt_or_eq_or_gt x y with hlt | heq | hgt
  · exact absurd (elapsed_lt_of_lt hx hy hlt) (by omega)
  · exact heq
  · exact absurd (elapsed_lt_of_lt hy hx hgt) (by omega)

end OracleIndexer.Date
