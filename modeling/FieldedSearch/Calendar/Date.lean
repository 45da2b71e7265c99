-- SUMMARY: Dates of the proleptic Gregorian calendar: day count, week dates, and their text.
import FieldedSearch.Text.Integer

/-!
# Dates

A date is a day of one of the years 1 to 9999. Days are counted from the first
day of year 1, which is day 1 and a Monday. A week date names a day by the number
of its week and its day in the week; week 1 is the week of the year's first
Thursday.
-/

namespace FieldedSearch

def isLeapYear (year : Nat) : Bool := year % 4 == 0 && (year % 100 != 0 || year % 400 == 0)

def daysInMonth (year month : Nat) : Nat :=
  if month = 2 then (if isLeapYear year then 29 else 28)
  else if month = 4 ∨ month = 6 ∨ month = 9 ∨ month = 11 then 30
  else 31

/-- A day of the years 1 to 9999. -/
structure Date where
  year : Nat
  month : Nat
  day : Nat
  valid : 1 ≤ year ∧ year ≤ 9999 ∧ 1 ≤ month ∧ month ≤ 12 ∧ 1 ≤ day ∧ day ≤ daysInMonth year month
deriving DecidableEq, Repr

namespace Date

/-- The date with the given numbers, if there is one. -/
def of? (year month day : Nat) : Option Date :=
  if h : 1 ≤ year ∧ year ≤ 9999 ∧ 1 ≤ month ∧ month ≤ 12 ∧ 1 ≤ day ∧
      day ≤ daysInMonth year month then
    some ⟨year, month, day, h⟩
  else none

instance : Inhabited Date := ⟨⟨1, 1, 1, by decide⟩⟩

-- ---------------------------------------------------------------------------
-- Counting days
-- ---------------------------------------------------------------------------

def daysBeforeYear (year : Nat) : Nat :=
  let y := year - 1
  y * 365 + y / 4 - y / 100 + y / 400

def daysBeforeMonth (year month : Nat) : Nat :=
  ((List.range (month - 1)).map fun m => daysInMonth year (m + 1)).foldl (· + ·) 0

/-- The number of a day, counted from the first day of year 1. -/
def ordinal (d : Date) : Nat := daysBeforeYear d.year + daysBeforeMonth d.year d.month + d.day

/-- The number of the first day of 1970. -/
def epoch : Nat := 719163

/-- The year in which a day falls, by cycles of 400, 100, 4 years and 1 year. -/
def yearOfOrdinal (n : Nat) : Nat :=
  let r400 := (n - 1) % 146097
  let c100 := min 3 (r400 / 36524)
  let r100 := r400 - c100 * 36524
  let r4 := r100 % 1461
  let c1 := min 3 (r4 / 365)
  (n - 1) / 146097 * 400 + c100 * 100 + r100 / 1461 * 4 + c1 + 1

def ofOrdinal? (n : Nat) : Option Date :=
  let year := yearOfOrdinal n
  let dayOfYear := n - daysBeforeYear year
  match (List.range 12).reverse.find? fun m => daysBeforeMonth year (m + 1) < dayOfYear with
  | some m => of? year (m + 1) (dayOfYear - daysBeforeMonth year (m + 1))
  | none => none

-- ---------------------------------------------------------------------------
-- Week dates
-- ---------------------------------------------------------------------------

/-- The day of the week on which a year begins, Monday being nought. -/
def firstWeekday (year : Nat) : Nat := daysBeforeYear year % 7

/-- The number of the Monday of week 1. -/
def firstMonday (year : Nat) : Nat :=
  let w := firstWeekday year
  if 3 < w then daysBeforeYear year + 8 - w else daysBeforeYear year + 1 - w

/-- A year has a week 53 if it has 53 Thursdays. -/
def hasLongWeekYear (year : Nat) : Bool :=
  firstWeekday year == 3 || (firstWeekday year == 2 && isLeapYear year)

/-- The date of a day of a week. -/
def ofWeek? (year week day : Nat) : Option Date :=
  if 1 ≤ year ∧ 1 ≤ week ∧ (week ≤ 52 ∨ week = 53 ∧ hasLongWeekYear year) ∧ 1 ≤ day ∧ day ≤ 7 then
    ofOrdinal? (firstMonday year + (week - 1) * 7 + (day - 1))
  else none

-- ---------------------------------------------------------------------------
-- Text
-- ---------------------------------------------------------------------------

/-- A date as `YYYY-MM-DD`. -/
def write (d : Date) : List Char :=
  Text.padded 4 d.year ++ '-' :: Text.padded 2 d.month ++ '-' :: Text.padded 2 d.day

end Date

end FieldedSearch
