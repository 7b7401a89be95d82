/-!
# Calendar dates

The Gregorian calendar, carried back before its adoption, with a year zero. A date
is tied to the count of days since 1970-01-01. Counting years from the first of
March puts the leap day last, so that a month's place in the year is linear in its
number and a year's place in the count needs no table.
-/

namespace RequestGuard

/-- A date in year, month (from 1) and day of the month (from 1). -/
structure Date where
  year : Int
  month : Nat
  day : Nat
deriving DecidableEq, Inhabited

namespace Date

/-- Whether the year has a leap day. -/
def isLeapYear (year : Int) : Bool :=
  year % 4 == 0 && (year % 100 != 0 || year % 400 == 0)

/-- How many days a month of that year has. -/
def monthLength (year : Int) (month : Nat) : Nat :=
  if month = 2 then (if isLeapYear year then 29 else 28)
  else if month = 4 ∨ month = 6 ∨ month = 9 ∨ month = 11 then 30
  else 31

/-- A date exists when its month does and has that day. -/
def Exists (d : Date) : Prop :=
  1 ≤ d.month ∧ d.month ≤ 12 ∧ 1 ≤ d.day ∧ d.day ≤ monthLength d.year d.month

instance : DecidablePred Exists := fun d =>
  inferInstanceAs (Decidable
    (1 ≤ d.month ∧ d.month ≤ 12 ∧ 1 ≤ d.day ∧ d.day ≤ monthLength d.year d.month))

/-- Days from 0000-03-01 to 1970-01-01. -/
abbrev epochDay : Int := 719468

/-- Days since 1970-01-01. -/
def dayNumber (d : Date) : Int :=
  let year := if d.month ≤ 2 then d.year - 1 else d.year
  let month : Int := ((d.month + 9) % 12 : Nat)
  365 * year + year / 4 - year / 100 + year / 400 + (153 * month + 2) / 5 + d.day - 1 - epochDay

/-- The date that many days after 1970-01-01. Four hundred years, a century, four
years and a year each hold a whole number of the next but for a last one that has a
day more; hence the bounds of three. -/
def ofDayNumber (n : Int) : Date :=
  let days := n + epochDay
  let era := days / 146097
  let inEra := days % 146097
  let century := min 3 (inEra / 36524)
  let inCentury := inEra - 36524 * century
  let cycle := inCentury / 1461
  let inCycle := inCentury - 1461 * cycle
  let year := min 3 (inCycle / 365)
  let inYear := inCycle - 365 * year
  let month := (5 * inYear + 2) / 153
  { year := 400 * era + 100 * century + 4 * cycle + year + (if month < 10 then 0 else 1)
    month := (if month < 10 then month + 3 else month - 9).toNat
    day := (inYear - (153 * month + 2) / 5 + 1).toNat }

/-- Whether the date is the last of its month. -/
def isMonthEnd (d : Date) : Bool := d.day == monthLength d.year d.month

end Date

end RequestGuard
