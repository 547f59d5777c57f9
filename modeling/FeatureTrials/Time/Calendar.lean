/-!
# The calendar

Days are counted from 1970-01-01 in the Gregorian calendar, extended to all years. A year is taken
to begin in March, so that the leap day is its last day. A date exists when it is the date of its
own day number.
-/

namespace FeatureTrials

/-- A day of the calendar, existing or not. -/
structure Date where
  year : Int
  month : Int
  day : Int
  deriving DecidableEq, Repr

namespace Date

/-- The days of the years before a year of a 400-year cycle. -/
def daysBeforeYear (year : Int) : Int := 365 * year + year / 4 - year / 100

/-- The days of a year before a month, months counted from March as zero. -/
def daysBeforeMonth (month : Int) : Int := (153 * month + 2) / 5

/-- The number of a day. -/
def toDays (date : Date) : Int :=
  let year := if date.month ≤ 2 then date.year - 1 else date.year
  let cycle := Int.fdiv year 400
  let month := (date.month + 9) % 12
  cycle * 146097 + daysBeforeYear (year - cycle * 400) + daysBeforeMonth month + (date.day - 1)
    - 719468

/-- The day with a number. -/
def ofDays (days : Int) : Date :=
  let shifted := days + 719468
  let cycle := Int.fdiv shifted 146097
  let inCycle := shifted - cycle * 146097
  let year := (inCycle - inCycle / 1460 + inCycle / 36524 - inCycle / 146096) / 365
  let inYear := inCycle - daysBeforeYear year
  let month := (5 * inYear + 2) / 153
  { year := year + cycle * 400 + if month < 10 then 0 else 1
    month := if month < 10 then month + 3 else month - 9
    day := inYear - daysBeforeMonth month + 1 }

/-- The date is one of the calendar. -/
def exists? (date : Date) : Bool := ofDays date.toDays = date

end Date

end FeatureTrials
