/-!
# Dates

Dates of the Gregorian calendar, carried back before its introduction, in the years -262143 to
262142.  Days are numbered so that the first day of the year 1, a Monday, is day 1: the difference
of two numbers is a span of days, and the remainder modulo 7 is the day of the week.
-/

namespace Worksheet

def isLeapYear (year : Int) : Bool :=
  year % 4 = 0 && (year % 100 ≠ 0 || year % 400 = 0)

/-- The number of days of a month, the months being counted from 1. -/
def daysInMonth (year : Int) (month : Nat) : Nat :=
  if month = 2 then if isLeapYear year then 29 else 28
  else if month = 4 ∨ month = 6 ∨ month = 9 ∨ month = 11 then 30
  else 31

/-- Whether there is such a day. -/
def isDate (year : Int) (month day : Nat) : Bool :=
  -262143 ≤ year && year ≤ 262142 && 1 ≤ month && month ≤ 12 && 1 ≤ day
    && day ≤ daysInMonth year month

structure Date where
  year : Int
  month : Nat
  day : Nat
  exists_day : isDate year month day = true
  deriving DecidableEq

namespace Date

/-- The date with these parts, if there is such a day. -/
def ofParts? (year : Int) (month day : Nat) : Option Date :=
  if h : isDate year month day then some ⟨year, month, day, h⟩ else none

/-- The first day of the year 1970. -/
def epoch : Date :=
  ⟨1970, 1, 1, by decide⟩

/-- The last date there is. -/
def last : Date :=
  ⟨262142, 12, 31, by decide⟩

/-- The number of days before a year, from the year 1 on. -/
def daysBeforeYear (year : Int) : Int :=
  let y := year - 1
  365 * y + y / 4 - y / 100 + y / 400

/-- The number of days of a year before a month. -/
def daysBeforeMonth (year : Int) : Nat → Nat
  | 0 | 1 => 0
  | month + 2 => daysBeforeMonth year (month + 1) + daysInMonth year (month + 1)

/-- The number of a day. -/
def number (d : Date) : Int :=
  daysBeforeYear d.year + daysBeforeMonth d.year d.month + d.day

/-- The day of the week of the day with a number, Monday being 0. -/
def weekdayOf (number : Int) : Nat :=
  ((number - 1) % 7).toNat

def weekday (d : Date) : Nat :=
  weekdayOf d.number

/-- Whether the day with a number is a Monday, Tuesday, Wednesday, Thursday or Friday. -/
def isWorkday (number : Int) : Bool :=
  weekdayOf number < 5

/-- The number of a month, the first month of the year 0 being month 0. -/
def monthNumber (d : Date) : Int :=
  12 * d.year + d.month - 1

/-- The day of the month with a number, or the last day of it if it is shorter. -/
def inMonth? (number : Int) (day : Nat) : Option Date :=
  let year := number / 12
  let month := (number % 12).toNat + 1
  ofParts? year month (min day (daysInMonth year month))

/-- The date so many months later; in a shorter month its last day. -/
def shiftMonths? (d : Date) (months : Int) : Option Date :=
  inMonth? (d.monthNumber + months) d.day

/-- The day before, unless it is the first day there is. -/
def previous? (d : Date) : Option Date :=
  if 1 < d.day then ofParts? d.year d.month (d.day - 1)
  else if 1 < d.month then ofParts? d.year (d.month - 1) (daysInMonth d.year (d.month - 1))
  else ofParts? (d.year - 1) 12 31

/-- The day before the first day of the month after the one so many months later. -/
def endOfMonth? (d : Date) (months : Int) : Option Date :=
  (inMonth? (d.monthNumber + (months + 1)) 1).bind previous?

end Date

end Worksheet
