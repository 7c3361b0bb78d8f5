import Worksheet.Calendar.Date
import Worksheet.Number.Decimal

/-!
# Moments and their texts

A moment is a date with a time of day.  A leap second is the second 59 with more than a whole second
of nanoseconds.  Dates are written as `YYYY-MM-DD`, with a sign before the year where it has more
than four digits or is negative, and times as `HH:MM:SS`.
-/

namespace Worksheet

structure Moment where
  date : Date
  hour : Fin 24
  minute : Fin 60
  second : Fin 60
  nanosecond : Fin 2000000000
  deriving DecidableEq

/-- A natural number with zeros in front up to a number of digits. -/
def zeroPadded (width n : Nat) : String :=
  let digits := Number.digitsOf n
  String.ofList (List.replicate (width - digits.length) '0' ++ digits)

namespace Date

def yearText (year : Int) : String :=
  if 0 ≤ year ∧ year ≤ 9999 then zeroPadded 4 year.toNat
  else (if year < 0 then "-" else "+") ++ zeroPadded 4 year.natAbs

def text (d : Date) : String :=
  yearText d.year ++ "-" ++ zeroPadded 2 d.month ++ "-" ++ zeroPadded 2 d.day

end Date

namespace Moment

/-- The beginning of a day. -/
def midnight (d : Date) : Moment :=
  ⟨d, 0, 0, 0, 0⟩

def isMidnight (m : Moment) : Bool :=
  m.hour = 0 && m.minute = 0 && m.second = 0 && m.nanosecond.val = 0

/-- The moment with a time of day, if there is such a time.  The second 60 is a leap second. -/
def ofTime? (d : Date) (hour minute second nanosecond : Nat) : Option Moment :=
  if h : hour < 24 ∧ minute < 60 ∧ second ≤ 60 ∧ nanosecond < 1000000000 then
    some ⟨d, ⟨hour, h.1⟩, ⟨minute, h.2.1⟩, ⟨min second 59, by omega⟩,
      ⟨nanosecond + (if second = 60 then 1000000000 else 0), by split <;> omega⟩⟩
  else none

def secondOfDay (m : Moment) : Nat :=
  3600 * m.hour.val + 60 * m.minute.val + m.second.val

/-- Hours and minutes. -/
def clockText (m : Moment) : String :=
  zeroPadded 2 m.hour.val ++ ":" ++ zeroPadded 2 m.minute.val

/-- The date and the time to the second.  A leap second is written as the second 60. -/
def text (m : Moment) : String :=
  m.date.text ++ "T" ++ m.clockText ++ ":" ++
    zeroPadded 2 (m.second.val + m.nanosecond.val / 1000000000)

/-- The leap second to be counted between two times of a day, the second of which need not be the
later one. -/
def leapBetween (a b : Moment) : Int :=
  if a.secondOfDay < b.secondOfDay ∧ 1000000000 ≤ a.nanosecond.val then 1
  else if b.secondOfDay < a.secondOfDay ∧ 1000000000 ≤ b.nanosecond.val then -1
  else 0

/-- The nanoseconds from one moment to another. -/
def nanosecondsTo (a b : Moment) : Int :=
  let seconds := 86400 * (b.date.number - a.date.number)
    + ((b.secondOfDay : Int) - a.secondOfDay) + leapBetween a b
  1000000000 * seconds + ((b.nanosecond.val : Int) - a.nanosecond.val)

/-- The milliseconds from one moment to another, without the part of the last one. -/
def millisecondsTo (a b : Moment) : Int :=
  (a.nanosecondsTo b).tdiv 1000000

end Moment

end Worksheet
