import Worksheet.Functions.Reading

/-!
# Date functions

Dates go in and out as texts.  Spans of months and years are whole months of 30 days and whole years
of 365 days; shifting by months follows the calendar and stays within the month it comes to.
-/

namespace Worksheet.Functions

def today (now : Moment) : Value :=
  .text now.date.text

def now (now : Moment) : Value :=
  .text now.text

/-- A part of a moment as a number. -/
def partOf (part : Moment → Int) (args : List Argument) : Outcome := do
  return .number (Float.ofInt (part (← momentAt args 0)))

/-- The day of the week: from 1 for Sunday, from 1 for Monday, or from 0 for Monday. -/
def weekday (args : List Argument) : Outcome := do
  let m ← momentAt args 0
  let kind ← numberOr args 1 1.0
  let day := m.date.weekday
  match Number.toInt kind with
  | 1 => return .number (Float.ofNat ((day + 1) % 7 + 1))
  | 2 => return .number (Float.ofNat (day + 1))
  | 3 => return .number (Float.ofNat day)
  | _ => .error .badNumber

def millisecondsPerDay : Int :=
  86400000

/-- The milliseconds of a unit of time spans. -/
def unitOf? (name : List Char) : Option Int :=
  match (Text.trim name).map Char.toUpper with
  | ['D'] => some millisecondsPerDay
  | ['M'] => some (30 * millisecondsPerDay)
  | ['Y'] => some (365 * millisecondsPerDay)
  | _ => none

/-- The number of units from one moment to another, rounded down. -/
def dateDif (args : List Argument) : Outcome := do
  let a ← momentAt args 0
  let b ← momentAt args 1
  let name ← textAt args 2
  match unitOf? name with
  | some unit => return .number (Float.ofInt (a.millisecondsTo b / unit))
  | none => .error .badNumber

/-- The number of workdays among the first days of a span that starts at `first`.  The last date
there is never counts among them. -/
def workdaysAmong (first : Int) (days : Nat) : Nat :=
  (List.range days).countP fun (i : Nat) =>
    Date.isWorkday (first + i) && first + i ≠ Date.last.number

/-- The number of workdays from one day to a later one: five for each full week, and those of the
days that are left. -/
def workdaysBetween (first last : Int) : Int :=
  let days := (last - first + 1).toNat
  5 * (days / 7 : Nat) + workdaysAmong first (days % 7)

/-- The days off among values; errors among them stand in the way. -/
def daysOff (values : List Value) : Except ErrorToken (List Int) :=
  match values.findSome? fun | .error e => some e | _ => none with
  | some e => .error e
  | none => .ok <| List.eraseDups <| values.filterMap fun
    | .text s => (Moment.read? s.toList).map fun m => m.date.number
    | _ => none

/-- The number of workdays between two dates, both included, without those that are off.  It is
negative if the second date comes first. -/
def networkDays (args : List Argument) : Outcome := do
  let a := (← momentAt args 0).date.number
  let b := (← momentAt args 1).date.number
  let off ← daysOff (valuesAt args 2)
  let first := Min.min a b
  let last := Max.max a b
  let missing := off.countP fun d => first ≤ d && d ≤ last && Date.isWorkday d
  let sign := if a ≤ b then 1.0 else -1.0
  return .number (sign * Float.ofInt (workdaysBetween first last - missing))

/-- The greatest number of months to shift by. -/
def greatestShift : Float :=
  6291456.0

/-- Reads a number of months to shift by. -/
def monthsAt (args : List Argument) (i : Nat) : Except ErrorToken Int := do
  let x := Number.trunc (← numberAt args i)
  if greatestShift < x.abs then .error .badNumber else .ok (Number.toInt x)

/-- Shifts a date by a number of months. -/
def shiftBy (shift : Date → Int → Option Date) (args : List Argument) : Outcome := do
  let d := (← momentAt args 0).date
  let months ← monthsAt args 1
  match shift d months with
  | some d => return .text d.text
  | none => .error .badNumber

def eDate (args : List Argument) : Outcome :=
  shiftBy Date.shiftMonths? args

def eoMonth (args : List Argument) : Outcome :=
  shiftBy Date.endOfMonth? args

end Worksheet.Functions
