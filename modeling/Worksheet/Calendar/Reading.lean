import Worksheet.Calendar.Moment
import Worksheet.Number.Reading
import Worksheet.Text.Blank

/-!
# Reading dates and moments

Two notations are read.  The *strict* one has a fixed number of digits everywhere, a time to the
second and an offset from universal time, which is checked and then left aside.  The *plain* one has
no offset; the numbers in it may be shorter and have blanks before them, the year may have a sign
and then any number of digits, and the time may stop at the minutes or be missing.
-/

namespace Worksheet.Calendar

/-- At least `least` and at most `most` digits, and what follows them. -/
def digits? (least most : Nat) (s : List Char) : Option (Nat × List Char) :=
  let taken := (s.takeWhile Number.isDigit).take most
  if taken.length < least then none else some (Number.ofDigits taken, s.drop taken.length)

/-- What follows a character. -/
def after? (c : Char) : List Char → Option (List Char)
  | [] => none
  | d :: rest => if d = c then some rest else none

/-- A fraction of a second in nanoseconds.  Digits after the ninth are passed over. -/
def fraction? : List Char → Option (Nat × List Char)
  | '.' :: rest =>
    let digits := rest.takeWhile Number.isDigit
    if digits = [] then none
    else
      let kept := digits.take 9
      some (Number.ofDigits kept * Nat.pow 10 (9 - kept.length), rest.dropWhile Number.isDigit)
  | s => some (0, s)

namespace Strict

/-- An offset from universal time in minutes: a letter Z or a sign and hours and minutes. -/
def offset? (s : List Char) : Option (Nat × List Char) :=
  match s with
  | [] => none
  | c :: rest =>
    if c = 'Z' ∨ c = 'z' then some (0, rest)
    else if c = '+' ∨ c = '-' ∨ c = '−' then do
      let (hours, rest) ← digits? 2 2 rest
      let rest ← after? ':' rest
      let (minutes, rest) ← digits? 2 2 rest
      if minutes < 60 then some (60 * hours + minutes, rest) else none
    else none

/-- What follows the letter or blank between a date and a time. -/
def separator? : List Char → Option (List Char)
  | c :: rest => if c = 'T' ∨ c = 't' ∨ c = ' ' then some rest else none
  | [] => none

/-- The moment as its place writes it.  The offset must be less than a day. -/
def read? (s : List Char) : Option Moment := do
  let (year, s) ← digits? 4 4 s
  let s ← after? '-' s
  let (month, s) ← digits? 2 2 s
  let s ← after? '-' s
  let (day, s) ← digits? 2 2 s
  let s ← separator? s
  let (hour, s) ← digits? 2 2 s
  let s ← after? ':' s
  let (minute, s) ← digits? 2 2 s
  let s ← after? ':' s
  let (second, s) ← digits? 2 2 s
  let (nanosecond, s) ← fraction? s
  let (offset, s) ← offset? s
  if s = [] ∧ offset < 24 * 60 then
    (Date.ofParts? year month day).bind fun d => Moment.ofTime? d hour minute second nanosecond
  else none

end Strict

namespace Plain

/-- A number of one or two digits, after any blanks. -/
def field? (s : List Char) : Option (Nat × List Char) :=
  digits? 1 2 (Text.trimStart s)

/-- A year: one to four digits, or a sign and any number of digits. -/
def year? (s : List Char) : Option (Int × List Char) :=
  match Text.trimStart s with
  | '-' :: rest => (digits? 1 rest.length rest).map fun (n, r) => (-(n : Int), r)
  | '+' :: rest => (digits? 1 rest.length rest).map fun (n, r) => ((n : Int), r)
  | s => (digits? 1 4 s).map fun (n, r) => ((n : Int), r)

/-- A date and what follows it. -/
def date? (s : List Char) : Option (Date × List Char) := do
  let (year, s) ← year? s
  let s ← after? '-' s
  let (month, s) ← field? s
  let s ← after? '-' s
  let (day, s) ← field? s
  let d ← Date.ofParts? year month day
  return (d, s)

/-- Hours and minutes and what follows them. -/
def clock? (s : List Char) : Option (Nat × Nat × List Char) := do
  let (hour, s) ← field? s
  let s ← after? ':' s
  let (minute, s) ← field? s
  return (hour, minute, s)

/-- A whole text as a time of a day: hours, minutes, and perhaps seconds with a fraction. -/
def time? (d : Date) (s : List Char) : Option Moment := do
  let (hour, minute, s) ← clock? s
  match s with
  | [] => Moment.ofTime? d hour minute 0 0
  | ':' :: s =>
    let (second, s) ← field? s
    let (nanosecond, s) ← fraction? s
    if s = [] then Moment.ofTime? d hour minute second nanosecond else none
  | _ => none

/-- A date, and a time after a letter T or after any blanks. -/
def read? (s : List Char) : Option Moment := do
  let (d, rest) ← date? s
  match rest with
  | [] => some (Moment.midnight d)
  | 'T' :: rest => time? d rest
  | rest => time? d rest

/-- A date, and perhaps a time to the second after a letter T. -/
def toSecond? (s : List Char) : Option Moment := do
  let (d, rest) ← date? s
  match rest with
  | [] => some (Moment.midnight d)
  | 'T' :: rest =>
    let (hour, minute, rest) ← clock? rest
    let (second, rest) ← field? (← after? ':' rest)
    if rest = [] then Moment.ofTime? d hour minute second 0 else none
  | _ => none

end Plain

end Worksheet.Calendar

namespace Worksheet

/-- The moment that a text denotes, whatever blanks are around it. -/
def Moment.read? (s : List Char) : Option Moment :=
  let s := Text.trim s
  match Calendar.Strict.read? s with
  | some m => some m
  | none => Calendar.Plain.read? s

end Worksheet
