import Worksheet.Argument
import Worksheet.Calendar.Reading

/-!
# How functions read their arguments

Most functions read some of their arguments as a number, a text or a moment.  Such a reading takes
the first value of the argument; it passes an error on and answers `#VALUE!` to what cannot be read.
The first reading that goes wrong decides the result of the function.
-/

namespace Worksheet.Functions

/-- A result, or the error that takes its place. -/
abbrev Outcome := Except ErrorToken Value

/-- The value that a call shows for its outcome. -/
def settle : Outcome → Value
  | .ok v => v
  | .error e => .error e

/-- All values of all arguments in order. -/
def flatten (args : List Argument) : List Value :=
  args.flatMap Argument.values

/-- The number that a value is, without any reading. -/
def exactNumber? : Value → Option Float
  | .number x => some x
  | _ => none

/-- The numbers among all values. -/
def numbers (args : List Argument) : List Float :=
  (flatten args).filterMap exactNumber?

/-- The first value of the argument at a position. -/
def valueAt? (args : List Argument) (i : Nat) : Option Value :=
  args[i]?.bind Argument.first?

/-- All values of the argument at a position. -/
def valuesAt (args : List Argument) (i : Nat) : List Value :=
  (args[i]?.map Argument.values).getD []

/-- Reads a value as a number. -/
def asNumber : Value → Except ErrorToken Float
  | .error e => .error e
  | v =>
    match v.number? with
    | some x => .ok x
    | none => .error .badValue

/-- Reads a number that must be there. -/
def numberAt (args : List Argument) (i : Nat) : Except ErrorToken Float :=
  match valueAt? args i with
  | none => .error .badValue
  | some v => asNumber v

/-- Reads a number that may be missing. -/
def numberOr (args : List Argument) (i : Nat) (otherwise : Float) : Except ErrorToken Float :=
  match valueAt? args i with
  | none => .ok otherwise
  | some v => asNumber v

/-- Reads a text; a missing one is empty. -/
def textAt (args : List Argument) (i : Nat) : Except ErrorToken (List Char) :=
  match valueAt? args i with
  | none => .ok []
  | some (.error e) => .error e
  | some v => .ok v.toText.toList

/-- Reads a whole number of characters or of times, which may be missing but not negative. -/
def countOr (args : List Argument) (i : Nat) (otherwise : Float) : Except ErrorToken Nat := do
  let n := Number.trunc (← numberOr args i otherwise)
  if n < 0.0 then .error .badValue else .ok (Number.toSize n)

/-- Reads a moment, which only a text can be. -/
def momentAt (args : List Argument) (i : Nat) : Except ErrorToken Moment :=
  match valueAt? args i with
  | some (.error e) => .error e
  | some (.text s) =>
    match Moment.read? s.toList with
    | some m => .ok m
    | none => .error .badValue
  | _ => .error .badValue

end Worksheet.Functions
