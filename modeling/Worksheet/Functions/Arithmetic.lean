import Worksheet.Functions.Reading
import Worksheet.Criterion

/-!
# Arithmetic functions

Sums run from the left and start at -0, so that the sum of no numbers is -0; products start at 1.
-/

namespace Worksheet.Functions

/-- The sum of numbers, from left to right. -/
def total (xs : List Float) : Float :=
  xs.foldl (· + ·) (-0.0)

def sum (args : List Argument) : Value :=
  .number (total (numbers args))

/-- The product of all numbers; zero if there are none. -/
def product (args : List Argument) : Value :=
  match numbers args with
  | [] => .number 0.0
  | xs => .number (xs.foldl (· * ·) 1.0)

/-- `r * a ^ n` by repeated squaring, from the lowest binary digit of `n` to the highest. -/
def timesPower (r a : Float) (n : Nat) : Float :=
  let r := if n % 2 = 1 then r * a else r
  if _h : n / 2 = 0 then r else timesPower r (a * a) (n / 2)
termination_by n
decreasing_by omega

def powerOfTen (n : Nat) : Float :=
  timesPower 1.0 10.0 n

/-- The number of decimal places to round to, as an integer of 32 bits. -/
def places (args : List Argument) : Except ErrorToken Int :=
  (numberOr args 1 0.0).map fun x => Number.clamp (-0x80000000) 0x7FFFFFFF (Number.toInt x)

/-- Rounds to a decimal place by way of whole numbers.  Negative places are left of the point. -/
def roundAt (mode : Float → Float) (x : Float) (places : Int) : Float :=
  match places with
  | .ofNat n => mode (x * powerOfTen n) / powerOfTen n
  | .negSucc n => mode (x / powerOfTen (n + 1)) * powerOfTen (n + 1)

/-- A whole number at least as far from zero. -/
def awayFromZero (x : Float) : Float :=
  if 0.0 ≤ x then Number.ceil x else Number.floor x

def roundBy (mode : Float → Float) (args : List Argument) : Outcome := do
  let x ← numberAt args 0
  let n ← places args
  return .number (roundAt mode x n)

def abs (args : List Argument) : Outcome := do
  return .number (← numberAt args 0).abs

def int (args : List Argument) : Outcome := do
  return .number (Number.floor (← numberAt args 0))

/-- The remainder that has the sign of the divisor. -/
def mod (args : List Argument) : Outcome := do
  let x ← numberAt args 0
  let y ← numberAt args 1
  if y == 0.0 then .error .divisionByZero
  else return .number (x - y * Number.floor (x / y))

def power (args : List Argument) : Outcome := do
  let x ← numberAt args 0
  let y ← numberAt args 1
  if x == 0.0 && y < 0.0 then .error .divisionByZero
  else
    let z := Float.pow x y
    if z.isFinite then return .number z else .error .badNumber

def sqrt (args : List Argument) : Outcome := do
  let x ← numberAt args 0
  if x < 0.0 then .error .badNumber else return .number x.sqrt

/-- The next multiple of a step upwards; zero for the step zero. -/
def ceiling (args : List Argument) : Outcome := do
  let x ← numberAt args 0
  let step ← numberOr args 1 1.0
  if step == 0.0 then return .number 0.0
  else if 0.0 < x && step < 0.0 then .error .badNumber
  else return .number (Number.ceil (x / step) * step)

/-- The next multiple of a step downwards. -/
def floor (args : List Argument) : Outcome := do
  let x ← numberAt args 0
  let step ← numberOr args 1 1.0
  if step == 0.0 then .error .divisionByZero
  else if 0.0 < x && step < 0.0 then .error .badNumber
  else return .number (Number.floor (x / step) * step)

/-- The criterion among the arguments of a conditional function. -/
def criterionAt (args : List Argument) (i : Nat) : Criterion :=
  Criterion.ofValue ((valueAt? args i).getD .empty)

/-- The numbers at the positions whose tested value the criterion selects. -/
def selected (criterion : Criterion) (tested summed : List Value) : List Float :=
  (tested.zip summed).filterMap fun (v, w) => if criterion.selects v then exactNumber? w else none

/-- The numbers that a conditional sum or average is over: those of the third argument, or of the
first one itself. -/
def selectedAt (args : List Argument) : List Float :=
  let tested := valuesAt args 0
  selected (criterionAt args 1) tested (if args.length < 3 then tested else valuesAt args 2)

def sumIf (args : List Argument) : Value :=
  .number (total (selectedAt args))

end Worksheet.Functions
