import Worksheet.Functions.Arithmetic

/-!
# Statistical functions

They work on the numbers among all values; texts, booleans, blanks and errors are passed over.
Ranks are those of the total order of numbers.
-/

namespace Worksheet.Functions

def mean (xs : List Float) : Float :=
  total xs / Float.ofNat xs.length

def average (args : List Argument) : Value :=
  match numbers args with
  | [] => .number 0.0
  | xs => .number (mean xs)

def count (args : List Argument) : Value :=
  .number (Float.ofNat (numbers args).length)

/-- The number of values that are not blank. -/
def countA (args : List Argument) : Value :=
  .number (Float.ofNat ((flatten args).countP fun v => !v.isBlank))

/-- The outermost number in one direction; zero if there are none. -/
def extreme (choose : Float → Float → Float) (args : List Argument) : Value :=
  match numbers args with
  | [] => .number 0.0
  | x :: xs => .number (xs.foldl choose x)

def min (args : List Argument) : Value :=
  extreme Number.lesser args

def max (args : List Argument) : Value :=
  extreme Number.greater args

/-- The middle of the sorted numbers, or the mean of the two in the middle. -/
def median (args : List Argument) : Value :=
  let xs := Number.sort (numbers args)
  let n := xs.length
  if n = 0 then .error .badNumber
  else if n % 2 = 1 then .number (xs.getD (n / 2) 0.0)
  else .number ((xs.getD (n / 2 - 1) 0.0 + xs.getD (n / 2) 0.0) / 2.0)

/-- Each number where it occurs first. -/
def leaders (seen : List Float) : List Float → List Float
  | [] => []
  | x :: rest =>
    if seen.any (· == x) then leaders seen rest else x :: leaders (x :: seen) rest

/-- The number that occurs most often and at least twice, the first one of several. -/
def mostFrequent? (xs : List Float) : Option Float :=
  let counted := (leaders [] xs).map fun x => (x, xs.countP (· == x))
  let best := counted.foldl (fun best (x, n) =>
    if 1 < n && best.all (fun (_, m) => m < n) then some (x, n) else best) none
  best.map Prod.fst

def mode (args : List Argument) : Outcome :=
  match mostFrequent? (numbers args) with
  | some x => .ok (.number x)
  | none => .error .notAvailable

/-- The variance of a sample, which needs two numbers. -/
def sampleVariance (xs : List Float) : Except ErrorToken Float :=
  if xs.length < 2 then .error .divisionByZero
  else
    let m := mean xs
    .ok (total (xs.map fun x => (x - m) * (x - m)) / Float.ofNat (xs.length - 1))

def variance (args : List Argument) : Outcome := do
  return .number (← sampleVariance (numbers args))

def stdev (args : List Argument) : Outcome := do
  return .number (← sampleVariance (numbers args)).sqrt

/-- The number at a rank counted from one.  A fraction counts up to the next rank. -/
def atRank (xs : List Float) (k : Float) : Outcome :=
  let k := Number.ceil k
  if k < 1.0 || Float.ofNat xs.length < k then .error .badNumber
  else .ok (.number (xs.getD (Number.toOffset k) 0.0))

/-- The numbers of the first argument in ascending order. -/
def sortedAt (args : List Argument) : List Float :=
  Number.sort ((valuesAt args 0).filterMap exactNumber?)

def large (args : List Argument) : Outcome := do
  atRank (sortedAt args).reverse (← numberAt args 1)

def small (args : List Argument) : Outcome := do
  atRank (sortedAt args) (← numberAt args 1)

/-- The number below which a part of the others lies, between two of them in proportion. -/
def percentile (args : List Argument) : Outcome := do
  let xs := sortedAt args
  let k ← numberAt args 1
  if xs.isEmpty || !(0.0 ≤ k && k ≤ 1.0) then .error .badNumber
  else
    let rank := k * Float.ofNat (xs.length - 1)
    let lower := Number.toSize (Number.floor rank)
    let upper := Number.toSize (Number.ceil rank)
    let low := xs.getD lower 0.0
    let high := xs.getD upper 0.0
    return .number (low + (high - low) * (rank - Float.ofNat lower))

def countIf (args : List Argument) : Value :=
  .number (Float.ofNat ((valuesAt args 0).countP (criterionAt args 1).selects))

/-- The mean of the selected numbers, of which there must be one. -/
def averageIf (args : List Argument) : Outcome :=
  match selectedAt args with
  | [] => .error .divisionByZero
  | xs => .ok (.number (mean xs))

end Worksheet.Functions
