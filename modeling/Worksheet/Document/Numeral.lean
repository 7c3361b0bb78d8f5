import Worksheet.Number.Reading

/-!
# Numerals

A numeral has digits without needless zeros before them, perhaps a point with digits after it, and
perhaps an exponent.  Its value is found in two steps.  As many digits as fit into 64 bits make a
whole number; then this number, as a floating-point number, is multiplied by a power of ten or
divided by one, so that the value of a long numeral may miss the nearest floating-point number by a
little.  A numeral has no value where this overflows.
-/

namespace Worksheet.Document

/-- The parts of a numeral. -/
structure Numeral where
  negative : Bool
  whole : List Char
  fraction : List Char
  exponent : Int
  deriving DecidableEq, Repr

namespace Numeral

/-- The text without the minus sign before it. -/
def splitMinus : List Char → Bool × List Char
  | '-' :: rest => (true, rest)
  | s => (false, s)

/-- Whether digits stand for a whole number without needless zeros. -/
def isCanonical : List Char → Bool
  | [] => false
  | ['0'] => true
  | c :: _ => c ≠ '0'

/-- The digits after a point and the text after them; no digits if there is no point. -/
def splitFraction? : List Char → Option (List Char × List Char)
  | '.' :: rest =>
    match rest.takeWhile Number.isDigit with
    | [] => none
    | digits => some (digits, rest.dropWhile Number.isDigit)
  | s => some ([], s)

/-- The numeral that a word is. -/
def read? (word : List Char) : Option Numeral := do
  let (negative, s) := splitMinus word
  let whole := s.takeWhile Number.isDigit
  if !isCanonical whole then none
  let (fraction, rest) ← splitFraction? (s.dropWhile Number.isDigit)
  return ⟨negative, whole, fraction, ← Number.exponent? rest⟩

/-- Adds digits to a number as long as it stays below 2 ^ 64.  The digits from the first one that
does not fit are left. -/
def fill (n : Nat) : List Char → Nat × List Char
  | [] => (n, [])
  | c :: rest =>
    let m := 10 * n + (c.toNat - 48)
    if m < 0x10000000000000000 then fill m rest else (n, c :: rest)

def powerOfTen (k : Nat) : Float :=
  Float.ofScientific 1 false k

/-- Divides by a power of ten, in steps of 308 as long as it is beyond the powers that there are. -/
def divide (x : Float) (k : Nat) : Float :=
  if h : k ≤ 308 then x / powerOfTen k
  else if x == 0.0 then x
  else divide (x / powerOfTen 308) (k - 308)
termination_by k

/-- Multiplies by a power of ten, unless the product is too large. -/
def multiply? (x : Float) (k : Nat) : Option Float :=
  if k ≤ 308 then
    let y := x * powerOfTen k
    if y.isInf then none else some y
  else if x == 0.0 then some x
  else none

/-- The value of a numeral. -/
def value? (n : Numeral) : Option Float :=
  let (m, left) := fill 0 n.whole
  let (m, leftOfFraction) := fill m n.fraction
  let exponent := (left.length : Int) - (n.fraction.length - leftOfFraction.length) + n.exponent
  let magnitude :=
    match exponent with
    | .ofNat k => multiply? (Float.ofNat m) k
    | .negSucc k => some (divide (Float.ofNat m) (k + 1))
  magnitude.map fun x => if n.negative then -x else x

end Numeral

end Worksheet.Document
