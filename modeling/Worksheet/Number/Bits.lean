/-!
# What the bits of a number say

A finite binary64 number is a sign, a significand `m` and an exponent `q`, its magnitude being
`m * 2 ^ q`.  Whole parts, rounding to a whole number, conversion to integers and the total order
are read off these.
-/

namespace Worksheet.Number

/-- Sign, significand and exponent: the magnitude is `significand * 2 ^ exponent`. -/
structure Parts where
  negative : Bool
  significand : Nat
  exponent : Int

/-- The parts of a number: the low 52 bits are the fraction, the next 11 the exponent, and the
highest one is the sign.  An infinity reads as 2 ^ 1024, beyond every finite number. -/
def parts (x : Float) : Parts :=
  let bits := x.toBits.toNat
  let field : Nat := bits / 0x10000000000000 % 0x800
  let fraction : Nat := bits % 0x10000000000000
  if field = 0 then ⟨0x8000000000000000 ≤ bits, fraction, -1074⟩
  else ⟨0x8000000000000000 ≤ bits, 0x10000000000000 + fraction, (field : Int) - 1075⟩

/-- The whole part of the magnitude. -/
def Parts.whole (p : Parts) : Nat :=
  match p.exponent with
  | .ofNat k => p.significand * Nat.pow 2 k
  | .negSucc k => p.significand / Nat.pow 2 (k + 1)

/-- A whole magnitude with a sign.  Zero keeps its sign. -/
def ofWhole (negative : Bool) (n : Nat) : Float :=
  if negative then -Float.ofNat n else Float.ofNat n

/-- The number without its fraction. -/
def trunc (x : Float) : Float :=
  let p := parts x
  if 0 ≤ p.exponent then x else ofWhole p.negative p.whole

/-- What `trunc` takes away. -/
def fract (x : Float) : Float :=
  x - trunc x

/-- The greatest whole number that is not above `x`. -/
def floor (x : Float) : Float :=
  let t := trunc x
  if x < t then t - 1.0 else t

/-- The least whole number that is not below `x`. -/
def ceil (x : Float) : Float :=
  let t := trunc x
  if t < x then t + 1.0 else t

/-- The nearest whole number; a half goes away from zero. -/
def round (x : Float) : Float :=
  let t := trunc x
  if 0.5 ≤ x - t then t + 1.0 else if x - t ≤ -0.5 then t - 1.0 else t

/-- The whole part as an integer; a number that is not one counts as zero. -/
def toInt (x : Float) : Int :=
  if x.isNaN then 0
  else
    let p := parts x
    if p.negative then -p.whole else p.whole

/-- The nearest integer between two bounds. -/
def clamp (lo hi n : Int) : Int :=
  max lo (min hi n)

/-- The whole part as a size of 64 bits: negative numbers count as zero, large ones as the largest
size. -/
def toSize (x : Float) : Nat :=
  (clamp 0 0xFFFFFFFFFFFFFFFF (toInt x)).toNat

/-- The index counted from zero of what has the index `x` counted from one.  What is no number lies
past every end. -/
def toOffset (x : Float) : Nat :=
  if x.isNaN then 0xFFFFFFFFFFFFFFFF else toSize x - 1

/-- The place of a number in the total order, in which -0 comes before 0 and every number has a
place of its own. -/
def rank (x : Float) : Int :=
  let bits := x.toBits.toNat
  if bits < 0x8000000000000000 then bits else 0x7FFFFFFFFFFFFFFF - (bits : Int)

/-- The numbers in their total order. -/
def sort (xs : List Float) : List Float :=
  xs.mergeSort fun x y => rank x ≤ rank y

/-- The smaller of two numbers.  One that is not a number loses to any other; of two equal ones the
first is taken. -/
def lesser (x y : Float) : Float :=
  if x.isNaN then y else if y < x then y else x

/-- The larger of two numbers, with the conventions of `lesser`. -/
def greater (x y : Float) : Float :=
  if x.isNaN then y else if x < y then y else x

end Worksheet.Number
