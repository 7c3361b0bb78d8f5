import Worksheet.Number.Bits

/-!
# Numbers as decimal text

Two ways of writing a number with a decimal point and without an exponent.

* *Shortest*: the fewest significant digits that still read back as the same number.  A number
  stands for the interval of reals that round to it, ends included when its significand is even.
  On the grid of decimals with `n` significant digits only the two neighbours of the value can be
  the nearest point of the interval, so the first `n` for which one of them lies in it is the least;
  of two, the nearer is taken, and the upper one when they are equally near.
* *Fixed*: a given number of digits after the point, rounding the exact value half to even.
-/

namespace Worksheet.Number

/-- A positive decimal `digits * 10 ^ exponent`. -/
structure Decimal where
  digits : Nat
  exponent : Int

/-- The digits of a natural number. -/
def digitsOf (n : Nat) : List Char :=
  Nat.toDigits 10 n

/-- The text of a decimal with `places` digits after the point, none and no point if that is 0. -/
def withPoint (digits : List Char) (places : Nat) : List Char :=
  if places = 0 then digits
  else
    let padded := List.replicate (places + 1 - digits.length) '0' ++ digits
    padded.take (padded.length - places) ++ '.' :: padded.drop (padded.length - places)

/-- A decimal written out without an exponent, and without zeros at the end of its fraction. -/
def Decimal.positional (d : Decimal) : List Char :=
  match d.exponent with
  | .ofNat k => digitsOf d.digits ++ List.replicate k '0'
  | .negSucc k =>
    let zeros := min (k + 1) ((digitsOf d.digits).reverse.takeWhile (· = '0')).length
    withPoint (digitsOf (d.digits / Nat.pow 10 zeros)) (k + 1 - zeros)

/-- A positive rational with the interval of those that are read as the same number, all over one
denominator. -/
structure Rounding where
  low : Nat
  value : Nat
  high : Nat
  denominator : Nat
  closed : Bool

/-- The interval of a finite positive number.  Below a power of two the neighbours are closer by
half. -/
def Parts.rounding (p : Parts) : Rounding :=
  let m := p.significand
  let below := if m = 0x10000000000000 ∧ -1074 < p.exponent then 1 else 2
  let scale := Nat.pow 2 (p.exponent - 2).toNat
  { low := (4 * m - below) * scale
    value := 4 * m * scale
    high := (4 * m + 2) * scale
    denominator := Nat.pow 2 (2 - p.exponent).toNat
    closed := m % 2 = 0 }

/-- Whether `c * 10 ^ e` lies in the interval. -/
def Rounding.holds (r : Rounding) (c : Nat) (e : Int) : Bool :=
  let scaled := c * Nat.pow 10 e.toNat * r.denominator
  let up := Nat.pow 10 (-e).toNat
  if r.closed then r.low * up ≤ scaled && scaled ≤ r.high * up
  else r.low * up < scaled && scaled < r.high * up

/-- The exponent `k` for which the value is at least `10 ^ (k - 1)` and below `10 ^ k`. -/
def Rounding.magnitude (r : Rounding) : Int :=
  if r.denominator ≤ r.value then ((digitsOf (r.value / r.denominator)).length : Int)
  else
    let k := (digitsOf (r.denominator / r.value)).length
    if r.denominator ≤ r.value * Nat.pow 10 (k - 1) then 2 - (k : Int) else 1 - (k : Int)

/-- The point of the grid with unit `10 ^ e` that is nearest to the value among its two neighbours
there that lie in the interval. -/
def Rounding.onGrid? (r : Rounding) (e : Int) : Option Decimal :=
  let value := r.value * Nat.pow 10 (-e).toNat
  let unit := r.denominator * Nat.pow 10 e.toNat
  let c := value / unit
  match r.holds c e, r.holds (c + 1) e with
  | true, true => if 2 * value < (2 * c + 1) * unit then some ⟨c, e⟩ else some ⟨c + 1, e⟩
  | true, false => some ⟨c, e⟩
  | false, true => some ⟨c + 1, e⟩
  | false, false => none

/-- The shortest decimal in the interval.  Seventeen digits always suffice. -/
def Rounding.shortest (r : Rounding) : Decimal :=
  let k := r.magnitude
  ((List.range 17).findSome? fun (i : Nat) => r.onGrid? (k - (i + 1))).getD ⟨0, 0⟩

def signed (negative : Bool) (s : List Char) : String :=
  String.ofList (if negative then '-' :: s else s)

/-- The shortest text that reads back as the same number. -/
def shortest (x : Float) : String :=
  if x.isNaN then "NaN"
  else
    let p := parts x
    if x.isInf then signed p.negative ['i', 'n', 'f']
    else if p.significand = 0 then signed p.negative ['0']
    else signed p.negative p.rounding.shortest.positional

/-- The nearest natural number to `num / den`; a half goes to the even neighbour. -/
def divHalfEven (num den : Nat) : Nat :=
  let q := num / den
  let r := num % den
  if 2 * r < den then q
  else if den < 2 * r then q + 1
  else if q % 2 = 0 then q else q + 1

/-- A finite number with a fixed number of digits after the point.  A minus sign stays even before
zero. -/
def fixed (places : Nat) (x : Float) : String :=
  let p := parts x
  let scaled := divHalfEven (p.significand * Nat.pow 2 p.exponent.toNat * Nat.pow 10 places)
    (Nat.pow 2 (-p.exponent).toNat)
  signed p.negative (withPoint (digitsOf scaled) places)

/-- A number as it is shown: whole numbers below 10 ^ 15 as integers, all others in the shortest
form. -/
def plain (x : Float) : String :=
  if fract x == 0.0 && x.abs < 1e15 then toString (toInt x) else shortest x

end Worksheet.Number
