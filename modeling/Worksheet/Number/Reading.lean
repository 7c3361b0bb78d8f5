import Worksheet.Number.Bits
import Worksheet.Text.Blank

/-!
# Reading numbers

A number is an optional sign and then digits with at most one point among them and at least one
digit, and perhaps an exponent; or, in any case of letters, the words for infinity and for what is
no number.  Where the program reads a number out of a cell or a formula, only finite ones count and
blanks around them do not.
-/

namespace Worksheet.Number

def isDigit (c : Char) : Bool :=
  '0' ≤ c && c ≤ '9'

/-- The number that a row of digits stands for. -/
def ofDigits (s : List Char) : Nat :=
  s.foldl (fun n c => 10 * n + (c.toNat - 48)) 0

/-- The text with its sign, if it has one, taken off. -/
def splitSign : List Char → Bool × List Char
  | '-' :: rest => (true, rest)
  | '+' :: rest => (false, rest)
  | s => (false, s)

/-- The number nearest to `m * 10 ^ e`.  Beyond the range of all numbers the size of `e` does not
matter. -/
def ofDecimal (m : Nat) (e : Int) : Float :=
  if m = 0 then 0.0
  else
    let k := (Nat.toDigits 10 m).length + e
    if 310 < k then 1.0 / 0.0
    else if k < -330 then 0.0
    else match e with
      | .ofNat n => Float.ofScientific m false n
      | .negSucc n => Float.ofScientific m true (n + 1)

/-- The exponent after the digits: nothing, or a letter E and a signed row of digits. -/
def exponent? : List Char → Option Int
  | [] => some 0
  | c :: rest =>
    if c = 'e' ∨ c = 'E' then
      let (negative, digits) := splitSign rest
      if digits ≠ [] ∧ digits.all isDigit then
        some (if negative then -(ofDigits digits : Int) else ofDigits digits)
      else none
    else none

/-- Digits with a point, and an exponent. -/
def unsigned? (s : List Char) : Option Float :=
  let whole := s.takeWhile isDigit
  let (fraction, rest) :=
    match s.dropWhile isDigit with
    | '.' :: r => (r.takeWhile isDigit, r.dropWhile isDigit)
    | r => ([], r)
  if whole ++ fraction = [] then none
  else (exponent? rest).map fun e => ofDecimal (ofDigits (whole ++ fraction)) (e - fraction.length)

/-- The number that a text stands for, if it is one. -/
def read? (s : List Char) : Option Float :=
  let (negative, rest) := splitSign s
  let magnitude :=
    match rest.map Char.toLower with
    | ['i', 'n', 'f'] => some (1.0 / 0.0)
    | ['i', 'n', 'f', 'i', 'n', 'i', 't', 'y'] => some (1.0 / 0.0)
    | ['n', 'a', 'n'] => some (0.0 / 0.0)
    | _ => unsigned? rest
  magnitude.map fun x => if negative then -x else x

/-- The finite number that a text stands for, whatever blanks are around it. -/
def finite? (s : List Char) : Option Float :=
  (read? (Text.trim s)).filter Float.isFinite

end Worksheet.Number
