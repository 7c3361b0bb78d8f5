import Worksheet.Text.Blank
import Worksheet.Number.Reading

/-!
# Addresses of cells

A cell is named by the letters of its column and the number of its row, as in `AB12`.  Letters are
numerals in base 26 without a zero: `A` to `Z`, then `AA`, `AB` and so on.  Rows are counted from
one in a name and from zero in an `Address`.  Indices have 64 bits, so a name whose column or row
does not fit is refused rather than cut short.
-/

namespace Worksheet

/-- The number of values of a 64-bit index. -/
def indexBound : Nat :=
  0x10000000000000000

/-- The place of a cell, both indices counted from zero. -/
structure Address where
  row : Nat
  col : Nat
  deriving DecidableEq, Repr

/-- Why a text is not the name of a cell. -/
inductive AddressError where
  | emptyText
  | noLetters (text : String)
  | emptyLetters
  | badLetter (letter : Char)
  | columnTooLarge (letters : String)
  | noRow (text : String)
  | badRow (text : String)
  | rowTooLarge (text : String)
  | rowZero (text : String)
  deriving DecidableEq, Repr

def AddressError.detail : AddressError → String
  | .emptyText => "empty address"
  | .noLetters text => s!"no column letters in '{text}'"
  | .emptyLetters => "empty column letters"
  | .badLetter letter => s!"invalid column letter '{letter}'"
  | .columnTooLarge letters => s!"column too large: {letters}"
  | .noRow text => s!"no row number in '{text}'"
  | .badRow text => s!"invalid row number in '{text}'"
  | .rowTooLarge text => s!"row number too large in '{text}'"
  | .rowZero text => s!"row number must be >= 1 in '{text}'"

def AddressError.message (e : AddressError) : String :=
  s!"Invalid cell address: {e.detail}"

/-- The letters of the `n`-th column, counted from one; none for zero. -/
def lettersOf : Nat → List Char
  | 0 => []
  | n + 1 => lettersOf (n / 26) ++ [Char.ofNat (65 + n % 26)]
termination_by n => n
decreasing_by omega

/-- The letters of a column.  The one index whose successor has more than 64 bits has none. -/
def columnLetters (col : Nat) : String :=
  String.ofList (lettersOf ((col + 1) % indexBound))

/-- The place of an ASCII letter in the alphabet, counted from one. -/
def letterValue (c : Char) : Nat :=
  c.toUpper.toNat - 64

/-- The number that letters stand for, `n` being that of the letters already read. -/
def lettersValue (text : String) : Nat → List Char → Except AddressError Nat
  | n, [] => .ok n
  | n, c :: rest =>
    if c.isAlpha then
      if 26 * n + letterValue c < indexBound then lettersValue text (26 * n + letterValue c) rest
      else .error (.columnTooLarge text)
    else .error (.badLetter c)

/-- The column that letters of either case name. -/
def columnOfLetters (letters : String) : Except AddressError Nat :=
  if letters.toList = [] then .error .emptyLetters
  else (lettersValue letters 0 letters.toList).map (· - 1)

namespace Address

/-- The row that digits name, `text` being the whole name. -/
def rowOfDigits (text : String) (digits : List Char) : Except AddressError Nat :=
  if digits = [] then .error (.noRow text)
  else if !digits.all Number.isDigit then .error (.badRow text)
  else
    let n := Number.ofDigits digits
    if indexBound ≤ n then .error (.rowTooLarge text)
    else if n = 0 then .error (.rowZero text)
    else .ok (n - 1)

/-- The address that a text names.  Nothing but letters and digits may be in it. -/
def parse (text : String) : Except AddressError Address :=
  if text.toList = [] then .error .emptyText
  else
    let letters := text.toList.takeWhile Char.isAlpha
    let digits := text.toList.dropWhile Char.isAlpha
    if letters = [] then .error (.noLetters text)
    else do
      let col ← columnOfLetters (String.ofList letters)
      let row ← rowOfDigits text digits
      return ⟨row, col⟩

/-- The name of a cell. -/
def name (a : Address) : String :=
  columnLetters a.col ++ toString ((a.row + 1) % indexBound)

/-- Whether a text is letters followed by digits, at least one of each. -/
def isShaped (s : List Char) : Bool :=
  let digits := s.dropWhile Char.isAlpha
  s.takeWhile Char.isAlpha ≠ [] && digits ≠ [] && digits.all Number.isDigit

/-- The cell that a text in a formula refers to. -/
def reference? (s : List Char) : Option Address :=
  if isShaped s then (parse (String.ofList s)).toOption else none

end Address

end Worksheet
