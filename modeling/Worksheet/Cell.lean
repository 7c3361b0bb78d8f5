import Worksheet.Text.Case
import Worksheet.Number.Decimal
import Worksheet.Number.Reading

/-!
# Stored cells and error tokens

A cell holds a number, a text, a list of texts or nothing.  A text that starts with an equals sign
is a formula; only its text is stored.
-/

namespace Worksheet

/-- What is stored in a cell. -/
inductive Cell where
  | blank
  | number (x : Float)
  | text (s : String)
  | list (items : List String)
  deriving DecidableEq

/-- The errors that a formula can come to. -/
inductive ErrorToken where
  | failed
  | badValue
  | divisionByZero
  | notAvailable
  | badNumber
  | badReference
  deriving DecidableEq, Repr

namespace ErrorToken

def text : ErrorToken → String
  | .failed => "#ERROR!"
  | .badValue => "#VALUE!"
  | .divisionByZero => "#DIV/0!"
  | .notAvailable => "#N/A"
  | .badNumber => "#NUM!"
  | .badReference => "#REF!"

def all : List ErrorToken :=
  [.failed, .badValue, .divisionByZero, .notAvailable, .badNumber, .badReference]

/-- The error that a text spells, in letters of either case. -/
def ofText? (s : String) : Option ErrorToken :=
  all.find? fun e => e.text = upperText s

end ErrorToken

/-- Items one after the other with a separator between them. -/
def joinWith (separator : String) (items : List String) : String :=
  separator.intercalate items

namespace Cell

def isBlank : Cell → Bool
  | .blank => true
  | _ => false

/-- The text of the formula in a cell. -/
def formula? : Cell → Option String
  | .text s => if s.toList.head? = some '=' then some s else none
  | _ => none

/-- The text that a cell is read as; a blank cell has none. -/
def string? : Cell → Option String
  | .blank => none
  | .number x => some (Number.plain x)
  | .text s => some s
  | .list items => some (joinWith "," items)

/-- The finite number that a cell is read as. -/
def finite? : Cell → Option Float
  | .blank => none
  | .number x => if x.isFinite then some x else none
  | .text s => Number.finite? s.toList
  | .list items => Number.finite? (joinWith "," items).toList

end Cell

end Worksheet
