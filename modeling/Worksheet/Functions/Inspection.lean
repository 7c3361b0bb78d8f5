import Worksheet.Functions.Reading

/-!
# Functions that inspect a value

They look at the first value of their argument, an empty one if it has none.
-/

namespace Worksheet.Functions

def inspect (test : Value → Bool) (args : List Argument) : Value :=
  .boolean (test ((valueAt? args 0).getD .empty))

def isEmpty : Value → Bool
  | .empty => true
  | _ => false

def isNumber : Value → Bool
  | .number _ => true
  | _ => false

/-- Whether a value is a text that does not spell an error. -/
def isText : Value → Bool
  | .text s => !(Value.text s).isError
  | _ => false

def isNotAvailable (v : Value) : Bool :=
  v.error? = some .notAvailable

end Worksheet.Functions
