import Worksheet.Table

/-!
# Why a table cannot be loaded
-/

namespace Worksheet

inductive LoadError where
  | badDocument
  | badHeader
  /-- The record of this number, counted from one, is not text. -/
  | badRecord (number : Nat)
  | unknownKind (kind header : String)
  /-- The columns or rows do not make a table. -/
  | refused (cause : TableError)
  deriving DecidableEq, Repr

def LoadError.message : LoadError → String
  | .badDocument => "Invalid dataset JSON"
  | .badHeader => "Failed to read CSV header"
  | .badRecord number => s!"Failed to read CSV record {number}"
  | .unknownKind kind header => s!"Unknown column type '{kind}' in header '{header}'"
  | .refused cause => cause.message

end Worksheet
