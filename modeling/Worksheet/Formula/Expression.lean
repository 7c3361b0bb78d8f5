import Worksheet.Region
import Worksheet.Formula.Builtin
import Worksheet.Formula.Comparator

/-!
# Expressions

A formula is one call of a function or one reference.  The arguments of a call are literals,
references, comparisons and further calls; there is no infix arithmetic.
-/

namespace Worksheet

inductive Expression where
  /-- An argument with nothing in it. -/
  | empty
  | number (x : Float)
  | text (s : String)
  | boolean (b : Bool)
  | cell (a : Address)
  | region (r : Region)
  /-- A text with a colon in it that names no region. -/
  | badRegion (text : String)
  | comparison (op : Comparator) (left right : Expression)
  | call (f : Builtin) (args : List Expression)
  /-- A call of a function that does not exist; it stands for its own text. -/
  | unrecognized (text : String)

namespace Expression

mutual

/-- The functions called in an expression, the outermost first and then from left to right. -/
def functions : Expression → List Builtin
  | .comparison _ left right => left.functions ++ right.functions
  | .call f args => f :: functionsOfAll args
  | _ => []

def functionsOfAll : List Expression → List Builtin
  | [] => []
  | e :: rest => e.functions ++ functionsOfAll rest

end

end Expression

/-- What the text of a cell is as a formula. -/
inductive Formula where
  /-- It does not begin with an equals sign. -/
  | literal
  | expression (e : Expression)
  /-- It begins with an equals sign but is neither a call nor a reference. -/
  | unrecognized

namespace Formula

/-- The functions that a formula calls, the outermost first and then from left to right. -/
def functions : Formula → List Builtin
  | .expression e => e.functions
  | _ => []

end Formula

end Worksheet
