import Worksheet.Formula.Builtin

/-!
# Failures of formulas

A formula fails when it is nested too deeply, when its outermost call is of a function that is not
known or has too few arguments, and when it is an `IF` that has not even a condition.  Everything
else that can go wrong is an error value.
-/

namespace Worksheet

inductive FormulaError where
  | nestingTooDeep (limit : Nat)
  | unknownFunction (name : String)
  | argumentCount (f : Builtin) (given : Nat)
  | noCondition
  deriving DecidableEq, Repr

def FormulaError.message : FormulaError → String
  | .nestingTooDeep limit => s!"Formula nesting exceeds {limit} levels"
  | .unknownFunction name => s!"Unknown function: {name}"
  | .argumentCount f given =>
    s!"Wrong number of arguments for {f.name}: expected {f.arity.text}, got {given}"
  | .noCondition => "Invalid argument: IF requires a condition"

end Worksheet
