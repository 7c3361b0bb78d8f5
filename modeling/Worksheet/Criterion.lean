import Worksheet.Value
import Worksheet.Glob
import Worksheet.Formula.Comparator

/-!
# Criteria

The conditional functions select values by a criterion.  A criterion is a value itself: a number
selects the numbers next to it, a text may start with an operator or be a pattern with wildcards,
and an empty one selects what is blank.
-/

namespace Worksheet

inductive Criterion where
  /-- A number very close to this one. -/
  | near (x : Float)
  /-- A number in this relation to `x`. -/
  | compared (op : Comparator) (x : Float)
  /-- A text whose small form matches the pattern, or does not if `negated`. -/
  | pattern (p : List Char) (negated : Bool)
  | blank
  | never

namespace Criterion

/-- The distance below which two numbers count as the same. -/
def tolerance : Float :=
  1e-10

/-- Whether two numbers are at a distance below the tolerance. -/
def isNear (x y : Float) : Bool :=
  (x - y).abs < tolerance

/-- The operator that a criterion begins with, and the rest of it. -/
def operator? : List Char → Option (Comparator × List Char)
  | '>' :: '=' :: rest => some (.greaterEqual, rest)
  | '<' :: '=' :: rest => some (.lessEqual, rest)
  | '<' :: '>' :: rest => some (.notEqual, rest)
  | '>' :: rest => some (.greater, rest)
  | '<' :: rest => some (.less, rest)
  | '=' :: rest => some (.equal, rest)
  | _ => none

/-- What an operator says about the text after it.  Texts have no order here. -/
def ofOperand (op : Comparator) (text : List Char) : Criterion :=
  let operand := Text.trim text
  match Number.finite? operand with
  | some x => .compared op x
  | none =>
    match op with
    | .equal => if operand = [] then .blank else .pattern (Text.lower operand) false
    | .notEqual => .pattern (Text.lower operand) true
    | _ => .never

def ofText (text : List Char) : Criterion :=
  let s := Text.trim text
  if s = [] then .blank
  else match operator? s with
  | some (op, rest) => ofOperand op rest
  | none =>
    match Number.finite? s with
    | some x => .near x
    | none => .pattern (Text.lower s) false

/-- The criterion that a value stands for. -/
def ofValue : Value → Criterion
  | .number x => .near x
  | .boolean b => .near (if b then 1.0 else 0.0)
  | .text s => ofText s.toList
  | .list items => ofText (joinWith "," items).toList
  | .empty => .blank
  | .error _ => .never

/-- Whether an operator holds between two numbers; close numbers are equal. -/
def compares (op : Comparator) (x y : Float) : Bool :=
  match op with
  | .equal => isNear x y
  | .notEqual => Criterion.tolerance ≤ (x - y).abs
  | .less => x < y
  | .lessEqual => x ≤ y
  | .greater => y < x
  | .greaterEqual => y ≤ x

/-- Whether a criterion selects a value. -/
def selects : Criterion → Value → Bool
  | .near y, .number x => isNear x y
  | .near _, _ => false
  | .compared op y, .number x => compares op x y
  | .compared op _, _ => op == .notEqual
  | .pattern p negated, v => Glob.accepts p (Text.lower v.toText.toList) != negated
  | .blank, v => v.isBlank
  | .never, _ => false

end Criterion

end Worksheet
