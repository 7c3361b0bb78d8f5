import Worksheet.Value

/-!
# Arguments of functions

An argument is a single value or a block of values that a region was read as.  A block lists its
values row by row and knows its width; most functions only look at the list.
-/

namespace Worksheet

inductive Argument where
  | scalar (v : Value)
  | block (width : Nat) (values : List Value)
  deriving DecidableEq

/-- A list in chunks of a length; the last one may be shorter. -/
def chunks {α : Type} (n : Nat) (xs : List α) : List (List α) :=
  (List.range ((xs.length + n - 1) / n)).map fun i => (xs.drop (i * n)).take n

namespace Argument

def values : Argument → List Value
  | .scalar v => [v]
  | .block _ values => values

def isBlock : Argument → Bool
  | .scalar _ => false
  | .block _ _ => true

/-- The width that the values are arranged in. -/
def width : Argument → Nat
  | .scalar _ => 1
  | .block width _ => width

/-- The number of columns, none if there are no values. -/
def colCount (a : Argument) : Nat :=
  if a.values = [] then 0 else a.width

/-- The number of full rows. -/
def rowCount (a : Argument) : Nat :=
  a.values.length / a.colCount

def rows (a : Argument) : List (List Value) :=
  chunks (max a.width 1) a.values

/-- The value in a row and a column, both counted from zero. -/
def get? (a : Argument) (row col : Nat) : Option Value :=
  if a.colCount ≤ col then none else a.values[row * a.width + col]?

def first? (a : Argument) : Option Value :=
  a.values.head?

/-- The first value, or the empty one. -/
def toScalar (a : Argument) : Value :=
  a.first?.getD .empty

end Argument

end Worksheet
