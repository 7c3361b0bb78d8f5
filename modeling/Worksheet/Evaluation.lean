import Worksheet.Formula.Reading
import Worksheet.Functions.Apply
import Worksheet.Table

/-!
# Evaluation

An expression is evaluated against a table and a reading of the clock and comes to an argument for
the function around it.  A region gives the cells of it that are inside the table.  A call inside
another expression that fails is read there as `#ERROR!`; only the failure of the outermost call is
the failure of the formula.
-/

namespace Worksheet

namespace Table

/-- The value that a reference to a cell reads, none outside the table. -/
def value? (t : Table) (a : Address) : Option Value :=
  (t.cell? a).map Value.ofCell

/-- The cells of a region that are inside the table, row by row, in as many columns as are
inside. -/
def block (t : Table) (r : Region) : Argument :=
  match r.clip t.rowCount t.colCount with
  | none => .block 0 []
  | some visible => .block visible.colCount (visible.cells.filterMap t.value?)

/-- What a text read as a range stands for: a block if it has a colon and names a region, one value
if it has no colon, and otherwise nothing. -/
def resolve? (t : Table) (text : List Char) : Option Argument :=
  if ':' ∈ text then (Region.ofParts? text).map t.block
  else
    let v := ((Address.reference? (Text.trim text)).bind t.value?).getD .empty
    some (.block 1 [v])

end Table

/-- A reading of the clock.  A pinned clock always reads the same. -/
structure Clock where
  pinned : Bool
  now : Moment
  deriving DecidableEq

namespace Expression

/-- Whether a function can be called: it is looked up and has to be given enough arguments. -/
def checkCall (f : Builtin) (given : Nat) : Except FormulaError Unit :=
  if f ∉ Builtin.all then .error (.unknownFunction f.name)
  else if f.arity.isMissing given then .error (.argumentCount f given)
  else .ok ()

/-- Calls a function that was given so many arguments, of which these are used. -/
def callWith (f : Builtin) (now : Moment) (given : Nat) (used : List Argument) :
    Except FormulaError Value := do
  checkCall f given
  f.apply now used

/-- No function is unknown, so only a missing argument keeps one from being called. -/
theorem callWith_eq (f : Builtin) (now : Moment) (given : Nat) (used : List Argument) :
    callWith f now given used
      = if f.arity.isMissing given then .error (.argumentCount f given) else f.apply now used := by
  rw [callWith, checkCall, if_neg fun h => h f.mem_all]
  split <;> rfl

mutual

/-- What an expression comes to as an argument. -/
def evaluate (t : Table) (now : Moment) : Expression → Argument
  | .empty => .scalar .empty
  | .number x => .scalar (.number x)
  | .text s => .scalar (.text s)
  | .boolean b => .scalar (.boolean b)
  | .unrecognized s => .scalar (.text s)
  | .cell a => .scalar ((t.value? a).getD .empty)
  | .region r => t.block r
  | .badRegion _ => .block 0 []
  | .comparison op left right =>
    let l := (evaluate t now left).toScalar
    let r := (evaluate t now right).toScalar
    .scalar (.boolean (op.holds (l.compare r)))
  | .call f args =>
    match callWith f now args.length (evaluateFirst t now (f.arity.used args.length) args) with
    | .ok v => .scalar v
    | .error _ => .scalar (.error .failed)

/-- What the first so many expressions come to. -/
def evaluateFirst (t : Table) (now : Moment) : Nat → List Expression → List Argument
  | 0, _ => []
  | _, [] => []
  | n + 1, e :: rest => evaluate t now e :: evaluateFirst t now n rest

end

/-- The value of a call, or its failure. -/
def evaluateCall (t : Table) (now : Moment) (f : Builtin) (args : List Expression) :
    Except FormulaError Value :=
  callWith f now args.length (evaluateFirst t now (f.arity.used args.length) args)

end Expression

/-- How the text of a cell came to its value. -/
inductive Evaluation where
  /-- It is no formula. -/
  | literal (text : String)
  | computed (v : Value)
  /-- It begins like a formula but is none. -/
  | unrecognized (text : String)
  | failed (e : FormulaError)

namespace Evaluation

/-- The value to show. -/
def value : Evaluation → Value
  | .literal text => .text text
  | .computed v => v
  | .unrecognized text => .text text
  | .failed _ => .error .failed

def isComputed : Evaluation → Bool
  | .computed _ => true
  | _ => false

end Evaluation

/-- Evaluates the text of a cell with at most `limit` levels of calls and comparisons. -/
def evaluate (t : Table) (limit : Nat) (now : Moment) (text : String) : Evaluation :=
  match Formula.parse limit text with
  | .error e => .failed e
  | .ok .literal => .literal text
  | .ok .unrecognized => .unrecognized text
  | .ok (.expression (.call f args)) =>
    match Expression.evaluateCall t now f args with
    | .ok v => .computed v.result
    | .error e => .failed e
  | .ok (.expression e) => .computed (e.evaluate t now).toScalar.result

end Worksheet
