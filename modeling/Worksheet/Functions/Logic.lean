import Worksheet.Formula.Error
import Worksheet.Functions.Reading

/-!
# Logical functions

They look at all values of all arguments in order, so a block of cells counts as that many
arguments.
-/

namespace Worksheet.Functions

/-- A condition and two branches; without a second branch, FALSE stands for it.  It fails if there
is not even a condition. -/
def ifElse (args : List Argument) : Except FormulaError Value :=
  match flatten args with
  | [] => .error .noCondition
  | condition :: branches =>
    .ok ((branches[if condition.holds then 0 else 1]?).getD (.boolean false))

def and (args : List Argument) : Value :=
  .boolean ((flatten args).all Value.holds)

def or (args : List Argument) : Value :=
  .boolean ((flatten args).any Value.holds)

def not (args : List Argument) : Value :=
  .boolean (!((flatten args).head?.getD .empty).holds)

/-- Whether an odd number of values hold. -/
def xor (args : List Argument) : Value :=
  .boolean ((flatten args).countP Value.holds % 2 = 1)

/-- The value after the first condition that holds. -/
def firstHolding : List Value → Outcome
  | condition :: value :: rest => if condition.holds then .ok value else firstHolding rest
  | _ => .error .notAvailable

def ifs (args : List Argument) : Outcome :=
  firstHolding (flatten args)

/-- Whether a case of `SWITCH` is the one for a value.  Numbers and texts are compared with one
another and with an empty value, other kinds only with their own. -/
def isCase : Value → Value → Bool
  | .error e, .error f => e = f
  | .error _, _ | _, .error _ => false
  | .list xs, .list ys => xs = ys
  | .boolean _, .number _ | .number _, .boolean _ => false
  | .boolean _, .text _ | .text _, .boolean _ => false
  | .list _, .number _ | .list _, .text _ | .list _, .boolean _ => false
  | .number _, .list _ | .text _, .list _ | .boolean _, .list _ => false
  | v, w => v.compare w == .eq

/-- The value after the first case for `v`, or the single value left at the end. -/
def chosenCase (v : Value) : List Value → Outcome
  | case :: result :: rest => if isCase v case then .ok result else chosenCase v rest
  | [otherwise] => .ok otherwise
  | [] => .error .notAvailable

def switch (args : List Argument) : Outcome :=
  match flatten args with
  | [] => .error .notAvailable
  | v :: cases => chosenCase v cases

/-- The value at an index counted from one. -/
def choose (args : List Argument) : Outcome :=
  match flatten args with
  | [] => .error .badValue
  | index :: choices => do
    let i := Number.trunc (← asNumber index)
    if i < 1.0 || Float.ofNat choices.length < i then .error .badValue
    else match choices[Number.toOffset i]? with
      | some v => .ok v
      | none => .error .badValue

/-- The first value, or the second one if the first is an error of a certain kind. -/
def unlessError (isCaught : ErrorToken → Bool) (args : List Argument) : Value :=
  let values := flatten args
  let v := values.head?.getD .empty
  if v.error?.any isCaught then values[1]?.getD .empty else v

def ifError (args : List Argument) : Value :=
  unlessError (fun _ => true) args

def ifNa (args : List Argument) : Value :=
  unlessError (· = .notAvailable) args

end Worksheet.Functions
