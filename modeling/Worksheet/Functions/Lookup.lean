import Worksheet.Functions.Reading

/-!
# Looking up values in a block

Both functions search a line of keys, the first column or the first row of the block, and answer
with the value that lies a number of columns or rows away from the key they found.
-/

namespace Worksheet.Functions

/-- Whether two values are of one kind and equal, texts without regard to case. -/
def isSame : Value → Value → Bool
  | .number x, .number y => x == y
  | .boolean a, .boolean b => a == b
  | .text s, .text t => lowerText s == lowerText t
  | .empty, .empty => true
  | _, _ => false

/-- Whether two values are both numbers, both texts or both booleans. -/
def isSameKind : Value → Value → Bool
  | .number _, .number _ | .text _, .text _ | .boolean _, .boolean _ => true
  | _, _ => false

/-- The position of the last key of the same kind that comes before the first greater one of that
kind.  `found` is the last one met so far and `i` the position of the next key. -/
def lastNotGreater (needle : Value) (found : Option Nat) (i : Nat) : List Value → Option Nat
  | [] => found
  | key :: rest =>
    if isSameKind needle key then
      if key.compare needle == .gt then found else lastNotGreater needle (some i) (i + 1) rest
    else lastNotGreater needle found (i + 1) rest

/-- The position of a value among keys: of the same one, or of the nearest below in ascending
keys. -/
def matchPosition? (needle : Value) (keys : List Value) (approximate : Bool) : Option Nat :=
  if approximate then lastNotGreater needle none 0 keys else keys.findIdx? (isSame needle)

/-- What is looked up, how far away from its key the result lies, and whether the keys are searched
for the nearest one. -/
structure Query where
  needle : Value
  offset : Nat
  approximate : Bool

/-- The flag of the last argument.  Without it, the keys are searched for the nearest one. -/
def approximateAt (args : List Argument) (i : Nat) : Except ErrorToken Bool :=
  match valueAt? args i with
  | none | some .empty => .ok true
  | some (.error e) => .error e
  | some v => .ok (v.boolean?.getD v.holds)

def queryOf (args : List Argument) : Except ErrorToken Query := do
  let needle ←
    match valueAt? args 0 with
    | some (.error e) => .error e
    | some v => pure v
    | none => pure .empty
  let index ← numberAt args 2
  if Number.trunc index < 1.0 then .error .badValue
  else
    let approximate ← approximateAt args 3
    return ⟨needle, Number.toOffset index, approximate⟩

/-- The block to search. -/
def blockAt (args : List Argument) (i : Nat) : Argument :=
  args[i]?.getD (.block 0 [])

def vLookup (args : List Argument) : Outcome := do
  let q ← queryOf args
  let block := blockAt args 1
  if block.values = [] then .error .notAvailable
  else if block.colCount ≤ q.offset then .error .badReference
  else match matchPosition? q.needle (block.rows.filterMap List.head?) q.approximate with
    | some row => return (block.get? row q.offset).getD .empty
    | none => .error .notAvailable

def hLookup (args : List Argument) : Outcome := do
  let q ← queryOf args
  let block := blockAt args 1
  if block.values = [] then .error .notAvailable
  else if block.rowCount ≤ q.offset then .error .badReference
  else match matchPosition? q.needle (block.rows.head?.getD []) q.approximate with
    | some col => return (block.get? q.offset col).getD .empty
    | none => .error .notAvailable

end Worksheet.Functions
