import Worksheet.Cell

/-!
# Values

Evaluation computes values.  Errors are values too and travel through functions like any other; a
text that spells an error is as good as the error where errors are looked for.  Two values of any
kinds can be compared: numbers come before texts and texts before booleans, after each of them has
been read as what the other one makes of it.
-/

namespace Worksheet

inductive Value where
  | number (x : Float)
  | text (s : String)
  | boolean (b : Bool)
  | list (items : List String)
  | error (e : ErrorToken)
  | empty
  deriving DecidableEq

instance : Inhabited Value := ⟨.empty⟩

namespace Value

/-- How a reference reads a stored cell.  Whatever can be read as a finite number is one, and a text
that spells an error is the error. -/
def ofCell (cell : Cell) : Value :=
  match cell.finite? with
  | some x => .number x
  | none =>
    match cell with
    | .blank => .empty
    | .number x => .number x
    | .text s =>
      match ErrorToken.ofText? s with
      | some e => .error e
      | none => .text s
    | .list items => .list items

/-- The number that a value is read as. -/
def number? : Value → Option Float
  | .number x => some x
  | .boolean b => some (if b then 1.0 else 0.0)
  | .text s => Number.finite? s.toList
  | .empty => some 0.0
  | .list _ | .error _ => none

/-- The boolean that a value is read as. -/
def boolean? : Value → Option Bool
  | .boolean b => some b
  | .number x => some (x != 0.0)
  | .text s =>
    if upperText s = "TRUE" then some true
    else if upperText s = "FALSE" then some false
    else none
  | .empty => some false
  | .list _ | .error _ => none

/-- Whether a value counts as true in a condition.  Any text counts that has a character in it. -/
def holds : Value → Bool
  | .boolean b => b
  | .number x => x != 0.0 && !x.isNaN
  | .text s => s != ""
  | .list _ | .error _ => true
  | .empty => false

def booleanText (b : Bool) : String :=
  if b then "TRUE" else "FALSE"

/-- The text of a value. -/
def toText : Value → String
  | .number x => Number.plain x
  | .text s => s
  | .boolean b => booleanText b
  | .list items => joinWith "," items
  | .error e => e.text
  | .empty => ""

/-- The error that a value is or spells. -/
def error? : Value → Option ErrorToken
  | .error e => some e
  | .text s => ErrorToken.ofText? s
  | _ => none

def isError (v : Value) : Bool :=
  v.error?.isSome

/-- The value that a whole formula shows: a list becomes its text. -/
def result : Value → Value
  | .list items => .text (joinWith "," items)
  | v => v

/-- Whether there is nothing in a value. -/
def isBlank : Value → Bool
  | .empty => true
  | .text s => s == ""
  | _ => false

/-- What a value is compared as. -/
inductive Key where
  | number (x : Float)
  | text (s : String)
  | boolean (b : Bool)

/-- What a value is compared as next to another one.  An empty value is the empty text next to a
text and zero next to anything else; a text is a number next to a number if it can be read as
one. -/
def key : Value → Value → Key
  | .empty, .text _ => .text ""
  | .empty, _ => .number 0.0
  | .error e, _ => .text e.text
  | .list items, _ => .text (joinWith "," items)
  | .text s, .number _ =>
    match Number.finite? s.toList with
    | some x => .number x
    | none => .text s
  | .text s, _ => .text s
  | .number x, _ => .number x
  | .boolean b, _ => .boolean b

/-- The order of two numbers.  Where neither is less, they count as equal. -/
def compareNumbers (x y : Float) : Ordering :=
  if x < y then .lt else if y < x then .gt else .eq

/-- Numbers come before texts and texts before booleans.  Texts are ordered by their small forms,
code point by code point. -/
def Key.compare : Key → Key → Ordering
  | .number x, .number y => compareNumbers x y
  | .text s, .text t => Ord.compare (lowerText s) (lowerText t)
  | .boolean a, .boolean b => Ord.compare a b
  | .number _, _ => .lt
  | _, .number _ => .gt
  | .text _, .boolean _ => .lt
  | .boolean _, .text _ => .gt

/-- The order of two values. -/
def compare (v w : Value) : Ordering :=
  (v.key w).compare (w.key v)

end Value

end Worksheet
