import Worksheet.Text.Blank
import Worksheet.Formula.Comparator

/-!
# Quotes and parentheses in an argument list

Commas separate arguments and operators compare them only where they stand outside quotes and
outside parentheses.  A scan keeps track of both: a double quote opens or closes a quotation, and
parentheses count only outside of one.  Their number may go below zero; then nothing is at the top
level until as many are opened again.
-/

namespace Worksheet

/-- How far a scan has come: whether it is inside quotes, and how many parentheses are open. -/
structure Scan where
  quoted : Bool
  depth : Int
  deriving DecidableEq, Repr

namespace Scan

def start : Scan :=
  ⟨false, 0⟩

/-- Whether the next character stands outside quotes and parentheses. -/
def atTop (s : Scan) : Bool :=
  !s.quoted && s.depth == 0

def next (s : Scan) (c : Char) : Scan :=
  if c = '"' then { s with quoted := !s.quoted }
  else if s.quoted then s
  else if c = '(' then { s with depth := s.depth + 1 }
  else if c = ')' then { s with depth := s.depth - 1 }
  else s

/-- The pieces of a text between its commas at the top level.  There is always at least one. -/
def pieces (s : Scan) : List Char → List (List Char)
  | [] => [[]]
  | c :: rest =>
    if c = ',' && s.atTop then [] :: pieces s rest
    else match pieces (s.next c) rest with
      | [] => [[c]]
      | piece :: more => (c :: piece) :: more

/-- The text before the first comparison operator at the top level, the operator and the text after
it. -/
def comparison? (s : Scan) : List Char → Option (List Char × Comparator × List Char)
  | [] => none
  | c :: rest =>
    match if s.atTop then Comparator.leading? (c :: rest) else none with
    | some (op, right) => some ([], op, right)
    | none => (comparison? (s.next c) rest).map fun (left, op, right) => (c :: left, op, right)

end Scan

/-- The arguments in the text between the parentheses of a call, as they stand.  A blank text has
none. -/
def splitArguments (s : List Char) : List (List Char) :=
  if Text.allBlank s then [] else Scan.start.pieces s

end Worksheet
