import Worksheet.Formula.Error
import Worksheet.Formula.Expression
import Worksheet.Formula.Scan

/-!
# Reading formulas

Reading goes in two steps.  The *shape* of a text says what it is at its outermost level: a leaf, a
comparison of two texts, or a call with the texts of its arguments.  Building turns a shape into an
expression by reading the texts in it.  Every comparison and every call takes one level, and only so
many levels may lie inside one another.
-/

namespace Worksheet

/-- The text of a quotation whose inner quotes are written twice; none if a quote stands alone. -/
def unquoted? : List Char → Option (List Char)
  | [] => some []
  | [c] => if c = '"' then none else some [c]
  | c :: d :: rest =>
    if c = '"' then
      if d = '"' then (unquoted? rest).map ('"' :: ·) else none
    else (unquoted? (d :: rest)).map (c :: ·)

/-- The text between double quotes, if the whole text is one quotation. -/
def quotation? : List Char → Option (List Char)
  | '"' :: rest => if rest.getLast? = some '"' then unquoted? rest.dropLast else none
  | _ => none

/-- The name and the argument text of a call: letters, then everything between the parenthesis after
them and the one that ends the text.  A line feed may not stand between the two. -/
def call? (s : List Char) : Option (List Char × List Char) :=
  match s.takeWhile Char.isAlpha, s.dropWhile Char.isAlpha with
  | c :: name, '(' :: rest =>
    if rest.getLast? = some ')' ∧ '\n' ∉ rest.dropLast then some (c :: name, rest.dropLast)
    else none
  | _, _ => none

/-- What a text is at its outermost level. -/
inductive Shape where
  | leaf (e : Expression)
  | comparison (op : Comparator) (left right : List Char)
  | call (f : Builtin) (args : List (List Char))

namespace Shape

/-- The comparison that an argument is: both sides of its first operator must have something. -/
def comparison? (arg : List Char) : Option Shape :=
  match Scan.start.comparison? arg with
  | some (left, op, right) =>
    if Text.allBlank left || Text.allBlank right then none else some (.comparison op left right)
  | none => none

/-- The literal or reference that an argument is. -/
def word (arg : List Char) : Expression :=
  if ':' ∈ arg then
    match Region.ofParts? arg with
    | some r => .region r
    | none => .badRegion (String.ofList arg)
  else match Address.reference? arg with
  | some a => .cell a
  | none =>
    let capitals := arg.map Char.toUpper
    if capitals = ['T', 'R', 'U', 'E'] then .boolean true
    else if capitals = ['F', 'A', 'L', 'S', 'E'] then .boolean false
    else match Number.finite? arg with
      | some x => .number x
      | none => .text (String.ofList arg)

/-- The shape of an argument.  A quotation comes before a comparison, a comparison before a call,
and a call before everything else. -/
def ofArgument (text : List Char) : Shape :=
  let arg := Text.trim text
  if arg = [] then .leaf .empty
  else match quotation? arg with
  | some s => .leaf (.text (String.ofList s))
  | none =>
    match comparison? arg with
    | some shape => shape
    | none =>
      match call? arg with
      | some (name, inner) =>
        match Builtin.ofName? name with
        | some f => .call f (splitArguments inner)
        | none => .leaf (.unrecognized (String.ofList ('=' :: arg)))
      | none => .leaf (word arg)

/-- The shape of what follows the equals sign of a formula, if it is a call of a function that
exists or a reference to a cell. -/
def ofBody? (body : List Char) : Option Shape :=
  match call? body with
  | some (name, inner) => (Builtin.ofName? name).map fun f => .call f (splitArguments inner)
  | none => (Address.reference? body).map fun a => .leaf (.cell a)

/-- The expression of a shape, with room for so many levels; none if they do not suffice. -/
def build : Nat → Shape → Option Expression
  | _, .leaf e => some e
  | 0, .comparison _ _ _ => none
  | 0, .call _ _ => none
  | room + 1, .comparison op left right => do
    let l ← build room (ofArgument left)
    let r ← build room (ofArgument right)
    return .comparison op l r
  | room + 1, .call f args => do
    let es ← args.mapM fun arg => build room (ofArgument arg)
    return .call f es

end Shape

/-- Reads the text of a cell as a formula with at most `limit` levels. -/
def Formula.parse (limit : Nat) (text : String) : Except FormulaError Formula :=
  match text.toList with
  | '=' :: body =>
    match Shape.ofBody? (Text.trim body) with
    | none => .ok .unrecognized
    | some shape =>
      match shape.build limit with
      | none => .error (.nestingTooDeep limit)
      | some e => .ok (.expression e)
  | _ => .ok .literal

end Worksheet
