import Worksheet.Document.Quoted
import Worksheet.Document.Tree
import Worksheet.LoadError

/-!
# Tables from documents

A table is an object with its columns and perhaps its rows, or an array of these two.  A column is
an object with an identifier and a label, and perhaps a type and whether it is editable, or an array
of these in this order.  A row is an object of cells by column identifier, of which the last one
counts where a key comes twice.  The keys of tables and columns come once; others than these are
ignored.
-/

namespace Worksheet.Document

def text? : Tree → Option String
  | .text s => decode? s
  | _ => none

def flag? : Tree → Option Bool
  | .boolean b => some b
  | _ => none

def items? : Tree → Option (List Tree)
  | .array items => some items
  | _ => none

/-- The entries of an object under the texts of its keys. -/
def fields? (entries : List (Quoted × Tree)) : Option (List (String × Tree)) :=
  entries.mapM fun (key, v) => (decode? key).map fun name => (name, v)

/-- The value of a field that need not be there; none if it is there twice. -/
def optional? (fields : List (String × Tree)) (name : String) : Option (Option Tree) :=
  match fields.filter (·.1 = name) with
  | [] => some none
  | [(_, v)] => some (some v)
  | _ => none

/-- The value of a field that has to be there once. -/
def required? (fields : List (String × Tree)) (name : String) : Option Tree :=
  (optional? fields name).join

/-- What a value that need not be there says, or else a default. -/
def orDefault? {α : Type} (read : Tree → Option α) (default : α) : Option Tree → Option α
  | none => some default
  | some v => read v

/-- The kind of a column: its name, or an object with the name as its only key. -/
def kind? : Tree → Option ColumnKind
  | .text s => (decode? s).bind ColumnKind.named?
  | .object [(key, .null)] => (decode? key).bind ColumnKind.named?
  | _ => none

/-- A column of what is said about it. -/
def columnOf? (id label : Tree) (kind editable : Option Tree) : Option Column := do
  let id ← text? id
  let label ← text? label
  let kind ← orDefault? kind? .text kind
  let editable ← orDefault? flag? true editable
  return ⟨id, kind, editable, label⟩

def column? : Tree → Option Column
  | .object entries => do
    let fields ← fields? entries
    columnOf? (← required? fields "id") (← required? fields "label") (← optional? fields "type")
      (← optional? fields "editable")
  | .array [id, label] => columnOf? id label none none
  | .array [id, label, kind] => columnOf? id label (some kind) none
  | .array [id, label, kind, editable] => columnOf? id label (some kind) (some editable)
  | _ => none

def cell? : Tree → Option Cell
  | .null => some .blank
  | .number n => n.value?.map .number
  | .text s => (decode? s).map .text
  | .array items => (items.mapM text?).map .list
  | _ => none

def row? : Tree → Option Row
  | .object entries => do
    let cells ← (← fields? entries).mapM fun (id, v) => (cell? v).map fun c => (id, c)
    return Row.ofList cells
  | _ => none

/-- The columns and rows of what is said about a table. -/
def contentOf? (columns : Tree) (rows : Option Tree) : Option (List Column × List Row) := do
  let columns ← (← items? columns).mapM column?
  let rows ← (← orDefault? items? [] rows).mapM row?
  return (columns, rows)

def content? : Tree → Option (List Column × List Row)
  | .object entries => do
    let fields ← fields? entries
    contentOf? (← required? fields "columns") (← optional? fields "rows")
  | .array [columns] => contentOf? columns none
  | .array [columns, rows] => contentOf? columns (some rows)
  | _ => none

/-- Loads a table from the octets of a document. -/
def load (octets : List UInt8) : Except LoadError Table :=
  match ((tokens? octets).bind tree?).bind content? with
  | none => .error .badDocument
  | some (columns, rows) =>
    ((Table.ofColumns columns).mapError .refused).map fun t => t.withRows rows

end Worksheet.Document
