import Worksheet.Address
import Worksheet.Column
import Worksheet.Row

/-!
# Tables

A table is a list of columns with distinct identifiers and a list of rows, with a counter that goes
up by one at every change: as long as the version stays the same, so does the table.  An operation
that is refused returns no table, so it changes nothing.
-/

namespace Worksheet

/-- Columns, rows and the number of changes so far. -/
structure Table where
  columns : List Column
  rows : List Row
  version : Nat
  ids_nodup : (columns.map Column.id).Nodup

/-- Why an operation on a table is refused. -/
inductive TableError where
  | address (cause : AddressError)
  | rowOutside (row rows : Nat)
  | columnOutside (col cols : Nat)
  | noColumn (id : String)
  | duplicateColumn (id : String)
  | readOnly (id : String)
  deriving DecidableEq, Repr

def TableError.message : TableError → String
  | .address cause => cause.message
  | .rowOutside row rows => s!"Row index {row} out of bounds (rows: {rows})"
  | .columnOutside col cols => s!"Column index {col} out of bounds (columns: {cols})"
  | .noColumn id => s!"Column not found: {id}"
  | .duplicateColumn id => s!"Column id already exists: {id}"
  | .readOnly id => s!"Column is read-only: {id}"

namespace Table

def empty : Table :=
  ⟨[], [], 0, List.nodup_nil⟩

instance : Inhabited Table := ⟨empty⟩

def rowCount (t : Table) : Nat :=
  t.rows.length

def colCount (t : Table) : Nat :=
  t.columns.length

/-- The position of the column with an identifier. -/
def columnIndex? (t : Table) (id : String) : Option Nat :=
  t.columns.findIdx? fun c => c.id = id

/-- The cell at a position, none outside the table.  Inside, a cell that its row does not store is
blank. -/
def cell? (t : Table) (a : Address) : Option Cell :=
  match t.columns[a.col]?, t.rows[a.row]? with
  | some column, some row => some ((row.get? column.id).getD .blank)
  | _, _ => none

/-- The table with one more column at the end. -/
def addColumn (t : Table) (c : Column) : Except TableError Table :=
  if h : c.id ∈ t.columns.map Column.id then .error (.duplicateColumn c.id)
  else .ok {
    columns := t.columns ++ [c]
    rows := t.rows
    version := t.version + 1
    ids_nodup := by
      rw [List.map_append, List.nodup_append]
      refine ⟨t.ids_nodup, by simp, ?_⟩
      intro a ha b hb hab
      simp only [List.map_cons, List.map_nil, List.mem_singleton] at hb
      exact h (hb ▸ hab ▸ ha) }

/-- The table of these columns with no rows and no changes yet. -/
def ofColumns (columns : List Column) : Except TableError Table :=
  (columns.foldlM addColumn empty).map fun t => { t with version := 0 }

/-- The table with other rows. -/
def withRows (t : Table) (rows : List Row) : Table :=
  { t with rows := rows, version := t.version + 1 }

/-- The table with one more row at the end. -/
def pushRow (t : Table) (row : Row) : Table :=
  { t with rows := t.rows ++ [row], version := t.version + 1 }

/-- Stores a cell at a position, whether or not users may edit its column. -/
def setAt (t : Table) (row col : Nat) (cell : Cell) : Except TableError Table :=
  match t.columns[col]? with
  | none => .error (.columnOutside col t.colCount)
  | some column =>
    match t.rows[row]? with
    | none => .error (.rowOutside row t.rowCount)
    | some r =>
      .ok { t with rows := t.rows.set row (r.set column.id cell), version := t.version + 1 }

/-- The cell that a name in A1 notation refers to. -/
def cellNamed (t : Table) (name : String) : Except TableError (Option Cell) :=
  ((Address.parse name).mapError .address).map t.cell?

/-- Stores a cell under a name in A1 notation. -/
def setNamed (t : Table) (name : String) (cell : Cell) : Except TableError Table := do
  let a ← (Address.parse name).mapError .address
  t.setAt a.row a.col cell

/-- An edit by a user, who may only edit the columns that are editable. -/
def edit (t : Table) (row : Nat) (id : String) (cell : Cell) : Except TableError Table :=
  match t.columnIndex? id with
  | none => .error (.noColumn id)
  | some col =>
    if (t.columns[col]?.map Column.editable).getD false then t.setAt row col cell
    else .error (.readOnly id)

end Table

end Worksheet
