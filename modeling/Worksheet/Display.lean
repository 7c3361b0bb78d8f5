import Worksheet.Evaluation

/-!
# Showing cells

A table is shown as a grid of texts.  Numbers of number columns may have a fixed number of decimals,
dates of date columns are shown to the minute, and the items of lists have a separator between them.
A formula is shown as its value in the manner of its column.
-/

namespace Worksheet

/-- How cells are shown. -/
structure DisplayFormat where
  decimals : Option Nat
  separator : String
  deriving DecidableEq

namespace DisplayFormat

/-- Numbers in their shortest form, and items separated by a comma and a blank. -/
def standard : DisplayFormat :=
  ⟨none, ", "⟩

def number (format : DisplayFormat) (kind : ColumnKind) (x : Float) : String :=
  match kind, format.decimals with
  | .number, some places => if x.isFinite then Number.fixed places x else Number.plain x
  | _, _ => Number.plain x

/-- A text as a date, with hours and minutes unless it is midnight; what is no date stays as it
is. -/
def date (s : String) : String :=
  match Moment.read? s.toList with
  | some m => if m.isMidnight then m.date.text else m.date.text ++ " " ++ m.clockText
  | none => s

def list (format : DisplayFormat) (items : List String) : String :=
  joinWith format.separator items

/-- A computed value in a column of a kind. -/
def value (format : DisplayFormat) (kind : ColumnKind) : Value → String
  | .number x => format.number kind x
  | .text s => if kind = .date then date s else s
  | .list items => format.list items
  | v => v.toText

/-- A stored cell that is no formula. -/
def cell (format : DisplayFormat) (kind : ColumnKind) : Cell → String
  | .blank => ""
  | .number x => format.number kind x
  | .text s => if kind = .date then date s else s
  | .list items => format.list items

end DisplayFormat

/-- What evaluation depends on besides the table and the formula. -/
structure Settings where
  limit : Nat
  clock : Clock
  deriving DecidableEq

/-- The most levels of calls and comparisons, unless another limit is set. -/
def standardLimit : Nat :=
  64

namespace Settings

/-- The value that the text of a cell comes to. -/
def evaluate (s : Settings) (t : Table) (text : String) : Value :=
  (Worksheet.evaluate t s.limit s.clock.now text).value

end Settings

/-- What there is to show at a position of a table. -/
inductive Shown where
  | nothing
  | formula (kind : ColumnKind) (text : String)
  | stored (kind : ColumnKind) (cell : Cell)

namespace Table

def shown (t : Table) (a : Address) : Shown :=
  match t.columns[a.col]?, t.cell? a with
  | some column, some cell =>
    match cell.formula? with
    | some text => .formula column.kind text
    | none => .stored column.kind cell
  | _, _ => .nothing

/-- The text shown at a position; an empty one outside the table. -/
def display (t : Table) (settings : Settings) (format : DisplayFormat) (a : Address) : String :=
  match t.shown a with
  | .nothing => ""
  | .formula kind text => format.value kind (settings.evaluate t text)
  | .stored kind cell => format.cell kind cell

/-- All positions of a table, row by row. -/
def positions (t : Table) : List (List Address) :=
  (List.range t.rowCount).map fun row => (List.range t.colCount).map fun col => ⟨row, col⟩

/-- The texts shown at all positions. -/
def grid (t : Table) (settings : Settings) (format : DisplayFormat) : List (List String) :=
  t.positions.map fun row => row.map (t.display settings format)

end Table

end Worksheet
