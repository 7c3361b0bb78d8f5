import Worksheet.Text.Blank

/-!
# Columns

A column has an identifier, under which rows store its cells, a label, a kind and a flag that says
whether users may edit its cells.  Its letters come from its position alone.  Kinds matter for
reading and showing cells; a formula may stand in a column of any kind.
-/

namespace Worksheet

inductive ColumnKind where
  | text
  | number
  | date
  | select
  | tags
  | relationship
  deriving DecidableEq, Repr

namespace ColumnKind

def name : ColumnKind → String
  | .text => "text"
  | .number => "number"
  | .date => "date"
  | .select => "select"
  | .tags => "tags"
  | .relationship => "relationship"

def all : List ColumnKind :=
  [.text, .number, .date, .select, .tags, .relationship]

/-- The kind of exactly this name. -/
def named? (name : String) : Option ColumnKind :=
  all.find? fun k => k.name = name

/-- The kind of this name, whatever ASCII case it is in and whatever blanks are around it. -/
def ofName? (name : String) : Option ColumnKind :=
  named? (String.ofList ((Text.trim name.toList).map Char.toLower))

theorem named?_eq_some_iff {name : String} {k : ColumnKind} :
    named? name = some k ↔ k.name = name := by
  constructor
  · intro h
    have hfound := List.find?_some h
    exact of_decide_eq_true hfound
  · intro h
    subst h
    cases k <;> rfl

theorem ofName?_eq_some_iff {name : String} {k : ColumnKind} :
    ofName? name = some k ↔ k.name.toList = (Text.trim name.toList).map Char.toLower := by
  rw [ofName?, named?_eq_some_iff, ← String.toList_inj, String.toList_ofList]

/-- Whether cells of this kind are lists. -/
def isList : ColumnKind → Bool
  | .tags | .relationship => true
  | _ => false

end ColumnKind

structure Column where
  id : String
  kind : ColumnKind
  editable : Bool
  label : String
  deriving DecidableEq

/-- An editable column labelled with its identifier. -/
def Column.plain (id : String) (kind : ColumnKind) : Column :=
  ⟨id, kind, true, id⟩

end Worksheet
