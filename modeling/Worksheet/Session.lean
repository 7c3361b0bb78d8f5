import Worksheet.Cache

/-!
# Sessions

A session is a table under edit together with the cache that belongs to it.  Each step edits the
table, uses the cache or empties it; a refused edit leaves the session as it is.
-/

namespace Worksheet

/-- A table and its cache. -/
structure Session where
  table : Table
  cache : Cache

/-- What a step may do. -/
inductive Action where
  | addColumn (c : Column)
  | pushRow (r : Row)
  | replaceRows (rows : List Row)
  | setNamed (name : String) (cell : Cell)
  | setAt (row col : Nat) (cell : Cell)
  | edit (row : Nat) (id : String) (cell : Cell)
  | evaluate (text : String)
  | display (a : Address)
  | displayAll
  | clear

/-- What a step answers. -/
inductive Answer where
  | done
  | refused (e : TableError)
  | value (v : Value)
  | text (s : String)
  | grid (lines : List (List String))

namespace Session

/-- The session with a table that has been edited, or as it was if the edit was refused. -/
def edited (s : Session) : Except TableError Table → Answer × Session
  | .ok t => (.done, { s with table := t })
  | .error e => (.refused e, s)

/-- Takes a step. -/
def act (s : Session) (settings : Settings) (format : DisplayFormat) : Action → Answer × Session
  | .addColumn c => s.edited (s.table.addColumn c)
  | .pushRow r => s.edited (.ok (s.table.pushRow r))
  | .replaceRows rows => s.edited (.ok (s.table.withRows rows))
  | .setNamed name cell => s.edited (s.table.setNamed name cell)
  | .setAt row col cell => s.edited (s.table.setAt row col cell)
  | .edit row id cell => s.edited (s.table.edit row id cell)
  | .evaluate text =>
    let (v, c) := s.cache.evaluate settings s.table text
    (.value v, { s with cache := c })
  | .display a =>
    let (shown, c) := s.cache.display settings format s.table a
    (.text shown, { s with cache := c })
  | .displayAll =>
    let (lines, c) := s.cache.grid settings format s.table
    (.grid lines, { s with cache := c })
  | .clear => (.done, { s with cache := s.cache.clear })

end Session

end Worksheet
