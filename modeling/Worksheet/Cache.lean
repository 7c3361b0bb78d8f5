import Worksheet.Display

/-!
# A cache of evaluations

The value of a formula stays the same as long as the version of its table does, so it can be kept.
A cache belongs to one table and one choice of settings.  It keeps values for the last version it
has seen and counts how its answers came about.  What depends on a running clock is never kept.
-/

namespace Worksheet

/-- Kept values by text and version, the version last seen, and three counters. -/
structure Cache where
  entries : List ((String × Nat) × Value)
  version : Option Nat
  hits : Nat
  misses : Nat
  uncached : Nat

namespace Cache

def empty : Cache :=
  ⟨[], none, 0, 0, 0⟩

/-- The number of kept values. -/
def size (c : Cache) : Nat :=
  c.entries.length

/-- The cache without its kept values; the counters stay. -/
def clear (c : Cache) : Cache :=
  { c with entries := [], version := none }

/-- The cache as it is for a version: values for another one are dropped. -/
def forVersion (c : Cache) (version : Nat) : Cache :=
  if c.version = some version then c else { c with entries := [], version := some version }

/-- Whether a text is a formula that reads the clock. -/
def isVolatile (limit : Nat) (text : String) : Bool :=
  match Formula.parse limit text with
  | .ok f => f.functions.any Builtin.isVolatile
  | .error _ => false

/-- The value of a text, kept or computed, and the cache afterwards. -/
def evaluate (c : Cache) (settings : Settings) (t : Table) (text : String) : Value × Cache :=
  let c := c.forVersion t.version
  match c.entries.lookup (text, t.version) with
  | some v => (v, { c with hits := c.hits + 1 })
  | none =>
    let v := settings.evaluate t text
    if !settings.clock.pinned && isVolatile settings.limit text then
      (v, { c with uncached := c.uncached + 1 })
    else (v, { c with entries := ((text, t.version), v) :: c.entries, misses := c.misses + 1 })

/-- The text shown at a position of a table, and the cache afterwards. -/
def display (c : Cache) (settings : Settings) (format : DisplayFormat) (t : Table) (a : Address) :
    String × Cache :=
  match t.shown a with
  | .nothing => ("", c)
  | .formula kind text =>
    let (v, c) := c.evaluate settings t text
    (format.value kind v, c)
  | .stored kind cell => (format.cell kind cell, c)

/-- The texts shown at some positions in order. -/
def displayAll (c : Cache) (settings : Settings) (format : DisplayFormat) (t : Table) :
    List Address → List String × Cache
  | [] => ([], c)
  | a :: rest =>
    let (s, c) := c.display settings format t a
    let (more, c) := displayAll c settings format t rest
    (s :: more, c)

/-- The texts shown in some rows of positions. -/
def displayRows (c : Cache) (settings : Settings) (format : DisplayFormat) (t : Table) :
    List (List Address) → List (List String) × Cache
  | [] => ([], c)
  | row :: rest =>
    let (line, c) := c.displayAll settings format t row
    let (more, c) := displayRows c settings format t rest
    (line :: more, c)

/-- The texts shown at all positions of a table, and the cache afterwards. -/
def grid (c : Cache) (settings : Settings) (format : DisplayFormat) (t : Table) :
    List (List String) × Cache :=
  c.displayRows settings format t t.positions

end Cache

end Worksheet
