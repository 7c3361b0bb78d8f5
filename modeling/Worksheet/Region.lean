import Worksheet.Address

/-!
# Rectangles of cells

A region is the rectangle between two corners, both included.  Its cells are listed row by row, and
it can be cut down to what lies inside a grid that starts at the first cell.
-/

namespace Worksheet

/-- A rectangle of cells, from its top left to its bottom right corner. -/
structure Region where
  first : Address
  last : Address
  row_le : first.row ≤ last.row
  col_le : first.col ≤ last.col
  deriving DecidableEq

/-- Why a text does not name a region.  Only a text with a colon is taken for a pair of corners. -/
inductive RegionError where
  | single (cause : AddressError)
  | corner (text : String) (cause : AddressError)
  deriving DecidableEq, Repr

def RegionError.message : RegionError → String
  | .single cause => cause.message
  | .corner text cause => s!"Invalid cell range: {text}: {cause.message}"

namespace Region

/-- The rectangle that two cells span, whichever corners they are. -/
def spanning (a b : Address) : Region where
  first := ⟨min a.row b.row, min a.col b.col⟩
  last := ⟨max a.row b.row, max a.col b.col⟩
  row_le := by simp only; omega
  col_le := by simp only; omega

def rowCount (r : Region) : Nat :=
  r.last.row - r.first.row + 1

def colCount (r : Region) : Nat :=
  r.last.col - r.first.col + 1

def size (r : Region) : Nat :=
  r.rowCount * r.colCount

/-- The `i`-th cell, counting row by row. -/
def cellAt (r : Region) (i : Nat) : Address :=
  ⟨r.first.row + i / r.colCount, r.first.col + i % r.colCount⟩

/-- The first `n` cells, row by row, or all of them if there are not so many. -/
def take (r : Region) (n : Nat) : List Address :=
  (List.range (min n r.size)).map r.cellAt

/-- All cells, row by row. -/
def cells (r : Region) : List Address :=
  r.take r.size

/-- What lies inside a grid of so many rows and columns, if anything does. -/
def clip (r : Region) (rows cols : Nat) : Option Region :=
  if h : r.first.row < rows ∧ r.first.col < cols then
    some {
      first := r.first
      last := ⟨min r.last.row (rows - 1), min r.last.col (cols - 1)⟩
      row_le := by have := r.row_le; simp only; omega
      col_le := by have := r.col_le; simp only; omega }
  else none

/-- The region that a text names: two addresses around its first colon, or one address. -/
def parse (text : String) : Except RegionError Region :=
  let s := text.toList
  let before := s.takeWhile (· ≠ ':')
  match s.dropWhile (· ≠ ':') with
  | [] => do
    let a ← (Address.parse (trimText text)).mapError .single
    return spanning a a
  | _ :: after => do
    let a ← (Address.parse (String.ofList (Text.trim before))).mapError (.corner text)
    let b ← (Address.parse (String.ofList (Text.trim after))).mapError (.corner text)
    return spanning a b

/-- The name of a region; one cell goes by its own name. -/
def name (r : Region) : String :=
  if r.first = r.last then r.first.name else s!"{r.first.name}:{r.last.name}"

/-- The region between the first two of the parts that colons divide a text into. -/
def ofParts? (s : List Char) : Option Region :=
  match s.splitOn ':' with
  | a :: b :: _ =>
    let text := Text.trim a ++ ':' :: Text.trim b
    (parse (String.ofList text)).toOption
  | _ => none

end Region

end Worksheet
