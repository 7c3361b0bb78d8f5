import Worksheet.Cell

/-!
# Rows

A row stores cells under the identifiers of columns, at most one under each.  Storing a cell
replaces the one that was there (`get?_set_self`) and leaves the others alone (`get?_set_of_ne`),
so a list of cells with different identifiers is stored as it is (`get?_ofList_of_mem`).
-/

namespace Worksheet

/-- Cells by column identifier. -/
structure Row where
  entries : List (String × Cell)
  nodup : (entries.map Prod.fst).Nodup

namespace Row

def empty : Row :=
  ⟨[], List.nodup_nil⟩

instance : Inhabited Row := ⟨empty⟩

def size (r : Row) : Nat :=
  r.entries.length

/-- The cell stored under an identifier. -/
def get? (r : Row) (id : String) : Option Cell :=
  r.entries.lookup id

/-- The row without what is stored under an identifier. -/
def remove (r : Row) (id : String) : Row where
  entries := r.entries.filter (·.1 ≠ id)
  nodup := r.nodup.sublist ((List.filter_sublist).map _)

/-- The row with a cell stored under an identifier. -/
def set (r : Row) (id : String) (cell : Cell) : Row where
  entries := (id, cell) :: (r.remove id).entries
  nodup := by
    rw [List.map_cons, List.nodup_cons]
    exact ⟨by simp [remove], (r.remove id).nodup⟩

/-- The row of these cells; a later cell replaces an earlier one of the same identifier. -/
def ofList (cells : List (String × Cell)) : Row :=
  cells.foldl (fun r c => r.set c.1 c.2) empty

@[simp]
theorem get?_set_self (r : Row) (id : String) (cell : Cell) :
    (r.set id cell).get? id = some cell := by
  simp [get?, set]

theorem get?_set_of_ne (r : Row) {id other : String} (cell : Cell) (h : other ≠ id) :
    (r.set id cell).get? other = r.get? other := by
  have hne : (other == id) = false := by simp [h]
  have hfilter : ∀ l : List (String × Cell),
      (l.filter (·.1 ≠ id)).lookup other = l.lookup other := by
    intro l
    induction l with
    | nil => rfl
    | cons e l ih =>
      by_cases he : e.1 = id
      · rw [List.filter_cons_of_neg (by simp [he]), ih, List.lookup_cons, he, hne]
      · rw [List.filter_cons_of_pos (by simp [he]), List.lookup_cons, List.lookup_cons, ih]
  simp only [get?, set, remove, List.lookup_cons, hne]
  exact hfilter r.entries

theorem get?_foldl_set_of_notMem {id : String} : ∀ {cells : List (String × Cell)} (r : Row),
    id ∉ cells.map Prod.fst → (cells.foldl (fun r c => r.set c.1 c.2) r).get? id = r.get? id
  | [], _, _ => rfl
  | c :: cells, r, h => by
    rw [List.map_cons, List.mem_cons, not_or] at h
    rw [List.foldl_cons, get?_foldl_set_of_notMem _ h.2, get?_set_of_ne r c.2 h.1]

theorem get?_ofList_of_notMem {cells : List (String × Cell)} {id : String}
    (h : id ∉ cells.map Prod.fst) : (ofList cells).get? id = none :=
  get?_foldl_set_of_notMem empty h

/-- Where no two cells have the same identifier, none replaces another. -/
theorem get?_ofList_of_mem {cells : List (String × Cell)} {id : String} {cell : Cell}
    (hnodup : (cells.map Prod.fst).Nodup) (h : (id, cell) ∈ cells) :
    (ofList cells).get? id = some cell := by
  obtain ⟨before, after, rfl⟩ := List.append_of_mem h
  rw [List.map_append, List.map_cons, List.nodup_append, List.nodup_cons] at hnodup
  rw [ofList, List.foldl_append, List.foldl_cons, get?_foldl_set_of_notMem _ hnodup.2.1.1,
    get?_set_self]

end Row

end Worksheet
