import Worksheet.Proofs.Lineage

/-!
# What edits leave alone

Storing a cell changes that one cell and nothing else, neither at another position nor under an
identifier that no column has (`Table.setAt_stores`).  Users may only edit columns that are
editable, and identifiers are different, so however many columns and rows are added and cells are
edited by users, a row goes on storing what it stored at first under the identifier of a column that
is not editable (`Table.StoresLike.afterAll`).  This includes the identifiers of columns that are
added on the way: as long as no column has an identifier, no edit by a user reaches it.
-/

namespace Worksheet

/-- What a row of some rows stores under an identifier, whether or not a column has it. -/
def storedIn (rows : List Row) (i : Nat) (id : String) : Option Cell :=
  rows[i]?.bind (·.get? id)

theorem storedIn_append_congr {rows rows' : List Row} {i : Nat} {id : String}
    (hlength : rows.length = rows'.length) (h : storedIn rows i id = storedIn rows' i id)
    (more : List Row) : storedIn (rows ++ more) i id = storedIn (rows' ++ more) i id := by
  unfold storedIn at h ⊢
  by_cases hi : i < rows.length
  · rw [List.getElem?_append_left hi, List.getElem?_append_left (hlength ▸ hi), h]
  · have hi' : rows.length ≤ i := Nat.le_of_not_lt hi
    rw [List.getElem?_append_right hi', List.getElem?_append_right (hlength ▸ hi'), hlength]

theorem storedIn_set_of_ne {rows : List Row} {r : Row} {row i : Nat} {id other : String}
    (hr : rows[row]? = some r) (cell : Cell) (h : i = row → other ≠ id) :
    storedIn (rows.set row (r.set id cell)) i other = storedIn rows i other := by
  unfold storedIn
  by_cases hi : row = i
  · subst hi
    rw [List.getElem?_set_self (List.getElem?_eq_some_iff.1 hr).1, hr]
    exact Row.get?_set_of_ne r cell (h rfl)
  · rw [List.getElem?_set_ne hi]

namespace Table

/-! ## Storing one cell -/

/-- Whether one table is another with a cell stored at a position and nothing else changed. -/
structure Stores (t : Table) (row col : Nat) (cell : Cell) (t' : Table) : Prop where
  columns_eq : t'.columns = t.columns
  rowCount_eq : t'.rowCount = t.rowCount
  cell?_eq : t'.cell? ⟨row, col⟩ = some cell
  cell?_of_ne : ∀ a : Address, a ≠ ⟨row, col⟩ → t'.cell? a = t.cell? a
  storedIn_of_ne : ∀ i id, (i = row → t.columns[col]?.map Column.id ≠ some id) →
    storedIn t'.rows i id = storedIn t.rows i id

variable {t t' : Table}

theorem exists_setAt_iff {row col : Nat} {cell : Cell} :
    (∃ t', t.setAt row col cell = .ok t') ↔ row < t.rowCount ∧ col < t.colCount := by
  constructor
  · rintro ⟨t', h⟩
    obtain ⟨column, r, hc, hr, -⟩ := setAt_ok h
    exact ⟨(List.getElem?_eq_some_iff.1 hr).1, (List.getElem?_eq_some_iff.1 hc).1⟩
  · rintro ⟨hrow, hcol⟩
    rcases h : t.setAt row col cell with e | t'
    · rw [setAt_eq_error_iff] at h
      omega
    · exact ⟨t', rfl⟩

theorem setAt_stores {row col : Nat} {cell : Cell} (h : t.setAt row col cell = .ok t') :
    t.Stores row col cell t' := by
  obtain ⟨column, r, hc, hr, ht⟩ := setAt_ok h
  have hrow : row < t.rows.length := (List.getElem?_eq_some_iff.1 hr).1
  refine ⟨by rw [ht], by rw [ht]; exact List.length_set, ?_, fun a => cell?_setAt_of_ne h, ?_⟩
  · rw [ht]
    simp [cell?, hc, hrow]
  · intro i id hid
    rw [ht]
    refine storedIn_set_of_ne hr cell ?_
    rintro hi rfl
    exact hid hi (by rw [hc]; rfl)

/-- An edit by a user stores a cell in an editable column. -/
theorem edit_stores {row : Nat} {id : String} {cell : Cell} (h : t.edit row id cell = .ok t') :
    ∃ col c, t.columns[col]? = some c ∧ c.editable = true ∧ t.Stores row col cell t' := by
  obtain ⟨col, hindex, hset⟩ := edit_ok h
  obtain ⟨c, hc, -⟩ := exists_of_columnIndex? hindex
  refine ⟨col, c, hc, ?_, setAt_stores hset⟩
  by_contra he
  unfold edit at h
  simp [hindex, hc, he] at h

end Table

/-! ## Runs of edits -/

namespace Edit

/-- Whether an edit stores no cell in a column unless it is editable. -/
def HonorsReadOnly : Edit → Prop
  | .addColumn _ => True
  | .pushRow _ => True
  | .byUser _ _ _ => True
  | _ => False

/-- The row that an edit adds. -/
def row? : Edit → Option Row
  | .pushRow r => some r
  | _ => none

end Edit

namespace Table

/-- Whether the rows of a table store what other rows do under every identifier that is not that of
an editable column. -/
structure StoresLike (t : Table) (rows : List Row) : Prop where
  length_eq : t.rows.length = rows.length
  storedIn_eq : ∀ i id, (∀ c ∈ t.columns, c.id = id → c.editable = false) →
    storedIn t.rows i id = storedIn rows i id

namespace StoresLike

variable {t : Table} {rows : List Row}

/-- A row that is added stores the same on both sides, and any other edit leaves alone what is
compared. -/
theorem after (h : t.StoresLike rows) {e : Edit} (he : e.HonorsReadOnly) :
    (e.after t).StoresLike (rows ++ e.row?.toList) ∧ t.columns <+: (e.after t).columns := by
  rcases happly : e.apply t with reason | t'
  · rw [Edit.after_of_error happly]
    cases e with
    | pushRow r => cases happly
    | addColumn c => exact ⟨by simpa [Edit.row?] using h, List.prefix_rfl⟩
    | byUser row id cell => exact ⟨by simpa [Edit.row?] using h, List.prefix_rfl⟩
    | _ => exact he.elim
  · rw [Edit.after_of_ok happly]
    cases e with
    | addColumn c =>
      obtain ⟨hcolumns, hrows, -⟩ := addColumn_ok happly
      have hlike : t'.StoresLike rows := by
        refine ⟨by rw [hrows, h.length_eq], fun i id hid => ?_⟩
        rw [hrows]
        exact h.storedIn_eq i id fun d hd => hid d (by simp [hcolumns, hd])
      refine ⟨by simpa [Edit.row?] using hlike, ?_⟩
      rw [hcolumns]
      exact List.prefix_append _ _
    | pushRow r =>
      obtain rfl := Except.ok.inj happly
      have hlike : (t.pushRow r).StoresLike (rows ++ [r]) :=
        ⟨by simp [pushRow, h.length_eq], fun i id hid =>
          storedIn_append_congr h.length_eq (h.storedIn_eq i id hid) [r]⟩
      exact ⟨hlike, List.prefix_rfl⟩
    | byUser row id cell =>
      obtain ⟨col, c, hc, hedit, hstores⟩ := edit_stores happly
      have hlike : t'.StoresLike rows := by
        refine ⟨hstores.rowCount_eq.trans h.length_eq, fun i other hother => ?_⟩
        rw [hstores.columns_eq] at hother
        rw [hstores.storedIn_of_ne i other, h.storedIn_eq i other hother]
        intro _ hid
        rw [hc] at hid
        have hno := hother c (List.mem_of_getElem? hc) (Option.some.inj hid)
        rw [hedit] at hno
        cases hno
      exact ⟨by simpa [Edit.row?] using hlike, by simp [hstores.columns_eq]⟩
    | _ => exact he.elim

theorem afterAll : ∀ {edits : List Edit} {t : Table} {rows : List Row}, t.StoresLike rows →
    (∀ e ∈ edits, e.HonorsReadOnly) →
      (t.afterAll edits).StoresLike (rows ++ edits.filterMap Edit.row?)
        ∧ t.columns <+: (t.afterAll edits).columns
  | [], t, rows, h, _ => by simpa [Table.afterAll] using h
  | e :: edits, t, rows, h, hall => by
    obtain ⟨hlike, hcolumns⟩ := h.after (hall e List.mem_cons_self)
    obtain ⟨hlike', hcolumns'⟩ := afterAll hlike fun d hd => hall d (List.mem_cons_of_mem _ hd)
    have hrows : rows ++ (e :: edits).filterMap Edit.row?
        = rows ++ e.row?.toList ++ edits.filterMap Edit.row? := by
      rcases hrow : e.row? with _ | r <;> simp [hrow]
    rw [hrows]
    exact ⟨hlike', hcolumns.trans hcolumns'⟩

/-- A column that is not editable shows what the other rows store for it. -/
theorem cell?_eq (h : t.StoresLike rows) {a : Address} {c : Column}
    (hc : t.columns[a.col]? = some c) (he : c.editable = false) :
    t.cell? a = rows[a.row]?.map fun r => (r.get? c.id).getD .blank := by
  have hstored := h.storedIn_eq a.row c.id fun d hd hid => by
    rw [List.inj_on_of_nodup_map t.ids_nodup hd (List.mem_of_getElem? hc) hid, he]
  unfold cell?
  unfold storedIn at hstored
  by_cases hrow : a.row < t.rows.length
  · have hrow' : a.row < rows.length := h.length_eq ▸ hrow
    rw [List.getElem?_eq_getElem hrow, List.getElem?_eq_getElem hrow'] at hstored
    simp only [Option.bind_some] at hstored
    simp [hc, hrow, hrow', hstored]
  · have hrow' : ¬ a.row < rows.length := h.length_eq ▸ hrow
    rw [List.getElem?_eq_none (Nat.le_of_not_lt hrow),
      List.getElem?_eq_none (Nat.le_of_not_lt hrow'), hc]
    rfl

end StoresLike

/-- Whether edits leave alone the cells of every column that is not editable: they read as before,
and in a row that was added on the way, or a column that was, they read what the row stored for the
column when it was added. -/
structure KeepsReadOnly (t : Table) (edits : List Edit) : Prop where
  columns : t.columns <+: (t.afterAll edits).columns
  cell? : ∀ (a : Address) (c : Column) (cell : Cell), t.columns[a.col]? = some c →
    c.editable = false → t.cell? a = some cell → (t.afterAll edits).cell? a = some cell
  added : ∀ (a : Address) (c : Column), (t.afterAll edits).columns[a.col]? = some c →
    c.editable = false → (t.afterAll edits).cell? a
      = (t.rows ++ edits.filterMap Edit.row?)[a.row]?.map fun r => (r.get? c.id).getD .blank

theorem keepsReadOnly {t : Table} {edits : List Edit} (h : ∀ e ∈ edits, e.HonorsReadOnly) :
    t.KeepsReadOnly edits := by
  have hstart : t.StoresLike t.rows := ⟨rfl, fun _ _ _ => rfl⟩
  obtain ⟨hlike, hcolumns⟩ := hstart.afterAll h
  refine ⟨hcolumns, fun a c cell hc he hcell => ?_, fun a c => hlike.cell?_eq⟩
  have hrow : a.row < t.rows.length := by
    by_contra hrow
    rw [cell?_eq_none_iff.2 (.inl (Nat.le_of_not_lt hrow))] at hcell
    cases hcell
  have hc' : (t.afterAll edits).columns[a.col]? = some c := by
    obtain ⟨more, hmore⟩ := hcolumns
    rw [← hmore, List.getElem?_append_left (List.getElem?_eq_some_iff.1 hc).1, hc]
  rw [hlike.cell?_eq hc' he, List.getElem?_append_left hrow, ← hstart.cell?_eq hc he, hcell]

/-- A cell is stored at every position inside a table and nowhere else, and nothing but that cell
changes; added rows and columns change no cell that was there.  So whatever users edit and rows and
columns are added, the cells of columns that are not editable stay what they were. -/
theorem edits_frame (t : Table) :
    (∀ row col cell, ((∃ t', t.setAt row col cell = .ok t') ↔ row < t.rowCount ∧ col < t.colCount)
      ∧ ∀ t', t.setAt row col cell = .ok t' → t.Stores row col cell t')
    ∧ (∀ a cell, t.cell? a = some cell → (∀ r, (t.pushRow r).cell? a = some cell)
      ∧ ∀ c t', t.addColumn c = .ok t' → t'.cell? a = some cell)
    ∧ ∀ edits : List Edit, (∀ e ∈ edits, e.HonorsReadOnly) → t.KeepsReadOnly edits := by
  refine ⟨fun row col cell => ⟨exists_setAt_iff, fun t' => setAt_stores⟩, ?_, fun edits =>
    keepsReadOnly⟩
  intro a cell h
  exact ⟨fun r => cell?_pushRow_of_some r h, fun c t' hadd => cell?_addColumn_of_some hadd h⟩

end Table

end Worksheet
