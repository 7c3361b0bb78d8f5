import Mathlib.Data.List.Nodup
import Worksheet.Proofs.Edits

/-!
# Lineages of tables

A lineage begins with a table and goes on with one edit after the other.  An edit either makes the
next version of the table or is refused, for a reason that can be seen from the table
(`apply_eq_error_iff`), and then the table stays as it is (`Edit.isAtomic`).  So versions only go up
along a lineage, and two tables of the same version are the same table
(`Table.version_le_afterAll`).
-/

namespace Worksheet

/-- An operation that edits a table. -/
inductive Edit where
  | addColumn (c : Column)
  | pushRow (r : Row)
  | replaceRows (rows : List Row)
  | setNamed (name : String) (cell : Cell)
  | setAt (row col : Nat) (cell : Cell)
  | byUser (row : Nat) (id : String) (cell : Cell)

namespace Edit

def apply (t : Table) : Edit → Except TableError Table
  | .addColumn c => t.addColumn c
  | .pushRow r => .ok (t.pushRow r)
  | .replaceRows rows => .ok (t.withRows rows)
  | .setNamed name cell => t.setNamed name cell
  | .setAt row col cell => t.setAt row col cell
  | .byUser row id cell => t.edit row id cell

/-- The table after an edit, or as it was if the edit was refused. -/
def after (t : Table) (e : Edit) : Table :=
  match e.apply t with
  | .ok t' => t'
  | .error _ => t

end Edit

namespace Table

/-- The table after one edit after the other. -/
def afterAll (t : Table) (edits : List Edit) : Table :=
  edits.foldl Edit.after t

/-- The reasons for which a table refuses an edit. -/
inductive Refuses (t : Table) : Edit → TableError → Prop
  | duplicateColumn {c : Column} (h : c.id ∈ t.columns.map Column.id) :
      Refuses t (.addColumn c) (.duplicateColumn c.id)
  | columnOutside {row col : Nat} {cell : Cell} (h : t.colCount ≤ col) :
      Refuses t (.setAt row col cell) (.columnOutside col t.colCount)
  | rowOutside {row col : Nat} {cell : Cell} (hcol : col < t.colCount) (h : t.rowCount ≤ row) :
      Refuses t (.setAt row col cell) (.rowOutside row t.rowCount)
  | badName {name : String} {cell : Cell} {e : AddressError} (h : Address.parse name = .error e) :
      Refuses t (.setNamed name cell) (.address e)
  | named {name : String} {cell : Cell} {a : Address} {e : TableError}
      (hname : Address.parse name = .ok a) (h : Refuses t (.setAt a.row a.col cell) e) :
      Refuses t (.setNamed name cell) e
  | noColumn {row : Nat} {id : String} {cell : Cell} (h : id ∉ t.columns.map Column.id) :
      Refuses t (.byUser row id cell) (.noColumn id)
  | readOnly {row : Nat} {cell : Cell} {c : Column} (hc : c ∈ t.columns)
      (h : c.editable = false) : Refuses t (.byUser row c.id cell) (.readOnly c.id)
  | noRow {row : Nat} {cell : Cell} {c : Column} (hc : c ∈ t.columns) (he : c.editable = true)
      (h : t.rowCount ≤ row) : Refuses t (.byUser row c.id cell) (.rowOutside row t.rowCount)

variable {t : Table}

/-! ## Columns by their identifiers -/

/-- The column at a position is found there by its identifier. -/
theorem columnIndex?_id {i : Nat} {c : Column} (h : t.columns[i]? = some c) :
    t.columnIndex? c.id = some i := by
  obtain ⟨hi, hc⟩ := List.getElem?_eq_some_iff.1 h
  rw [columnIndex?, List.findIdx?_eq_some_iff_getElem]
  refine ⟨hi, by simp [hc], fun j hj => ?_⟩
  have hlt : j < t.columns.length := Nat.lt_trans hj hi
  have hne := id_ne_of_ne (List.getElem?_eq_getElem hlt) h (Nat.ne_of_lt hj)
  simpa using hne

theorem columnIndex?_eq_none_iff {id : String} :
    t.columnIndex? id = none ↔ id ∉ t.columns.map Column.id := by
  simp [columnIndex?, List.findIdx?_eq_none_iff]

/-- Whatever position an identifier is found at, its column stands there. -/
theorem exists_of_columnIndex? {id : String} {i : Nat} (h : t.columnIndex? id = some i) :
    ∃ c, t.columns[i]? = some c ∧ c.id = id := by
  rw [columnIndex?, List.findIdx?_eq_some_iff_getElem] at h
  obtain ⟨hi, hid, -⟩ := h
  exact ⟨t.columns[i], List.getElem?_eq_getElem hi, by simpa using hid⟩

/-! ## Refused edits -/

theorem addColumn_eq_error_iff {c : Column} {e : TableError} :
    t.addColumn c = .error e ↔ c.id ∈ t.columns.map Column.id ∧ e = .duplicateColumn c.id := by
  unfold addColumn
  split_ifs with h <;> simp [h, eq_comm]

theorem setAt_eq_error_iff {row col : Nat} {cell : Cell} {e : TableError} :
    t.setAt row col cell = .error e ↔
      (t.colCount ≤ col ∧ e = .columnOutside col t.colCount)
      ∨ (col < t.colCount ∧ t.rowCount ≤ row ∧ e = .rowOutside row t.rowCount) := by
  unfold setAt
  split
  · rename_i hc
    have hcol : t.colCount ≤ col := List.getElem?_eq_none_iff.1 hc
    simp [hcol, Nat.not_lt.2 hcol, eq_comm]
  · rename_i column hc
    have hcol : col < t.colCount := (List.getElem?_eq_some_iff.1 hc).1
    split
    · rename_i hr
      have hrow : t.rowCount ≤ row := List.getElem?_eq_none_iff.1 hr
      simp [hcol, hrow, Nat.not_le.2 hcol, eq_comm]
    · rename_i r hr
      have hrow : row < t.rowCount := (List.getElem?_eq_some_iff.1 hr).1
      simp [Nat.not_le.2 hcol, Nat.not_le.2 hrow]

theorem refuses_setAt_iff {row col : Nat} {cell : Cell} {e : TableError} :
    t.Refuses (.setAt row col cell) e ↔ t.setAt row col cell = .error e := by
  rw [setAt_eq_error_iff]
  constructor
  · intro h
    cases h with
    | columnOutside h => exact .inl ⟨h, rfl⟩
    | rowOutside hcol h => exact .inr ⟨hcol, h, rfl⟩
  · rintro (⟨h, rfl⟩ | ⟨hcol, h, rfl⟩)
    · exact .columnOutside h
    · exact .rowOutside hcol h

theorem refuses_setNamed_iff {name : String} {cell : Cell} {e : TableError} :
    t.Refuses (.setNamed name cell) e ↔ t.setNamed name cell = .error e := by
  rcases hname : Address.parse name with err | a
  · have hset : t.setNamed name cell = .error (.address err) := by
      rw [setNamed, hname]
      rfl
    rw [hset]
    constructor
    · intro h
      cases h with
      | badName h =>
        rw [hname] at h
        rw [Except.error.inj h]
      | named h =>
        rw [hname] at h
        cases h
    · intro h
      rw [← Except.error.inj h]
      exact .badName hname
  · have hset : t.setNamed name cell = t.setAt a.row a.col cell := by
      rw [setNamed, hname]
      rfl
    rw [hset, ← refuses_setAt_iff]
    constructor
    · intro h
      cases h with
      | badName h =>
        rw [hname] at h
        cases h
      | named h' h =>
        rw [hname] at h'
        rw [Except.ok.inj h']
        exact h
    · exact .named hname

theorem edit_eq_error_iff {row : Nat} {id : String} {cell : Cell} {e : TableError} :
    t.edit row id cell = .error e ↔
      (id ∉ t.columns.map Column.id ∧ e = .noColumn id)
      ∨ ∃ c ∈ t.columns, c.id = id ∧ ((c.editable = false ∧ e = .readOnly id)
        ∨ (c.editable = true ∧ t.rowCount ≤ row ∧ e = .rowOutside row t.rowCount)) := by
  unfold edit
  rcases hindex : t.columnIndex? id with _ | col
  · have hid : id ∉ t.columns.map Column.id := columnIndex?_eq_none_iff.1 hindex
    constructor
    · intro h
      cases h
      exact .inl ⟨hid, rfl⟩
    · rintro (⟨-, rfl⟩ | ⟨c, hc, rfl, -⟩)
      · rfl
      · exact absurd (List.mem_map_of_mem hc) hid
  · obtain ⟨c, hc, rfl⟩ := exists_of_columnIndex? hindex
    have hmem : c ∈ t.columns := List.mem_of_getElem? hc
    have hcol : col < t.colCount := (List.getElem?_eq_some_iff.1 hc).1
    simp only [hc, Option.map_some, Option.getD_some]
    constructor
    · intro h
      split_ifs at h with he
      · rcases setAt_eq_error_iff.1 h with ⟨hle, -⟩ | ⟨-, hrow, rfl⟩
        · exact absurd hcol (Nat.not_lt.2 hle)
        · exact .inr ⟨c, hmem, rfl, .inr ⟨he, hrow, rfl⟩⟩
      · cases h
        exact .inr ⟨c, hmem, rfl, .inl ⟨by simpa using he, rfl⟩⟩
    · rintro (⟨hid, -⟩ | ⟨d, hd, hid, h⟩)
      · exact absurd (List.mem_map_of_mem hmem) hid
      · -- a column of the same identifier is the column that was found
        obtain rfl : d = c := List.inj_on_of_nodup_map t.ids_nodup hd hmem hid
        rcases h with ⟨he, rfl⟩ | ⟨he, hrow, rfl⟩
        · rw [if_neg (by simp [he])]
        · rw [if_pos he]
          exact setAt_eq_error_iff.2 (.inr ⟨hcol, hrow, rfl⟩)

theorem refuses_byUser_iff {row : Nat} {id : String} {cell : Cell} {e : TableError} :
    t.Refuses (.byUser row id cell) e ↔ t.edit row id cell = .error e := by
  rw [edit_eq_error_iff]
  constructor
  · intro h
    cases h with
    | noColumn h => exact .inl ⟨h, rfl⟩
    | readOnly hc h => exact .inr ⟨_, hc, rfl, .inl ⟨h, rfl⟩⟩
    | noRow hc he h => exact .inr ⟨_, hc, rfl, .inr ⟨he, h, rfl⟩⟩
  · rintro (⟨h, rfl⟩ | ⟨c, hc, rfl, ⟨h, rfl⟩ | ⟨he, h, rfl⟩⟩)
    · exact .noColumn h
    · exact .readOnly hc h
    · exact .noRow hc he h

end Table

namespace Edit

variable {t t' : Table} {e : Edit}

/-- A table refuses an edit for the reasons for which it is meant to and for no other. -/
theorem apply_eq_error_iff {reason : TableError} :
    e.apply t = .error reason ↔ t.Refuses e reason := by
  cases e with
  | addColumn c =>
    rw [apply, Table.addColumn_eq_error_iff]
    constructor
    · rintro ⟨h, rfl⟩
      exact .duplicateColumn h
    · intro h
      cases h with
      | duplicateColumn h => exact ⟨h, rfl⟩
  | pushRow r => exact ⟨nofun, nofun⟩
  | replaceRows rows => exact ⟨nofun, nofun⟩
  | setNamed name cell => exact Table.refuses_setNamed_iff.symm
  | setAt row col cell => exact Table.refuses_setAt_iff.symm
  | byUser row id cell => exact Table.refuses_byUser_iff.symm

theorem version_apply (h : e.apply t = .ok t') : t'.version = t.version + 1 := by
  cases e with
  | addColumn c => exact (Table.addColumn_ok h).2.2
  | pushRow r => rw [← Except.ok.inj h, Table.pushRow]
  | replaceRows rows => rw [← Except.ok.inj h, Table.withRows]
  | setNamed name cell => exact Table.version_setNamed h
  | setAt row col cell => exact Table.version_setAt h
  | byUser row id cell => exact Table.version_edit h

theorem after_of_ok (h : e.apply t = .ok t') : e.after t = t' := by
  simp only [after, h]

theorem after_of_error {reason : TableError} (h : e.apply t = .error reason) : e.after t = t := by
  simp only [after, h]

/-- Whether an edit either makes the next version of a table, or is refused for a reason and leaves
the table as it is. -/
def IsAtomic (t : Table) (e : Edit) : Prop :=
  (∀ t', e.apply t = .ok t' → e.after t = t' ∧ t'.version = t.version + 1)
    ∧ ∀ reason, (e.apply t = .error reason ↔ t.Refuses e reason)
      ∧ (t.Refuses e reason → e.after t = t)

theorem isAtomic (t : Table) (e : Edit) : e.IsAtomic t := by
  refine ⟨fun t' h => ⟨after_of_ok h, version_apply h⟩, fun reason => ⟨apply_eq_error_iff, ?_⟩⟩
  intro h
  exact after_of_error (apply_eq_error_iff.2 h)

theorem version_le_after : t.version ≤ (e.after t).version
    ∧ ((e.after t).version = t.version → e.after t = t) := by
  rcases h : e.apply t with reason | t'
  · rw [after_of_error h]
    exact ⟨Nat.le_refl _, fun _ => rfl⟩
  · have hversion := version_apply h
    rw [after_of_ok h]
    exact ⟨by omega, fun hsame => by omega⟩

end Edit

/-! ## The table of some columns -/

namespace Table

theorem foldlM_addColumn_ok : ∀ {columns : List Column} {t t' : Table},
    columns.foldlM addColumn t = .ok t' →
      t'.columns = t.columns ++ columns ∧ t'.rows = t.rows
  | [], t, t', h => by
    rw [List.foldlM_nil] at h
    rw [← Except.ok.inj h]
    exact ⟨by simp, rfl⟩
  | c :: columns, t, t', h => by
    rw [List.foldlM_cons] at h
    rcases hadd : t.addColumn c with e | u <;> rw [hadd] at h
    · cases h
    · obtain ⟨hcolumns, hrows, -⟩ := addColumn_ok hadd
      obtain ⟨hcolumns', hrows'⟩ := foldlM_addColumn_ok h
      rw [hcolumns', hrows', hcolumns, hrows]
      exact ⟨by simp, rfl⟩

theorem exists_foldlM_addColumn : ∀ {columns : List Column} {t : Table},
    ((t.columns ++ columns).map Column.id).Nodup → ∃ t', columns.foldlM addColumn t = .ok t'
  | [], t, _ => ⟨t, rfl⟩
  | c :: columns, t, h => by
    have hnew : c.id ∉ t.columns.map Column.id := by
      intro hmem
      rw [List.map_append, List.nodup_append] at h
      exact h.2.2 _ hmem _ (by simp) rfl
    rcases hadd : t.addColumn c with e | u
    · exact absurd (addColumn_eq_error_iff.1 hadd).1 hnew
    · have hrest : ((u.columns ++ columns).map Column.id).Nodup := by
        rw [(addColumn_ok hadd).1]
        simpa using h
      obtain ⟨t', ht'⟩ := exists_foldlM_addColumn hrest
      exact ⟨t', by rw [List.foldlM_cons, hadd]; exact ht'⟩

theorem ofColumns_ok {columns : List Column} {t : Table} (h : ofColumns columns = .ok t) :
    t.columns = columns ∧ t.rows = [] ∧ t.version = 0 := by
  rw [ofColumns] at h
  rcases hfold : columns.foldlM addColumn empty with e | u <;> rw [hfold] at h
  · cases h
  · obtain ⟨hcolumns, hrows⟩ := foldlM_addColumn_ok hfold
    rw [← Except.ok.inj h]
    exact ⟨hcolumns, hrows, rfl⟩

/-- Columns make a table exactly if no two have the same identifier. -/
theorem exists_ofColumns_iff {columns : List Column} :
    (∃ t, ofColumns columns = .ok t) ↔ (columns.map Column.id).Nodup := by
  constructor
  · rintro ⟨t, h⟩
    rw [← (ofColumns_ok h).1]
    exact t.ids_nodup
  · intro h
    obtain ⟨t, ht⟩ := exists_foldlM_addColumn (t := empty) h
    exact ⟨_, by rw [ofColumns, ht]; rfl⟩

/-! ## Lineages -/

variable {t : Table}

/-- Versions only go up along a lineage, and where the version is the same, so is the table. -/
theorem version_le_afterAll : ∀ (edits : List Edit) (t : Table),
    t.version ≤ (t.afterAll edits).version
      ∧ ((t.afterAll edits).version = t.version → t.afterAll edits = t)
  | [], _ => ⟨Nat.le_refl _, fun _ => rfl⟩
  | e :: edits, t => by
    obtain ⟨hle, hsame⟩ := Edit.version_le_after (t := t) (e := e)
    obtain ⟨hle', hsame'⟩ := version_le_afterAll edits (e.after t)
    have hcons : t.afterAll (e :: edits) = (e.after t).afterAll edits := rfl
    rw [hcons]
    refine ⟨Nat.le_trans hle hle', fun h => ?_⟩
    rw [hsame' (by omega), hsame (by omega)]

theorem afterAll_append (edits more : List Edit) :
    t.afterAll (edits ++ more) = (t.afterAll edits).afterAll more :=
  List.foldl_append

/-- Columns with different identifiers begin a lineage at version zero.  In each of its tables a
column is found by its identifier where it stands, and every edit makes the next version or is
refused for a reason and changes nothing.  So a version stands for one table of the lineage. -/
theorem lineage_of_columns (columns : List Column) :
    ((∃ first, ofColumns columns = .ok first) ↔ (columns.map Column.id).Nodup)
    ∧ ∀ first, ofColumns columns = .ok first → first.version = 0 ∧ ∀ edits : List Edit,
      ((first.afterAll edits).columns.map Column.id).Nodup
      ∧ (∀ i c, (first.afterAll edits).columns[i]? = some c →
          (first.afterAll edits).columnIndex? c.id = some i)
      ∧ (∀ e : Edit, e.IsAtomic (first.afterAll edits))
      ∧ ∀ more, (first.afterAll edits).version = (first.afterAll (edits ++ more)).version →
          first.afterAll edits = first.afterAll (edits ++ more) := by
  refine ⟨exists_ofColumns_iff, fun first h => ⟨(ofColumns_ok h).2.2, fun edits => ?_⟩⟩
  refine ⟨(first.afterAll edits).ids_nodup, fun i c => columnIndex?_id, Edit.isAtomic _, ?_⟩
  intro more hversion
  rw [afterAll_append] at hversion ⊢
  exact ((version_le_afterAll more (first.afterAll edits)).2 hversion.symm).symm

end Table

end Worksheet
