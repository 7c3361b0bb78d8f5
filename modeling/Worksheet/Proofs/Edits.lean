import Mathlib.Tactic.SplitIfs
import Worksheet.Table

/-!
# What edits do and leave alone

An edit that succeeds raises the version by one (`version_setAt`, `version_edit`), and it stores at
most one cell: every other position reads what it read before (`cell?_setAt_of_ne`).  A row or a
column added at the end leaves alone whatever was inside the table (`cell?_pushRow_of_some`,
`cell?_addColumn_of_some`).
-/

namespace Worksheet

namespace Table

variable {t t' : Table}

/-! ## Inside and outside -/

theorem cell?_eq_none_iff {a : Address} :
    t.cell? a = none ↔ t.rowCount ≤ a.row ∨ t.colCount ≤ a.col := by
  unfold cell? rowCount colCount
  rcases hc : t.columns[a.col]? with _ | column
  · simpa using Or.inr (List.getElem?_eq_none_iff.1 hc)
  · have hcol := (List.getElem?_eq_some_iff.1 hc).1
    rcases hr : t.rows[a.row]? with _ | row
    · simpa using Or.inl (List.getElem?_eq_none_iff.1 hr)
    · have hrow := (List.getElem?_eq_some_iff.1 hr).1
      simp only [reduceCtorEq, false_iff]
      omega

theorem exists_of_cell? {a : Address} {cell : Cell} (h : t.cell? a = some cell) :
    ∃ column row, t.columns[a.col]? = some column ∧ t.rows[a.row]? = some row
      ∧ cell = (row.get? column.id).getD .blank := by
  unfold cell? at h
  split at h
  · rename_i column row hc hr
    exact ⟨column, row, hc, hr, (Option.some.inj h).symm⟩
  · simp at h

/-- Two positions of a table hold different identifiers. -/
theorem id_ne_of_ne {i j : Nat} {c d : Column} (hc : t.columns[i]? = some c)
    (hd : t.columns[j]? = some d) (h : i ≠ j) : c.id ≠ d.id := by
  intro he
  have hi : (t.columns.map Column.id)[i]? = some c.id := by simp [hc]
  have hj : (t.columns.map Column.id)[j]? = some c.id := by simp [hd, he]
  have hlt : i < (t.columns.map Column.id).length := (List.getElem?_eq_some_iff.1 hi).1
  exact h ((List.getElem?_inj hlt t.ids_nodup).1 (hi.trans hj.symm))

/-! ## What an edit comes to -/

theorem addColumn_ok {c : Column} (h : t.addColumn c = .ok t') :
    t'.columns = t.columns ++ [c] ∧ t'.rows = t.rows ∧ t'.version = t.version + 1 := by
  unfold addColumn at h
  split at h
  · simp at h
  · simp only [Except.ok.injEq] at h
    subst h
    exact ⟨rfl, rfl, rfl⟩

theorem setAt_ok {row col : Nat} {cell : Cell} (h : t.setAt row col cell = .ok t') :
    ∃ column r, t.columns[col]? = some column ∧ t.rows[row]? = some r
      ∧ t' = { t with
        rows := t.rows.set row (r.set column.id cell), version := t.version + 1 } := by
  unfold setAt at h
  split at h
  · simp at h
  · rename_i column hc
    split at h
    · simp at h
    · rename_i r hr
      exact ⟨column, r, hc, hr, (Except.ok.inj h).symm⟩

theorem setNamed_ok {name : String} {cell : Cell} (h : t.setNamed name cell = .ok t') :
    ∃ a, Address.parse name = .ok a ∧ t.setAt a.row a.col cell = .ok t' := by
  unfold setNamed at h
  rcases ha : Address.parse name with e | a <;> rw [ha] at h
  · simp [Except.mapError, bind, Except.bind] at h
  · exact ⟨a, rfl, h⟩

theorem edit_ok {row : Nat} {id : String} {cell : Cell} (h : t.edit row id cell = .ok t') :
    ∃ col, t.columnIndex? id = some col ∧ t.setAt row col cell = .ok t' := by
  unfold edit at h
  split at h
  · simp at h
  · rename_i col hc
    split_ifs at h
    exact ⟨col, hc, h⟩

theorem version_setAt {row col : Nat} {cell : Cell} (h : t.setAt row col cell = .ok t') :
    t'.version = t.version + 1 := by
  obtain ⟨_, _, _, _, rfl⟩ := setAt_ok h
  rfl

theorem version_setNamed {name : String} {cell : Cell} (h : t.setNamed name cell = .ok t') :
    t'.version = t.version + 1 := by
  obtain ⟨_, _, h⟩ := setNamed_ok h
  exact version_setAt h

theorem version_edit {row : Nat} {id : String} {cell : Cell} (h : t.edit row id cell = .ok t') :
    t'.version = t.version + 1 := by
  obtain ⟨_, _, h⟩ := edit_ok h
  exact version_setAt h

/-! ## Frames -/

/-- Storing a cell leaves every other position alone. -/
theorem cell?_setAt_of_ne {row col : Nat} {cell : Cell} (h : t.setAt row col cell = .ok t')
    {a : Address} (ha : a ≠ ⟨row, col⟩) : t'.cell? a = t.cell? a := by
  obtain ⟨column, r, hc, hr, rfl⟩ := setAt_ok h
  unfold cell?
  rcases hd : t.columns[a.col]? with _ | d
  · rfl
  · by_cases hrow : a.row = row
    · have hcol : a.col ≠ col := by
        rintro rfl
        exact ha (by rw [← hrow])
      obtain ⟨hlt, rfl⟩ := List.getElem?_eq_some_iff.1 hr
      have hid := id_ne_of_ne hd hc hcol
      simp [hrow, hlt, Row.get?_set_of_ne _ cell hid]
    · simp [List.getElem?_set_ne (Ne.symm hrow)]

theorem cell?_pushRow_of_some {a : Address} {cell : Cell} (row : Row)
    (h : t.cell? a = some cell) : (t.pushRow row).cell? a = some cell := by
  obtain ⟨column, r, hc, hr, rfl⟩ := exists_of_cell? h
  have hlt : a.row < t.rows.length := (List.getElem?_eq_some_iff.1 hr).1
  simp [cell?, pushRow, hc, List.getElem?_append_left hlt, hr]

theorem cell?_addColumn_of_some {a : Address} {cell : Cell} {c : Column}
    (hadd : t.addColumn c = .ok t') (h : t.cell? a = some cell) : t'.cell? a = some cell := by
  obtain ⟨column, r, hc, hr, rfl⟩ := exists_of_cell? h
  obtain ⟨hcols, hrows, -⟩ := addColumn_ok hadd
  have hlt : a.col < t.columns.length := (List.getElem?_eq_some_iff.1 hc).1
  simp [cell?, hcols, hrows, List.getElem?_append_left hlt, hc, hr]

end Table

end Worksheet
