import Worksheet.Region

/-!
# The cells of a rectangle

The list of the cells of a region holds exactly the addresses between its corners (`mem_cells_iff`).
Cutting a region down to a grid keeps those that are inside the grid (`contains_clip_iff`), so it
depends on the size of the grid only as far as the region tells sizes apart (`clip_congr`).
-/

namespace Worksheet

namespace Region

/-- Whether an address lies between the corners of a region. -/
def Contains (r : Region) (a : Address) : Prop :=
  (r.first.row ≤ a.row ∧ a.row ≤ r.last.row) ∧ r.first.col ≤ a.col ∧ a.col ≤ r.last.col

theorem spanning_corners (r : Region) : spanning r.first r.last = r := by
  obtain ⟨⟨row, col⟩, ⟨row', col'⟩, hrow, hcol⟩ := r
  simp only at hrow hcol
  simp [spanning, Nat.min_eq_left hrow, Nat.min_eq_left hcol, Nat.max_eq_right hrow,
    Nat.max_eq_right hcol]

theorem contains_first (r : Region) : r.Contains r.first :=
  ⟨⟨Nat.le_refl _, r.row_le⟩, Nat.le_refl _, r.col_le⟩

theorem contains_cellAt {r : Region} {i : Nat} (h : i < r.size) : r.Contains (r.cellAt i) := by
  have hrow : i / r.colCount < r.rowCount := Nat.div_lt_of_lt_mul (by rwa [Nat.mul_comm])
  have hcol : i % r.colCount < r.colCount := Nat.mod_lt _ (Nat.succ_pos _)
  have hr := r.row_le
  have hc := r.col_le
  simp only [Contains, cellAt]
  generalize i / r.colCount = x at hrow
  generalize i % r.colCount = y at hcol
  simp only [rowCount, colCount] at hrow hcol
  omega

theorem mem_cells_iff {r : Region} {a : Address} : a ∈ r.cells ↔ r.Contains a := by
  simp only [cells, take, Nat.min_self, List.mem_map, List.mem_range]
  constructor
  · rintro ⟨i, hi, rfl⟩
    exact contains_cellAt hi
  · intro h
    obtain ⟨row, col⟩ := a
    obtain ⟨i, rfl⟩ := Nat.exists_eq_add_of_le h.1.1
    obtain ⟨j, rfl⟩ := Nat.exists_eq_add_of_le h.2.1
    have hi : i < r.rowCount := by
      have := h.1.2
      simp only [rowCount] at this ⊢
      omega
    have hj : j < r.colCount := by
      have := h.2.2
      simp only [colCount] at this ⊢
      omega
    refine ⟨i * r.colCount + j, ?_, ?_⟩
    · calc i * r.colCount + j < (i + 1) * r.colCount := by rw [Nat.succ_mul]; omega
        _ ≤ r.rowCount * r.colCount := Nat.mul_le_mul_right _ hi
    · have hpos : 0 < r.colCount := Nat.succ_pos _
      simp [cellAt, Nat.mul_add_div, Nat.mul_comm i, hpos, Nat.div_eq_of_lt hj,
        Nat.mod_eq_of_lt hj]

theorem contains_clip_iff {r v : Region} {rows cols : Nat} (h : r.clip rows cols = some v)
    {a : Address} : v.Contains a ↔ r.Contains a ∧ a.row < rows ∧ a.col < cols := by
  unfold clip at h
  split at h
  · simp only [Option.some.injEq] at h
    subst h
    simp only [Contains]
    omega
  · simp at h

/-- Grids that hold the same cells of a region cut it down to the same region. -/
theorem clip_congr {r : Region} {rows cols rows' cols' : Nat}
    (h : ∀ a, r.Contains a → (a.row < rows ∧ a.col < cols ↔ a.row < rows' ∧ a.col < cols')) :
    r.clip rows cols = r.clip rows' cols' := by
  have hfirst := h _ r.contains_first
  have hr := r.row_le
  have hc := r.col_le
  -- along the first column the rows of both grids end together, and along the first row the columns
  have hrows : ∀ i, r.first.row ≤ i → i ≤ r.last.row →
      (i < rows ∧ r.first.col < cols ↔ i < rows' ∧ r.first.col < cols') := fun i h1 h2 =>
    h ⟨i, r.first.col⟩ ⟨⟨h1, h2⟩, Nat.le_refl _, hc⟩
  have hcols : ∀ j, r.first.col ≤ j → j ≤ r.last.col →
      (r.first.row < rows ∧ j < cols ↔ r.first.row < rows' ∧ j < cols') := fun j h1 h2 =>
    h ⟨r.first.row, j⟩ ⟨⟨Nat.le_refl _, hr⟩, h1, h2⟩
  unfold clip
  by_cases hin : r.first.row < rows ∧ r.first.col < cols
  · have hin' := hfirst.1 hin
    rw [dif_pos hin, dif_pos hin']
    have hrow : min r.last.row (rows - 1) = min r.last.row (rows' - 1) := by
      have h1 := hrows r.last.row hr (Nat.le_refl _)
      have h2 := hrows (min r.last.row (rows - 1)) (by omega) (by omega)
      have h3 := hrows (min r.last.row (rows' - 1)) (by omega) (by omega)
      omega
    have hcol : min r.last.col (cols - 1) = min r.last.col (cols' - 1) := by
      have h1 := hcols r.last.col hc (Nat.le_refl _)
      have h2 := hcols (min r.last.col (cols - 1)) (by omega) (by omega)
      have h3 := hcols (min r.last.col (cols' - 1)) (by omega) (by omega)
      omega
    simp only [hrow, hcol]
  · rw [dif_neg hin, dif_neg fun h' => hin (hfirst.2 h')]

end Region

end Worksheet
