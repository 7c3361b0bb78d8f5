import Mathlib.Data.List.Intervals
import Worksheet.Evaluation
import Worksheet.Proofs.Edits
import Worksheet.Proofs.Rectangles

/-!
# Blocks of cells

The block that two cells span is read as one would read it cell by cell: row after row, and in each
row from column to column, passing over what is outside the table (`Table.valuesBetween`).  Cutting
the rectangle down to the table first comes to the same list, since what is inside is a rectangle
again (`Table.block_spanning`).  A list of rows that are all as wide as the block can be taken apart
again by its width alone (`chunks_flatMap`, `getElem?_flatMap`), so the block knows the shape of the
rectangle though it keeps only a list and a width.
-/

namespace Worksheet

/-! ## Lists of rows -/

section Rows

variable {α β : Type} {f : α → List β} {n : Nat}

theorem length_flatMap_of_length : ∀ {l : List α}, (∀ x ∈ l, (f x).length = n) →
    (l.flatMap f).length = l.length * n
  | [], _ => by simp
  | x :: l, h => by
    have htail := length_flatMap_of_length fun y hy => h y (List.mem_cons_of_mem x hy)
    rw [List.flatMap_cons, List.length_append, h x List.mem_cons_self, htail, List.length_cons,
      Nat.succ_mul, Nat.add_comm]

theorem getElem?_flatMap {j : Nat} (hj : j < n) : ∀ {l : List α} (i : Nat),
    (∀ x ∈ l, (f x).length = n) → (l.flatMap f)[i * n + j]? = l[i]?.bind fun x => (f x)[j]?
  | [], i, _ => by simp
  | x :: l, 0, h => by
    have hx := h x List.mem_cons_self
    rw [List.flatMap_cons, Nat.zero_mul, Nat.zero_add, List.getElem?_append_left (by omega)]
    rfl
  | x :: l, i + 1, h => by
    have hx := h x List.mem_cons_self
    have htail := getElem?_flatMap hj i fun y hy => h y (List.mem_cons_of_mem x hy)
    have hi : (i + 1) * n + j = n + (i * n + j) := by rw [Nat.succ_mul]; omega
    rw [List.flatMap_cons, List.getElem?_append_right (by omega), hx, hi, Nat.add_sub_cancel_left,
      htail]
    rfl

theorem chunks_append {u : List α} (hn : 0 < n) (hu : u.length = n) (v : List α) :
    chunks n (u ++ v) = u :: chunks n v := by
  have hcount : ((u ++ v).length + n - 1) / n = (v.length + n - 1) / n + 1 := by
    have hlength : (u ++ v).length + n - 1 = v.length + n - 1 + n := by
      rw [List.length_append]
      omega
    rw [hlength, Nat.add_div_right _ hn]
  rw [chunks, hcount, List.range_succ_eq_map, List.map_cons, List.map_map, chunks]
  congr 1
  · simp [← hu]
  · refine List.map_congr_left fun i _ => ?_
    have hdrop : (i + 1) * n = u.length + i * n := by rw [Nat.succ_mul, hu]; omega
    simp only [Function.comp_apply, Nat.succ_eq_add_one, hdrop, List.drop_append,
      Nat.add_sub_cancel_left, List.drop_eq_nil_of_le (Nat.le_add_right u.length (i * n)),
      List.nil_append]

theorem chunks_flatMap (hn : 0 < n) : ∀ {l : List α}, (∀ x ∈ l, (f x).length = n) →
    chunks n (l.flatMap f) = l.map f
  | [], _ => by simp [chunks, Nat.div_eq_of_lt (Nat.sub_lt hn Nat.one_pos)]
  | x :: l, h => by
    rw [List.flatMap_cons, chunks_append hn (h x List.mem_cons_self),
      chunks_flatMap hn fun y hy => h y (List.mem_cons_of_mem x hy), List.map_cons]

theorem flatMap_filter_of_eq_nil {p : α → Bool} : ∀ {l : List α},
    (∀ x ∈ l, p x = false → f x = []) → (l.filter p).flatMap f = l.flatMap f
  | [], _ => rfl
  | x :: l, h => by
    have htail := flatMap_filter_of_eq_nil fun y hy => h y (List.mem_cons_of_mem x hy)
    rcases hp : p x with _ | _
    · rw [List.filter_cons_of_neg (by simp [hp]), htail, List.flatMap_cons,
        h x List.mem_cons_self hp, List.nil_append]
    · rw [List.filter_cons_of_pos hp, List.flatMap_cons, List.flatMap_cons, htail]

theorem getElem?_filterMap_of_isSome {g : α → Option β} : ∀ {l : List α} (j : Nat),
    (∀ x ∈ l, (g x).isSome = true) → (l.filterMap g)[j]? = l[j]?.bind g
  | [], j, _ => by simp
  | x :: l, j, h => by
    obtain ⟨y, hy⟩ := Option.isSome_iff_exists.1 (h x List.mem_cons_self)
    rw [List.filterMap_cons_some hy]
    cases j with
    | zero => simp [hy]
    | succ j =>
      simpa using getElem?_filterMap_of_isSome j fun z hz => h z (List.mem_cons_of_mem x hz)

end Rows

/-! ## Rectangles as lists of rows -/

/-- The indices from one to another, both included, whichever of them is the smaller one. -/
def indicesBetween (i j : Nat) : List Nat :=
  List.Ico (min i j) (max i j + 1)

theorem map_range_mul {α : Type} (f : Nat → Nat → α) {n : Nat} (hn : 0 < n) : ∀ m : Nat,
    (List.range (m * n)).map (fun k => f (k / n) (k % n))
      = (List.range m).flatMap fun i => (List.range n).map (f i)
  | 0 => by simp
  | m + 1 => by
    have hlast : ∀ j ∈ List.range n, f ((m * n + j) / n) ((m * n + j) % n) = f m j := by
      intro j hj
      have hj : j < n := List.mem_range.1 hj
      rw [Nat.mul_comm m n, Nat.mul_add_div hn, Nat.div_eq_of_lt hj, Nat.mul_add_mod,
        Nat.mod_eq_of_lt hj, Nat.add_zero]
    rw [Nat.succ_mul, List.range_add, List.map_append, map_range_mul f hn m, List.map_map,
      List.range_succ, List.flatMap_append, List.flatMap_singleton]
    exact congrArg _ (List.map_congr_left hlast)

theorem Region.cells_eq_flatMap (r : Region) :
    r.cells = (List.Ico r.first.row (r.last.row + 1)).flatMap fun row =>
      (List.Ico r.first.col (r.last.col + 1)).map fun col => ⟨row, col⟩ := by
  have hrow : List.Ico r.first.row (r.last.row + 1)
      = (List.range r.rowCount).map (r.first.row + ·) := by
    have hr := r.row_le
    rw [← List.Ico.zero_bot, List.Ico.map_add, rowCount, Nat.zero_add]
    congr 1
    omega
  have hcol : List.Ico r.first.col (r.last.col + 1)
      = (List.range r.colCount).map (r.first.col + ·) := by
    have hc := r.col_le
    rw [← List.Ico.zero_bot, List.Ico.map_add, colCount, Nat.zero_add]
    congr 1
    omega
  have hcells := map_range_mul (fun i j => (⟨r.first.row + i, r.first.col + j⟩ : Address))
    (Nat.succ_pos _ : 0 < r.colCount) r.rowCount
  rw [hrow, hcol, List.flatMap_map, cells, take, Nat.min_self]
  simp only [List.map_map]
  exact hcells

/-! ## The block between two cells -/

namespace Table

variable {t : Table} {a b : Address}

/-- Whether a region has no cell inside a table. -/
def Misses (t : Table) (r : Region) : Prop :=
  ∀ a, r.Contains a → t.cell? a = none

/-- The rows between two cells that are inside a table. -/
def rowsBetween (t : Table) (a b : Address) : List Nat :=
  (indicesBetween a.row b.row).filter (· < t.rowCount)

/-- The columns between two cells that are inside a table. -/
def colsBetween (t : Table) (a b : Address) : List Nat :=
  (indicesBetween a.col b.col).filter (· < t.colCount)

/-- The values of a row between two cells, from column to column, as far as they are inside. -/
def rowValues (t : Table) (a b : Address) (row : Nat) : List Value :=
  (indicesBetween a.col b.col).filterMap fun col => t.value? ⟨row, col⟩

/-- The values between two cells, row by row, as far as they are inside. -/
def valuesBetween (t : Table) (a b : Address) : List Value :=
  (indicesBetween a.row b.row).flatMap (t.rowValues a b)

theorem isSome_value?_iff {c : Address} :
    (t.value? c).isSome = true ↔ c.row < t.rowCount ∧ c.col < t.colCount := by
  have hnone := t.cell?_eq_none_iff (a := c)
  rw [value?, Option.isSome_map, Option.isSome_iff_ne_none, ne_eq, hnone]
  omega

theorem value?_eq_none {c : Address} (h : ¬ (c.row < t.rowCount ∧ c.col < t.colCount)) :
    t.value? c = none := by
  rw [← Option.not_isSome_iff_eq_none, isSome_value?_iff]
  exact h

/-! ### Rows and columns inside -/

theorem rowsBetween_eq_Ico :
    t.rowsBetween a b = List.Ico (min a.row b.row) (min (max a.row b.row + 1) t.rowCount) :=
  List.Ico.filter_lt _ _ _

theorem colsBetween_eq_Ico :
    t.colsBetween a b = List.Ico (min a.col b.col) (min (max a.col b.col + 1) t.colCount) :=
  List.Ico.filter_lt _ _ _

theorem getElem?_Ico {m n : Nat} (i : Nat) :
    (List.Ico m n)[i]? = if m + i < n then some (m + i) else none := by
  rw [List.Ico]
  split_ifs with hi
  · rw [List.getElem?_range' (by omega), Nat.one_mul]
  · rw [List.getElem?_eq_none]
    rw [List.length_range']
    omega

theorem rowValues_eq_nil {row : Nat} (h : t.rowCount ≤ row) : t.rowValues a b row = [] := by
  refine List.filterMap_eq_nil_iff.2 fun col _ => value?_eq_none fun hin => ?_
  exact absurd hin.1 (Nat.not_lt.2 h)

theorem filterMap_colsBetween (row : Nat) :
    (t.colsBetween a b).filterMap (fun col => t.value? ⟨row, col⟩) = t.rowValues a b row := by
  rw [colsBetween, List.filterMap_filter, rowValues]
  refine List.filterMap_congr fun col _ => ?_
  split_ifs with hcol
  · rfl
  · exact (value?_eq_none fun hin => hcol (by simpa using hin.2)).symm

theorem getElem?_rowValues {row : Nat} (hrow : row < t.rowCount) (j : Nat) :
    (t.rowValues a b row)[j]?
      = if min a.col b.col + j ≤ max a.col b.col then t.value? ⟨row, min a.col b.col + j⟩
        else none := by
  have hsome : ∀ col ∈ t.colsBetween a b, (t.value? ⟨row, col⟩).isSome = true := by
    intro col hcol
    rw [colsBetween, List.mem_filter] at hcol
    exact isSome_value?_iff.2 ⟨hrow, by simpa using hcol.2⟩
  rw [← filterMap_colsBetween, getElem?_filterMap_of_isSome j hsome, colsBetween_eq_Ico,
    getElem?_Ico]
  by_cases hmax : min a.col b.col + j ≤ max a.col b.col
  · rw [if_pos hmax]
    split_ifs with hin
    · rfl
    · refine (value?_eq_none fun h => hin ?_).symm
      have hcol : min a.col b.col + j < t.colCount := h.2
      omega
  · rw [if_neg hmax, if_neg (by omega)]
    rfl

theorem length_rowValues {row : Nat} (hrow : row < t.rowCount) :
    (t.rowValues a b row).length = (t.colsBetween a b).length := by
  rw [← filterMap_colsBetween, List.length_filterMap_eq_countP, List.countP_eq_length]
  intro col hcol
  rw [colsBetween, List.mem_filter] at hcol
  exact isSome_value?_iff.2 ⟨hrow, by simpa using hcol.2⟩

theorem length_of_mem_rowsBetween :
    ∀ row ∈ t.rowsBetween a b, (t.rowValues a b row).length = (t.colsBetween a b).length := by
  intro row hrow
  rw [rowsBetween, List.mem_filter] at hrow
  exact length_rowValues (by simpa using hrow.2)

theorem flatMap_rowsBetween : (t.rowsBetween a b).flatMap (t.rowValues a b) = t.valuesBetween a b :=
  flatMap_filter_of_eq_nil fun row _ hrow => rowValues_eq_nil (by simpa using hrow)

/-- The values between two cells by their offsets from the top left one. -/
theorem valuesBetween_eq_flatMap_range : t.valuesBetween a b
    = (List.range (t.rowsBetween a b).length).flatMap fun i =>
        (List.range (t.colsBetween a b).length).map fun j =>
          (t.value? ⟨min a.row b.row + i, min a.col b.col + j⟩).getD .empty := by
  have hIco : ∀ m n, List.Ico m n = (List.range (List.Ico m n).length).map (m + ·) := by
    intro m n
    rw [List.Ico.length, List.Ico, List.range'_eq_map_range]
  have hrows : ∀ row ∈ t.rowsBetween a b, t.rowValues a b row
      = (t.colsBetween a b).map fun col => (t.value? ⟨row, col⟩).getD .empty := by
    intro row hrow
    rw [rowsBetween, List.mem_filter] at hrow
    rw [← filterMap_colsBetween, ← List.filterMap_eq_map]
    refine List.filterMap_congr fun col hcol => ?_
    rw [colsBetween, List.mem_filter] at hcol
    have hsome : (t.value? ⟨row, col⟩).isSome = true :=
      isSome_value?_iff.2 ⟨by simpa using hrow.2, by simpa using hcol.2⟩
    obtain ⟨v, hv⟩ := Option.isSome_iff_exists.1 hsome
    simp [hv]
  rw [← flatMap_rowsBetween, List.flatMap_congr hrows]
  rw [rowsBetween_eq_Ico, colsBetween_eq_Ico, hIco (min a.row b.row), hIco (min a.col b.col)]
  simp [List.flatMap_map]
  rfl

/-! ### Reading a block -/

theorem clip_eq_none_iff {r : Region} : r.clip t.rowCount t.colCount = none ↔ t.Misses r := by
  unfold Region.clip
  split_ifs with hin
  · simp only [false_iff]
    intro hmiss
    have hout := t.cell?_eq_none_iff.1 (hmiss _ r.contains_first)
    omega
  · simp only [true_iff]
    intro c hc
    obtain ⟨⟨hrow, -⟩, hcol, -⟩ := hc
    exact t.cell?_eq_none_iff.2 (by omega)

theorem block_of_misses {r : Region} (h : t.Misses r) : t.block r = .block 0 [] := by
  rw [block, clip_eq_none_iff.2 h]

theorem values_block_eq_nil_iff {r : Region} : (t.block r).values = [] ↔ t.Misses r := by
  refine ⟨fun h => ?_, fun h => by rw [block_of_misses h]; rfl⟩
  unfold block at h
  split at h
  · rename_i hclip
    exact clip_eq_none_iff.1 hclip
  · rename_i v hclip
    have hin := (Region.contains_clip_iff hclip).1 v.contains_first
    have hnone := List.filterMap_eq_nil_iff.1 h _ (Region.mem_cells_iff.2 v.contains_first)
    have hsome := isSome_value?_iff.2 hin.2
    rw [hnone] at hsome
    cases hsome

/-- What is inside the table is a rectangle again. -/
theorem cells_clip {v : Region} (h : (Region.spanning a b).clip t.rowCount t.colCount = some v) :
    v.cells = (t.rowsBetween a b).flatMap fun row =>
        (t.colsBetween a b).map fun col => ⟨row, col⟩ := by
  unfold Region.clip at h
  split_ifs at h with hin
  cases h
  have hrows : min (max a.row b.row) (t.rowCount - 1) + 1
      = min (max a.row b.row + 1) t.rowCount := by omega
  have hcols : min (max a.col b.col) (t.colCount - 1) + 1
      = min (max a.col b.col + 1) t.colCount := by omega
  rw [Region.cells_eq_flatMap, rowsBetween_eq_Ico, colsBetween_eq_Ico, ← hrows, ← hcols]
  rfl

theorem block_of_not_misses (h : ¬ t.Misses (.spanning a b)) :
    t.block (.spanning a b) = .block (t.colsBetween a b).length (t.valuesBetween a b) := by
  obtain ⟨v, hv⟩ := Option.ne_none_iff_exists'.1 fun hnone => h (clip_eq_none_iff.1 hnone)
  have hvalues : v.cells.filterMap t.value? = t.valuesBetween a b := by
    rw [cells_clip hv, List.filterMap_flatMap, ← flatMap_rowsBetween]
    refine List.flatMap_congr fun row _ => ?_
    rw [List.filterMap_map, ← filterMap_colsBetween]
    rfl
  have hwidth : v.colCount = (t.colsBetween a b).length := by
    unfold Region.clip at hv
    split_ifs at hv with hin
    cases hv
    have hcol : min a.col b.col ≤ max a.col b.col := by omega
    rw [colsBetween_eq_Ico, List.Ico.length]
    simp only [Region.colCount, Region.spanning] at hin ⊢
    omega
  rw [block, hv]
  simp only [hvalues, hwidth]

/-- A rectangle misses a table if none of its rows or none of its columns is inside. -/
theorem misses_spanning_iff :
    t.Misses (.spanning a b) ↔ t.rowsBetween a b = [] ∨ t.colsBetween a b = [] := by
  rw [rowsBetween_eq_Ico, colsBetween_eq_Ico, List.Ico.eq_empty_iff, List.Ico.eq_empty_iff,
    ← clip_eq_none_iff]
  unfold Region.clip
  split_ifs with hin
  all_goals
    simp only [Region.spanning] at hin
    simp only [false_iff, true_iff]
    omega

/-- What the block between two cells of a table is, whichever corners of the rectangle they are. -/
structure IsBlockBetween (t : Table) (a b : Address) (block : Argument) : Prop where
  isBlock : block.isBlock = true
  values : block.values = t.valuesBetween a b
  width : ¬ t.Misses (.spanning a b) → block.width = (t.colsBetween a b).length
  width_of_misses : t.Misses (.spanning a b) → block.width = 0
  length : block.values.length = block.width * (t.rowsBetween a b).length
  get? : ∀ i j, block.get? i j
    = if min a.row b.row + i ≤ max a.row b.row ∧ min a.col b.col + j ≤ max a.col b.col then
        t.value? ⟨min a.row b.row + i, min a.col b.col + j⟩
      else none
  get?_of_width_le : ∀ i j, block.width ≤ j → block.get? i j = none
  colCount : block.colCount = block.width
  rowCount : block.rowCount = if block.width = 0 then 0 else (t.rowsBetween a b).length
  rows : block.rows = if block.width = 0 then [] else (t.rowsBetween a b).map (t.rowValues a b)

theorem valuesBetween_of_misses (h : t.Misses (.spanning a b)) : t.valuesBetween a b = [] := by
  rw [← flatMap_rowsBetween]
  rcases misses_spanning_iff.1 h with hrows | hcols
  · rw [hrows, List.flatMap_nil]
  · refine List.flatMap_eq_nil_iff.2 fun row _ => ?_
    rw [← filterMap_colsBetween, hcols, List.filterMap_nil]

theorem isBlockBetween_of_misses (h : t.Misses (.spanning a b)) :
    t.IsBlockBetween a b (.block 0 []) where
  isBlock := rfl
  values := (valuesBetween_of_misses h).symm
  width := fun hnot => absurd h hnot
  width_of_misses := fun _ => rfl
  length := (Nat.zero_mul _).symm
  get? := by
    intro i j
    have hnone : (Argument.block 0 []).get? i j = none := rfl
    rw [hnone]
    split_ifs with hin
    · have hcell := h ⟨min a.row b.row + i, min a.col b.col + j⟩
        ⟨⟨Nat.le_add_right _ _, hin.1⟩, Nat.le_add_right _ _, hin.2⟩
      rw [value?, hcell, Option.map_none]
    · rfl
  get?_of_width_le := fun _ _ _ => rfl
  colCount := rfl
  rowCount := rfl
  rows := rfl

theorem value?_eq_none_of_length_le {row j : Nat} (hne : t.colsBetween a b ≠ [])
    (hj : (t.colsBetween a b).length ≤ j) (hmax : min a.col b.col + j ≤ max a.col b.col) :
    t.value? ⟨row, min a.col b.col + j⟩ = none := by
  refine value?_eq_none fun hin => ?_
  rw [colsBetween_eq_Ico, ne_eq, List.Ico.eq_empty_iff] at hne
  rw [colsBetween_eq_Ico, List.Ico.length] at hj
  have hcol : min a.col b.col + j < t.colCount := hin.2
  omega

theorem getElem?_valuesBetween {i j : Nat} (hj : j < (t.colsBetween a b).length) :
    (t.valuesBetween a b)[i * (t.colsBetween a b).length + j]?
      = if min a.row b.row + i ≤ max a.row b.row ∧ min a.col b.col + j ≤ max a.col b.col then
          t.value? ⟨min a.row b.row + i, min a.col b.col + j⟩
        else none := by
  rw [← flatMap_rowsBetween, getElem?_flatMap hj i length_of_mem_rowsBetween, rowsBetween_eq_Ico,
    getElem?_Ico]
  split_ifs with hrow hin hin
  · rw [Option.bind_some, getElem?_rowValues (by omega), if_pos hin.2]
  · rw [Option.bind_some, getElem?_rowValues (by omega), if_neg fun hcol => hin ⟨by omega, hcol⟩]
  · -- the row is in the rectangle but below the table
    have hout : ¬ min a.row b.row + i < t.rowCount := by omega
    rw [Option.bind_none, value?_eq_none fun h => hout h.1]
  · rfl

theorem isBlockBetween_of_not_misses (h : ¬ t.Misses (.spanning a b)) :
    t.IsBlockBetween a b (.block (t.colsBetween a b).length (t.valuesBetween a b)) := by
  have hlength : (t.valuesBetween a b).length
      = (t.rowsBetween a b).length * (t.colsBetween a b).length := by
    rw [← flatMap_rowsBetween, length_flatMap_of_length length_of_mem_rowsBetween]
  obtain ⟨hrows, hcols⟩ := not_or.1 (misses_spanning_iff.not.1 h)
  have hheight : 0 < (t.rowsBetween a b).length := List.length_pos_iff.2 hrows
  have hwidth : 0 < (t.colsBetween a b).length := List.length_pos_iff.2 hcols
  have hne : t.valuesBetween a b ≠ [] := by
    rw [← List.length_pos_iff, hlength]
    exact Nat.mul_pos hheight hwidth
  have hcolCount : (Argument.block (t.colsBetween a b).length (t.valuesBetween a b)).colCount
      = (t.colsBetween a b).length := if_neg hne
  have hpos : (Argument.block (t.colsBetween a b).length (t.valuesBetween a b)).width ≠ 0 :=
    Nat.ne_of_gt hwidth
  refine ⟨rfl, rfl, fun _ => rfl, fun hmiss => absurd hmiss h, ?_, fun i j => ?_, fun i j hj => ?_,
    hcolCount, ?_, ?_⟩
  · rw [Nat.mul_comm]
    exact hlength
  · rw [Argument.get?, hcolCount]
    split_ifs with hj hin hin
    · exact (value?_eq_none_of_length_le hcols hj hin.2).symm
    · rfl
    · exact (getElem?_valuesBetween (Nat.not_le.1 hj)).trans (if_pos hin)
    · exact (getElem?_valuesBetween (Nat.not_le.1 hj)).trans (if_neg hin)
  · rw [Argument.get?, hcolCount]
    exact if_pos hj
  · rw [Argument.rowCount, hcolCount, if_neg hpos]
    exact Nat.div_eq_of_eq_mul_left hwidth hlength
  · rw [if_neg hpos, Argument.rows]
    have hmax : max (t.colsBetween a b).length 1 = (t.colsBetween a b).length := by omega
    simp only [Argument.width, Argument.values, hmax]
    rw [← flatMap_rowsBetween, chunks_flatMap hwidth length_of_mem_rowsBetween]

/-- A block is the rectangle between its two cells as far as that is inside the table: the same
values in the same order, as wide as there are columns inside, with every cell in its place. -/
theorem block_spanning (t : Table) (a b : Address) :
    t.IsBlockBetween a b (t.block (.spanning a b)) := by
  by_cases h : t.Misses (.spanning a b)
  · rw [block_of_misses h]
    exact isBlockBetween_of_misses h
  · rw [block_of_not_misses h]
    exact isBlockBetween_of_not_misses h

end Table

end Worksheet
