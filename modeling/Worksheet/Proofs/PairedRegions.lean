import Mathlib.Data.List.Nodup
import Worksheet.Proofs.Blocks
import Worksheet.Proofs.Failures

/-!
# Regions in pairs

`SUMIF` and `AVERAGEIF` test the cells of one region and take the numbers of another.  Each region
is cut down to the table by itself and read as a list, and the two lists are paired by index
(`PairedRegions.byIndex`).  For regions of the same size this comes to pairing the cells by their
places in the rectangles (`PairedRegions.byPlace`) unless both reach into the table with rows of
different lengths and the one with the shorter rows has a second row there: that row is paired with
the end of a longer one (`pairsByPlace_iff`).
-/

namespace Worksheet

open Functions

/-! ## Lists in step -/

section Steps

variable {m n m' n' : Nat}

/-- Whether a list of `m` rows of `n` items starts its second row next to the first row of a list of
`m'` rows of `n'` items. -/
def Outruns (m n m' n' : Nat) : Prop :=
  0 < n ∧ n < n' ∧ 1 < m ∧ 0 < m'

/-- Whether two lists of rows, paired by index, get out of step. -/
def OutOfStep (m n m' n' : Nat) : Prop :=
  Outruns m n m' n' ∨ Outruns m' n' m n

instance : Decidable (Outruns m n m' n') :=
  inferInstanceAs (Decidable (0 < n ∧ n < n' ∧ 1 < m ∧ 0 < m'))

instance : Decidable (OutOfStep m n m' n') :=
  inferInstanceAs (Decidable (Outruns m n m' n' ∨ Outruns m' n' m n))

/-- The first item of the second row is next to one of the first row. -/
theorem Outruns.second (h : Outruns m n m' n') :
    n < min (m * n) (m' * n') ∧ n / n = 1 ∧ n / n' = 0 := by
  obtain ⟨hpos, hlt, hrows, hrows'⟩ := h
  refine ⟨Nat.lt_min.2 ⟨?_, ?_⟩, Nat.div_self hpos, Nat.div_eq_of_lt hlt⟩
  · calc n < 2 * n := by omega
      _ ≤ m * n := Nat.mul_le_mul_right n hrows
  · calc n < 1 * n' := by omega
      _ ≤ m' * n' := Nat.mul_le_mul_right n' hrows'

theorem OutOfStep.exists_div_ne (h : OutOfStep m n m' n') :
    ∃ k < min (m * n) (m' * n'), k / n ≠ k / n' := by
  rcases h with h | h
  · obtain ⟨hlt, hself, hother⟩ := h.second
    exact ⟨n, hlt, by omega⟩
  · obtain ⟨hlt, hself, hother⟩ := h.second
    exact ⟨n', by rwa [min_comm], by omega⟩

/-- Before longer rows, rows in step are at most one. -/
theorem inStep_of_lt (h : ¬ Outruns m n m' n') (hlt : n < n') :
    min (m * n) (m' * n') = min m m' * n ∧ ∀ k < min m m' * n, k / n = k / n' ∧ k % n = k % n' := by
  unfold Outruns at h
  -- if either list is empty there is nothing to compare
  rcases Nat.eq_zero_or_pos n with rfl | hpos
  · simp
  rcases Nat.eq_zero_or_pos m' with rfl | hrows'
  · simp
  have hrows : m ≤ 1 := by omega
  have hle : n' ≤ m' * n' := Nat.le_mul_of_pos_left n' hrows'
  rcases Nat.le_one_iff_eq_zero_or_eq_one.1 hrows with rfl | rfl
  · simp
  · have hone : min 1 m' = 1 := Nat.min_eq_left hrows'
    rw [hone, Nat.one_mul]
    refine ⟨Nat.min_eq_left (by omega), fun k hk => ?_⟩
    rw [Nat.div_eq_of_lt hk, Nat.div_eq_of_lt (hk.trans hlt), Nat.mod_eq_of_lt hk,
      Nat.mod_eq_of_lt (hk.trans hlt)]
    exact ⟨rfl, rfl⟩

/-- Lists in step are one list of rows. -/
theorem inStep_of_not_outOfStep (h : ¬ OutOfStep m n m' n') :
    min (m * n) (m' * n') = min m m' * min n n'
      ∧ ∀ k < min m m' * min n n', (k / n = k / min n n' ∧ k % n = k % min n n')
        ∧ k / n' = k / min n n' ∧ k % n' = k % min n n' := by
  obtain ⟨h, h'⟩ := not_or.1 h
  rcases Nat.lt_trichotomy n n' with hlt | rfl | hlt
  · obtain ⟨hsize, hstep⟩ := inStep_of_lt h hlt
    rw [Nat.min_eq_left hlt.le]
    exact ⟨hsize, fun k hk => ⟨⟨rfl, rfl⟩, (hstep k hk).1.symm, (hstep k hk).2.symm⟩⟩
  · rw [Nat.min_self]
    exact ⟨Nat.mul_min_mul_right m m' n, fun k _ => ⟨⟨rfl, rfl⟩, rfl, rfl⟩⟩
  · obtain ⟨hsize, hstep⟩ := inStep_of_lt h' hlt
    rw [Nat.min_eq_right hlt.le, Nat.min_comm m m', Nat.min_comm (m * n)]
    exact ⟨hsize, fun k hk => ⟨⟨(hstep k hk).1.symm, (hstep k hk).2.symm⟩, rfl, rfl⟩⟩

end Steps

section Ranges

variable {α β : Type}

theorem flatMap_range_mul (f : Nat → Nat → List α) (m n : Nat) :
    (List.range (m * n)).flatMap (fun k => f (k / n) (k % n))
      = (List.range m).flatMap fun i => (List.range n).flatMap (f i) := by
  rcases Nat.eq_zero_or_pos n with rfl | hn
  · simp
  · have hrows := congrArg List.flatten (map_range_mul f hn m)
    simpa only [List.flatMap_def, List.flatten_flatten, List.map_map, Function.comp_def] using hrows

theorem flatMap_range_of_le {f : Nat → List α} {m n : Nat} (h : m ≤ n)
    (hout : ∀ i, m ≤ i → i < n → f i = []) :
    (List.range n).flatMap f = (List.range m).flatMap f := by
  obtain ⟨d, rfl⟩ := Nat.exists_eq_add_of_le h
  have htail : ((List.range d).map (m + ·)).flatMap f = [] := by
    simp only [List.flatMap_eq_nil_iff, List.mem_map, List.mem_range]
    rintro x ⟨i, hi, rfl⟩
    exact hout _ (Nat.le_add_right m i) (by omega)
  rw [List.range_add, List.flatMap_append, htail, List.append_nil]

theorem zip_map_range (f : Nat → α) (g : Nat → β) (m n : Nat) :
    ((List.range m).map f).zip ((List.range n).map g)
      = (List.range (min m n)).map fun k => (f k, g k) := by
  refine List.ext_getElem (by simp) fun k hk hk' => ?_
  simp

theorem filterMap_range_singleton {f : Nat → Option α} {x : α} {k : Nat} (hk : f k = some x)
    (h : ∀ i, i ≠ k → f i = none) {n : Nat} (hlt : k < n) : (List.range n).filterMap f = [x] := by
  obtain ⟨d, rfl⟩ := Nat.exists_eq_add_of_lt hlt
  have hbefore : (List.range k).filterMap f = [] := by
    refine List.filterMap_eq_nil_iff.2 fun i hi => h i ?_
    have hi := List.mem_range.1 hi
    omega
  have hafter : ((List.range d).map (k + 1 + ·)).filterMap f = [] := by
    simp only [List.filterMap_eq_nil_iff, List.mem_map]
    rintro x ⟨i, -, rfl⟩
    exact h _ (by omega)
  rw [Nat.add_right_comm, List.range_add, List.range_succ, List.filterMap_append,
    List.filterMap_append, hbefore, hafter, List.filterMap_cons_some hk]
  rfl

end Ranges

/-! ## Places in a region -/

namespace Region

/-- The cell so many rows below and so many columns after the first one. -/
def offset (r : Region) (i j : Nat) : Address :=
  ⟨r.first.row + i, r.first.col + j⟩

/-- The number of rows of a region inside a grid of so many rows. -/
def rowsInside (r : Region) (rows : Nat) : Nat :=
  min (r.last.row + 1) rows - r.first.row

/-- The number of columns of a region inside a grid of so many columns. -/
def colsInside (r : Region) (cols : Nat) : Nat :=
  min (r.last.col + 1) cols - r.first.col

/-- The cell at an index among those inside a grid, row by row. -/
def insideAt (r : Region) (cols k : Nat) : Address :=
  r.offset (k / r.colsInside cols) (k % r.colsInside cols)

variable {r : Region} {t : Table}

theorem isSome_value?_offset_iff {i j : Nat} (hi : i < r.rowCount) (hj : j < r.colCount) :
    (t.value? (r.offset i j)).isSome = true
      ↔ i < r.rowsInside t.rowCount ∧ j < r.colsInside t.colCount := by
  have hrow := r.row_le
  have hcol := r.col_le
  rw [rowCount] at hi
  rw [colCount] at hj
  simp only [Table.isSome_value?_iff, offset, rowsInside, colsInside]
  omega

theorem offset_inside {i j rows cols : Nat} (hi : i < r.rowsInside rows)
    (hj : j < r.colsInside cols) :
    (r.offset i j).row < rows ∧ (r.offset i j).col < cols := by
  simp only [offset, rowsInside, colsInside] at hi hj ⊢
  omega

theorem insideAt_inside {k rows cols : Nat} (hk : k < r.rowsInside rows * r.colsInside cols) :
    (r.insideAt cols k).row < rows ∧ (r.insideAt cols k).col < cols := by
  have hpos : 0 < r.colsInside cols := Nat.pos_of_mul_pos_left (Nat.zero_lt_of_lt hk)
  exact offset_inside (Nat.div_lt_of_lt_mul (by rwa [Nat.mul_comm])) (Nat.mod_lt k hpos)

theorem insideAt_injective {i k cols : Nat} (h : r.insideAt cols i = r.insideAt cols k) :
    i = k := by
  have hrow := congrArg Address.row h
  have hcol := congrArg Address.col h
  simp only [insideAt, offset, Nat.add_left_cancel_iff] at hrow hcol
  rw [← Nat.div_add_mod i (r.colsInside cols), hrow, hcol, Nat.div_add_mod]

theorem values_block (r : Region) (t : Table) : (t.block r).values
    = (List.range (r.rowsInside t.rowCount * r.colsInside t.colCount)).map fun k =>
        (t.value? (r.insideAt t.colCount k)).getD .empty := by
  have hblock := t.block_spanning r.first r.last
  have hrows : (t.rowsBetween r.first r.last).length = r.rowsInside t.rowCount := by
    rw [Table.rowsBetween_eq_Ico, List.Ico.length, Nat.min_eq_left r.row_le,
      Nat.max_eq_right r.row_le, rowsInside]
  have hcols : (t.colsBetween r.first r.last).length = r.colsInside t.colCount := by
    rw [Table.colsBetween_eq_Ico, List.Ico.length, Nat.min_eq_left r.col_le,
      Nat.max_eq_right r.col_le, colsInside]
  rw [r.spanning_corners] at hblock
  rw [hblock.values, Table.valuesBetween_eq_flatMap_range, hrows, hcols, Nat.min_eq_left r.row_le,
    Nat.min_eq_left r.col_le]
  rcases Nat.eq_zero_or_pos (r.colsInside t.colCount) with hzero | hpos
  · simp [hzero]
  · exact (map_range_mul _ hpos _).symm

end Region

/-! ## Numbers of pairs -/

/-- The number that a pair of cells gives: that of the second cell, if both are inside the table and
the criterion selects the value of the first one. -/
def Table.pairedNumber? (t : Table) (c : Criterion) (a b : Address) : Option Float :=
  match t.value? a, t.value? b with
  | some v, some w => if c.selects v then exactNumber? w else none
  | _, _ => none

/-- The criterion that an expression stands for. -/
def Expression.criterion (t : Table) (now : Moment) (e : Expression) : Criterion :=
  .ofValue (e.evaluate t now).toScalar

/-- A region whose cells are tested and one of the same size whose numbers are taken. -/
structure PairedRegions where
  tested : Region
  summed : Region
  rowCount_eq : tested.rowCount = summed.rowCount
  colCount_eq : tested.colCount = summed.colCount

namespace PairedRegions

variable {p : PairedRegions} {t : Table} {c : Criterion} {rows cols : Nat}

/-- The numbers of the pairs of cells at the same place of either region, row by row. -/
def byPlace (p : PairedRegions) (t : Table) (c : Criterion) : List Float :=
  (List.range p.tested.rowCount).flatMap fun i =>
    (List.range p.tested.colCount).filterMap fun j =>
      t.pairedNumber? c (p.tested.offset i j) (p.summed.offset i j)

/-- The numbers of the pairs of cells at the same index among those inside the table. -/
def byIndex (p : PairedRegions) (t : Table) (c : Criterion) : List Float :=
  let tested := p.tested.rowsInside t.rowCount * p.tested.colsInside t.colCount
  let summed := p.summed.rowsInside t.rowCount * p.summed.colsInside t.colCount
  (List.range (min tested summed)).filterMap fun k =>
    t.pairedNumber? c (p.tested.insideAt t.colCount k) (p.summed.insideAt t.colCount k)

/-- Whether the cells inside a grid, row by row, get out of step. -/
def IsOutOfStep (p : PairedRegions) (rows cols : Nat) : Prop :=
  OutOfStep (p.tested.rowsInside rows) (p.tested.colsInside cols) (p.summed.rowsInside rows)
    (p.summed.colsInside cols)

instance : Decidable (p.IsOutOfStep rows cols) :=
  inferInstanceAs (Decidable (OutOfStep _ _ _ _))

theorem selected_eq_byIndex (p : PairedRegions) (t : Table) (c : Criterion) :
    selected c (t.block p.tested).values (t.block p.summed).values = p.byIndex t c := by
  rw [selected, p.tested.values_block, p.summed.values_block, zip_map_range, List.filterMap_map,
    byIndex]
  refine List.filterMap_congr fun k hk => ?_
  obtain ⟨hk, hk'⟩ := Nat.lt_min.1 (List.mem_range.1 hk)
  have hsome := Table.isSome_value?_iff.2 (Region.insideAt_inside hk)
  have hsome' := Table.isSome_value?_iff.2 (Region.insideAt_inside hk')
  obtain ⟨v, hv⟩ := Option.isSome_iff_exists.1 hsome
  obtain ⟨w, hw⟩ := Option.isSome_iff_exists.1 hsome'
  simp [Table.pairedNumber?, hv, hw]

/-- Outside the table there is nothing to pair. -/
theorem pairedNumber?_offset {i j : Nat} (hi : i < p.tested.rowCount) (hj : j < p.tested.colCount)
    (hout : ¬ (i < min (p.tested.rowsInside t.rowCount) (p.summed.rowsInside t.rowCount)
      ∧ j < min (p.tested.colsInside t.colCount) (p.summed.colsInside t.colCount))) :
    t.pairedNumber? c (p.tested.offset i j) (p.summed.offset i j) = none := by
  have htested := Region.isSome_value?_offset_iff (t := t) hi hj
  rw [p.rowCount_eq] at hi
  rw [p.colCount_eq] at hj
  have hsummed := Region.isSome_value?_offset_iff (t := t) hi hj
  unfold Table.pairedNumber?
  split
  · rename_i v w hv hw
    have h := htested.1 (by rw [hv]; rfl)
    have h' := hsummed.1 (by rw [hw]; rfl)
    omega
  · rfl

theorem byPlace_eq_inside (p : PairedRegions) (t : Table) (c : Criterion) : p.byPlace t c
    = (List.range (min (p.tested.rowsInside t.rowCount) (p.summed.rowsInside t.rowCount))).flatMap
        fun i =>
          (List.range (min (p.tested.colsInside t.colCount)
            (p.summed.colsInside t.colCount))).flatMap fun j =>
              (t.pairedNumber? c (p.tested.offset i j) (p.summed.offset i j)).toList := by
  have hrow := p.tested.row_le
  have hcol := p.tested.col_le
  have hrows : min (p.tested.rowsInside t.rowCount) (p.summed.rowsInside t.rowCount)
      ≤ p.tested.rowCount := by
    unfold Region.rowsInside Region.rowCount
    omega
  have hcols : min (p.tested.colsInside t.colCount) (p.summed.colsInside t.colCount)
      ≤ p.tested.colCount := by
    unfold Region.colsInside Region.colCount
    omega
  have hout : ∀ i j, i < p.tested.rowCount → j < p.tested.colCount → _ :=
    fun i j hi hj => pairedNumber?_offset (t := t) (c := c) hi hj
  simp only [byPlace, List.filterMap_eq_flatMap_toList]
  rw [flatMap_range_of_le hrows]
  · refine List.flatMap_congr fun i hi => flatMap_range_of_le hcols fun j hj hlt => ?_
    have hi := List.mem_range.1 hi
    rw [hout i j (by omega) hlt (by omega)]
    rfl
  · intro i hi hlt
    refine List.flatMap_eq_nil_iff.2 fun j hj => ?_
    rw [hout i j hlt (List.mem_range.1 hj) (by omega)]
    rfl

/-- In step, the indices pair the places. -/
theorem byIndex_eq_byPlace (h : ¬ p.IsOutOfStep t.rowCount t.colCount) (c : Criterion) :
    p.byIndex t c = p.byPlace t c := by
  obtain ⟨hsize, hstep⟩ := inStep_of_not_outOfStep h
  rw [byPlace_eq_inside, ← flatMap_range_mul fun i j =>
    (t.pairedNumber? c (p.tested.offset i j) (p.summed.offset i j)).toList]
  simp only [byIndex, List.filterMap_eq_flatMap_toList, hsize]
  refine List.flatMap_congr fun k hk => ?_
  obtain ⟨⟨hdiv, hmod⟩, hdiv', hmod'⟩ := hstep k (List.mem_range.1 hk)
  rw [Region.insideAt, Region.insideAt, hdiv, hmod, hdiv', hmod']

end PairedRegions

/-! ## Telling a pair of cells from all others -/

namespace Table

/-- The identifier of a column at a position, in a table whose columns have no names of their
own. -/
def columnId (col : Nat) : String :=
  String.ofList (List.replicate col 'a')

theorem columnId_injective : Function.Injective columnId := by
  intro i j h
  have hlength := congrArg List.length (String.ofList_injective h)
  simpa using hlength

theorem nodup_columnIds (cols : Nat) : ((List.range cols).map columnId).Nodup :=
  List.Nodup.map columnId_injective List.nodup_range

/-- The table of so many rows and columns with the cells that a function says. -/
def ofCells (rows cols : Nat) (f : Address → Cell) : Table where
  columns := (List.range cols).map fun col => .plain (columnId col) .text
  rows := (List.range rows).map fun row =>
    .ofList ((List.range cols).map fun col => (columnId col, f ⟨row, col⟩))
  version := 0
  ids_nodup := by
    rw [List.map_map]
    exact nodup_columnIds cols

variable {rows cols : Nat} {f : Address → Cell}

theorem rowCount_ofCells : (ofCells rows cols f).rowCount = rows := by
  simp [rowCount, ofCells]

theorem colCount_ofCells : (ofCells rows cols f).colCount = cols := by
  simp [colCount, ofCells]

theorem cell?_ofCells {a : Address} (h : a.row < rows ∧ a.col < cols) :
    (ofCells rows cols f).cell? a = some (f a) := by
  have hids : (((List.range cols).map fun col => (columnId col, f ⟨a.row, col⟩)).map
      Prod.fst).Nodup := by
    rw [List.map_map]
    exact nodup_columnIds cols
  have hmem : (columnId a.col, f a)
      ∈ (List.range cols).map fun col => (columnId col, f ⟨a.row, col⟩) :=
    List.mem_map.2 ⟨a.col, List.mem_range.2 h.2, rfl⟩
  have hget := Row.get?_ofList_of_mem hids hmem
  simp [cell?, ofCells, h.1, h.2, Column.plain, hget]

end Table

/-- The cells of a table in which only `a` and `b` are not blank, and only `b` is a number. -/
def mark (a b x : Address) : Cell :=
  if x = b then .number 1.0 else if x = a then .text "x" else .blank

/-- The criterion for what stands at `a` in this table. -/
def markOf (a b : Address) : Expression :=
  if a = b then .number 1.0 else .text "x"

theorem selects_mark (t : Table) (now : Moment) (a b x : Address) :
    ((markOf a b).criterion t now).selects (.ofCell (mark a b x)) = decide (x = a)
      ∧ exactNumber? (.ofCell (mark a b x)) = if x = b then some 1.0 else none := by
  unfold mark markOf
  -- a cell that is tested and summed at once holds the number, and the criterion is that number
  by_cases hab : a = b
  · subst hab
    simp only [if_pos, Expression.criterion, Expression.evaluate]
    split_ifs with hxa <;> simp only [hxa, decide_true, decide_false] <;> exact ⟨rfl, rfl⟩
  · simp only [if_neg hab, Expression.criterion, Expression.evaluate]
    split_ifs with hxb hxa
    · have hxa : ¬ x = a := fun h => hab (h.symm.trans hxb)
      simp only [hxa, decide_false]
      exact ⟨rfl, rfl⟩
    · simp only [hxa, decide_true]
      exact ⟨rfl, rfl⟩
    · simp only [hxa, decide_false]
      exact ⟨rfl, rfl⟩

/-- Of all pairs of cells only the marked one gives a number. -/
theorem pairedNumber?_mark {rows cols : Nat} {a b : Address} (ha : a.row < rows ∧ a.col < cols)
    (hb : b.row < rows ∧ b.col < cols) (now : Moment) (x y : Address) :
    (Table.ofCells rows cols (mark a b)).pairedNumber?
        ((markOf a b).criterion (.ofCells rows cols (mark a b)) now) x y
      = if x = a ∧ y = b then some 1.0 else none := by
  have hinside : ∀ {z : Address}, z.row < rows ∧ z.col < cols →
      (Table.ofCells rows cols (mark a b)).value? z = some (.ofCell (mark a b z)) := by
    intro z hz
    rw [Table.value?, Table.cell?_ofCells hz]
    rfl
  have houtside : ∀ {z : Address}, ¬ (z.row < rows ∧ z.col < cols) →
      (Table.ofCells rows cols (mark a b)).value? z = none := by
    intro z hz
    refine Table.value?_eq_none ?_
    rwa [Table.rowCount_ofCells, Table.colCount_ofCells]
  have hx := (selects_mark (.ofCells rows cols (mark a b)) now a b x).1
  have hy := (selects_mark (.ofCells rows cols (mark a b)) now a b y).2
  unfold Table.pairedNumber?
  by_cases hin : x.row < rows ∧ x.col < cols
  · by_cases hin' : y.row < rows ∧ y.col < cols
    · simp only [hinside hin, hinside hin', hx, hy, decide_eq_true_eq]
      rw [ite_and]
    · have hne : ¬ y = b := fun h => hin' (h ▸ hb)
      simp [houtside hin', hne]
  · have hne : ¬ x = a := fun h => hin (h ▸ ha)
    simp [houtside hin, hne]

/-! ## What is added -/

/-- The sum of some numbers. -/
def sumOf (xs : List Float) : Value :=
  .number (total xs)

/-- The mean of some numbers, which must not be none. -/
def averageOf : List Float → Value
  | [] => .error .divisionByZero
  | xs => .number (mean xs)

/-- Whether a function of a region, a criterion and another region comes to a result of the numbers
of the pairs of cells at the same index, which is another one for no numbers than for one. -/
structure IsConditional (f : Builtin) (result : List Float → Value) : Prop where
  evaluate : ∀ (t : Table) (now : Moment) (p : PairedRegions) (e : Expression),
    (Expression.call f [.region p.tested, e, .region p.summed]).evaluate t now
      = .scalar (result (p.byIndex t (e.criterion t now)))
  result_ne : result [1.0] ≠ result []

/-- Whether such a function comes to the result of the numbers of the pairs of cells at the same
place, in all tables of so many rows and columns. -/
def PairsByPlace (f : Builtin) (result : List Float → Value) (rows cols : Nat)
    (p : PairedRegions) : Prop :=
  ∀ (t : Table) (now : Moment) (e : Expression), t.rowCount = rows → t.colCount = cols →
    (Expression.call f [.region p.tested, e, .region p.summed]).evaluate t now
      = .scalar (result (p.byPlace t (e.criterion t now)))

namespace Expression

variable (t : Table) (now : Moment) (p : PairedRegions) (e : Expression)

theorem evaluate_conditional {f : Builtin} (hargs : f.arity = ⟨2, some 3⟩) (hf : f ≠ .ifElse) :
    (call f [.region p.tested, e, .region p.summed]).evaluate t now
      = .scalar (f.value now [t.block p.tested, e.evaluate t now, t.block p.summed]) := by
  have hleast : f.arity.least ≤ [region p.tested, e, region p.summed].length := by
    rw [hargs]
    exact Nat.le_succ 2
  have hused : usedArguments t now f [.region p.tested, e, .region p.summed]
      = [t.block p.tested, e.evaluate t now, t.block p.summed] := by
    rw [usedArguments, hargs]
    rfl
  rw [evaluate_call (evaluateCall_eq_value hleast hf), hused]

theorem selectedAt_eq_byIndex :
    selectedAt [t.block p.tested, e.evaluate t now, t.block p.summed]
      = p.byIndex t (e.criterion t now) := by
  rw [← p.selected_eq_byIndex]
  rfl

end Expression

theorem isConditional_sumIf : IsConditional .sumIf sumOf where
  evaluate := by
    intro t now p e
    rw [Expression.evaluate_conditional t now p e rfl (by decide), Builtin.value, sumIf,
      Expression.selectedAt_eq_byIndex, sumOf]
  result_ne := by decide

theorem isConditional_averageIf : IsConditional .averageIf averageOf where
  evaluate := by
    intro t now p e
    rw [Expression.evaluate_conditional t now p e rfl (by decide), Builtin.value, averageIf,
      Expression.selectedAt_eq_byIndex]
    rcases p.byIndex t (e.criterion t now) with _ | _
    · rfl
    · rfl
  result_ne := by decide

section Conditional

variable {p : PairedRegions} {rows cols : Nat}

/-- Out of step, two cells at different places are paired, and may be the only ones that count. -/
theorem PairedRegions.IsOutOfStep.exists_misplaced (h : p.IsOutOfStep rows cols) :
    ∃ (t : Table) (e : Expression), t.rowCount = rows ∧ t.colCount = cols
      ∧ ∀ now, p.byIndex t (e.criterion t now) = [1.0] ∧ p.byPlace t (e.criterion t now) = [] := by
  -- at this index two cells meet that are not in the same row of their regions
  obtain ⟨k, hk, hne⟩ := OutOfStep.exists_div_ne h
  obtain ⟨htested, hsummed⟩ := Nat.lt_min.1 hk
  have hpair := pairedNumber?_mark (Region.insideAt_inside htested) (Region.insideAt_inside hsummed)
  refine ⟨.ofCells rows cols (mark (p.tested.insideAt cols k) (p.summed.insideAt cols k)),
    markOf (p.tested.insideAt cols k) (p.summed.insideAt cols k), Table.rowCount_ofCells,
    Table.colCount_ofCells, fun now => ⟨?_, ?_⟩⟩
  · simp only [byIndex, Table.rowCount_ofCells, Table.colCount_ofCells, hpair]
    refine filterMap_range_singleton (if_pos ⟨rfl, rfl⟩) (fun i hi => if_neg fun h => hi ?_) hk
    exact Region.insideAt_injective h.1
  · simp only [byPlace, List.flatMap_eq_nil_iff, List.filterMap_eq_nil_iff, hpair]
    refine fun i _ j _ => if_neg fun h => hne ?_
    have hrow := congrArg Address.row h.1
    have hrow' := congrArg Address.row h.2
    simp only [Region.insideAt, Region.offset] at hrow hrow'
    omega

variable {f : Builtin} {result : List Float → Value}

theorem IsConditional.not_pairsByPlace (hf : IsConditional f result)
    (h : p.IsOutOfStep rows cols) : ¬ PairsByPlace f result rows cols p := by
  intro hplace
  obtain ⟨t, e, hrows, hcols, hlists⟩ := h.exists_misplaced
  have hequal := hplace t (.midnight .epoch) e hrows hcols
  rw [hf.evaluate, (hlists _).1, (hlists _).2, Argument.scalar.injEq] at hequal
  exact hf.result_ne hequal

theorem IsConditional.pairsByPlace_iff (hf : IsConditional f result) :
    PairsByPlace f result rows cols p ↔ ¬ p.IsOutOfStep rows cols := by
  refine ⟨fun hplace h => hf.not_pairsByPlace h hplace, fun h => ?_⟩
  rintro t now e rfl rfl
  rw [hf.evaluate, PairedRegions.byIndex_eq_byPlace h]

end Conditional

/-- `SUMIF` and `AVERAGEIF` pair the cells of two regions by their indices among those inside the
table.  These are the cells at the same places unless they get out of step. -/
theorem conditionals_pair_by_place_iff (rows cols : Nat) (p : PairedRegions) :
    (PairsByPlace .sumIf sumOf rows cols p ↔ ¬ p.IsOutOfStep rows cols)
      ∧ (PairsByPlace .averageIf averageOf rows cols p ↔ ¬ p.IsOutOfStep rows cols)
      ∧ IsConditional .sumIf sumOf ∧ IsConditional .averageIf averageOf :=
  ⟨isConditional_sumIf.pairsByPlace_iff, isConditional_averageIf.pairsByPlace_iff,
    isConditional_sumIf, isConditional_averageIf⟩

/-- A table of two columns and two rows of numbers. -/
def fourNumbers : Table where
  columns := [.plain "a" .number, .plain "b" .number]
  rows := [.ofList [("a", .number 0.0), ("b", .number 5.0)],
    .ofList [("a", .number 1.0), ("b", .number 7.0)]]
  version := 0
  ids_nodup := by decide

/-- The regions `A1:B2` and `B1:C2`, the second of which has one column in a table of two. -/
def overlapping : PairedRegions :=
  ⟨.spanning ⟨0, 0⟩ ⟨1, 1⟩, .spanning ⟨0, 1⟩ ⟨1, 2⟩, by decide, by decide⟩

/-- The only cell that matches is `A2`; the number at its place is that of `B2`, and nothing is
added. -/
theorem not_pairsByPlace_overlapping :
    ¬ PairsByPlace .sumIf sumOf 2 2 overlapping
      ∧ overlapping.byPlace fourNumbers (.near 1.0) = [7.0]
      ∧ evaluate fourNumbers 64 (.midnight .epoch) "=SUMIF(A1:B2,1,B1:C2)"
        = .computed (.number (-0.0)) :=
  ⟨isConditional_sumIf.not_pairsByPlace (by decide), by decide, rfl⟩

end Worksheet
