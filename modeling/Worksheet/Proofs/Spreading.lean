import Worksheet.Proofs.Blocks
import Worksheet.Proofs.Failures

/-!
# A region and its cells as arguments

A region as an argument lists the cells of it that are inside the table.  Written out cell by cell
instead, the same cells come in the same order, but one outside the table is read as an empty value
and no longer left out.  The functions that pool the values of all their arguments
(`Builtin.isPooling`) do not notice where one argument ends and the next one begins, and all of them
but `AND` pass over an empty value (`Builtin.value_congr_pooled`, `pooledAlike_of_present`).  So a
region means its cells to them (`region_means_cells`); to `AND` it does as long as it is inside the
table, and a cell outside makes `AND` of the single cells false.
-/

namespace Worksheet

open Functions

/-! ## Functions that pool all values -/

/-- The functions that look at all values of all arguments and at nothing else. -/
def Builtin.isPooling : Builtin → Bool
  | .sum | .product | .average | .count | .countA | .min | .max | .median | .mode | .stdev
  | .variance | .concat | .concatenate | .and | .or | .xor => true
  | _ => false

/-- Whether two lists of values look the same to the functions that pool them, apart from their
length, which only `AND` can tell. -/
structure PooledAlike (values values' : List Value) : Prop where
  numbers : values.filterMap exactNumber? = values'.filterMap exactNumber?
  filled : (values.countP fun v => !v.isBlank) = values'.countP fun v => !v.isBlank
  text : (values.flatMap fun v => v.toText.toList) = values'.flatMap fun v => v.toText.toList
  holding : values.countP Value.holds = values'.countP Value.holds

theorem any_eq_decide_countP {p : Value → Bool} (values : List Value) :
    values.any p = decide (0 < values.countP p) := by
  rw [Bool.eq_iff_iff, List.any_eq_true, decide_eq_true_iff, List.countP_pos_iff]

theorem all_eq_decide_countP {p : Value → Bool} (values : List Value) :
    values.all p = decide (values.countP p = values.length) := by
  rw [Bool.eq_iff_iff, List.all_eq_true, decide_eq_true_iff, List.countP_eq_length]

theorem Builtin.value_congr_pooled {f : Builtin} {now : Moment} {args args' : List Argument}
    (hf : f.isPooling = true) (h : PooledAlike (flatten args) (flatten args'))
    (hand : f = .and → (flatten args).length = (flatten args').length) :
    f.value now args = f.value now args' := by
  have hnumbers : numbers args = numbers args' := h.numbers
  cases f with
  | countA => simp only [value, Functions.countA, h.filled]
  | concat | concatenate => simp only [value, Functions.concat, h.text]
  | and => simp only [value, Functions.and, all_eq_decide_countP, h.holding, hand rfl]
  | or => simp only [value, Functions.or, any_eq_decide_countP, h.holding]
  | xor => simp only [value, Functions.xor, h.holding]
  | sum | product | average | count | min | max | median | mode | stdev | variance =>
    simp only [value, Functions.sum, Functions.product, Functions.average, Functions.count,
      Functions.min, Functions.max, extreme, Functions.median, Functions.mode, Functions.stdev,
      Functions.variance, hnumbers]
  | _ => cases hf

/-! ## Empty values -/

/-- The values that are not empty. -/
def present (values : List Value) : List Value :=
  values.filter (· ≠ .empty)

theorem filterMap_present {α : Type} {g : Value → Option α} (hg : g .empty = none)
    (values : List Value) : (present values).filterMap g = values.filterMap g := by
  rw [present, List.filterMap_filter]
  refine List.filterMap_congr fun v _ => ?_
  by_cases hv : v = .empty <;> simp [hv, hg]

theorem flatMap_present {α : Type} {g : Value → List α} (hg : g .empty = [])
    (values : List Value) : (present values).flatMap g = values.flatMap g := by
  refine flatMap_filter_of_eq_nil fun v _ hv => ?_
  have hempty : v = .empty := by simpa using hv
  rw [hempty, hg]

theorem countP_present {p : Value → Bool} (hp : p .empty = false) (values : List Value) :
    (present values).countP p = values.countP p := by
  rw [present, List.countP_filter]
  refine List.countP_congr fun v _ => ?_
  by_cases hv : v = .empty <;> simp [hv, hp]

/-- The functions that pool values pass over empty ones. -/
theorem pooledAlike_of_present {values values' : List Value}
    (h : present values = present values') : PooledAlike values values' where
  numbers := by rw [← filterMap_present rfl, h, filterMap_present rfl]
  filled := by rw [← countP_present rfl, h, countP_present rfl]
  text := by rw [← flatMap_present rfl, h, flatMap_present rfl]
  holding := by rw [← countP_present rfl, h, countP_present rfl]

/-! ## The cells of a region -/

namespace Table

variable {t : Table} {r : Region}

/-- Whether all cells of a region are inside a table. -/
def Covers (t : Table) (r : Region) : Prop :=
  ∀ a, r.Contains a → t.cell? a ≠ none

/-- The value that a reference to a cell comes to, empty outside the table. -/
def valueAt (t : Table) (a : Address) : Value :=
  (t.value? a).getD .empty

theorem values_block (r : Region) : (t.block r).values = r.cells.filterMap t.value? := by
  have hblock := (t.block_spanning r.first r.last).values
  rw [Region.spanning_corners] at hblock
  have hrows : indicesBetween r.first.row r.last.row = List.Ico r.first.row (r.last.row + 1) := by
    rw [indicesBetween, Nat.min_eq_left r.row_le, Nat.max_eq_right r.row_le]
  have hcols : indicesBetween r.first.col r.last.col = List.Ico r.first.col (r.last.col + 1) := by
    rw [indicesBetween, Nat.min_eq_left r.col_le, Nat.max_eq_right r.col_le]
  rw [hblock, valuesBetween, hrows, r.cells_eq_flatMap, List.filterMap_flatMap]
  refine List.flatMap_congr fun row _ => ?_
  rw [rowValues, hcols, List.filterMap_map]
  rfl

theorem present_filterMap_value? : ∀ cells : List Address,
    present (cells.filterMap t.value?) = present (cells.map t.valueAt)
  | [] => rfl
  | a :: cells => by
    have ih := present_filterMap_value? cells
    rcases ha : t.value? a with _ | v
    · have hempty : t.valueAt a = .empty := by rw [valueAt, ha]; rfl
      rw [List.filterMap_cons_none ha, List.map_cons, hempty, ih]
      rfl
    · have hvalue : t.valueAt a = v := by rw [valueAt, ha]; rfl
      rw [List.filterMap_cons_some ha, List.map_cons, hvalue]
      simp only [present, List.filter_cons] at ih ⊢
      rw [ih]

theorem Covers.filterMap_value? (h : t.Covers r) :
    r.cells.filterMap t.value? = r.cells.map t.valueAt := by
  rw [← List.filterMap_eq_map]
  refine List.filterMap_congr fun a ha => ?_
  obtain ⟨cell, hcell⟩ := Option.ne_none_iff_exists'.1 (h a (Region.mem_cells_iff.1 ha))
  simp [valueAt, value?, hcell]

end Table

/-! ## Calls -/

namespace Expression

variable {t : Table} {now : Moment} {f : Builtin}

/-- All values of some expressions, in order. -/
def pool (t : Table) (now : Moment) (args : List Expression) : List Value :=
  args.flatMap fun e => (e.evaluate t now).values

theorem pool_append (args args' : List Expression) :
    pool t now (args ++ args') = pool t now args ++ pool t now args' :=
  List.flatMap_append

theorem pool_cons (e : Expression) (args : List Expression) :
    pool t now (e :: args) = (e.evaluate t now).values ++ pool t now args :=
  List.flatMap_cons

theorem pool_cells (cells : List Address) : pool t now (cells.map cell) = cells.map t.valueAt := by
  rw [pool, List.flatMap_map, List.map_eq_flatMap]
  simp [evaluate, Argument.values, Table.valueAt]

/-- A function that pools all values takes any number of arguments and uses them all. -/
theorem evaluateCall_pooling (hf : f.isPooling = true) (args : List Expression) :
    evaluateCall t now f args = .ok (f.value now (args.map (evaluate t now))) := by
  have hif : f ≠ .ifElse := by rintro rfl; cases hf
  have harity : f.arity = ⟨0, none⟩ := by cases f <;> first | rfl | cases hf
  exact evaluateCall_unlimited hif (by rw [harity]) (by rw [harity]; exact Nat.zero_le _)

theorem evaluateCall_congr_pooled {args args' : List Expression} (hf : f.isPooling = true)
    (h : PooledAlike (pool t now args) (pool t now args'))
    (hand : f = .and → (pool t now args).length = (pool t now args').length) :
    evaluateCall t now f args = evaluateCall t now f args' := by
  have hpool : ∀ es : List Expression, flatten (es.map (evaluate t now)) = pool t now es :=
    fun es => List.flatMap_map ..
  rw [← hpool, ← hpool] at h hand
  rw [evaluateCall_pooling hf, evaluateCall_pooling hf, Builtin.value_congr_pooled hf h hand]

theorem present_append (values values' : List Value) :
    present (values ++ values') = present values ++ present values' :=
  List.filter_append ..

/-- A region contributes the values of its cells, but for the empty ones outside the table. -/
theorem present_pool_region (before after : List Expression) (r : Region) :
    present (pool t now (before ++ region r :: after))
      = present (pool t now (before ++ (r.cells.map cell ++ after))) := by
  simp only [pool_append, pool_cons, pool_cells, evaluate, Table.values_block, present_append,
    Table.present_filterMap_value?]

theorem pool_region_of_covers {r : Region} (h : t.Covers r) (before after : List Expression) :
    pool t now (before ++ region r :: after)
      = pool t now (before ++ (r.cells.map cell ++ after)) := by
  simp only [pool_append, pool_cons, pool_cells, evaluate, Table.values_block, h.filterMap_value?]

/-- With a cell outside the table among its arguments, `AND` is false. -/
theorem evaluateCall_and_of_not_covers {r : Region} (h : ¬ t.Covers r)
    (before after : List Expression) :
    evaluateCall t now .and (before ++ (r.cells.map cell ++ after)) = .ok (.boolean false) := by
  obtain ⟨a, ha, hout⟩ : ∃ a, r.Contains a ∧ t.cell? a = none := by
    simpa only [Table.Covers, not_forall, not_not, exists_prop] using h
  have hempty : (cell a).evaluate t now = .scalar .empty := by
    simp [evaluate, Table.value?, hout]
  rw [evaluateCall_pooling rfl]
  simp only [Builtin.value, Functions.and, Except.ok.injEq, Value.boolean.injEq]
  rw [List.all_eq_false]
  refine ⟨.empty, ?_, by simp [Value.holds]⟩
  have hmem : cell a ∈ before ++ (r.cells.map cell ++ after) := by
    simp [Region.mem_cells_iff, ha]
  refine List.mem_flatMap.2 ⟨.scalar .empty, ?_, List.mem_singleton_self _⟩
  exact List.mem_map.2 ⟨cell a, hmem, hempty⟩

end Expression

/-- To the functions that pool all values a region means its cells, one after the other, in a
formula and in a call inside one.  The only exception is `AND` with a region that is not all inside
the table, for which the single cells come to false. -/
theorem region_means_cells (t : Table) (now : Moment) {f : Builtin} (hf : f.isPooling = true)
    (before after : List Expression) (r : Region) :
    let pooled := before ++ .region r :: after
    let spread := before ++ (r.cells.map .cell ++ after)
    (f ≠ .and ∨ t.Covers r →
      Expression.evaluateCall t now f pooled = Expression.evaluateCall t now f spread
      ∧ (Expression.call f pooled).evaluate t now = (Expression.call f spread).evaluate t now
      ∧ ∀ limit text text', Formula.parse limit text = .ok (.expression (.call f pooled)) →
          Formula.parse limit text' = .ok (.expression (.call f spread)) →
            evaluate t limit now text = evaluate t limit now text')
    ∧ (f = .and → ¬ t.Covers r →
        Expression.evaluateCall t now f spread = .ok (.boolean false)) := by
  intro pooled spread
  refine ⟨fun hin => ?_, ?_⟩
  · have hpresent : present (Expression.pool t now pooled)
        = present (Expression.pool t now spread) :=
      Expression.present_pool_region before after r
    have hcall : Expression.evaluateCall t now f pooled
        = Expression.evaluateCall t now f spread := by
      refine Expression.evaluateCall_congr_pooled hf (pooledAlike_of_present hpresent)
        fun hand => ?_
      rcases hin with hne | hcovers
      · exact absurd hand hne
      · exact congrArg List.length (Expression.pool_region_of_covers hcovers before after)
    refine ⟨hcall, Expression.evaluate_call_congr hcall, fun limit text text' h h' => ?_⟩
    simp only [evaluate, h, h', hcall]
  · rintro rfl hout
    exact Expression.evaluateCall_and_of_not_covers hout before after

/-- A table of one row with a number and a text. -/
def numberAndText : Table where
  columns := [.plain "n" .number, .plain "t" .text]
  rows := [.ofList [("n", .number 2.0), ("t", .text "x")]]
  version := 0
  ids_nodup := by decide

/-- `SUM` of a region that sticks out of a table, and `AND` of one inside it. -/
theorem sum_and_region_means_cells :
    evaluate numberAndText 64 (.midnight .epoch) "=SUM(1,A1:B2)"
        = evaluate numberAndText 64 (.midnight .epoch) "=SUM(1,A1,B1,A2,B2)"
      ∧ evaluate numberAndText 64 (.midnight .epoch) "=AND(A1:B1)"
        = evaluate numberAndText 64 (.midnight .epoch) "=AND(A1,B1)" := by
  have hcovers : numberAndText.Covers (.spanning ⟨0, 0⟩ ⟨0, 1⟩) := by
    rintro ⟨row, col⟩ ⟨⟨-, hrow⟩, -, hcol⟩
    rw [ne_eq, Table.cell?_eq_none_iff]
    simp only [Region.spanning] at hrow hcol ⊢
    have hsize : numberAndText.rowCount = 1 ∧ numberAndText.colCount = 2 := ⟨rfl, rfl⟩
    omega
  have hsum := region_means_cells numberAndText (.midnight .epoch) (f := .sum) rfl [.number 1.0] []
    (.spanning ⟨0, 0⟩ ⟨1, 1⟩)
  have hand := region_means_cells numberAndText (.midnight .epoch) (f := .and) rfl [] []
    (.spanning ⟨0, 0⟩ ⟨0, 1⟩)
  exact ⟨(hsum.1 (.inl (by decide))).2.2 64 _ _ rfl rfl,
    (hand.1 (.inr hcovers)).2.2 64 _ _ rfl rfl⟩

end Worksheet
