import Worksheet.Proofs.NumberOrder
import Worksheet.Proofs.Spreading
import Worksheet.Proofs.Trimming
import Worksheet.Proofs.Wildcards

/-!
# Equal and not equal

A criterion that begins with `=` and the one that begins with `<>` before the same text are read as
two sides of one test: of numbers next to one number, of texts that match a pattern, or, before a
blank text, of what is blank.  In the first two tests the second operator selects just what the
first one leaves, numbers that are not finite apart (`Criterion.selects_compared_notEqual`,
`Criterion.selects_pattern_negated`).  In the third it does not, since `=` asks for a blank value
and `<>` for a text that is not empty: a list with an empty text is neither
(`Criterion.selects_pattern_nil`).  So the two criteria are opposites before every text that is not
blank, and before a blank one they are so for all values but such lists
(`Criterion.areOpposites_iff`).
-/

namespace Worksheet

/-! ## Texts that are not empty -/

namespace Number

theorem isFinite_of_finite? {s : List Char} {x : Float} (h : finite? s = some x) :
    x.isFinite = true :=
  (Option.filter_eq_some_iff.1 h).2

theorem digitsOf_ne_nil (n : Nat) : digitsOf n ≠ [] :=
  Nat.toDigits_ne_nil

theorem withPoint_ne_nil {digits : List Char} (h : digits ≠ []) (places : Nat) :
    withPoint digits places ≠ [] := by
  unfold withPoint
  split_ifs
  · exact h
  · simp

theorem positional_ne_nil (d : Decimal) : d.positional ≠ [] := by
  unfold Decimal.positional
  split
  · simp [digitsOf_ne_nil]
  · exact withPoint_ne_nil (digitsOf_ne_nil _) _

theorem signed_ne_empty {s : List Char} (hs : s ≠ []) (negative : Bool) :
    signed negative s ≠ "" := by
  rw [signed, ne_eq, String.ofList_eq_empty_iff]
  cases negative
  · exact hs
  · simp

theorem shortest_ne_empty (x : Float) : shortest x ≠ "" := by
  unfold shortest
  split_ifs
  · decide
  · exact signed_ne_empty (List.cons_ne_nil _ _) _
  · dsimp only
    split_ifs
    · exact signed_ne_empty (List.cons_ne_nil _ _) _
    · exact signed_ne_empty (positional_ne_nil _) _

theorem plain_ne_empty (x : Float) : plain x ≠ "" := by
  unfold plain
  split_ifs
  · rw [Int.toString_eq_repr, Int.repr_eq_if]
    split_ifs
    · rw [Nat.repr_eq_ofList_toDigits, ne_eq, String.ofList_eq_empty_iff]
      exact digitsOf_ne_nil _
    · simp
  · exact shortest_ne_empty x

end Number

namespace Text

theorem lower_eq_nil_iff {s : List Char} : lower s = [] ↔ s = [] := by
  cases s with
  | nil => exact ⟨fun _ => rfl, fun _ => rfl⟩
  | cons c rest =>
    have hform : lowerChar c ≠ [] := by
      unfold lowerChar
      split_ifs
      · simp
      · split <;> simp
    simp only [lower, lowerAfter, List.append_eq_nil_iff, reduceCtorEq, iff_false, not_and]
    split_ifs <;> simp [hform]

end Text

/-- Whether a value is a list whose text is empty. -/
def Value.isBlankList : Value → Bool
  | .list items => joinWith "," items == ""
  | _ => false

/-- Only a list can have an empty text and not be blank. -/
theorem Value.toText_eq_empty_iff (v : Value) :
    v.toText = "" ↔ v.isBlank = true ∨ v.isBlankList = true := by
  cases v with
  | number x => simp [toText, isBlank, isBlankList, Number.plain_ne_empty]
  | text s => simp [toText, isBlank, isBlankList]
  | boolean b => cases b <;> simp [toText, isBlank, isBlankList, booleanText]
  | list items => simp [toText, isBlank, isBlankList]
  | error e => cases e <;> simp [toText, isBlank, isBlankList, ErrorToken.text]
  | empty => simp [toText, isBlank]

theorem Glob.accepts_nil_iff {t : List Char} : accepts [] t = true ↔ t = [] := by
  rw [accepts_iff]
  refine ⟨fun h => ?_, ?_⟩
  · cases h
    rfl
  · rintro rfl
    exact .nil

/-! ## Operators before a text -/

namespace Criterion

theorem finite?_congr {s u : List Char} (h : Text.trim s = Text.trim u) :
    Number.finite? s = Number.finite? u := by
  rw [Number.finite?, h, Number.finite?]

theorem finite?_trim (s : List Char) : Number.finite? (Text.trim s) = Number.finite? s :=
  finite?_congr (Text.isTrimmed_trim s).trim_eq

theorem ofOperand_congr (op : Comparator) {s u : List Char} (h : Text.trim s = Text.trim u) :
    ofOperand op s = ofOperand op u := by
  simp only [ofOperand, h]

theorem ofText_equal (s : List Char) : ofText ('=' :: s) = ofOperand .equal s := by
  rw [ofText, Text.trim_cons rfl]
  exact ofOperand_congr _ (Text.trim_trimEnd s)

theorem ofText_notEqual (s : List Char) : ofText ('<' :: '>' :: s) = ofOperand .notEqual s := by
  rw [ofText, Text.trim_cons rfl, Text.trimEnd_cons rfl]
  exact ofOperand_congr _ (Text.trim_trimEnd s)

/-- The criterion that is written as an operator before a text. -/
def withOperator (op : Comparator) (x : String) : Criterion :=
  ofValue (.text (op.symbol ++ x))

theorem withOperator_equal (x : String) : withOperator .equal x = ofOperand .equal x.toList := by
  rw [withOperator, ofValue, String.toList_append]
  exact ofText_equal x.toList

theorem withOperator_notEqual (x : String) :
    withOperator .notEqual x = ofOperand .notEqual x.toList := by
  rw [withOperator, ofValue, String.toList_append]
  exact ofText_notEqual x.toList

/-! ### What the two operators select -/

/-- Whether a value is no number but a finite one. -/
def IsOrdinary (v : Value) : Prop :=
  ∀ x, v = .number x → x.isFinite = true

variable {v : Value}

theorem selects_compared_notEqual {y : Float} (hv : IsOrdinary v) (hy : y.isFinite = true) :
    (compared .notEqual y).selects v = !(compared .equal y).selects v := by
  cases v with
  | number x =>
    have htolerance : tolerance.isNaN = false := by decide
    have horder := Number.not_lt_iff (Number.isNaN_abs_sub (hv x rfl) hy) htolerance
    simp only [selects, compares, isNear, ← decide_not, horder]
  | _ => rfl

theorem selects_pattern_negated (p : List Char) :
    (pattern p true).selects v = !(pattern p false).selects v := by
  cases v <;> simp [selects]

theorem selects_pattern_nil :
    (pattern [] true).selects v = !(blank.selects v || v.isBlankList) := by
  have hform : Glob.accepts [] (form v) = (v.isBlank || v.isBlankList) := by
    rw [Bool.eq_iff_iff, Glob.accepts_nil_iff, form, Text.lower_eq_nil_iff, Bool.or_eq_true,
      ← v.toText_eq_empty_iff, String.toList_eq_nil_iff]
  cases v <;> simp [selects, ← hform, form]

theorem ofOperand_of_allBlank {s : List Char} (h : Text.allBlank s = true) :
    ofOperand .equal s = blank ∧ ofOperand .notEqual s = pattern [] true := by
  have hnone : Number.finite? [] = none := rfl
  rw [ofOperand, ofOperand, Text.trim_eq_nil_iff.2 h, hnone]
  exact ⟨rfl, rfl⟩

/-- What `<>` selects is what `=` leaves, but for the lists with an empty text if the operand is
blank. -/
theorem selects_ofOperand_notEqual (hv : IsOrdinary v) (s : List Char) :
    (ofOperand .notEqual s).selects v
      = !((ofOperand .equal s).selects v || (Text.allBlank s && v.isBlankList)) := by
  by_cases hs : Text.allBlank s = true
  · obtain ⟨hequal, hother⟩ := ofOperand_of_allBlank hs
    rw [hequal, hother, hs, Bool.true_and]
    exact selects_pattern_nil
  · have hne : Text.trim s ≠ [] := fun h => hs (Text.trim_eq_nil_iff.1 h)
    rw [Bool.not_eq_true] at hs
    rw [hs, Bool.false_and, Bool.or_false]
    unfold ofOperand
    rcases hnumber : Number.finite? (Text.trim s) with _ | y
    · simp only [hnumber, if_neg hne]
      exact selects_pattern_negated _
    · simp only [hnumber]
      exact selects_compared_notEqual hv (Number.isFinite_of_finite? hnumber)

theorem selects_ofOperand_equal_of_isBlankList {s : List Char} (hs : Text.allBlank s = true)
    (hv : v.isBlankList = true) : (ofOperand .equal s).selects v = false := by
  rw [(ofOperand_of_allBlank hs).1]
  cases v <;> first | rfl | cases hv

end Criterion

/-! ## Cells of a region -/

/-- Whether a cell holds a finite number, a text, a list or nothing. -/
def Cell.IsOrdinary : Cell → Prop
  | .number x => x.isFinite = true
  | _ => True

theorem Cell.isFinite_of_finite? {cell : Cell} {x : Float} (h : cell.finite? = some x) :
    x.isFinite = true := by
  cases cell with
  | blank => cases h
  | number y =>
    simp only [finite?] at h
    split_ifs at h with hy
    cases h
    exact hy
  | text | list => exact Number.isFinite_of_finite? h

theorem Cell.IsOrdinary.ofCell {cell : Cell} (h : cell.IsOrdinary) :
    Criterion.IsOrdinary (.ofCell cell) := by
  intro x hx
  unfold Value.ofCell at hx
  rcases hfinite : cell.finite? with _ | y <;> rw [hfinite] at hx
  · cases cell with
    | number y =>
      cases hx
      exact h
    | text s =>
      dsimp only at hx
      split at hx <;> cases hx
    | blank | list => cases hx
  · cases hx
    exact Cell.isFinite_of_finite? hfinite

/-- Whether a cell holds a list whose text is empty. -/
def Cell.isBlankList : Cell → Bool
  | .list items => joinWith "," items == ""
  | _ => false

theorem Value.isBlankList_ofCell (cell : Cell) :
    (Value.ofCell cell).isBlankList = cell.isBlankList := by
  cases cell with
  | blank => rfl
  | number x =>
    unfold ofCell
    split <;> rfl
  | text s =>
    unfold ofCell
    split
    · rfl
    · dsimp only
      split <;> rfl
  | list items =>
    by_cases h : joinWith "," items = ""
    · have hnone : (Cell.list items).finite? = none := by
        rw [Cell.finite?, h]
        rfl
      rw [ofCell, hnone]
      rfl
    · have hcell : (Cell.list items).isBlankList = false := by simpa [Cell.isBlankList] using h
      rw [hcell]
      unfold ofCell
      split
      · rfl
      · simpa [isBlankList] using h

namespace Table

/-- The cells of a region that are inside a table, row by row. -/
def cellsIn (t : Table) (r : Region) : List Cell :=
  r.cells.filterMap t.cell?

/-- How many cells of a region hold a value that a criterion selects. -/
def countSelected (t : Table) (r : Region) (c : Criterion) : Nat :=
  (t.cellsIn r).countP fun cell => c.selects (.ofCell cell)

theorem values_block_eq_map (t : Table) (r : Region) :
    (t.block r).values = (t.cellsIn r).map Value.ofCell := by
  rw [values_block, cellsIn, List.map_filterMap]
  rfl

end Table

/-- `COUNTIF` counts the cells of a region inside the table that the criterion selects. -/
theorem Expression.evaluate_countIf (t : Table) (now : Moment) (r : Region) (x : String) :
    (Expression.call .countIf [.region r, .text x]).evaluate t now
      = .scalar (.number (Float.ofNat (t.countSelected r (.ofValue (.text x))))) := by
  have hcount : Functions.countIf [t.block r, .scalar (.text x)]
      = .number (Float.ofNat (t.countSelected r (.ofValue (.text x)))) := by
    rw [Functions.countIf, Table.countSelected]
    have hvalues : Functions.valuesAt [t.block r, .scalar (.text x)] 0 = (t.block r).values := rfl
    rw [hvalues, Table.values_block_eq_map, List.countP_map]
    rfl
  rw [← hcount]
  rfl

/-! ## Opposite criteria -/

namespace Criterion

/-- What `=` and `<>` before a text are meant to be: every stored value is selected by just one of
them, so together they count all cells of a region. -/
structure AreOpposites (x : String) : Prop where
  selects : ∀ cell : Cell, cell.IsOrdinary →
    (withOperator .notEqual x).selects (.ofCell cell)
      = !(withOperator .equal x).selects (.ofCell cell)
  counts : ∀ (t : Table) (r : Region), (∀ cell ∈ t.cellsIn r, cell.IsOrdinary) →
    t.countSelected r (withOperator .equal x) + t.countSelected r (withOperator .notEqual x)
      = (t.cellsIn r).length

/-- Of three properties of which every item has just one the counts add up. -/
theorem countP_add_countP_add_countP {α : Type} {p q r : α → Bool} : ∀ {l : List α},
    (∀ a ∈ l, q a = !(p a || r a) ∧ (r a = true → p a = false)) →
    l.countP p + l.countP q + l.countP r = l.length
  | [], _ => rfl
  | a :: l, h => by
    have htail := countP_add_countP_add_countP fun b hb => h b (List.mem_cons_of_mem a hb)
    obtain ⟨hq, hr⟩ := h a List.mem_cons_self
    rw [List.countP_cons, List.countP_cons, List.countP_cons, List.length_cons, ← htail, hq]
    cases hp : p a <;> cases hra : r a <;> simp_all <;> omega

section Opposites

variable {x : String} {cell : Cell}

theorem selects_notEqual_ofCell (h : cell.IsOrdinary) :
    (withOperator .notEqual x).selects (.ofCell cell)
      = !((withOperator .equal x).selects (.ofCell cell)
        || (Text.allBlank x.toList && cell.isBlankList)) := by
  rw [withOperator_notEqual, withOperator_equal, selects_ofOperand_notEqual h.ofCell,
    Value.isBlankList_ofCell]

theorem selects_equal_ofCell_of_isBlankList
    (h : (Text.allBlank x.toList && cell.isBlankList) = true) :
    (withOperator .equal x).selects (.ofCell cell) = false := by
  rw [Bool.and_eq_true] at h
  rw [withOperator_equal]
  exact selects_ofOperand_equal_of_isBlankList h.1 (by rw [Value.isBlankList_ofCell, h.2])

theorem countSelected_add_countSelected {t : Table} {r : Region}
    (h : ∀ cell ∈ t.cellsIn r, cell.IsOrdinary) :
    t.countSelected r (withOperator .equal x) + t.countSelected r (withOperator .notEqual x)
      + (t.cellsIn r).countP (fun cell => Text.allBlank x.toList && cell.isBlankList)
      = (t.cellsIn r).length :=
  countP_add_countP_add_countP fun cell hcell =>
    ⟨selects_notEqual_ofCell (h cell hcell), selects_equal_ofCell_of_isBlankList⟩

theorem areOpposites_of_not_allBlank (hx : Text.allBlank x.toList = false) : AreOpposites x where
  selects := fun cell h => by rw [selects_notEqual_ofCell h, hx, Bool.false_and, Bool.or_false]
  counts := fun t r h => by
    have hcount := countSelected_add_countSelected (x := x) h
    simpa only [hx, Bool.false_and, List.countP_false, Function.const_apply, Nat.add_zero]
      using hcount

end Opposites

/-- The two operators are opposites before every text that is not blank.  Before a blank one they
are so for all values but the lists with an empty text, which neither of them selects. -/
theorem areOpposites_iff (x : String) :
    (AreOpposites x ↔ Text.allBlank x.toList = false)
      ∧ (∀ cell : Cell, cell.IsOrdinary →
          ((withOperator .notEqual x).selects (.ofCell cell)
              = !(withOperator .equal x).selects (.ofCell cell)
            ↔ ¬ (Text.allBlank x.toList = true ∧ cell.isBlankList = true)))
      ∧ (∀ (t : Table) (now : Moment) (r : Region) (op : Comparator),
          (Expression.call .countIf [.region r, .text (op.symbol ++ x)]).evaluate t now
            = .scalar (.number (Float.ofNat (t.countSelected r (withOperator op x)))))
      ∧ ∀ (t : Table) (r : Region), (∀ cell ∈ t.cellsIn r, cell.IsOrdinary) →
          t.countSelected r (withOperator .equal x) + t.countSelected r (withOperator .notEqual x)
            + (t.cellsIn r).countP (fun cell => Text.allBlank x.toList && cell.isBlankList)
            = (t.cellsIn r).length := by
  have hcell : ∀ cell : Cell, cell.IsOrdinary →
      ((withOperator .notEqual x).selects (.ofCell cell)
          = !(withOperator .equal x).selects (.ofCell cell)
        ↔ ¬ (Text.allBlank x.toList = true ∧ cell.isBlankList = true)) := by
    intro cell h
    rw [selects_notEqual_ofCell h, ← Bool.and_eq_true]
    by_cases hlist : (Text.allBlank x.toList && cell.isBlankList) = true
    · rw [selects_equal_ofCell_of_isBlankList hlist, hlist]
      simp
    · simp [Bool.eq_false_of_not_eq_true hlist]
  refine ⟨⟨fun h => ?_, areOpposites_of_not_allBlank⟩, hcell,
    fun t now r op => Expression.evaluate_countIf t now r _,
    fun t r h => countSelected_add_countSelected h⟩
  rw [← Bool.not_eq_true]
  exact fun hx => (hcell (.list []) trivial).1 (h.selects (.list []) trivial) ⟨hx, rfl⟩

/-- A table of one cell with a list of nothing. -/
def untagged : Table where
  columns := [.plain "a" .tags]
  rows := [.ofList [("a", .list [])]]
  version := 0
  ids_nodup := by decide

/-- With nothing after the operators, a cell with an empty list is counted by neither. -/
theorem not_areOpposites_empty :
    ¬ AreOpposites ""
      ∧ evaluate untagged 64 (.midnight .epoch) "=SUM(COUNTIF(A1:A1,\"=\"),COUNTIF(A1:A1,\"<>\"))"
        = .computed (.number 0.0) := by
  refine ⟨fun h => ?_, rfl⟩
  have hequal : (withOperator .equal "").selects (.ofCell (.list [])) = false := by decide
  have hother : (withOperator .notEqual "").selects (.ofCell (.list [])) = false := by decide
  have hopposite := h.selects (.list []) trivial
  rw [hequal, hother] at hopposite
  cases hopposite

end Criterion

end Worksheet
