import Worksheet.Proofs.CaselessSearch
import Worksheet.Proofs.Complements
import Worksheet.Proofs.Conditionals

/-!
# Texts as their own criteria

The text of a cell serves as a criterion for other cells, and for itself.  If it is plain, which
means that it is not blank, begins with no operator and is read neither as a number nor as an error,
it becomes a pattern: its small form without the blanks at its ends.  The cell is tested with all
the blanks it has.  So a plain text with no blank at an end selects itself, whatever wildcards are
in it (`Glob.MatchesTightly.refl`), and a text with blanks there and no star does not, since without
stars a pattern is as long as what it matches (`plain_text_selects_itself`).
-/

namespace Worksheet

/-! ## Patterns and their lengths -/

namespace Glob

theorem MatchesTightly.refl : ∀ p : List Char, MatchesTightly p p
  | [] => .nil
  | c :: p => by
    have hp := MatchesTightly.refl p
    by_cases hone : c = '?'
    · rw [hone]; exact .one hp
    by_cases hstar : c = '*'
    · rw [hstar]; exact .star hp
    exact .same ⟨hone, hstar⟩ hp

theorem MatchesTightly.length_eq {p t : List Char} (h : MatchesTightly p t) (hp : '*' ∉ p) :
    t.length = p.length := by
  induction h with
  | nil => rfl
  | same _ _ ih => simpa using ih (List.not_mem_of_not_mem_cons hp)
  | one _ ih => simpa using ih (List.not_mem_of_not_mem_cons hp)
  | star | many => simp at hp

end Glob

namespace Text

theorem CaseStretch.le_of_find? {k n m : Nat} : ∀ {l : List CaseStretch},
    (∀ s ∈ l, (k : Int) ≤ s.first + s.shift) → find? l n = some m → k ≤ m
  | [], _, h => by cases h
  | s :: l, hl, h => by
    have hs := hl s List.mem_cons_self
    unfold find? at h
    split_ifs at h with hfirst hin
    · rw [Option.some.injEq] at h
      omega
    · exact le_of_find? (fun s hs => hl s (List.mem_cons_of_mem _ hs)) h

/-- Before the small letters, a character is in no small form but its own. -/
theorem eq_of_mem_lowerChar {c d : Char} (h : d ∈ lowerChar c) (hpos : 0 < d.toNat)
    (hlt : d.toNat < 97) : d = c := by
  have hstretches : ∀ s ∈ lowerStretches, ((97 : Nat) : Int) ≤ s.first + s.shift := by
    decide +kernel
  unfold lowerChar at h
  split_ifs at h
  · simp only [List.mem_cons, List.not_mem_nil, or_false] at h
    rcases h with rfl | rfl <;> exact absurd hlt (by decide)
  · split at h
    · rename_i n hn
      rw [List.mem_singleton] at h
      have hn := CaseStretch.le_of_find? hstretches hn
      rw [h, Char.toNat_ofNat] at hpos hlt
      split_ifs at hpos hlt
      · omega
      · omega
    · exact List.mem_singleton.1 h

theorem mem_of_mem_lowerAfter {d : Char} {before s : List Char} (h : d ∈ lowerAfter before s)
    (hpos : 0 < d.toNat) (hlt : d.toNat < 97) : d ∈ s := by
  induction s generalizing before with
  | nil => exact h
  | cons c rest ih =>
    rw [lowerAfter_cons, List.mem_append] at h
    rcases h with h | h
    · by_cases hsigma : c = 'Σ'
      · rw [hsigma, smallForm_sigma] at h
        split_ifs at h <;> rw [List.mem_singleton.1 h] at hlt <;> exact absurd hlt (by decide)
      · rw [smallForm_of_ne hsigma] at h
        exact List.mem_cons.2 (.inl (eq_of_mem_lowerChar h hpos hlt))
    · exact List.mem_cons_of_mem c (ih h)

theorem star_not_mem_lower {s : List Char} (h : '*' ∉ s) : '*' ∉ lower s :=
  fun hmem => h (mem_of_mem_lowerAfter hmem (by decide) (by decide))

/-- Trimming makes a text shorter or leaves it as it is, and so its small form. -/
theorem length_lower_trim_lt {s : List Char} (h : trim s ≠ s) :
    (lower (trim s)).length < (lower s).length := by
  obtain ⟨p, q, -, -, hs⟩ := exists_trim s
  have hlength : (p ++ trim s ++ q).length = s.length := by rw [hs]
  have hcount : (p ++ trim s ++ q).count 'İ' = s.count 'İ' := by rw [hs]
  have hshorter : 0 < p.length + q.length := by
    rw [← List.length_append, List.length_pos_iff]
    intro hnil
    obtain ⟨rfl, rfl⟩ := List.append_eq_nil_iff.1 hnil
    exact h (by simpa using hs)
  simp only [List.length_append, List.count_append] at hlength hcount
  rw [lower, lower, length_lowerAfter, length_lowerAfter]
  omega

end Text

/-! ## Plain texts -/

/-- The text that is stored in a cell, be it as a list. -/
def Cell.text? : Cell → Option String
  | .text s => some s
  | .list items => some (joinWith "," items)
  | _ => none

/-- Whether a text as a criterion is nothing but a pattern. -/
structure IsPlainText (s : String) : Prop where
  not_blank : Text.allBlank s.toList = false
  no_operator : ∀ c ∈ (Text.trimStart s.toList).head?, c ≠ '<' ∧ c ≠ '>' ∧ c ≠ '='
  no_number : Number.finite? s.toList = none
  no_error : ErrorToken.ofText? s = none

/-- Whether the value of a cell as a criterion selects the cell. -/
def Cell.SelectsItself (cell : Cell) : Prop :=
  (Criterion.ofValue (.ofCell cell)).selects (.ofCell cell) = true

namespace Criterion

theorem operator?_eq_none : ∀ {s : List Char}, (∀ c ∈ s.head?, c ≠ '<' ∧ c ≠ '>' ∧ c ≠ '=') →
    operator? s = none
  | [], _ => rfl
  | c :: s, h => by
    obtain ⟨hless, hgreater, hequal⟩ := h c rfl
    unfold operator?
    split <;> simp_all

variable {s : String} {cell : Cell}

theorem ofText_of_isPlainText (h : IsPlainText s) :
    ofText s.toList = pattern (Text.lower (Text.trim s.toList)) false := by
  have hne : Text.trim s.toList ≠ [] := by
    rw [ne_eq, Text.trim_eq_nil_iff, h.not_blank]
    exact Bool.false_ne_true
  have hoperator : operator? (Text.trim s.toList) = none := by
    refine operator?_eq_none fun c hc => h.no_operator c ?_
    obtain ⟨q, -, hq⟩ := Text.exists_trimEnd (Text.trimStart s.toList)
    rw [← hq, List.head?_append]
    rw [Text.trim] at hc
    rw [hc]
    rfl
  simp only [ofText, if_neg hne, hoperator, finite?_trim, h.no_number]

theorem ofCell_of_isPlainText (h : IsPlainText s) (hcell : cell.text? = some s) :
    ofValue (.ofCell cell) = pattern (Text.lower (Text.trim s.toList)) false
      ∧ form (.ofCell cell) = Text.lower s.toList := by
  rw [← ofText_of_isPlainText h]
  cases cell with
  | blank | number => cases hcell
  | text =>
    cases hcell
    simp [Value.ofCell, Cell.finite?, h.no_number, h.no_error, ofValue, form, Value.toText]
  | list =>
    cases hcell
    simp [Value.ofCell, Cell.finite?, h.no_number, ofValue, form, Value.toText]

/-- A criterion made of a plain text selects a cell with a plain text by their small forms, of the
criterion without blanks at its ends. -/
theorem selects_ofCell_iff {cell' : Cell} {s' : String} (h : IsPlainText s) (h' : IsPlainText s')
    (hcell : cell.text? = some s) (hcell' : cell'.text? = some s') :
    (ofValue (.ofCell cell)).selects (.ofCell cell') = true
      ↔ Glob.MatchesTightly (Text.lower (Text.trim s.toList)) (Text.lower s'.toList) := by
  rw [(ofCell_of_isPlainText h hcell).1, ← (ofCell_of_isPlainText h' hcell').2,
    ← selects_pattern_iff]
  rfl

end Criterion

/-! ## Counting by a cell -/

section Counting

variable {s : String} {cell : Cell} (t : Table) (now : Moment) (r : Region) {a : Address}

theorem Expression.evaluate_countIf_cell (ha : t.cell? a = some cell) :
    (Expression.call .countIf [.region r, .cell a]).evaluate t now
      = .scalar (.number (Float.ofNat (t.countSelected r (.ofValue (.ofCell cell))))) := by
  have hcriterion : (Expression.cell a).criterion t now = .ofValue (.ofCell cell) := by
    simp only [Expression.criterion, Expression.evaluate, Table.value?, ha]
    rfl
  have hvalues : ((Expression.region r).evaluate t now).values = (t.block r).values := rfl
  rw [evaluate_countIf_eq, hcriterion, hvalues, Table.values_block_eq_map, List.countP_map]
  rfl

/-- A plain text that selects itself counts all cells with that text. -/
theorem countP_text_le_countSelected (h : IsPlainText s) (hcell : cell.text? = some s)
    (hself : cell.SelectsItself) :
    (t.cellsIn r).countP (fun other => other.text? = some s)
      ≤ t.countSelected r (.ofValue (.ofCell cell)) := by
  refine List.countP_mono_left fun other _ hother => ?_
  rw [decide_eq_true_eq] at hother
  rw [Criterion.selects_ofCell_iff h h hcell hother]
  exact (Criterion.selects_ofCell_iff h h hcell hcell).1 hself

theorem countSelected_pos (ha : t.cell? a = some cell) (hr : r.Contains a)
    (hself : cell.SelectsItself) : 1 ≤ t.countSelected r (.ofValue (.ofCell cell)) := by
  refine List.countP_pos_iff.2 ⟨cell, ?_, hself⟩
  exact List.mem_filterMap.2 ⟨a, Region.mem_cells_iff.2 hr, ha⟩

end Counting

/-- A plain text with no blank at an end selects itself.  One with a blank there does so at most if
it comes from its pattern, so never without a star.  Wherever a text selects itself, counting a
region by its cell counts at least the cells with the same text, and the cell if it is there. -/
theorem plain_text_selects_itself {cell : Cell} {s : String} (h : IsPlainText s)
    (hcell : cell.text? = some s) :
    (Text.trim s.toList = s.toList → cell.SelectsItself)
      ∧ (cell.SelectsItself →
          Glob.Matches (Text.lower (Text.trim s.toList)) (Text.lower s.toList))
      ∧ (Text.trim s.toList ≠ s.toList → '*' ∉ s.toList → ¬ cell.SelectsItself)
      ∧ ∀ (t : Table) (now : Moment) (r : Region) (a : Address), t.cell? a = some cell →
          cell.SelectsItself →
          ∃ n, (Expression.call .countIf [.region r, .cell a]).evaluate t now
              = .scalar (.number (Float.ofNat n))
            ∧ (t.cellsIn r).countP (fun other => other.text? = some s) ≤ n
            ∧ (r.Contains a → 1 ≤ n) := by
  have hiff := Criterion.selects_ofCell_iff h h hcell hcell
  refine ⟨fun htrim => ?_, fun hself => (hiff.1 hself).matches, fun htrim hstar hself => ?_,
    fun t now r a ha hself => ⟨_, Expression.evaluate_countIf_cell t now r ha, ?_, ?_⟩⟩
  · rw [Cell.SelectsItself, hiff, htrim]
    exact Glob.MatchesTightly.refl _
  · -- without stars the pattern is as long as what it matches, and trimming has made it shorter
    have hpattern : '*' ∉ Text.trim s.toList := by
      obtain ⟨p, q, -, -, hs⟩ := Text.exists_trim s.toList
      rw [← hs] at hstar
      simp only [List.mem_append, not_or] at hstar
      exact hstar.1.2
    have hlength := (hiff.1 hself).length_eq (Text.star_not_mem_lower hpattern)
    exact absurd hlength (Text.length_lower_trim_lt htrim).ne'
  · exact countP_text_le_countSelected t r h hcell hself
  · exact fun hr => countSelected_pos t r ha hr hself

theorem question_selects_itself :
    IsPlainText "Why? *" ∧ (Cell.text "Why? *").text? = some "Why? *"
      ∧ (Cell.text "Why? *").SelectsItself := by
  have hplain : IsPlainText "Why? *" := ⟨by decide, fun c hc => by cases hc; decide, rfl, rfl⟩
  exact ⟨hplain, rfl, (plain_text_selects_itself hplain rfl).1 (by decide)⟩

/-- The criterion loses the blank and the cell does not. -/
theorem indented_not_selects_itself :
    IsPlainText " a" ∧ (Cell.text " a").text? = some " a" ∧ ¬ (Cell.text " a").SelectsItself := by
  refine ⟨⟨by decide, fun c hc => by cases hc; decide, rfl, rfl⟩, rfl, ?_⟩
  unfold Cell.SelectsItself
  decide

end Worksheet
