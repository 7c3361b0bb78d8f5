import Worksheet.Display
import Worksheet.Proofs.Loading
import Worksheet.Proofs.Words

/-!
# Formulas in delimited text

A formula is a text, and whether a cell holds one is seen from its text alone.  A field that begins
with an equals sign is never blank and never a number, so it becomes the text of a cell in a column
of any kind but two: in a list column it is divided at its semicolons like every other field, and
its items are shown and not the value of the formula (`readField_formula`).  So formulas live in the
columns of the other kinds, and in no others (`hasFormula_iff`).
-/

namespace Worksheet

/-- Whether a formula lives in a cell: its text is stored as it stands, and what is shown is the
value that it comes to, in the manner of the column. -/
structure Table.HasFormula (t : Table) (a : Address) (text : String) : Prop where
  cell?_eq : t.cell? a = some (.text text)
  formula?_eq : (Cell.text text).formula? = some text
  display_eq : ∃ column, t.columns[a.col]? = some column ∧ ∀ settings format,
    t.display settings format a = format.value column.kind (settings.evaluate t text)

namespace Table

variable {t : Table} {a : Address} {column : Column}

theorem hasFormula_of_cell? {text : String} (hcolumn : t.columns[a.col]? = some column)
    (hcell : t.cell? a = some (.text text)) (hequals : text.toList.head? = some '=') :
    t.HasFormula a text := by
  have hformula : (Cell.text text).formula? = some text := if_pos hequals
  refine ⟨hcell, hformula, column, hcolumn, fun settings format => ?_⟩
  simp only [display, shown, hcolumn, hcell, hformula]

theorem display_of_list {list : List String} (hcolumn : t.columns[a.col]? = some column)
    (hcell : t.cell? a = some (.list list)) (settings : Settings) (format : DisplayFormat) :
    t.display settings format a = joinWith format.separator list := by
  simp only [display, shown, hcolumn, hcell, Cell.formula?]
  rfl

end Table

namespace Delimited

/-- No number begins with an equals sign. -/
theorem finite?_formula (rest : List Char) : Number.finite? ('=' :: rest) = none := by
  rcases hread : Number.finite? ('=' :: rest) with _ | x
  · rfl
  have htrim : Text.trim ('=' :: rest) = '=' :: Text.trimEnd rest := Text.trim_cons rfl rest
  have hself := (Text.isTrimmed_trim ('=' :: rest)).trim_eq
  have hnumeral : Number.finite? (Text.trim ('=' :: rest)) = some x := by
    rw [Number.finite?, hself]
    exact hread
  have hchars := (Number.isNumeralChar_of_finite? hnumeral hself).1
  rw [htrim] at hchars
  exact absurd (hchars '=' List.mem_cons_self) (by decide)

/-- A field that begins with an equals sign is taken as it stands, unless the column is one of
lists. -/
theorem readField_formula {field : String} (h : field.toList.head? = some '=')
    (kind : ColumnKind) :
    readField kind field = if kind.isList then .list (items field.toList) else .text field := by
  obtain ⟨rest, hrest⟩ := List.head?_eq_some_iff.1 h
  have hblank : Text.allBlank field.toList = false := by rw [hrest]; rfl
  have hnumber : Number.finite? field.toList = none := by rw [hrest, finite?_formula]
  simp only [readField, hblank, hnumber, Bool.false_eq_true, if_false, ite_self]

/-- In a table loaded from delimited text, a formula lives in the cell of each field that begins
with an equals sign, unless its column is one of lists.  There the cell holds the items of the
field, and these are shown. -/
theorem hasFormula_iff {options : Options} {octets : List UInt8} {header : List String}
    {body : List (List String)} {t : Table} (htexts : HasTexts options octets header body)
    (hload : load options octets = .ok t) {r c : Nat} {record : List String} {field : String}
    (hrecord : body[r]? = some record) (hfield : record[c]? = some field)
    (hequals : field.toList.head? = some '=') :
    ∃ column, t.columns[c]? = some column
      ∧ (t.HasFormula ⟨r, c⟩ field ↔ column.kind.isList = false)
      ∧ (column.kind.isList = true →
        t.cell? ⟨r, c⟩ = some (.list (items field.toList)) ∧ ∀ settings format,
          t.display settings format ⟨r, c⟩ = joinWith format.separator (items field.toList)) := by
  rw [load_of_hasTexts htexts] at hload
  have hloaded := isLoaded_tableOfTexts hload
  -- the table is as wide as the record, so the field has a column
  have hwidth : c < t.columns.length := by
    have hrecords := ((hloaded.colCount_le_iff t.colCount).1 (Nat.le_refl _)).2
    have hlength := hrecords record (List.mem_of_getElem? hrecord)
    exact Nat.lt_of_lt_of_le (List.getElem?_eq_some_iff.1 hfield).1 hlength
  have hcolumn : t.columns[c]? = some t.columns[c] := List.getElem?_eq_getElem hwidth
  have hcell := hloaded.cell?_eq r c record _ hrecord hcolumn
  rw [hfield, Option.map_some, Option.getD_some, readField_formula hequals] at hcell
  refine ⟨_, hcolumn, ⟨fun h => ?_, fun hkind => ?_⟩, fun hkind => ?_⟩
  · have htext := h.cell?_eq
    rw [hcell] at htext
    by_contra hlist
    rw [Bool.not_eq_false] at hlist
    rw [if_pos hlist] at htext
    cases htext
  · rw [hkind] at hcell
    exact Table.hasFormula_of_cell? hcolumn hcell hequals
  · rw [if_pos hkind] at hcell
    exact ⟨hcell, Table.display_of_list hcolumn hcell⟩

/-- One column with a sum in it. -/
def sumUnder (header : String) : List UInt8 :=
  (header ++ "\n=SUM(1)\n").toUTF8.data.toList

theorem exists_load_sumUnder {header : String} (kind : ColumnKind)
    (htexts : HasTexts .standard (sumUnder header) [header] [["=SUM(1)"]])
    (hheader : headerColumn header = .ok (.plain "a" kind)) :
    ∃ t, load .standard (sumUnder header) = .ok t ∧ t.columns[0]? = some (.plain "a" kind)
      ∧ t.cell? ⟨0, 0⟩ = some (readField kind "=SUM(1)") := by
  obtain ⟨t, ht⟩ : ∃ t, tableOfTexts [header] [["=SUM(1)"]] = .ok t :=
    exists_tableOfTexts_iff.2 ⟨[.plain "a" kind], by simp [hheader], List.nodup_singleton "a"⟩
  have hloaded := isLoaded_tableOfTexts ht
  obtain ⟨column, hok, hcolumn⟩ := hloaded.named 0 header rfl
  obtain rfl : Column.plain "a" kind = column := Except.ok.inj (hheader.symm.trans hok)
  exact ⟨t, (load_of_hasTexts htexts).trans ht, hcolumn, hloaded.cell?_eq 0 0 _ _ rfl hcolumn⟩

theorem hasFormula_number : ∃ t, HasTexts .standard (sumUnder "a:number") ["a:number"] [["=SUM(1)"]]
    ∧ load .standard (sumUnder "a:number") = .ok t ∧ t.HasFormula ⟨0, 0⟩ "=SUM(1)" := by
  have htexts : HasTexts .standard (sumUnder "a:number") ["a:number"] [["=SUM(1)"]] :=
    ⟨by decide +kernel, by decide +kernel⟩
  obtain ⟨t, hload, hnumber, -⟩ := exists_load_sumUnder .number htexts (by decide +kernel)
  obtain ⟨column, hcolumn, hiff, -⟩ := hasFormula_iff htexts hload (r := 0) (c := 0) rfl rfl rfl
  obtain rfl : Column.plain "a" .number = column := Option.some.inj (hnumber.symm.trans hcolumn)
  exact ⟨t, htexts, hload, hiff.2 rfl⟩

/-- In a column of tags, a sum is a list of one item. -/
theorem not_hasFormula_tags : ∃ t, HasTexts .standard (sumUnder "a:tags") ["a:tags"] [["=SUM(1)"]]
    ∧ load .standard (sumUnder "a:tags") = .ok t
    ∧ t.cell? ⟨0, 0⟩ = some (.list ["=SUM(1)"]) ∧ ¬ t.HasFormula ⟨0, 0⟩ "=SUM(1)" := by
  have htexts : HasTexts .standard (sumUnder "a:tags") ["a:tags"] [["=SUM(1)"]] :=
    ⟨by decide +kernel, by decide +kernel⟩
  obtain ⟨t, hload, -, hcell⟩ := exists_load_sumUnder .tags htexts (by decide +kernel)
  have hread : readField .tags "=SUM(1)" = .list ["=SUM(1)"] := by decide +kernel
  rw [hread] at hcell
  refine ⟨t, htexts, hload, hcell, fun h => ?_⟩
  have hsame := h.cell?_eq.symm.trans hcell
  cases hsame

end Delimited

end Worksheet
