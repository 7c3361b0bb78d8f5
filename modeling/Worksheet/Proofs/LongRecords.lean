import Mathlib.Order.Bounds.Defs
import Worksheet.Proofs.Loading

/-!
# Records longer than the header

A record may have more fields than the header, and the columns for these are called by the letters
of their positions, whatever the header calls the columns it names.  Different positions have
different letters, so the only way for the names to clash is that a header field has chosen the
letters of a column behind the header.  As soon as a record reaches that column the table cannot be
loaded; otherwise it can, and the columns of the header are its first ones
(`loadsLongRecords_iff`).
-/

namespace Worksheet

/-- Columns are refused at the first one whose identifier is taken. -/
theorem Table.ofColumns_eq_error {before after : List Column} {c : Column}
    (hids : (before.map Column.id).Nodup) (hc : c.id ∈ before.map Column.id) :
    ofColumns (before ++ c :: after) = .error (.duplicateColumn c.id) := by
  obtain ⟨t, ht⟩ := exists_foldlM_addColumn (t := empty) hids
  have hcolumns : t.columns = before := (foldlM_addColumn_ok ht).1
  have hadd : t.addColumn c = .error (.duplicateColumn c.id) :=
    addColumn_eq_error_iff.2 ⟨hcolumns ▸ hc, rfl⟩
  rw [ofColumns, List.foldlM_append, ht]
  simp only [bind, Except.bind, List.foldlM_cons, hadd]
  rfl

namespace Delimited

variable {columns : List Column} {body : List (List String)}

/-! ## Columns behind the header -/

theorem grow_eq_append {n c : Nat} (hle : columns.length ≤ c) (hlt : c < n) :
    ∃ after, grow columns n = grow columns c ++ letteredColumn c :: after := by
  have hsplit : n - columns.length = c - columns.length + (n - (c + 1) + 1) := by omega
  have hstart : columns.length + (c - columns.length) = c := by omega
  refine ⟨(List.range' (c + 1) (n - (c + 1))).map letteredColumn, ?_⟩
  rw [grow, hsplit, ← List.range'_append_1, hstart, List.map_append, ← List.append_assoc,
    List.range'_succ, List.map_cons]
  rfl

/-- Columns behind the header have different letters, so their names can only clash with those of
the header. -/
theorem nodup_grow_iff {n : Nat} (hn : ∀ c, columns.length ≤ c → c < n → c < indexBound) :
    ((grow columns n).map Column.id).Nodup ↔ (columns.map Column.id).Nodup
      ∧ ∀ c, columns.length ≤ c → c < n → (letteredColumn c).id ∉ columns.map Column.id := by
  have hlettered : ((List.range' columns.length (n - columns.length)).map
      (Column.id ∘ letteredColumn)).Nodup := by
    refine List.Nodup.map_on (fun i hi j hj hij => ?_) List.nodup_range'
    rw [List.mem_range'_1] at hi hj
    exact letteredColumn_inj (hn i (by omega) (by omega)) (hn j (by omega) (by omega)) hij
  rw [grow, List.map_append, List.map_map, List.nodup_append]
  simp only [hlettered, true_and]
  refine and_congr_right fun _ => ⟨fun h c hle hlt hmem => ?_, fun h id hid id' hid' heq => ?_⟩
  · refine h _ hmem _ (List.mem_map.2 ⟨c, ?_, rfl⟩) rfl
    rw [List.mem_range'_1]
    omega
  · obtain ⟨c, hc, rfl⟩ := List.mem_map.1 hid'
    rw [List.mem_range'_1] at hc
    rw [heq] at hid
    exact h c (by omega) (by omega) hid

theorem lt_length_widen_iff {c : Nat} (hle : columns.length ≤ c) :
    c < (widen columns body).length ↔ ∃ record ∈ body, c < record.length := by
  rw [← Nat.not_le, length_widen_le_iff]
  simp [hle]

theorem widen_eq_grow_length : widen columns body = grow columns (widen columns body).length := by
  have hcount : ∀ n, max columns.length n - columns.length = n - columns.length := by omega
  rw [widen_eq_grow, length_grow, grow, grow, hcount]

/-! ## Names that clash -/

/-- Whether a column behind the header, which a record reaches, has the letters that the header has
chosen for one of its own. -/
structure Clashes (columns : List Column) (body : List (List String)) (c : Nat) : Prop where
  length_le : columns.length ≤ c
  exists_reaching : ∃ record ∈ body, c < record.length
  taken : (letteredColumn c).id ∈ columns.map Column.id

section Loading

variable (hids : (columns.map Column.id).Nodup)
  (hsize : ∀ record ∈ body, record.length ≤ indexBound)

include hids hsize

theorem nodup_widen_iff :
    ((widen columns body).map Column.id).Nodup ↔ ∀ c, ¬ Clashes columns body c := by
  rw [widen_eq_grow_length, nodup_grow_iff fun c hle hlt => ?bound]
  case bound =>
    obtain ⟨record, hrecord, hreach⟩ := (lt_length_widen_iff hle).1 hlt
    exact hreach.trans_le (hsize record hrecord)
  constructor
  · rintro ⟨-, h⟩ c ⟨hle, hreach, htaken⟩
    exact h c hle ((lt_length_widen_iff hle).2 hreach) htaken
  · exact fun h => ⟨hids, fun c hle hlt htaken =>
      h c ⟨hle, (lt_length_widen_iff hle).1 hlt, htaken⟩⟩

theorem tableOf_eq_error {c : Nat} (hleast : IsLeast {c | Clashes columns body c} c) :
    tableOf columns body = .error (.refused (.duplicateColumn (letteredColumn c).id)) := by
  obtain ⟨⟨hle, ⟨record, hrecord, hlt⟩, htaken⟩, hmin⟩ := hleast
  have hbefore : ((grow columns c).map Column.id).Nodup := by
    have hbound : ∀ i, columns.length ≤ i → i < c → i < indexBound := fun i _ hic =>
      (hic.trans hlt).trans_le (hsize record hrecord)
    refine (nodup_grow_iff hbound).2 ⟨hids, fun i hi hic hmem => ?_⟩
    exact absurd (hmin ⟨hi, ⟨record, hrecord, hic.trans hlt⟩, hmem⟩) (Nat.not_le.2 hic)
  have htaken' : (letteredColumn c).id ∈ (grow columns c).map Column.id := by
    rw [grow, List.map_append]
    exact List.mem_append_left _ htaken
  obtain ⟨after, hafter⟩ := grow_eq_append hle ((lt_length_widen_iff hle).2 ⟨record, hrecord, hlt⟩)
  rw [tableOf, widen_eq_grow_length, hafter, Table.ofColumns_eq_error hbefore htaken']
  rfl

end Loading

theorem load_eq_tableOf {options : Options} {octets : List UInt8} {header : List String}
    (htexts : HasTexts options octets header body)
    (hheader : header.map headerColumn = columns.map .ok) :
    load options octets = tableOf columns body := by
  rw [load_of_hasTexts htexts, tableOfTexts_eq, mapM_headerColumn_eq_ok_iff.2 hheader]
  rfl

/-- What it is for records of any length to load under a header: there is a table, and columns are
only added to those of the header. -/
def LoadsLongRecords (options : Options) (octets : List UInt8) (columns : List Column) : Prop :=
  ∃ t, load options octets = .ok t ∧ columns <+: t.columns

/-- Under a header that names different columns, records of any length can be loaded exactly if no
column that they add clashes with one of the header.  The first one that does is the reason why they
cannot. -/
theorem loadsLongRecords_iff {options : Options} {octets : List UInt8} {header : List String}
    (htexts : HasTexts options octets header body)
    (hheader : header.map headerColumn = columns.map .ok) (hids : (columns.map Column.id).Nodup)
    (hsize : ∀ record ∈ body, record.length ≤ indexBound) :
    (LoadsLongRecords options octets columns ↔ ∀ c, ¬ Clashes columns body c)
    ∧ ∀ c, IsLeast {c | Clashes columns body c} c →
      load options octets = .error (.refused (.duplicateColumn (letteredColumn c).id)) := by
  rw [LoadsLongRecords, load_eq_tableOf htexts hheader, ← nodup_widen_iff hids hsize]
  refine ⟨⟨fun ⟨t, ht, _⟩ => ?_, fun hnodup => ?_⟩, fun c => tableOf_eq_error hids hsize⟩
  · rw [← (tableOf_ok ht).1]
    exact t.ids_nodup
  · obtain ⟨t, ht⟩ := exists_tableOf hnodup
    exact ⟨t, ht, (tableOf_ok ht).1 ▸ List.prefix_append _ _⟩

/-- A record of two fields under a header of one. -/
def oneUnder (header : String) : List UInt8 :=
  (header ++ "\n1,2\n").toUTF8.data.toList

theorem id_letteredColumn_one : (letteredColumn 1).id = "b" := by
  decide +kernel

theorem clashes_one_iff {id : String} {c : Nat} :
    Clashes [.plain id .text] [["1", "2"]] c ↔ c = 1 ∧ id = "b" := by
  constructor
  · rintro ⟨hle, ⟨record, hrecord, hlt⟩, htaken⟩
    obtain rfl := List.mem_singleton.1 hrecord
    obtain rfl : c = 1 := Nat.le_antisymm (Nat.le_of_lt_succ hlt) hle
    rw [id_letteredColumn_one] at htaken
    exact ⟨rfl, (List.mem_singleton.1 htaken).symm⟩
  · rintro ⟨rfl, rfl⟩
    refine ⟨Nat.le_refl 1, ⟨_, List.mem_singleton_self _, Nat.lt_succ_self 1⟩, ?_⟩
    rw [id_letteredColumn_one]
    exact List.mem_singleton_self _

theorem loadsLongRecords_one : HasTexts .standard (oneUnder "a") ["a"] [["1", "2"]]
    ∧ LoadsLongRecords .standard (oneUnder "a") [.plain "a" .text] := by
  have htexts : HasTexts .standard (oneUnder "a") ["a"] [["1", "2"]] :=
    ⟨by decide +kernel, by decide +kernel⟩
  have hids : ([Column.plain "a" .text].map Column.id).Nodup := List.nodup_singleton _
  refine ⟨htexts, (loadsLongRecords_iff htexts ?header hids ?size).1.2 ?clash⟩
  case header => decide +kernel
  case size => decide
  case clash => exact fun c hclash => absurd (clashes_one_iff.1 hclash).2 (by decide)

/-- The second column is called b when a record adds it, and the header has the name already. -/
theorem not_loadsLongRecords_one : HasTexts .standard (oneUnder "b") ["b"] [["1", "2"]]
    ∧ headerColumn "b" = .ok (.plain "b" .text)
    ∧ load .standard (oneUnder "b") = .error (.refused (.duplicateColumn "b"))
    ∧ ¬ LoadsLongRecords .standard (oneUnder "b") [.plain "b" .text] := by
  have htexts : HasTexts .standard (oneUnder "b") ["b"] [["1", "2"]] :=
    ⟨by decide +kernel, by decide +kernel⟩
  have hheader : headerColumn "b" = .ok (.plain "b" .text) := by decide +kernel
  have hids : ([Column.plain "b" .text].map Column.id).Nodup := List.nodup_singleton _
  have hleast : IsLeast {c | Clashes [.plain "b" .text] [["1", "2"]] c} 1 :=
    ⟨clashes_one_iff.2 ⟨rfl, rfl⟩, fun c hc => (clashes_one_iff.1 hc).1.ge⟩
  have hcolumns : ["b"].map headerColumn = [Column.plain "b" .text].map .ok :=
    congrArg (fun c => [c]) hheader
  have hrefused : load .standard (oneUnder "b") = .error (.refused (.duplicateColumn "b")) := by
    have hclash := tableOf_eq_error hids (by decide) hleast
    rw [id_letteredColumn_one] at hclash
    exact (load_eq_tableOf htexts hcolumns).trans hclash
  refine ⟨htexts, hheader, hrefused, fun ⟨t, ht, _⟩ => ?_⟩
  rw [hrefused] at ht
  cases ht

end Delimited

end Worksheet
