import Worksheet.Proofs.Lineage
import Worksheet.Proofs.Widening

/-!
# Tables loaded from delimited text

A table can be read one record at a time, the columns growing on the way and each row made under
the columns there are so far: that is the same table (`foldl_readRecord`), because a record has no
field behind the last of its columns.  Cells are stored by identifier, and as no two columns have
the same one, each field of a record is found in its column (`getD_get?_recordRow`).  What a column
is called and of which kind it is, its header field says (`headerColumn_eq_iff`).
-/

namespace Worksheet.Delimited

/-! ## Records one after the other -/

variable {columns : List Column}

/-- Reads a record: the columns grow as it needs, and its row is made under them. -/
def readRecord (acc : List Column × List Row) (record : List String) : List Column × List Row :=
  (grow acc.1 record.length, acc.2 ++ [recordRow (grow acc.1 record.length) record])

theorem zip_append_of_length_le : ∀ {columns : List Column} (more : List Column)
    {record : List String}, record.length ≤ columns.length →
      (columns ++ more).zip record = columns.zip record
  | _, _, [], _ => by simp
  | [], _, field :: record, h => absurd h (by simp)
  | c :: columns, more, field :: record, h => by
    rw [List.cons_append, List.zip_cons_cons, List.zip_cons_cons,
      zip_append_of_length_le more (Nat.le_of_succ_le_succ h)]

/-- Columns behind the fields of a record make no difference to its row. -/
theorem recordRow_widen {record : List String} (records : List (List String))
    (h : record.length ≤ columns.length) :
    recordRow (widen columns records) record = recordRow columns record := by
  rw [recordRow, widen, zip_append_of_length_le _ h, recordRow]

theorem foldl_readRecord : ∀ (records : List (List String)) (columns : List Column)
    (rows : List Row), records.foldl readRecord (columns, rows)
      = (widen columns records, rows ++ records.map (recordRow (widen columns records)))
  | [], columns, rows => by simp [widen]
  | record :: records, columns, rows => by
    have hlen : record.length ≤ (grow columns record.length).length := by
      rw [length_grow]
      omega
    rw [List.foldl_cons, readRecord, foldl_readRecord records, widen_cons, List.map_cons,
      recordRow_widen records hlen, List.append_assoc, List.singleton_append]

/-! ## Fields -/

/-- What a field of a column stores in its row. -/
def stored? (p : Column × String) : Option (String × Cell) :=
  match readField p.1.kind p.2 with
  | .blank => none
  | cell => some (p.1.id, cell)

theorem recordRow_eq (record : List String) :
    recordRow columns record = Row.ofList ((columns.zip record).filterMap stored?) :=
  rfl

theorem stored?_eq_some_iff {p : Column × String} {id : String} {cell : Cell} :
    stored? p = some (id, cell) ↔
      p.1.id = id ∧ readField p.1.kind p.2 = cell ∧ cell ≠ .blank := by
  unfold stored?
  split
  · rename_i hblank
    rw [hblank]
    constructor
    · nofun
    · rintro ⟨-, rfl, h⟩
      exact absurd rfl h
  · rename_i hcell
    simp only [Option.some.injEq, Prod.mk.injEq]
    constructor
    · rintro ⟨hid, rfl⟩
      exact ⟨hid, rfl, hcell⟩
    · rintro ⟨hid, h, -⟩
      exact ⟨hid, h⟩

section Fields

variable {t : Table} {record : List String} {c : Nat} {column : Column}

theorem nodup_stored :
    (((t.columns.zip record).filterMap stored?).map Prod.fst).Nodup := by
  have hzip : (t.columns.zip record).Pairwise fun p q => p.1.id ≠ q.1.id := by
    rw [List.pairwise_iff_getElem]
    intro i j hi hj hij
    obtain ⟨hfst, -⟩ := List.getElem?_zip_eq_some.1 (List.getElem?_eq_getElem hi)
    obtain ⟨hsnd, -⟩ := List.getElem?_zip_eq_some.1 (List.getElem?_eq_getElem hj)
    exact Table.id_ne_of_ne hfst hsnd (Nat.ne_of_lt hij)
  rw [List.Nodup, List.pairwise_map]
  refine hzip.filterMap stored? ?_
  rintro p q hne ⟨id, cell⟩ hp ⟨id', cell'⟩ hq
  rw [← (stored?_eq_some_iff.1 hp).1, ← (stored?_eq_some_iff.1 hq).1]
  exact hne

/-- Of all the fields of a record, the one at the place of a column is stored under its
identifier, unless it is blank. -/
theorem mem_stored_iff (hcolumn : t.columns[c]? = some column) {cell : Cell} :
    (column.id, cell) ∈ (t.columns.zip record).filterMap stored? ↔
      ∃ field, record[c]? = some field ∧ readField column.kind field = cell ∧ cell ≠ .blank := by
  rw [List.mem_filterMap]
  constructor
  · rintro ⟨⟨other, field⟩, hmem, hstored⟩
    obtain ⟨hid, hcell⟩ := stored?_eq_some_iff.1 hstored
    obtain ⟨i, hi⟩ := List.mem_iff_getElem?.1 hmem
    obtain ⟨hother, hfield⟩ := List.getElem?_zip_eq_some.1 hi
    by_cases hic : i = c
    · rw [hic] at hother hfield
      obtain rfl : other = column := Option.some.inj (hother.symm.trans hcolumn)
      exact ⟨field, hfield, hcell⟩
    · exact absurd hid (Table.id_ne_of_ne hother hcolumn hic)
  · rintro ⟨field, hfield, hcell⟩
    refine ⟨(column, field), ?_, stored?_eq_some_iff.2 ⟨rfl, hcell⟩⟩
    exact List.mem_of_getElem? (List.getElem?_zip_eq_some.2 ⟨hcolumn, hfield⟩)

/-- A row has the field of its record in each column, and nothing where there is no field. -/
theorem getD_get?_recordRow (hcolumn : t.columns[c]? = some column) :
    ((recordRow t.columns record).get? column.id).getD .blank
      = (record[c]?.map (readField column.kind)).getD .blank := by
  rw [recordRow_eq]
  by_cases hcell : (record[c]?.map (readField column.kind)).getD .blank = .blank
  · rw [hcell, Row.get?_ofList_of_notMem]
    · rfl
    · intro hmem
      obtain ⟨⟨id, cell⟩, hmem, rfl⟩ := List.mem_map.1 hmem
      obtain ⟨field, hfield, hread, hne⟩ := (mem_stored_iff hcolumn).1 hmem
      rw [hfield, Option.map_some, Option.getD_some, hread] at hcell
      exact hne hcell
  · rcases hfield : record[c]? with _ | field
    · rw [hfield] at hcell
      exact absurd rfl hcell
    · rw [hfield, Option.map_some, Option.getD_some] at hcell
      have hmem := (mem_stored_iff hcolumn).2 ⟨field, hfield, rfl, hcell⟩
      rw [Row.get?_ofList_of_mem nodup_stored hmem]
      rfl

end Fields

/-! ## Header fields -/

theorem splitLastColon?_append {before after : List Char} (h : ':' ∉ after) :
    splitLastColon? (before ++ ':' :: after) = some (before, after) := by
  have hafter : ∀ c ∈ after.reverse, decide (c ≠ ':') = true := fun c hc =>
    decide_eq_true fun hcolon => h (hcolon ▸ List.mem_reverse.1 hc)
  have hreverse : (before ++ ':' :: after).reverse = after.reverse ++ ':' :: before.reverse := by
    simp
  rw [splitLastColon?, hreverse, List.dropWhile_append_of_pos hafter,
    List.takeWhile_append_of_pos hafter]
  simp

theorem splitLastColon?_of_notMem {s : List Char} (h : ':' ∉ s) : splitLastColon? s = none := by
  have hdrop : s.reverse.dropWhile (· ≠ ':') = [] := by
    rw [List.dropWhile_eq_nil_iff]
    exact fun c hc => decide_eq_true fun hcolon => h (hcolon ▸ List.mem_reverse.1 hc)
  rw [splitLastColon?, hdrop]

theorem exists_last_colon {s : List Char} (h : ':' ∈ s) :
    ∃ before after, s = before ++ ':' :: after ∧ ':' ∉ after := by
  obtain ⟨after, before, hs, hafter⟩ := List.eq_append_cons_of_mem (List.mem_reverse.2 h)
  refine ⟨before.reverse, after.reverse, ?_, by rwa [List.mem_reverse]⟩
  rw [← List.reverse_reverse s, hs]
  simp

/-- What a header field says that has no blanks around it: an identifier, or one before the last
colon with the name of a kind behind it.  Any other name is refused. -/
inductive HeaderReads : List Char → Except LoadError Column → Prop
  | plain {s : List Char} (h : ':' ∉ s) : HeaderReads s (.ok (.plain (String.ofList s) .text))
  | typed {id name : List Char} {kind : ColumnKind} (h : ':' ∉ name)
      (hkind : kind.name.toList = (Text.trim name).map Char.toLower) :
      HeaderReads (id ++ ':' :: name) (.ok (.plain (String.ofList (Text.trim id)) kind))
  | unknown {id name : List Char} (h : ':' ∉ name)
      (hkind : ∀ kind : ColumnKind, kind.name.toList ≠ (Text.trim name).map Char.toLower) :
      HeaderReads (id ++ ':' :: name)
        (.error (.unknownKind (String.ofList name) (String.ofList (id ++ ':' :: name))))

theorem headerColumn_eq_iff {field : String} {read : Except LoadError Column} :
    headerColumn field = read ↔ HeaderReads (Text.trim field.toList) read := by
  have hname : ∀ (name : List Char) kind, ColumnKind.ofName? (String.ofList name) = some kind
      ↔ kind.name.toList = (Text.trim name).map Char.toLower := fun name kind => by
    rw [ColumnKind.ofName?_eq_some_iff, String.toList_ofList]
  rw [headerColumn]
  generalize Text.trim field.toList = s
  constructor
  · rintro rfl
    by_cases hcolon : ':' ∈ s
    · obtain ⟨id, name, rfl, hlast⟩ := exists_last_colon hcolon
      simp only [splitLastColon?_append hlast]
      rcases hkind : ColumnKind.ofName? (String.ofList name) with _ | kind
      · exact .unknown hlast fun kind h => by rw [(hname name kind).2 h] at hkind; cases hkind
      · exact .typed hlast ((hname name kind).1 hkind)
    · simp only [splitLastColon?_of_notMem hcolon]
      exact .plain hcolon
  · intro h
    cases h with
    | plain h => simp only [splitLastColon?_of_notMem h]
    | typed h hkind => simp only [splitLastColon?_append h, (hname _ _).2 hkind]
    | @unknown id name h hkind =>
      have hnone : ColumnKind.ofName? (String.ofList name) = none :=
        Option.eq_none_iff_forall_ne_some.2 fun kind hsome => hkind kind ((hname _ _).1 hsome)
      simp only [splitLastColon?_append h, hnone]

/-! ## Texts -/

/-- Whether these are the texts of the header and of the records that octets stand for. -/
structure HasTexts (options : Options) (octets : List UInt8) (header : List String)
    (body : List (List String)) : Prop where
  header_eq : (if options.header then (records options.delimiter octets).head?.getD [] else []).mapM
    decodeField? = some header
  body_eq : (if options.header then (records options.delimiter octets).tail
    else records options.delimiter octets).map (·.mapM decodeField?) = body.map some

/-- The table of a header and of records that are read one after the other. -/
def tableOfTexts (header : List String) (body : List (List String)) : Except LoadError Table := do
  let read := body.foldl readRecord (← header.mapM headerColumn, [])
  let t ← (Table.ofColumns read.1).mapError .refused
  return t.withRows read.2

theorem tableOfTexts_eq (header : List String) (body : List (List String)) :
    tableOfTexts header body = (do tableOf (← header.mapM headerColumn) body) := by
  unfold tableOfTexts tableOf
  simp only [foldl_readRecord, List.nil_append]

theorem mapM_headerColumn_eq_ok_iff : ∀ {header : List String} {columns : List Column},
    header.mapM headerColumn = .ok columns ↔ header.map headerColumn = columns.map .ok
  | [], columns => by
    cases columns <;> simp [pure, Except.pure]
  | field :: header, [] => by
    rw [List.mapM_cons]
    rcases headerColumn field with e | column
    · simp [bind, Except.bind]
    · rcases header.mapM headerColumn with e | rest <;> simp [bind, Except.bind, pure, Except.pure]
  | field :: header, column :: columns => by
    rw [List.mapM_cons, List.map_cons, List.map_cons, List.cons.injEq,
      ← mapM_headerColumn_eq_ok_iff]
    rcases headerColumn field with e | first
    · simp [bind, Except.bind]
    · rcases header.mapM headerColumn with e | rest <;> simp [bind, Except.bind, pure, Except.pure]

theorem length_of_decode : ∀ {fields : List RawField} {texts : List String},
    fields.mapM decodeField? = some texts → texts.length = fields.length
  | [], texts, h => by
    rw [← Option.some.inj h]
    rfl
  | field :: fields, texts, h => by
    rw [List.mapM_cons] at h
    rcases hfirst : decodeField? field with _ | first <;> rw [hfirst] at h
    · cases h
    · rcases hrest : fields.mapM decodeField? with _ | rest <;> rw [hrest] at h
      · cases h
      · rw [← Option.some.inj h, List.length_cons, List.length_cons, length_of_decode hrest]

theorem decodeRecords_eq_ok_iff : ∀ (number : Nat) {raw : List (List RawField)}
    {body : List (List String)}, decodeRecords number raw = .ok body ↔
      raw.map (·.mapM decodeField?) = body.map some
  | number, [], body => by
    cases body <;> simp [decodeRecords]
  | number, fields :: raw, [] => by
    rw [decodeRecords]
    rcases fields.mapM decodeField? with _ | texts
    · simp
    · rcases decodeRecords (number + 1) raw with e | rest <;>
        simp [bind, Except.bind, pure, Except.pure]
  | number, fields :: raw, record :: body => by
    rw [decodeRecords, List.map_cons, List.map_cons, List.cons.injEq,
      ← decodeRecords_eq_ok_iff (number + 1)]
    rcases fields.mapM decodeField? with _ | texts
    · simp
    · rcases decodeRecords (number + 1) raw with e | rest <;>
        simp [bind, Except.bind, pure, Except.pure]

theorem decodeRecords_error : ∀ {raw : List (List RawField)} {number : Nat} {e : LoadError},
    decodeRecords number raw = .error e → ∃ n, e = .badRecord n
  | [], _, _, h => by
    rw [decodeRecords] at h
    cases h
  | fields :: raw, number, e, h => by
    rw [decodeRecords] at h
    rcases hfields : fields.mapM decodeField? with _ | texts <;> rw [hfields] at h
    · cases h
      exact ⟨number, rfl⟩
    · rcases hrest : decodeRecords (number + 1) raw with e' | body <;>
        simp only [hrest] at h
      · cases h
        exact decodeRecords_error hrest
      · cases h

theorem tableOf_ok {body : List (List String)} {t : Table} (h : tableOf columns body = .ok t) :
    t.columns = widen columns body ∧ t.rows = body.map (recordRow (widen columns body)) := by
  rcases hmade : Table.ofColumns (widen columns body) with e | u <;> simp only [tableOf, hmade] at h
  · cases h
  · cases h
    exact ⟨(Table.ofColumns_ok hmade).1, rfl⟩

theorem exists_tableOf {body : List (List String)}
    (h : ((widen columns body).map Column.id).Nodup) : ∃ t, tableOf columns body = .ok t := by
  obtain ⟨t, ht⟩ := Table.exists_ofColumns_iff.2 h
  exact ⟨_, by rw [tableOf, ht]; rfl⟩

/-- Texts make a table exactly if the header names columns and all columns have different
identifiers. -/
theorem exists_tableOfTexts_iff {header : List String} {body : List (List String)} :
    (∃ t, tableOfTexts header body = .ok t) ↔ ∃ columns,
      header.map headerColumn = columns.map .ok ∧ ((widen columns body).map Column.id).Nodup := by
  rw [tableOfTexts_eq]
  constructor
  · rintro ⟨t, h⟩
    rcases hheader : header.mapM headerColumn with e | columns <;> rw [hheader] at h
    · cases h
    · have hcolumns := (tableOf_ok h).1
      exact ⟨columns, mapM_headerColumn_eq_ok_iff.1 hheader, hcolumns ▸ t.ids_nodup⟩
  · rintro ⟨columns, hheader, hids⟩
    rw [mapM_headerColumn_eq_ok_iff.2 hheader]
    exact exists_tableOf hids

/-- Whether a table is that of a header and of records: as wide as the longest of them, with a
column for each field of the header and lettered columns behind them, and in each row the fields of
a record, blank where the record has none. -/
structure IsLoaded (header : List String) (body : List (List String)) (t : Table) : Prop where
  rowCount_eq : t.rowCount = body.length
  colCount_le_iff : ∀ n,
    t.colCount ≤ n ↔ header.length ≤ n ∧ ∀ record ∈ body, record.length ≤ n
  named : ∀ (c : Nat) field, header[c]? = some field →
    ∃ column, headerColumn field = .ok column ∧ t.columns[c]? = some column
  lettered : ∀ c, header.length ≤ c → c < t.colCount →
    t.columns[c]? = some (Column.plain (lowerText (columnLetters c)) .text)
  cell?_eq : ∀ (r c : Nat) record column, body[r]? = some record → t.columns[c]? = some column →
    t.cell? ⟨r, c⟩ = some ((record[c]?.map (readField column.kind)).getD .blank)

theorem isLoaded_tableOfTexts {header : List String} {body : List (List String)} {t : Table}
    (h : tableOfTexts header body = .ok t) : IsLoaded header body t := by
  rw [tableOfTexts_eq] at h
  rcases hheader : header.mapM headerColumn with e | columns <;> rw [hheader] at h
  · cases h
  obtain ⟨hcolumns, hrows⟩ := tableOf_ok h
  have hfields := mapM_headerColumn_eq_ok_iff.1 hheader
  have hlength : header.length = columns.length := by
    simpa using congrArg List.length hfields
  constructor
  case rowCount_eq => rw [Table.rowCount, hrows, List.length_map]
  case colCount_le_iff =>
    intro n
    rw [Table.colCount, hcolumns, hlength, length_widen_le_iff]
  case named =>
    intro c field hfield
    have hat : (header.map headerColumn)[c]? = (columns.map Except.ok)[c]? := by rw [hfields]
    rw [List.getElem?_map, List.getElem?_map, hfield, Option.map_some] at hat
    obtain ⟨column, hcolumn, hok⟩ := Option.map_eq_some_iff.1 hat.symm
    refine ⟨column, hok.symm, ?_⟩
    rw [hcolumns, getElem?_widen_of_lt body (List.getElem?_eq_some_iff.1 hcolumn).1, hcolumn]
  case lettered =>
    intro c hc hlt
    rw [Table.colCount, hcolumns] at hlt
    rw [hcolumns]
    exact getElem?_widen_of_le (hlength ▸ hc) hlt
  case cell?_eq =>
    intro r c record column hrecord hcolumn
    have hrow : t.rows[r]? = some (recordRow t.columns record) := by
      rw [hrows, ← hcolumns, List.getElem?_map, hrecord, Option.map_some]
    simp only [Table.cell?, hcolumn, hrow]
    rw [getD_get?_recordRow hcolumn]

theorem load_of_hasTexts {options : Options} {octets : List UInt8} {header : List String}
    {body : List (List String)} (h : HasTexts options octets header body) :
    load options octets = tableOfTexts header body := by
  obtain ⟨hheader, hbody⟩ := h
  rw [← decodeRecords_eq_ok_iff 1] at hbody
  rw [tableOfTexts_eq, load]
  cases hoption : options.header
  · simp only [hoption, Bool.false_eq_true, if_false] at hheader hbody ⊢
    rw [hbody, ← Option.some.inj hheader]
    rfl
  · simp only [hoption, if_true] at hheader hbody ⊢
    rw [hbody, headerColumns, hheader]
    rfl

theorem exists_of_headerColumns {raw : List (List RawField)} (h : headerColumns raw = .ok columns) :
    ∃ header, (raw.head?.getD []).mapM decodeField? = some header := by
  rw [headerColumns] at h
  rcases hheader : (raw.head?.getD []).mapM decodeField? with _ | header
  · rw [hheader] at h
    cases h
  · exact ⟨header, rfl⟩

theorem exists_hasTexts {options : Options} {octets : List UInt8} {t : Table}
    (h : load options octets = .ok t) : ∃ header body, HasTexts options octets header body := by
  rw [load] at h
  cases hoption : options.header <;> simp only [hoption, Bool.false_eq_true, if_false, if_true] at h
  · rcases hbody : decodeRecords 1 (records options.delimiter octets) with e | body <;>
      rw [hbody] at h
    · cases h
    · refine ⟨[], body, ?_, ?_⟩
      · simp [hoption]
      · simpa [hoption] using (decodeRecords_eq_ok_iff 1).1 hbody
  · rcases hnamed : headerColumns (records options.delimiter octets) with e | columns <;>
      rw [hnamed] at h
    · cases h
    · rcases hbody : decodeRecords 1 (records options.delimiter octets).tail with e | body <;>
        rw [hbody] at h
      · cases h
      · obtain ⟨header, hheader⟩ := exists_of_headerColumns hnamed
        refine ⟨header, body, ?_, ?_⟩
        · simpa [hoption] using hheader
        · simpa [hoption] using (decodeRecords_eq_ok_iff 1).1 hbody

/-- Without a header, nothing can go wrong but that a record is not text: as many lettered columns
as an index can count have different identifiers. -/
theorem load_error_of_no_header {options : Options} {octets : List UInt8} {e : LoadError}
    (hoption : options.header = false)
    (hshort : ∀ fields ∈ records options.delimiter octets, fields.length ≤ indexBound)
    (h : load options octets = .error e) : ∃ n, e = .badRecord n := by
  rw [load, hoption] at h
  simp only [Bool.false_eq_true, if_false] at h
  rcases hbody : decodeRecords 1 (records options.delimiter octets) with e' | body <;>
    rw [hbody] at h
  · cases h
    exact decodeRecords_error hbody
  · have hrecords : ∀ record ∈ body, record.length ≤ indexBound := by
      intro record hrecord
      have hmem : some record ∈ body.map some := List.mem_map_of_mem hrecord
      rw [← (decodeRecords_eq_ok_iff 1).1 hbody] at hmem
      obtain ⟨fields, hfields, hdecoded⟩ := List.mem_map.1 hmem
      rw [length_of_decode hdecoded]
      exact hshort fields hfields
    obtain ⟨t, ht⟩ := exists_tableOf (nodup_widen_nil hrecords)
    have hload : tableOf [] body = .error e := h
    rw [ht] at hload
    cases hload

/-- A table is loaded exactly if its octets are texts and these make a table, and it is the one that
reading their records one after the other makes.  Whatever the texts are, it has each field of each
record in its column and nothing else.  Without a header no two columns have the same identifier:
texts always make a table, as long as an index can count the fields of a record. -/
theorem load_faithful (options : Options) (octets : List UInt8) :
    (∀ t, load options octets = .ok t ↔
      ∃ header body, HasTexts options octets header body ∧ tableOfTexts header body = .ok t)
    ∧ (∀ header body, ((∃ t, tableOfTexts header body = .ok t) ↔ ∃ columns,
        header.map headerColumn = columns.map .ok ∧ ((widen columns body).map Column.id).Nodup)
      ∧ ∀ t, tableOfTexts header body = .ok t → IsLoaded header body t)
    ∧ (∀ body : List (List String), (∀ record ∈ body, record.length ≤ indexBound) →
      ∃ t, tableOfTexts [] body = .ok t)
    ∧ (options.header = false →
      (∀ fields ∈ records options.delimiter octets, fields.length ≤ indexBound) →
        ∀ e, load options octets = .error e → ∃ n, e = .badRecord n) := by
  refine ⟨fun t => ⟨fun h => ?_, ?_⟩, fun header body =>
    ⟨exists_tableOfTexts_iff, fun t => isLoaded_tableOfTexts⟩, fun body hbody => ?_,
    fun hoption hshort e => load_error_of_no_header hoption hshort⟩
  · obtain ⟨header, body, htexts⟩ := exists_hasTexts h
    exact ⟨header, body, htexts, load_of_hasTexts htexts ▸ h⟩
  · rintro ⟨header, body, htexts, h⟩
    rw [load_of_hasTexts htexts, h]
  · exact exists_tableOfTexts_iff.2 ⟨[], rfl, nodup_widen_nil hbody⟩

example : (tableOfTexts ["Id", "hours:number"] [["x", "1.5", "late"], ["y"]]).map
    (fun t => t.columns.map Column.id) = .ok ["Id", "hours", "c"] := by decide +kernel

end Worksheet.Delimited
