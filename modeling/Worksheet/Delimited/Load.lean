import Worksheet.Delimited.Scanner
import Worksheet.Delimited.Writer
import Worksheet.LoadError
import Worksheet.Text.Case

/-!
# Tables from delimited text

A header field names a column and may end with a colon and the kind of the column.  Columns that no
header field names, because there is no header or because a record is longer than it, get their
letters as identifiers and are text columns.  An empty field stores nothing; in a list column a
field is divided at semicolons, and in a number column it is a number if it can be read as one.
-/

namespace Worksheet.Delimited

/-- How a text is to be read. -/
structure Options where
  delimiter : UInt8
  header : Bool
  deriving DecidableEq

/-- Commas between fields, and a header. -/
def Options.standard : Options :=
  ⟨44, true⟩

/-- The texts before and after the last colon. -/
def splitLastColon? (s : List Char) : Option (List Char × List Char) :=
  match s.reverse.dropWhile (· ≠ ':') with
  | [] => none
  | _ :: before => some (before.reverse, (s.reverse.takeWhile (· ≠ ':')).reverse)

/-- The column that a header field names. -/
def headerColumn (field : String) : Except LoadError Column :=
  let s := Text.trim field.toList
  match splitLastColon? s with
  | none => .ok (Column.plain (String.ofList s) .text)
  | some (id, kind) =>
    match ColumnKind.ofName? (String.ofList kind) with
    | some k => .ok (Column.plain (String.ofList (Text.trim id)) k)
    | none => .error (.unknownKind (String.ofList kind) (String.ofList s))

/-- The items of a field of a list column. -/
def items (field : List Char) : List String :=
  (((field.splitOn ';').map Text.trim).filter (· ≠ [])).map String.ofList

/-- The cell that a field of a column stands for. -/
def readField (kind : ColumnKind) (field : String) : Cell :=
  if Text.allBlank field.toList then .blank
  else if kind.isList then .list (items field.toList)
  else if kind = .number then
    match Number.finite? field.toList with
    | some x => .number x
    | none => .text field
  else .text field

/-- The column that stands at a position without a header field. -/
def letteredColumn (col : Nat) : Column :=
  Column.plain (lowerText (columnLetters col)) .text

/-- The columns, with as many more as the longest record needs. -/
def widen (columns : List Column) (records : List (List String)) : List Column :=
  let width := (records.map List.length).foldl max columns.length
  columns ++ (List.range' columns.length (width - columns.length)).map letteredColumn

/-- The row of a record.  Blank fields are not stored. -/
def recordRow (columns : List Column) (record : List String) : Row :=
  Row.ofList <| (columns.zip record).filterMap fun (c, field) =>
    match readField c.kind field with
    | .blank => none
    | cell => some (c.id, cell)

/-- The table of records under the columns of a header. -/
def tableOf (header : List Column) (records : List (List String)) : Except LoadError Table := do
  let columns := widen header records
  let t ← (Table.ofColumns columns).mapError .refused
  return t.withRows (records.map (recordRow columns))

/-- The text of a field, if its octets are one. -/
def decodeField? (field : RawField) : Option String :=
  String.fromUTF8? (ByteArray.mk field.toArray)

/-- The texts of records, the first of which has a number. -/
def decodeRecords (number : Nat) : List (List RawField) → Except LoadError (List (List String))
  | [] => .ok []
  | r :: rest =>
    match r.mapM decodeField? with
    | none => .error (.badRecord number)
    | some fields => do return fields :: (← decodeRecords (number + 1) rest)

/-- The columns that the first record names. -/
def headerColumns (raw : List (List RawField)) : Except LoadError (List Column) :=
  match (raw.head?.getD []).mapM decodeField? with
  | none => .error .badHeader
  | some header => header.mapM headerColumn

/-- Loads a table from octets. -/
def load (options : Options) (octets : List UInt8) : Except LoadError Table := do
  let raw := records options.delimiter octets
  if options.header then tableOf (← headerColumns raw) (← decodeRecords 1 raw.tail)
  else tableOf [] (← decodeRecords 1 raw)

/-- A grid as delimited text under the identifiers of its columns. -/
def writeGrid (delimiter : Char) (t : Table) (grid : List (List String)) : String :=
  write delimiter (t.columns.map Column.id :: grid)

end Worksheet.Delimited
