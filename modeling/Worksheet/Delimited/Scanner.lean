/-!
# Records of delimited text

A delimited text is a row of octets: fields with a delimiter between them, in records that end with
a line feed or a carriage return.  A field may be put in double quotes; then delimiters and line
ends belong to it, and a quote inside is written twice.  Any other quote belongs to its field as it
stands, and so does what follows a closing quote.  Lines with nothing in them are no records, so
that a line feed may follow a carriage return, and a record at the end of the text needs no line
end.
-/

namespace Worksheet.Delimited

/-- A field in octets. -/
abbrev RawField := List UInt8

/-- Where a scanner stands. -/
inductive Mode where
  /-- Before a record. -/
  | beforeRecord
  /-- Before a field of a record. -/
  | beforeField
  /-- In a field without quotes, or behind the closing quote of one. -/
  | inField
  /-- In a quoted field. -/
  | inQuotes
  /-- After a quote in a quoted field, which closes the field or stands for a quote. -/
  | afterQuote
  deriving DecidableEq, Repr

/-- What has been read so far, the last things first: the field, its record and the records. -/
structure Scanner where
  mode : Mode
  field : List UInt8
  fields : List RawField
  records : List (List RawField)

def quote : UInt8 := 34

def lineFeed : UInt8 := 10

def carriageReturn : UInt8 := 13

namespace Scanner

def start : Scanner :=
  ⟨.beforeRecord, [], [], []⟩

/-- Adds an octet to the field. -/
def push (s : Scanner) (mode : Mode) (c : UInt8) : Scanner :=
  { s with mode := mode, field := c :: s.field }

/-- Ends the field, and the next one begins. -/
def endField (s : Scanner) : Scanner :=
  { s with mode := .beforeField, field := [], fields := s.field.reverse :: s.fields }

/-- Ends the field and the record with it. -/
def endRecord (s : Scanner) : Scanner :=
  ⟨.beforeRecord, [], [], (s.field.reverse :: s.fields).reverse :: s.records⟩

def isLineEnd (c : UInt8) : Bool :=
  c == lineFeed || c == carriageReturn

/-- Reads an octet of a field outside quotes: a delimiter, a line end or a part of the field. -/
def bare (delimiter : UInt8) (s : Scanner) (c : UInt8) : Scanner :=
  if c = delimiter then s.endField
  else if isLineEnd c then s.endRecord
  else s.push .inField c

/-- Reads the first octet of a field. -/
def beginField (delimiter : UInt8) (s : Scanner) (c : UInt8) : Scanner :=
  if c = quote then { s with mode := .inQuotes } else bare delimiter s c

/-- Reads one octet. -/
def step (delimiter : UInt8) (s : Scanner) (c : UInt8) : Scanner :=
  match s.mode with
  | .beforeRecord => if isLineEnd c then s else beginField delimiter s c
  | .beforeField => beginField delimiter s c
  | .inField => bare delimiter s c
  | .inQuotes => if c = quote then { s with mode := .afterQuote } else s.push .inQuotes c
  | .afterQuote => if c = quote then s.push .inQuotes c else bare delimiter s c

/-- Ends a record that is still open at the end of the text. -/
def finish (s : Scanner) : List (List RawField) :=
  match s.mode with
  | .beforeRecord => s.records.reverse
  | _ => s.endRecord.records.reverse

end Scanner

/-- The text without the mark of its encoding at the beginning. -/
def withoutMark : List UInt8 → List UInt8
  | 0xEF :: 0xBB :: 0xBF :: rest => rest
  | s => s

/-- The records of a text. -/
def records (delimiter : UInt8) (octets : List UInt8) : List (List RawField) :=
  ((withoutMark octets).foldl (Scanner.step delimiter) Scanner.start).finish

end Worksheet.Delimited
