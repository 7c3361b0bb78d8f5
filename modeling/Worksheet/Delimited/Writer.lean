/-!
# Writing delimited text

Every record ends with a line feed.  A field is put in quotes where it has the delimiter, a quote or
a line end in it, and its quotes are written twice.  A record that would leave its line empty is
written as a pair of quotes, since an empty line is no record.
-/

namespace Worksheet.Delimited

/-- Whether a field cannot stand without quotes. -/
def needsQuotes (delimiter : Char) (field : List Char) : Bool :=
  field.any fun c => c = delimiter || c = '"' || c = '\r' || c = '\n'

/-- A field in quotes. -/
def quoted (field : List Char) : List Char :=
  '"' :: field.flatMap (fun c => if c = '"' then ['"', '"'] else [c]) ++ ['"']

def writeField (delimiter : Char) (field : List Char) : List Char :=
  if needsQuotes delimiter field then quoted field else field

def writeRecord (delimiter : Char) (fields : List (List Char)) : List Char :=
  match [delimiter].intercalate (fields.map (writeField delimiter)) with
  | [] => ['"', '"', '\n']
  | line => line ++ ['\n']

/-- The records as one text. -/
def write (delimiter : Char) (records : List (List String)) : String :=
  String.ofList (records.flatMap fun r => writeRecord delimiter (r.map String.toList))

end Worksheet.Delimited
