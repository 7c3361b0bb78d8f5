import Worksheet.Text.Class
import Worksheet.Text.CaseMap

/-!
# Upper and lower case of texts

The capital form of a text is that of its characters, one after the other.  So is the small form,
with one exception: a capital sigma at the end of a word becomes a final sigma.
-/

namespace Worksheet.Text

/-- The capital form of a text. -/
def upper (s : List Char) : List Char :=
  s.flatMap upperChar

/-- Whether the first character that counts for case is there and has a case. -/
def casedAhead (s : List Char) : Bool :=
  match s.dropWhile isCaseIgnorable with
  | [] => false
  | c :: _ => isCased c

/-- The small form of `rest`, given the characters before it, the nearest first. -/
def lowerAfter (before : List Char) : List Char → List Char
  | [] => []
  | c :: rest =>
    let form :=
      if c = 'Σ' then if casedAhead before && !casedAhead rest then ['ς'] else ['σ']
      else lowerChar c
    form ++ lowerAfter (c :: before) rest

/-- The small form of a text. -/
def lower (s : List Char) : List Char :=
  lowerAfter [] s

end Worksheet.Text

namespace Worksheet

/-- The capital form of a string. -/
def upperText (s : String) : String :=
  String.ofList (Text.upper s.toList)

/-- The small form of a string. -/
def lowerText (s : String) : String :=
  String.ofList (Text.lower s.toList)

end Worksheet
