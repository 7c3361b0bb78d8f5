import Worksheet.Document.Token
import Worksheet.Document.Numeral

/-!
# Documents as trees

The tokens of a document are read by a machine with a stack.  On the stack are the arrays and
objects that are open; beside it stands what may come next.  A value that is complete belongs to
what is open on top, and when nothing is open any more it is the document.
-/

namespace Worksheet.Document

/-- A value of a document.  The entries of an object are in their order, and a key may come
twice. -/
inductive Tree where
  | null
  | boolean (b : Bool)
  | number (n : Numeral)
  | text (s : Quoted)
  | array (items : List Tree)
  | object (entries : List (Quoted × Tree))

/-- The value that a word stands for. -/
def ofWord? (word : List Char) : Option Tree :=
  match word with
  | ['n', 'u', 'l', 'l'] => some .null
  | ['t', 'r', 'u', 'e'] => some (.boolean true)
  | ['f', 'a', 'l', 's', 'e'] => some (.boolean false)
  | _ => (Numeral.read? word).map .number

/-- An array or object that is open, with what it has so far, the last things first. -/
inductive Frame where
  | array (items : List Tree)
  /-- An object, and the key of the value that is being read. -/
  | object (entries : List (Quoted × Tree)) (key : Quoted)

/-- What may come next. -/
inductive Phase where
  | value
  /-- The first item of an array, or its end. -/
  | firstItem
  /-- The first key of an object, or its end. -/
  | firstKey
  /-- A key of an object that has entries. -/
  | key (entries : List (Quoted × Tree))
  /-- The colon after a key. -/
  | colon (entries : List (Quoted × Tree)) (key : Quoted)
  /-- What may follow this value where it stands. -/
  | after (v : Tree)

structure Machine where
  stack : List Frame
  phase : Phase

namespace Machine

def start : Machine :=
  ⟨[], .value⟩

/-- Begins a value. -/
def beginValue (stack : List Frame) : Token → Option Machine
  | .openArray => some ⟨stack, .firstItem⟩
  | .openObject => some ⟨stack, .firstKey⟩
  | .word w => (ofWord? w).map fun v => ⟨stack, .after v⟩
  | .quoted s => some ⟨stack, .after (.text s)⟩
  | _ => none

/-- Goes on after a value. -/
def afterValue (v : Tree) : List Frame → Token → Option Machine
  | .array items :: stack, .comma => some ⟨.array (v :: items) :: stack, .value⟩
  | .array items :: stack, .closeArray => some ⟨stack, .after (.array (v :: items).reverse)⟩
  | .object entries key :: stack, .comma => some ⟨stack, .key ((key, v) :: entries)⟩
  | .object entries key :: stack, .closeObject =>
    some ⟨stack, .after (.object ((key, v) :: entries).reverse)⟩
  | _, _ => none

/-- Reads one token; none if it may not come next. -/
def step (m : Machine) (t : Token) : Option Machine :=
  match m.phase, t with
  | .value, t => beginValue m.stack t
  | .firstItem, .closeArray => some ⟨m.stack, .after (.array [])⟩
  | .firstItem, t => beginValue (.array [] :: m.stack) t
  | .firstKey, .closeObject => some ⟨m.stack, .after (.object [])⟩
  | .firstKey, .quoted key => some ⟨m.stack, .colon [] key⟩
  | .key entries, .quoted key => some ⟨m.stack, .colon entries key⟩
  | .colon entries key, .colon => some ⟨.object entries key :: m.stack, .value⟩
  | .after v, t => afterValue v m.stack t
  | _, _ => none

/-- The document, if it is complete. -/
def finish (m : Machine) : Option Tree :=
  match m.stack, m.phase with
  | [], .after v => some v
  | _, _ => none

end Machine

/-- The tree that tokens make. -/
def tree? (tokens : List Token) : Option Tree := do
  (← tokens.foldlM Machine.step Machine.start).finish

end Worksheet.Document
