import Worksheet.Command.Help
import Worksheet.Delimited.Load
import Worksheet.Display
import Worksheet.Document.Load

/-!
# Carrying out a request

What a request comes to depends on what is found at the path of its source, on the clock and on
whether the file it asks for can be created.  Nothing else is looked at, so the whole program is a
function of these; a file is created only when everything else has succeeded.
-/

namespace Worksheet.Command

/-- What is found at a path. -/
inductive Found where
  | nothing
  /-- Something that can be opened and not read, as a directory. -/
  | unreadable
  | octets (content : List UInt8)

/-- Why a request fails. -/
inductive Failure where
  | badDelimiter (c : Char)
  | notOpened (path : String)
  | notRead (path : String) (cause : Option LoadError)
  | badClock (text : String)
  | notCreated (path : String)
  deriving DecidableEq, Repr

namespace Failure

def message : Failure → String
  | .badDelimiter c => s!"Delimiter '{c}' is not a single ASCII character"
  | .notOpened path => s!"Failed to open '{path}'"
  | .notRead path _ => s!"Failed to read dataset '{path}'"
  | .badClock text => s!"Invalid --now value '{text}'"
  | .notCreated path => s!"Failed to create '{path}'"

/-- The message with its cause, if this is known. -/
def text (f : Failure) : String :=
  let cause := match f with
    | .notRead _ (some e) => "\n\nCaused by:\n    " ++ e.message
    | _ => ""
  "Error: " ++ f.message ++ cause ++ "\n"

end Failure

/-- What the program leaves: its exit code, its output and its messages. -/
structure Report where
  exitCode : Nat
  output : String
  messages : String
  deriving DecidableEq, Repr

namespace Report

def success (output messages : String) : Report :=
  ⟨0, output, messages⟩

def ofFailure (f : Failure) : Report :=
  ⟨1, "", f.text⟩

def ofStop : Stop → Report
  | .help topic => .success (helpText topic) ""
  | .version => .success versionText ""
  | .usage e => ⟨2, "", e.text⟩

end Report

/-- What is left to do when a request has been worked on. -/
inductive Plan where
  | done (r : Report)
  /-- A file to be created with a content, and the number of rows in it. -/
  | create (path content : String) (rows : Nat)
  deriving DecidableEq, Repr

/-- The report when the file of a plan has been created, or could not be. -/
def Plan.report (created : Bool) : Plan → Report
  | .done r => r
  | .create path _ rows =>
    if created then .success "" s!"Wrote {rows} rows to '{path}'\n"
    else .ofFailure (.notCreated path)

/-- What follows the last dot in the name of a file, unless the name has nothing else before it. -/
def extension? (path : String) : Option String :=
  let reversed := path.toList.reverse.takeWhile (· ≠ '/')
  match reversed.dropWhile (· ≠ '.') with
  | _ :: _ :: _ => some (String.ofList (reversed.takeWhile (· ≠ '.')).reverse)
  | _ => none

/-- Whether the file at a path is taken for a document. -/
def isDocument (path : String) : Bool :=
  (extension? path).map lowerText = some "json"

namespace Source

/-- The table in what is found at the path of a source. -/
def load (s : Source) (found : Found) : Except Failure Table :=
  if 128 ≤ s.delimiter.toNat then .error (.badDelimiter s.delimiter)
  else
    match found with
    | .nothing => .error (.notOpened s.path)
    | .unreadable => .error (.notRead s.path none)
    | .octets content =>
      let loaded :=
        if isDocument s.path then Document.load content
        else Delimited.load ⟨s.delimiter.toNat.toUInt8, s.header⟩ content
      loaded.mapError fun e => .notRead s.path (some e)

end Source

/-- The clock: pinned to a moment that is given, and running otherwise. -/
def clockOf (now : Moment) : Option String → Except Failure Clock
  | none => .ok ⟨false, now⟩
  | some text =>
    match Calendar.Plain.toSecond? text.toList with
    | some m => .ok ⟨true, m⟩
    | none => .error (.badClock text)

/-- How a value was come to. -/
def explanation : Evaluation → String
  | .literal _ => "literal"
  | .computed _ => "computed"
  | .unrecognized _ => "unrecognized formula, shown as text"
  | .failed e => "failed: " ++ e.message

/-- The line about a function: its name, how many arguments it takes and whether it reads the
clock. -/
def functionLine (f : Builtin) : String :=
  padded 12 f.name ++ " " ++ f.arity.text ++ (if f.isVolatile then " (volatile)" else "") ++ "\n"

namespace Request

/-- The path that a request reads from. -/
def inputPath? : Request → Option String
  | .evaluate _ source _ _ _ => source.map Source.path
  | .render source _ _ _ _ => some source.path
  | .functions => none

/-- Works on a request with what is found at its path. -/
def run (found : Found) (now : Moment) : Request → Except Failure Plan
  | .evaluate formula source pin limit explain => do
    let t ← match source with
      | none => pure Table.empty
      | some s => s.load found
    let clock ← clockOf now pin
    let e := Worksheet.evaluate t (limit.getD standardLimit) clock.now formula
    return .done (.success (e.value.toText ++ "\n") (if explain then explanation e ++ "\n" else ""))
  | .render source output decimals separator pin => do
    let t ← source.load found
    let clock ← clockOf now pin
    let format := ⟨decimals, separator.getD DisplayFormat.standard.separator⟩
    let grid := t.grid ⟨standardLimit, clock⟩ format
    let text := Delimited.writeGrid source.delimiter t grid
    match output with
    | none => return .done (.success text "")
    | some path => return .create path text grid.length
  | .functions => .ok (.done (.success (String.join (Builtin.all.map functionLine)) ""))

/-- What a request comes to. -/
def plan (found : Found) (now : Moment) (r : Request) : Plan :=
  match r.run found now with
  | .ok p => p
  | .error f => .done (.ofFailure f)

end Request

end Worksheet.Command
