import Worksheet.Number.Reading

/-!
# Switches of the command line

A switch has a long name and perhaps a letter.  Some take a value, which has to be of the right
kind; the others just are there or not.
-/

namespace Worksheet.Command

/-- What a word on the command line has to be. -/
inductive WordKind where
  | text
  | path
  | character
  | size
  deriving DecidableEq, Repr

/-- The natural number below 2 ^ 64 that digits stand for.  There may be a plus sign before them. -/
def size? (s : String) : Option Nat :=
  let digits := match s.toList with
    | '+' :: rest => rest
    | s => s
  if digits ≠ [] ∧ digits.all Number.isDigit ∧ Number.ofDigits digits < 0x10000000000000000 then
    some (Number.ofDigits digits)
  else none

/-- Whether a word is of a kind.  A path is not empty. -/
def WordKind.accepts : WordKind → String → Bool
  | .text, _ => true
  | .path, s => s ≠ ""
  | .character, s => s.toList.length = 1
  | .size, s => (size? s).isSome

inductive Switch where
  | data
  | output
  | delimiter
  | noHeader
  | decimals
  | listSeparator
  | now
  | maxDepth
  | explain
  | verbose
  | help
  | version
  deriving DecidableEq, Repr

namespace Switch

def longName : Switch → String
  | .data => "data"
  | .output => "output"
  | .delimiter => "delimiter"
  | .noHeader => "no-header"
  | .decimals => "decimals"
  | .listSeparator => "list-separator"
  | .now => "now"
  | .maxDepth => "max-depth"
  | .explain => "explain"
  | .verbose => "verbose"
  | .help => "help"
  | .version => "version"

def letter? : Switch → Option Char
  | .data => some 'd'
  | .output => some 'o'
  | .verbose => some 'v'
  | .help => some 'h'
  | .version => some 'V'
  | _ => none

/-- The kind of value that a switch takes, if it takes one. -/
def valueKind? : Switch → Option WordKind
  | .data | .output => some .path
  | .delimiter => some .character
  | .decimals | .maxDepth => some .size
  | .listSeparator | .now => some .text
  | _ => none

/-- Whether a switch may be given more than once. -/
def mayRepeat (s : Switch) : Bool :=
  s = .verbose

end Switch

/-- What the program can be told to do. -/
inductive Verb where
  | evaluate
  | render
  | functions
  deriving DecidableEq, Repr

namespace Verb

def name : Verb → String
  | .evaluate => "eval"
  | .render => "render"
  | .functions => "functions"

def all : List Verb :=
  [.evaluate, .render, .functions]

def named? (name : String) : Option Verb :=
  all.find? fun v => v.name = name

end Verb

/-- What help can be given on. -/
inductive Topic where
  | program
  | verb (v : Verb)
  | help
  deriving DecidableEq, Repr

namespace Topic

/-- The switches that may stand where a topic applies. -/
def switches : Topic → List Switch
  | .program => [.verbose, .help, .version]
  | .verb .evaluate =>
    [.data, .delimiter, .noHeader, .now, .maxDepth, .explain, .verbose, .help]
  | .verb .render =>
    [.output, .delimiter, .noHeader, .decimals, .listSeparator, .now, .verbose, .help]
  | .verb .functions => [.verbose, .help]
  | .help => []

/-- The kind of the word that has to be there besides the switches. -/
def operandKind? : Topic → Option WordKind
  | .verb .evaluate => some .text
  | .verb .render => some .path
  | _ => none

end Topic

end Worksheet.Command
