import Worksheet.Command.Switch

/-!
# Reading the command line

The words of the command line are read one after the other: first the switches of the program, then
a verb, then the switches and the operand that belong to the verb.  The value of a switch is joined
to it or is the next word, which then must not look like a switch itself.  Behind two dashes every
word is an operand.  Reading stops at the first word that is wrong or asks for help or for the
version, so that a mistake counts only before such a word.
-/

namespace Worksheet.Command

/-- What is wrong with a command line. -/
inductive UsageError where
  | noVerb
  | noSuchVerb (word : String)
  | unexpected (word : String)
  | noValue (s : Switch)
  | noValueTaken (s : Switch)
  | badValue (s : Switch) (value : String)
  | badOperand (word : String)
  | noOperand
  | repeated (s : Switch)
  deriving DecidableEq, Repr

/-- Why a command line is no request to work on. -/
inductive Stop where
  | help (topic : Topic)
  | version
  | usage (e : UsageError)
  deriving DecidableEq, Repr

/-- What has been read so far, the last switch first. -/
structure Reader where
  given : List (Switch × String)
  operand : Option String
  /-- The switch whose value has to come next. -/
  awaiting : Option Switch
  /-- Whether two dashes have come. -/
  ended : Bool
  deriving DecidableEq, Repr

namespace Reader

def start : Reader :=
  ⟨[], none, none, false⟩

/-- Whether a word looks like a switch. -/
def isSwitch (word : String) : Bool :=
  match word.toList with
  | '-' :: _ :: _ => true
  | _ => false

/-- Takes a switch with its value, or with an empty one if it takes none. -/
def give (topic : Topic) (r : Reader) (s : Switch) (value : String) : Except Stop Reader :=
  match s with
  | .help => .error (.help topic)
  | .version => .error .version
  | s =>
    if !s.mayRepeat && (r.given.lookup s).isSome then .error (.usage (.repeated s))
    else .ok { r with given := (s, value) :: r.given, awaiting := none }

/-- Takes a switch with a value, if the value is of its kind. -/
def giveValue (topic : Topic) (r : Reader) (s : Switch) (kind : WordKind) (value : String) :
    Except Stop Reader :=
  if kind.accepts value then r.give topic s value else .error (.usage (.badValue s value))

/-- Takes an operand, if one is missing. -/
def giveOperand (topic : Topic) (r : Reader) (word : String) : Except Stop Reader :=
  match topic.operandKind?, r.operand with
  | some kind, none =>
    if kind.accepts word then .ok { r with operand := some word }
    else .error (.usage (.badOperand word))
  | _, _ => .error (.usage (.unexpected word))

/-- Reads a long name and perhaps an equals sign with a value. -/
def readLong (topic : Topic) (r : Reader) (s : List Char) : Except Stop Reader :=
  let name := String.ofList (s.takeWhile (· ≠ '='))
  match topic.switches.find? fun t => t.longName = name with
  | none => .error (.usage (.unexpected (String.ofList ('-' :: '-' :: s))))
  | some t =>
    match t.valueKind?, s.dropWhile (· ≠ '=') with
    | none, [] => r.give topic t ""
    | none, _ :: _ => .error (.usage (.noValueTaken t))
    | some _, [] => .ok { r with awaiting := some t }
    | some kind, _ :: value => r.giveValue topic t kind (String.ofList value)

/-- A value joined to a letter, which may have an equals sign before it. -/
def joinedValue : List Char → String
  | '=' :: value => String.ofList value
  | value => String.ofList value

/-- Reads letters.  The rest after a letter that takes a value is this value. -/
def readLetters (topic : Topic) (r : Reader) : List Char → Except Stop Reader
  | [] => .ok r
  | c :: rest =>
    match topic.switches.find? fun t => t.letter? = some c with
    | none => .error (.usage (.unexpected (String.ofList ['-', c])))
    | some t =>
      match t.valueKind?, rest with
      | none, rest => do readLetters topic (← r.give topic t "") rest
      | some _, [] => .ok { r with awaiting := some t }
      | some kind, rest => r.giveValue topic t kind (joinedValue rest)

/-- Reads one word. -/
def step (topic : Topic) (r : Reader) (word : String) : Except Stop Reader :=
  match r.awaiting with
  | some s =>
    if isSwitch word then .error (.usage (.noValue s))
    else r.giveValue topic s (s.valueKind?.getD .text) word
  | none =>
    if r.ended then r.giveOperand topic word
    else
      match word.toList with
      | ['-', '-'] => .ok { r with ended := true }
      | '-' :: '-' :: s => r.readLong topic s
      | '-' :: c :: s => r.readLetters topic (c :: s)
      | _ => r.giveOperand topic word

/-- Reads words to the end, where no switch may lack its value. -/
def read (topic : Topic) (words : List String) : Except Stop Reader := do
  let r ← words.foldlM (step topic) start
  match r.awaiting with
  | some s => throw (.usage (.noValue s))
  | none => return r

def has (r : Reader) (s : Switch) : Bool :=
  (r.given.lookup s).isSome

def value? (r : Reader) (s : Switch) : Option String :=
  r.given.lookup s

def sizeValue? (r : Reader) (s : Switch) : Option Nat :=
  (r.value? s).bind size?

end Reader

/-- A file with a table, and how to read it if it holds delimited text. -/
structure Source where
  path : String
  delimiter : Char
  header : Bool
  deriving DecidableEq, Repr

/-- What the program is to do. -/
inductive Request where
  | evaluate (formula : String) (source : Option Source) (now : Option String) (limit : Option Nat)
      (explain : Bool)
  | render (source : Source) (output : Option String) (decimals : Option Nat)
      (separator : Option String) (now : Option String)
  | functions
  deriving DecidableEq, Repr

namespace Request

/-- The source at a path, read as the switches say. -/
def sourceOf (r : Reader) (path : String) : Source :=
  ⟨path, ((r.value? .delimiter).bind (·.toList.head?)).getD ',', !r.has .noHeader⟩

/-- The request that the words after a verb make. -/
def ofReader (v : Verb) (r : Reader) : Except Stop Request :=
  match v, r.operand with
  | .evaluate, some formula =>
    .ok (.evaluate formula ((r.value? .data).map (sourceOf r)) (r.value? .now)
      (r.sizeValue? .maxDepth) (r.has .explain))
  | .render, some path =>
    .ok (.render (sourceOf r path) (r.value? .output) (r.sizeValue? .decimals)
      (r.value? .listSeparator) (r.value? .now))
  | .functions, _ => .ok .functions
  | _, none => .error (.usage .noOperand)

/-- The help that is asked for by the words after the verb for help. -/
def helpOn : List String → Stop
  | [] => .help .program
  | word :: rest =>
    match Verb.named? word, rest with
    | some v, [] => .help (.verb v)
    | none, [] => if word = "help" then .help .help else .usage (.noSuchVerb word)
    | some _, next :: _ => .usage (.noSuchVerb next)
    | none, _ :: _ => .usage (.noSuchVerb word)

/-- The request of the words that are left when some switches of the program have been read. -/
def parseFrom (r : Reader) : List String → Except Stop Request
  | [] => .error (.usage .noVerb)
  | word :: rest =>
    if r.ended then .error (.usage (.unexpected word))
    else
      match Verb.named? word with
      | some v => do ofReader v (← Reader.read (.verb v) rest)
      | none =>
        if word = "help" then .error (helpOn rest)
        else do parseFrom (← r.step .program word) rest

/-- The request that a command line makes. -/
def parse (words : List String) : Except Stop Request :=
  parseFrom Reader.start words

end Request

end Worksheet.Command
