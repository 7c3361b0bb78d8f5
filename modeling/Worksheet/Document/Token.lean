/-!
# Tokens of documents

A document is written in JSON notation and comes as a row of octets.  Its tokens are brackets,
commas and colons, texts in double quotes, and words: the longest rows of octets between blanks and
other tokens.  What a word says is left to the reader of the tokens, but a quoted text already has
to be well-formed: it has no control characters in it, and after a backslash stands one of a few
letters or the letter u with the four hexadecimal digits of a code unit.
-/

namespace Worksheet.Document

/-- A part of a quoted text: an octet, or a code unit given by its number. -/
inductive Piece where
  | octet (b : UInt8)
  | unit (code : Nat)
  deriving DecidableEq, Repr

/-- A quoted text piece by piece. -/
abbrev Quoted := List Piece

inductive Token where
  | openArray
  | closeArray
  | openObject
  | closeObject
  | comma
  | colon
  | word (s : List Char)
  | quoted (text : Quoted)
  deriving DecidableEq, Repr

/-- Where a lexer stands, with what it has read there, the last things first. -/
inductive Mode where
  /-- Outside quotes, in a word unless it is empty. -/
  | outside (word : List Char)
  | inQuotes (text : Quoted)
  /-- After a backslash. -/
  | escape (text : Quoted)
  /-- In the digits of a code unit, of which so many still follow the next one. -/
  | code (text : Quoted) (more value : Nat)
  deriving DecidableEq, Repr

/-- A mode and the tokens so far, the last one first. -/
structure Lexer where
  mode : Mode
  tokens : List Token
  deriving DecidableEq, Repr

/-- The octet of an ASCII character. -/
def ascii (c : Char) : UInt8 :=
  c.toNat.toUInt8

def isBlank (b : UInt8) : Bool :=
  b == ascii ' ' || b == ascii '\t' || b == ascii '\n' || b == ascii '\r'

/-- The token that is a single character. -/
def punctuation? (b : UInt8) : Option Token :=
  if b = ascii '[' then some .openArray
  else if b = ascii ']' then some .closeArray
  else if b = ascii '\x7b' then some .openObject
  else if b = ascii '\x7d' then some .closeObject
  else if b = ascii ',' then some .comma
  else if b = ascii ':' then some .colon
  else none

/-- The octet that a letter after a backslash stands for. -/
def escaped? (b : UInt8) : Option UInt8 :=
  if b = ascii '"' || b = ascii '\\' || b = ascii '/' then some b
  else if b = ascii 'b' then some 8
  else if b = ascii 'f' then some 12
  else if b = ascii 'n' then some 10
  else if b = ascii 'r' then some 13
  else if b = ascii 't' then some 9
  else none

def hexDigit? (b : UInt8) : Option Nat :=
  if ascii '0' ≤ b && b ≤ ascii '9' then some (b - ascii '0').toNat
  else if ascii 'a' ≤ b && b ≤ ascii 'f' then some ((b - ascii 'a').toNat + 10)
  else if ascii 'A' ≤ b && b ≤ ascii 'F' then some ((b - ascii 'A').toNat + 10)
  else none

namespace Lexer

def start : Lexer :=
  ⟨.outside [], []⟩

/-- The tokens with a word that has come to its end. -/
def endWord (tokens : List Token) : List Char → List Token
  | [] => tokens
  | word => .word word.reverse :: tokens

/-- Reads an octet outside quotes. -/
def outside (tokens : List Token) (word : List Char) (b : UInt8) : Lexer :=
  if isBlank b then ⟨.outside [], endWord tokens word⟩
  else if b = ascii '"' then ⟨.inQuotes [], endWord tokens word⟩
  else
    match punctuation? b with
    | some t => ⟨.outside [], t :: endWord tokens word⟩
    | none => ⟨.outside (Char.ofUInt8 b :: word), tokens⟩

/-- Reads an octet of a quoted text or the quote that closes it. -/
def inQuotes (tokens : List Token) (text : Quoted) (b : UInt8) : Option Lexer :=
  if b = ascii '"' then some ⟨.outside [], .quoted text.reverse :: tokens⟩
  else if b = ascii '\\' then some ⟨.escape text, tokens⟩
  else if b < 32 then none
  else some ⟨.inQuotes (.octet b :: text), tokens⟩

/-- Reads the octet after a backslash. -/
def escape (tokens : List Token) (text : Quoted) (b : UInt8) : Option Lexer :=
  if b = ascii 'u' then some ⟨.code text 3 0, tokens⟩
  else (escaped? b).map fun c => ⟨.inQuotes (.octet c :: text), tokens⟩

/-- Reads a digit of a code unit. -/
def code (tokens : List Token) (text : Quoted) (more value : Nat) (b : UInt8) : Option Lexer :=
  (hexDigit? b).map fun d =>
    match more with
    | 0 => ⟨.inQuotes (.unit (16 * value + d) :: text), tokens⟩
    | more + 1 => ⟨.code text more (16 * value + d), tokens⟩

/-- Reads one octet; none if it may not stand there. -/
def step (l : Lexer) (b : UInt8) : Option Lexer :=
  match l.mode with
  | .outside word => some (outside l.tokens word b)
  | .inQuotes text => inQuotes l.tokens text b
  | .escape text => escape l.tokens text b
  | .code text more value => code l.tokens text more value b

/-- The tokens at the end of the document, where no quotes may be open. -/
def finish (l : Lexer) : Option (List Token) :=
  match l.mode with
  | .outside word => some (endWord l.tokens word).reverse
  | _ => none

end Lexer

/-- The tokens of a document. -/
def tokens? (octets : List UInt8) : Option (List Token) := do
  (← octets.foldlM Lexer.step Lexer.start).finish

end Worksheet.Document
