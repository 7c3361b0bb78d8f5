import Worksheet.Functions.Reading
import Worksheet.Text.Case

/-!
# Text functions

Positions and lengths count characters, the first position being 1.  Only the longest text that can
be repeated is measured in bytes.
-/

namespace Worksheet.Functions

def ofChars (s : List Char) : Value :=
  .text (String.ofList s)

def upper (args : List Argument) : Outcome := do
  return ofChars (Text.upper (← textAt args 0))

def lower (args : List Argument) : Outcome := do
  return ofChars (Text.lower (← textAt args 0))

def len (args : List Argument) : Outcome := do
  return .number (Float.ofNat (← textAt args 0).length)

/-- A text without outer spaces and with one space in place of several. -/
def squeeze (s : List Char) : List Char :=
  [' '].intercalate ((s.splitOn ' ').filter (· ≠ []))

def trim (args : List Argument) : Outcome := do
  return ofChars (squeeze (← textAt args 0))

def left (args : List Argument) : Outcome := do
  let s ← textAt args 0
  let n ← countOr args 1 1.0
  return ofChars (s.take n)

def right (args : List Argument) : Outcome := do
  let s ← textAt args 0
  let n ← countOr args 1 1.0
  return ofChars (s.drop (s.length - n))

def mid (args : List Argument) : Outcome := do
  let s ← textAt args 0
  let start ← numberAt args 1
  let n ← countOr args 2 0.0
  if Number.trunc start < 1.0 then .error .badValue
  else return ofChars ((s.drop (Number.toOffset start)).take n)

/-- All values as one text. -/
def concat (args : List Argument) : Value :=
  ofChars ((flatten args).flatMap fun v => v.toText.toList)

/-- The texts between the occurrences of `old`, which are taken from left to right and do not
overlap. So many characters still belong to the last occurrence. -/
def cuts (old : List Char) : Nat → List Char → List (List Char)
  | _, [] => [[]]
  | skip + 1, _ :: rest => cuts old skip rest
  | 0, c :: rest =>
    if old.isPrefixOf (c :: rest) then [] :: cuts old (old.length - 1) rest
    else match cuts old 0 rest with
      | [] => [[c]]
      | first :: more => (c :: first) :: more

/-- Joins texts with `old` between them, but with `new` at the place of an index counted from
zero. -/
def rejoin (old new : List Char) : Nat → List (List Char) → List Char
  | _, [] => []
  | _, [last] => last
  | 0, first :: more => first ++ new ++ old.intercalate more
  | i + 1, first :: more => first ++ old ++ rejoin old new i more

def substitute (args : List Argument) : Outcome := do
  let s ← textAt args 0
  let old ← textAt args 1
  let new ← textAt args 2
  if old = [] then return ofChars s
  else if args.length < 4 then return ofChars (new.intercalate (cuts old 0 s))
  else
    let instanceNumber ← numberAt args 3
    if Number.trunc instanceNumber < 1.0 then .error .badValue
    else return ofChars (rejoin old new (Number.toOffset instanceNumber) (cuts old 0 s))

/-- The number of characters before the first occurrence of a text in another one. -/
def indexOf? (needle : List Char) : List Char → Option Nat
  | [] => if needle = [] then some 0 else none
  | c :: rest =>
    if needle.isPrefixOf (c :: rest) then some 0 else (indexOf? needle rest).map (· + 1)

/-- The position of the first occurrence that does not begin before a position. -/
def positionFrom? (needle text : List Char) (start : Nat) : Option Nat :=
  if start < 1 ∨ text.length + 1 < start then none
  else (indexOf? needle (text.drop (start - 1))).map (start + ·)

/-- Finds a text in another one after both have been given a form in which they are compared. -/
def findBy (form : List Char → List Char) (args : List Argument) : Outcome := do
  let needle ← textAt args 0
  let text ← textAt args 1
  let start ← numberOr args 2 1.0
  if Number.trunc start < 1.0 then .error .badValue
  else match positionFrom? (form needle) (form text) (Number.toSize start) with
    | some p => return .number (Float.ofNat p)
    | none => .error .badValue

def find (args : List Argument) : Outcome :=
  findBy id args

def search (args : List Argument) : Outcome :=
  findBy Text.lower args

/-- The greatest length of a repeated text in bytes. -/
def longestRepeated : Nat :=
  32767

def byteLength : List Char → Nat
  | [] => 0
  | c :: rest => c.utf8Size + byteLength rest

def rept (args : List Argument) : Outcome := do
  let s ← textAt args 0
  let n ← countOr args 1 0.0
  if s = [] then return ofChars []
  else if byteLength s * n ≤ longestRepeated then return ofChars (List.replicate n s).flatten
  else .error .badValue

/-- Capital letters at the beginning of words and small ones inside them.  Numerals go on with a
word and everything else that is not a letter ends it. -/
def capitalize : Bool → List Char → List Char
  | _, [] => []
  | atStart, c :: rest =>
    if Text.isLetter c then
      (if atStart then Text.upperChar c else Text.lowerChar c) ++ capitalize false rest
    else c :: capitalize (!Text.isNumeral c) rest

def proper (args : List Argument) : Outcome := do
  return ofChars (capitalize true (← textAt args 0))

end Worksheet.Functions
