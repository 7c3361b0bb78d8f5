import Worksheet.Document.Token

/-!
# Quoted texts

The pieces of a quoted text are octets in UTF-8 and code units in UTF-16.  A code unit from the
lower half of the surrogates makes a character together with one from the upper half right after it;
alone neither is a text.
-/

namespace Worksheet.Document

/-- Whether a code unit begins a pair. -/
def isLeading (code : Nat) : Bool :=
  0xD800 ≤ code && code ≤ 0xDBFF

/-- Whether a code unit ends a pair. -/
def isTrailing (code : Nat) : Bool :=
  0xDC00 ≤ code && code ≤ 0xDFFF

/-- The code point of a pair. -/
def pairedCode (leading trailing : Nat) : Nat :=
  0x10000 + 0x400 * (leading - 0xD800) + (trailing - 0xDC00)

/-- The octets of the character of a code point. -/
def encodeCode (code : Nat) : List UInt8 :=
  String.utf8EncodeChar (Char.ofNat code)

/-- The octets of a quoted text, if its code units are paired. -/
def octets? : Quoted → Option (List UInt8)
  | [] => some []
  | .octet b :: rest => (octets? rest).map fun more => b :: more
  | .unit code :: rest =>
    if isLeading code then
      match rest with
      | .unit next :: rest =>
        if isTrailing next then
          (octets? rest).map fun more => encodeCode (pairedCode code next) ++ more
        else none
      | _ => none
    else if isTrailing code then none
    else (octets? rest).map fun more => encodeCode code ++ more

/-- The text in quotes, if it is one. -/
def decode? (text : Quoted) : Option String := do
  String.fromUTF8? (ByteArray.mk (← octets? text).toArray)

end Worksheet.Document
