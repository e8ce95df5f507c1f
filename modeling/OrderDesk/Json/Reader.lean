import OrderDesk.Json.Document
import OrderDesk.Text.Utf8

/-!
# Reading JSON from bytes

The leaves of the reader: white space, keywords, texts and the values that are passed over. Input
is read as a stream, so the first problem met decides what is wrong with it: either it is no
JSON, or it is JSON but not the document that was asked for.

A text that is kept has to be valid Unicode. A value that is passed over is only checked for
its syntax, whatever its depth.
-/

namespace OrderDesk.Json

/-- Why bytes are not the document that was asked for. -/
inductive ReadError where
  /-- The bytes are no JSON, or end too early. -/
  | malformed
  /-- The bytes are JSON of another shape. -/
  | mismatch
  deriving DecidableEq, Repr

/-- Takes something off the front of the input. -/
abbrev Reader (α : Type) := List UInt8 → Except ReadError (α × List UInt8)

/-- The bytes that may stand between tokens: space, tab, line feed and carriage return. -/
def isSpace (byte : UInt8) : Bool :=
  byte = 0x20 || byte = 0x09 || byte = 0x0A || byte = 0x0D

/-- The input without the white space in front. -/
def skipSpace (input : List UInt8) : List UInt8 := input.dropWhile isSpace

/-- Whether a byte is a decimal digit. -/
def isDigit (byte : UInt8) : Bool := 0x30 ≤ byte && byte ≤ 0x39

/-- The value of a decimal digit. -/
def digitValue (byte : UInt8) : Nat := byte.toNat - 0x30

/-- The value of a hexadecimal digit of either case. -/
def hexValue? (byte : UInt8) : Option Nat :=
  if isDigit byte then some (byte.toNat - 0x30)
  else if 0x41 ≤ byte && byte ≤ 0x46 then some (byte.toNat - 0x37)
  else if 0x61 ≤ byte && byte ≤ 0x66 then some (byte.toNat - 0x57)
  else none

/-- The number that four hexadecimal digits write. -/
def hexValue4? (a b c d : UInt8) : Option Nat :=
  match hexValue? a, hexValue? b, hexValue? c, hexValue? d with
  | some a, some b, some c, some d => some (((a * 16 + b) * 16 + c) * 16 + d)
  | _, _, _, _ => none

/-- The byte that a two-character escape stands for. -/
def shortEscape? (byte : UInt8) : Option UInt8 :=
  if byte = 0x22 ∨ byte = 0x5C ∨ byte = 0x2F then some byte
  else if byte = 0x62 then some 0x08
  else if byte = 0x66 then some 0x0C
  else if byte = 0x6E then some 0x0A
  else if byte = 0x72 then some 0x0D
  else if byte = 0x74 then some 0x09
  else none

/-- Whether a UTF-16 unit is the first of a pair. -/
def isLeading (unit : Nat) : Bool := 0xD800 ≤ unit && unit ≤ 0xDBFF

/-- Whether a UTF-16 unit is the second of a pair. -/
def isTrailing (unit : Nat) : Bool := 0xDC00 ≤ unit && unit ≤ 0xDFFF

/-- The character that a pair of UTF-16 units stands for. -/
def pairChar (leading trailing : Nat) : Char :=
  Char.ofNat (0x10000 + (leading - 0xD800) * 0x400 + (trailing - 0xDC00))

/-- The bytes of a text up to its closing quote, escapes replaced by what they stand for, and
    the input after the quote. Controls must be escaped, and the halves of a pair of UTF-16 units
    must stand together. -/
def textBytes? : List UInt8 → Option (List UInt8 × List UInt8)
  | [] => none
  | 0x22 :: rest => some ([], rest)
  | 0x5C :: 0x75 :: a :: b :: c :: d :: rest =>
    match hexValue4? a b c d with
    | none => none
    | some unit =>
      if isTrailing unit then none
      else if isLeading unit then
        match rest with
        | 0x5C :: 0x75 :: a :: b :: c :: d :: rest =>
          match hexValue4? a b c d with
          | none => none
          | some second =>
            if isTrailing second then
              (textBytes? rest).map fun (bytes, rest) =>
                (String.utf8EncodeChar (pairChar unit second) ++ bytes, rest)
            else none
        | _ => none
      else
        (textBytes? rest).map fun (bytes, rest) =>
          (String.utf8EncodeChar (Char.ofNat unit) ++ bytes, rest)
  | 0x5C :: escape :: rest =>
    match shortEscape? escape with
    | none => none
    | some byte => (textBytes? rest).map fun (bytes, rest) => (byte :: bytes, rest)
  | byte :: rest =>
    if byte < 0x20 ∨ byte = 0x5C then none
    else (textBytes? rest).map fun (bytes, rest) => (byte :: bytes, rest)

/-- A text after its opening quote. -/
def readText : Reader String := fun input =>
  match textBytes? input with
  | none => .error .malformed
  | some (bytes, rest) =>
    match Utf8.decode bytes with
    | .error _ => .error .malformed
    | .ok chars => .ok (String.ofList chars, rest)

/-- The input after a text that is passed over, from behind its opening quote. -/
def skipText? : List UInt8 → Option (List UInt8)
  | [] => none
  | 0x22 :: rest => some rest
  | 0x5C :: 0x75 :: a :: b :: c :: d :: rest =>
    match hexValue4? a b c d with
    | none => none
    | some _ => skipText? rest
  | 0x5C :: escape :: rest =>
    match shortEscape? escape with
    | none => none
    | some _ => skipText? rest
  | byte :: rest => if byte < 0x20 ∨ byte = 0x5C then none else skipText? rest

/-- The keyword that starts with a byte, without that byte. -/
def keywordTail? (byte : UInt8) : Option (List UInt8) :=
  if byte = 0x6E then some [0x75, 0x6C, 0x6C]
  else if byte = 0x74 then some [0x72, 0x75, 0x65]
  else if byte = 0x66 then some [0x61, 0x6C, 0x73, 0x65]
  else none

/-- The input after what it has to start with. -/
def expect? : List UInt8 → List UInt8 → Option (List UInt8)
  | [], input => some input
  | _ :: _, [] => none
  | want :: wanted, byte :: rest => if byte = want then expect? wanted rest else none

end OrderDesk.Json
