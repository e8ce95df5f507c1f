/-!
# UTF-8

Reading a byte string as UTF-8. The reader goes over the bytes once; it knows which bytes may
continue the sequence it is in, so overlong forms, surrogates and values above U+10FFFF are
refused at the first byte that no encoding has at that place.
-/

namespace OrderDesk.Utf8

/-- Why a byte string is not UTF-8. The index is where the offending sequence starts, which is
    the length of the longest part before it that is UTF-8. -/
inductive Fault where
  /-- A sequence that no further bytes could complete; so many of its bytes were in order, but
      at least one is counted. -/
  | invalid (length index : Nat)
  /-- The bytes end inside a sequence that was in order so far. -/
  | incomplete (index : Nat)
  deriving DecidableEq, Repr

/-- The wording of a fault. -/
def Fault.message : Fault → String
  | .invalid length index => s!"invalid utf-8 sequence of {length} bytes from index {index}"
  | .incomplete index => s!"incomplete utf-8 byte sequence from index {index}"

/-- The bytes that may stand at one place of a sequence. -/
structure Span where
  low : UInt8
  high : UInt8
  deriving DecidableEq, Repr

/-- Whether a byte may stand at the place. -/
def Span.admits (span : Span) (byte : UInt8) : Bool := span.low ≤ byte && byte ≤ span.high

/-- Any continuation byte. -/
def Span.tail : Span := ⟨0x80, 0xBF⟩

/-- What the first byte of a sequence says: the bits of the code point that it holds and the
    places that follow it. -/
def lead? (byte : UInt8) : Option (Nat × List Span) :=
  if byte < 0x80 then some (byte.toNat, [])
  else if byte < 0xC2 then none
  else if byte < 0xE0 then some (byte.toNat - 0xC0, [.tail])
  else if byte = 0xE0 then some (0, [⟨0xA0, 0xBF⟩, .tail])
  else if byte = 0xED then some (0xD, [⟨0x80, 0x9F⟩, .tail])
  else if byte < 0xF0 then some (byte.toNat - 0xE0, [.tail, .tail])
  else if byte = 0xF0 then some (0, [⟨0x90, 0xBF⟩, .tail, .tail])
  else if byte < 0xF4 then some (byte.toNat - 0xF0, [.tail, .tail, .tail])
  else if byte = 0xF4 then some (4, [⟨0x80, 0x8F⟩, .tail, .tail])
  else none

/-- Reads on from inside a text: `index` is where the current sequence starts, `pending` the
    places that it still has to fill, `seen` the number of its bytes read and `value` the bits
    that they hold. -/
def decodeFrom (index : Nat) : List Span → Nat → Nat → List UInt8 → Except Fault (List Char)
  | [], _, _, [] => .ok []
  | _ :: _, _, _, [] => .error (.incomplete index)
  | [], _, _, byte :: rest =>
    match lead? byte with
    | none => .error (.invalid 1 index)
    | some (value, []) =>
      (decodeFrom (index + 1) [] 0 0 rest).map (Char.ofNat value :: ·)
    | some (value, pending) => decodeFrom index pending 1 value rest
  | span :: pending, seen, value, byte :: rest =>
    if span.admits byte then
      let value := value * 64 + (byte.toNat - 0x80)
      match pending with
      | [] => (decodeFrom (index + seen + 1) [] 0 0 rest).map (Char.ofNat value :: ·)
      | pending => decodeFrom index pending (seen + 1) value rest
    else .error (.invalid seen index)

/-- The characters that a byte string encodes, or its first fault. -/
def decode (bytes : List UInt8) : Except Fault (List Char) := decodeFrom 0 [] 0 0 bytes

/-- The bytes of a text. -/
def encode (text : String) : List UInt8 := text.toList.flatMap String.utf8EncodeChar

end OrderDesk.Utf8
