import OrderDesk.Json.Skip

/-!
# Shapes of documents

A shape says which documents are accepted in one place. Reading by a shape yields the document
in its one form: an object holds exactly the members of its shape, in their order; a member that
may be absent is null if it is; a choice is the text of its name.

Shapes are built from shapes: integers in a range, texts, choices among names, documents that
may be null, arrays, and records, which are objects or arrays of their fields in order.
-/

namespace OrderDesk.Json

/-- A kind of document. -/
structure Shape where
  /-- Takes one document of this shape off the front of the input. -/
  read : Reader Json
  /-- What a record has in the place of a member that is not there; nothing if the member has to
      be there. -/
  absent : Option Json

namespace Shape

/-- What is wrong with a value, given that its first byte starts none of the shape asked for. -/
def otherKind : List UInt8 → ReadError
  | [] => .malformed
  | byte :: rest =>
    if byte = 0x5B ∨ byte = 0x7B then .mismatch
    else if byte = 0x22 then
      match readText rest with
      | .ok _ => .mismatch
      | .error _ => .malformed
    else if byte = 0x2D then
      match readNumber true rest with
      | .ok _ => .mismatch
      | .error _ => .malformed
    else if isDigit byte then
      match readNumber false (byte :: rest) with
      | .ok _ => .mismatch
      | .error _ => .malformed
    else
      match (keywordTail? byte).bind (expect? · rest) with
      | some _ => .mismatch
      | none => .malformed

/-- The number of an integer in the range, or what is wrong with it. -/
def inRange (low high : Int) : Option Int × List UInt8 → Except ReadError (Json × List UInt8)
  | (none, _) => .error .mismatch
  | (some n, rest) => if low ≤ n ∧ n ≤ high then .ok (.number n, rest) else .error .mismatch

/-- Integers from `low` to `high`. -/
def integer (low high : Int) : Shape where
  read input :=
    match skipSpace input with
    | [] => .error .malformed
    | byte :: rest =>
      if byte = 0x2D then
        match readNumber true rest with
        | .error error => .error error
        | .ok found => inRange low high found
      else if isDigit byte then
        match readNumber false (byte :: rest) with
        | .error error => .error error
        | .ok found => inRange low high found
      else .error (otherKind (byte :: rest))
  absent := none

/-- A text, found behind white space. -/
def textAhead : Reader String := fun input =>
  match skipSpace input with
  | 0x22 :: rest => readText rest
  | input => .error (otherKind input)

/-- Texts. -/
def text : Shape where
  read input :=
    match textAhead input with
    | .error error => .error error
    | .ok (value, rest) => .ok (.text value, rest)
  absent := none

/-- The end of a bracket, found behind white space. -/
def bracketEnd (bracket : UInt8) (value : Json) (input : List UInt8) :
    Except ReadError (Json × List UInt8) :=
  match skipSpace input with
  | byte :: rest => if byte = bracket then .ok (value, rest) else .error .malformed
  | [] => .error .malformed

/-- The colon behind the name of a member, found behind white space. -/
def colon (input : List UInt8) : Except ReadError (List UInt8) :=
  match skipSpace input with
  | 0x3A :: rest => .ok rest
  | _ => .error .malformed

/-- A null, found behind white space. -/
def nullAhead (input : List UInt8) : Except ReadError (List UInt8) :=
  match skipSpace input with
  | 0x6E :: rest =>
    match expect? [0x75, 0x6C, 0x6C] rest with
    | none => .error .malformed
    | some rest => .ok rest
  | input => .error (otherKind input)

/-- One of the names. -/
def oneOf (names : List String) : String × List UInt8 → Except ReadError (Json × List UInt8)
  | (name, rest) => if names.contains name then .ok (.text name, rest) else .error .mismatch

/-- One of the given names, as a text or as the only member of an object, with the value null. -/
def choice (names : List String) : Shape where
  read input :=
    match skipSpace input with
    | 0x22 :: rest =>
      match readText rest with
      | .error error => .error error
      | .ok found => oneOf names found
    | 0x7B :: rest =>
      match textAhead rest with
      | .error error => .error error
      | .ok found =>
        match oneOf names found with
        | .error error => .error error
        | .ok (name, rest) =>
          match colon rest with
          | .error error => .error error
          | .ok rest =>
            match nullAhead rest with
            | .error error => .error error
            | .ok rest => bracketEnd 0x7D name rest
    | _ => .error .malformed
  absent := none

/-- Documents of a shape, or null. -/
def optional (shape : Shape) : Shape where
  read input :=
    match skipSpace input with
    | 0x6E :: rest =>
      match expect? [0x75, 0x6C, 0x6C] rest with
      | none => .error .malformed
      | some rest => .ok (.null, rest)
    | input => shape.read input
  absent := some .null

/-- The input behind the comma that has to stand before a further item or member. -/
def comma (input : List UInt8) : Except ReadError (List UInt8) :=
  match skipSpace input with
  | 0x2C :: rest => .ok rest
  | _ => .error .malformed

/-- The items of an array up to its end; `first` says that none has been read yet. Each step
    takes at least one byte, so as many steps as there are bytes suffice. -/
def items (shape : Shape) : Nat → Bool → Reader (List Json)
  | 0, _, _ => .error .malformed
  | steps + 1, first, input =>
    match skipSpace input with
    | 0x5D :: rest => .ok ([], rest)
    | input =>
      match if first then .ok input else comma input with
      | .error error => .error error
      | .ok input =>
        match shape.read input with
        | .error error => .error error
        | .ok (item, rest) =>
          match items shape steps false rest with
          | .error error => .error error
          | .ok (rest, input) => .ok (item :: rest, input)

/-- Arrays of documents of a shape. -/
def list (shape : Shape) : Shape where
  read input :=
    match skipSpace input with
    | 0x5B :: rest =>
      match items shape (rest.length + 1) true rest with
      | .error error => .error error
      | .ok (items, rest) => .ok (.array items, rest)
    | input => .error (otherKind input)
  absent := none

/-- The fields of a record that is written as an array; none may be left out and none may
    follow. -/
def tuple : List (String × Shape) → Bool → Reader (List (String × Json))
  | [], _, input => .ok ([], input)
  | (name, shape) :: fields, first, input =>
    match skipSpace input with
    | 0x5D :: _ => .error .mismatch
    | input =>
      match if first then .ok input else comma input with
      | .error error => .error error
      | .ok input =>
        match shape.read input with
        | .error error => .error error
        | .ok (value, rest) =>
          match tuple fields false rest with
          | .error error => .error error
          | .ok (members, rest) => .ok ((name, value) :: members, rest)

/-- The members of a record in the order of its fields, from those that were read. -/
def arrange (read : List (String × Json)) :
    List (String × Shape) → Except ReadError (List (String × Json))
  | [] => .ok []
  | (name, shape) :: fields =>
    match (read.lookup name).or shape.absent with
    | none => .error .mismatch
    | some value =>
      match arrange read fields with
      | .error error => .error error
      | .ok members => .ok ((name, value) :: members)

/-- One member behind its opening quote. A name that is no field is passed over, or refused if
    the record is closed; a field must not come twice. -/
def member (closed : Bool) (fields : List (String × Shape)) (read : List (String × Json)) :
    Reader (List (String × Json)) := fun input =>
  match readText input with
  | .error error => .error error
  | .ok (name, rest) =>
    match fields.lookup name with
    | none =>
      if closed then .error .mismatch
      else
        match colon rest with
        | .error error => .error error
        | .ok rest =>
          match skipValue? rest with
          | none => .error .malformed
          | some rest => .ok (read, rest)
    | some shape =>
      if (read.lookup name).isSome then .error .mismatch
      else
        match colon rest with
        | .error error => .error error
        | .ok rest =>
          match shape.read rest with
          | .error error => .error error
          | .ok (value, rest) => .ok ((name, value) :: read, rest)

/-- The members of an object up to its end, in the order of the fields; `first` says that none
    has been read yet. -/
def members (closed : Bool) (fields : List (String × Shape)) :
    Nat → Bool → List (String × Json) → Reader (List (String × Json))
  | 0, _, _, _ => .error .malformed
  | steps + 1, first, read, input =>
    match skipSpace input with
    | 0x7D :: rest =>
      match arrange read fields with
      | .error error => .error error
      | .ok members => .ok (members, rest)
    | input =>
      match if first then .ok input else comma input with
      | .error error => .error error
      | .ok input =>
        match skipSpace input with
        | 0x22 :: rest =>
          match member closed fields read rest with
          | .error error => .error error
          | .ok (read, rest) => members closed fields steps false read rest
        | _ => .error .malformed

/-- Records with the given fields. -/
def record (closed : Bool) (fields : List (String × Shape)) : Shape where
  read input :=
    match skipSpace input with
    | 0x7B :: rest =>
      match members closed fields (rest.length + 1) true [] rest with
      | .error error => .error error
      | .ok (members, rest) => .ok (.object members, rest)
    | 0x5B :: rest =>
      match tuple fields true rest with
      | .error error => .error error
      | .ok (members, rest) => bracketEnd 0x5D (.object members) rest
    | input => .error (otherKind input)
  absent := none

/-- The document that the whole input is, white space around it apart. -/
def parse (shape : Shape) (input : List UInt8) : Except ReadError Json :=
  match shape.read input with
  | .error error => .error error
  | .ok (document, rest) => if (skipSpace rest).isEmpty then .ok document else .error .malformed

end Shape

end OrderDesk.Json
