import OrderDesk.Json.Number

/-!
# Passing over JSON values

A value that nobody asked for is passed over whatever it holds, as long as its syntax is right.
The reader keeps the brackets that are open on a list of its own, so nesting may be of any depth.
-/

namespace OrderDesk.Json

/-- The kinds of bracket that may be open. -/
inductive Bracket where
  | array
  | object
  deriving DecidableEq, Repr

/-- What may come next while a value is passed over. -/
inductive Expected where
  /-- A value. -/
  | value
  /-- The first item or member of the innermost bracket, or its end. -/
  | opened
  /-- A comma or the end of the innermost bracket, as a value has just ended. -/
  | closed
  deriving DecidableEq, Repr

/-- The input after a value without brackets. -/
def skipScalar? : List UInt8 → Option (List UInt8)
  | [] => none
  | byte :: rest =>
    if byte = 0x22 then skipText? rest
    else if byte = 0x2D then (numeral? true rest).map (·.2)
    else if isDigit byte then (numeral? false (byte :: rest)).map (·.2)
    else
      match keywordTail? byte with
      | none => none
      | some tail => expect? tail rest

/-- The input after the name of a member and its colon. -/
def skipName? (input : List UInt8) : Option (List UInt8) :=
  match skipSpace input with
  | 0x22 :: rest =>
    match skipText? rest with
    | none => none
    | some rest =>
      match skipSpace rest with
      | 0x3A :: rest => some rest
      | _ => none
  | _ => none

/-- Passes over what is expected and all that the open brackets, the innermost first, still lack.
    The first argument bounds the number of steps. -/
def skipFrom : Nat → Expected → List Bracket → List UInt8 → Option (List UInt8)
  | 0, _, _, _ => none
  | _ + 1, .closed, [], input => some input
  | steps + 1, .value, open_, input =>
    match skipSpace input with
    | 0x5B :: rest => skipFrom steps .opened (.array :: open_) rest
    | 0x7B :: rest => skipFrom steps .opened (.object :: open_) rest
    | input =>
      match skipScalar? input with
      | none => none
      | some rest => skipFrom steps .closed open_ rest
  | _ + 1, .opened, [], _ => none
  | steps + 1, .opened, .array :: outer, input =>
    match skipSpace input with
    | 0x5D :: rest => skipFrom steps .closed outer rest
    | input => skipFrom steps .value (.array :: outer) input
  | steps + 1, .opened, .object :: outer, input =>
    match skipSpace input with
    | 0x7D :: rest => skipFrom steps .closed outer rest
    | input =>
      match skipName? input with
      | none => none
      | some rest => skipFrom steps .value (.object :: outer) rest
  | steps + 1, .closed, .array :: outer, input =>
    match skipSpace input with
    | 0x5D :: rest => skipFrom steps .closed outer rest
    | 0x2C :: rest => skipFrom steps .value (.array :: outer) rest
    | _ => none
  | steps + 1, .closed, .object :: outer, input =>
    match skipSpace input with
    | 0x7D :: rest => skipFrom steps .closed outer rest
    | 0x2C :: rest =>
      match skipName? rest with
      | none => none
      | some rest => skipFrom steps .value (.object :: outer) rest
    | _ => none

/-- The input after one value. Every two steps take at least one byte. -/
def skipValue? (input : List UInt8) : Option (List UInt8) :=
  skipFrom (2 * input.length + 2) .value [] input

end OrderDesk.Json
