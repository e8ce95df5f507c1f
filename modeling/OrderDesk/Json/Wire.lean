import OrderDesk.Json.Shape

/-!
# Values as documents

A type whose values are sent or stored has a shape, a document for each value and, for each
document of the shape, the value that it stands for.
-/

namespace OrderDesk

/-- A type whose values are written as JSON documents. -/
class Wire (α : Type) where
  /-- The documents that are accepted. -/
  shape : Json.Shape
  /-- The document of a value. -/
  toJson : α → Json
  /-- The value of a document. A document of the shape may still stand for no value. -/
  ofJson? : Json → Option α

namespace Wire

/-- The value that a byte string writes. -/
def read (α : Type) [Wire α] (input : List UInt8) : Except Json.ReadError α :=
  match (shape α).parse input with
  | .error error => .error error
  | .ok document =>
    match ofJson? document with
    | none => .error .mismatch
    | some value => .ok value

/-- The text of a value. -/
def write {α : Type} [Wire α] (value : α) : String := (toJson value).render

/-- The member of a document under a name, as a value. -/
def field? {α : Type} [Wire α] (document : Json) (name : String) : Option α :=
  match document.member? name with
  | none => none
  | some value => ofJson? value

/-- The values of documents, if each stands for one. -/
def listOfJson? {α : Type} [Wire α] : List Json → Option (List α)
  | [] => some []
  | document :: rest =>
    match ofJson? document, listOfJson? rest with
    | some value, some values => some (value :: values)
    | _, _ => none

instance : Wire UInt32 where
  shape := .integer 0 (UInt32.size - 1)
  toJson n := .number n.toNat
  ofJson?
    | .number n => if 0 ≤ n ∧ n < UInt32.size then some (UInt32.ofNat n.toNat) else none
    | _ => none

instance : Wire UInt64 where
  shape := .integer 0 (UInt64.size - 1)
  toJson n := .number n.toNat
  ofJson?
    | .number n => if 0 ≤ n ∧ n < UInt64.size then some (UInt64.ofNat n.toNat) else none
    | _ => none

instance : Wire Int64 where
  shape := .integer Int64.minValue.toInt Int64.maxValue.toInt
  toJson n := .number n.toInt
  ofJson?
    | .number n =>
      if Int64.minValue.toInt ≤ n ∧ n ≤ Int64.maxValue.toInt then some (Int64.ofInt n) else none
    | _ => none

instance : Wire String where
  shape := .text
  toJson := .text
  ofJson?
    | .text value => some value
    | _ => none

instance {α : Type} [Wire α] : Wire (List α) where
  shape := .list (shape α)
  toJson values := .array (values.map toJson)
  ofJson?
    | .array documents => listOfJson? documents
    | _ => none

instance {α : Type} [Wire α] : Wire (Option α) where
  shape := .optional (shape α)
  toJson
    | none => .null
    | some value => toJson value
  ofJson?
    | .null => some none
    | document => (ofJson? document).map some

end Wire

end OrderDesk
