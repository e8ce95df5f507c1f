/-!
# Decimal numbers in text

Numbers as people write them: decimal digits, at least one, behind a sign or none. Leading zeros
are allowed, and nothing may stand around the number.
-/

namespace OrderDesk.Text

/-- The value of a decimal digit. -/
def digit? (c : Char) : Option Nat :=
  if '0' ≤ c ∧ c ≤ '9' then some (c.toNat - '0'.toNat) else none

/-- The number that digits write behind the digits of another. -/
def appendDigits? : Nat → List Char → Option Nat
  | n, [] => some n
  | n, c :: rest =>
    match digit? c with
    | none => none
    | some value => appendDigits? (n * 10 + value) rest

/-- The number that digits write, of which there has to be one. -/
def digits? : List Char → Option Nat
  | [] => none
  | digits => appendDigits? 0 digits

/-- The natural number of a text; a plus sign may stand in front. -/
def natural? (text : String) : Option Nat :=
  match text.toList with
  | '+' :: digits => digits? digits
  | digits => digits? digits

/-- The integer of a text; a sign may stand in front. -/
def integer? (text : String) : Option Int :=
  match text.toList with
  | '-' :: digits => (digits? digits).map fun n => -(n : Int)
  | _ => (natural? text).map Int.ofNat

end OrderDesk.Text
