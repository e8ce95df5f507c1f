import OrderDesk.Json.Reader

/-!
# Numbers in JSON

A number is read as its digits. One that is written as an integer and fits a 64-bit word, signed
or not, is that integer; every other number, minus zero among them, is inexact. An inexact number
that is too large for a binary64 float is refused as no number at all.
-/

namespace OrderDesk.Json

/-- The digits of a number as written. -/
structure Numeral where
  negative : Bool
  whole : List Nat
  fraction : List Nat
  /-- The exponent, if one is written: whether it is negative, and its digits. -/
  exponent : Option (Bool × List Nat)
  /-- Whether a fraction or an exponent is written. -/
  isDecimal : Bool
  deriving Repr

/-- Digits in front of the input. -/
def takeDigits (input : List UInt8) : List Nat × List UInt8 :=
  ((input.takeWhile isDigit).map digitValue, input.dropWhile isDigit)

/-- The fraction in front of the input: a point, if there is one, needs a digit. -/
def fraction? : List UInt8 → Option (Option (List Nat) × List UInt8)
  | 0x2E :: rest =>
    match takeDigits rest with
    | ([], _) => none
    | (digits, rest) => some (some digits, rest)
  | input => some (none, input)

/-- The sign in front of the digits of an exponent. -/
def exponentSign : List UInt8 → Bool × List UInt8
  | 0x2B :: rest => (false, rest)
  | 0x2D :: rest => (true, rest)
  | input => (false, input)

/-- The exponent in front of the input: its mark, if there is one, needs a digit. -/
def exponent? : List UInt8 → Option (Option (Bool × List Nat) × List UInt8)
  | byte :: rest =>
    if byte = 0x65 ∨ byte = 0x45 then
      match exponentSign rest with
      | (negative, rest) =>
        match takeDigits rest with
        | ([], _) => none
        | (digits, rest) => some (some (negative, digits), rest)
    else some (none, byte :: rest)
  | [] => some (none, [])

/-- The whole part in front of the input: at least one digit, and no zero before another. -/
def whole? (input : List UInt8) : Option (List Nat × List UInt8) :=
  match takeDigits input with
  | ([], _) => none
  | (0 :: _ :: _, _) => none
  | (digits, rest) => some (digits, rest)

/-- The number in front of the input, after its sign. -/
def numeral? (negative : Bool) (input : List UInt8) : Option (Numeral × List UInt8) :=
  match whole? input with
  | none => none
  | some (whole, rest) =>
    match fraction? rest with
    | none => none
    | some (fraction, rest) =>
      match exponent? rest with
      | none => none
      | some (exponent, rest) =>
        some (⟨negative, whole, fraction.getD [], exponent,
          fraction.isSome || exponent.isSome⟩, rest)

/-- The number that decimal digits write. -/
def ofDigits (digits : List Nat) : Nat := digits.foldl (fun n digit => n * 10 + digit) 0

/-- Digits appended to a number as long as a 64-bit word holds the result, and how many of them
    were appended. -/
def appendDigits : Nat → List Nat → Nat × Nat
  | n, [] => (n, 0)
  | n, digit :: rest =>
    if n * 10 + digit < UInt64.size then
      let (m, count) := appendDigits (n * 10 + digit) rest
      (m, count + 1)
    else (n, 0)

/-- A number to the nearest one with at most 53 significant bits, of two the even one. -/
def round53 (n : Nat) : Nat :=
  let unit := 1 <<< (n.log2 + 1 - 53)
  let count := n / unit
  let rest := n % unit
  if 2 * rest < unit ∨ (2 * rest = unit ∧ count % 2 = 0) then count * unit
  else (count + 1) * unit

namespace Numeral

/-- The leading digits as a 64-bit word and the power of ten that it is to be multiplied with.
    Digits that the word cannot take are counted, if they are whole ones, but not kept. -/
def scaled (numeral : Numeral) : Nat × Int :=
  let (whole, kept) := appendDigits 0 numeral.whole
  let (significand, places) := appendDigits whole numeral.fraction
  let left : Int := (numeral.whole.length : Int) - kept
  let written : Int :=
    match numeral.exponent with
    | none => 0
    | some (negative, digits) => if negative then -(ofDigits digits) else ofDigits digits
  (significand, left - places + written)

/-- Whether a number is too large for a binary64 float: the product of its digits and its power
    of ten, each of them rounded, rounds to infinity. -/
def isTooLarge (numeral : Numeral) : Bool :=
  let (significand, power) := numeral.scaled
  if significand = 0 ∨ power < 0 then false
  else if 308 < power then true
  else 1 <<< 1024 ≤ round53 (round53 significand * round53 (Nat.pow 10 power.toNat))

/-- The integer that a number stands for, if it is written as one that fits a 64-bit word. There
    is no negative zero among the integers. -/
def toInt? (numeral : Numeral) : Option Int :=
  if numeral.isDecimal then none
  else
    let n := ofDigits numeral.whole
    if numeral.negative then if 0 < n ∧ Int64.minValue.toInt ≤ -n then some (-n) else none
    else if n < UInt64.size then some n else none

end Numeral

/-- The number in front of the input: its integer, or nothing if it is inexact. -/
def readNumber (negative : Bool) : Reader (Option Int) := fun input =>
  match numeral? negative input with
  | none => .error .malformed
  | some (numeral, rest) =>
    match numeral.toInt? with
    | some n => .ok (some n, rest)
    | none => if numeral.isTooLarge then .error .malformed else .ok (none, rest)

end OrderDesk.Json
