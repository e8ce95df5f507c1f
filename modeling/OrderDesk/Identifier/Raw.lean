import OrderDesk.InvalidInput

/-!
# Identifiers from raw numbers

Requests carry 64-bit numbers. Here they become identifiers, or are refused with the reason.
The number of an order is composed from its place on its shard and the shard.
-/

namespace OrderDesk

/-- A number as 32 bits, under the name of the field that carries it. -/
def narrow (field : String) (value : UInt64) : Except InvalidInput UInt32 :=
  if value.toNat < UInt32.size then .ok value.toUInt32 else .error (.tooWide field value.toNat)

namespace Sku

/-- The article that a request names. -/
def ofRaw (value : UInt64) : Except InvalidInput Sku := (narrow "sku" value).map Sku.mk

end Sku

namespace ItemCount

/-- The units that a request asks for. -/
def ofRaw (value : UInt64) : Except InvalidInput ItemCount :=
  match narrow "count" value with
  | .error reason => .error reason
  | .ok units =>
    match ofWord? units with
    | none => .error (.fieldNotPositive .itemCount)
    | some count => .ok count

end ItemCount

namespace UserId

/-- The user that a request names. -/
def ofRaw (value : Int64) : Except InvalidInput UserId :=
  match ofInt? value.toInt with
  | none => .error (.fieldNotPositive .userId)
  | some user => .ok user

end UserId

namespace OrderId

/-- The order that a request names. -/
def ofRaw (value : Int64) : Except InvalidInput OrderId :=
  match ofInt? value.toInt with
  | none => .error (.fieldNotPositive .orderId)
  | some id => .ok id

/-- A number, if a signed 64-bit word holds it. -/
def checked (n : Int) : Option Int :=
  if Int64.minValue.toInt ≤ n ∧ n ≤ Int64.maxValue.toInt then some n else none

/-- The number of the order at the given place of a shard. Neither the product nor the sum may
    leave the signed 64-bit words, and the result has to be positive. -/
def compose (sequence : Int) (shard : ShardIndex) : Except InvalidInput OrderId :=
  if shard.num < stride then
    match checked (sequence * stride) with
    | none => .error (.sequenceOverflow sequence)
    | some base =>
      match checked (base + shard.num) with
      | none => .error (.sequenceOverflow sequence)
      | some n =>
        match ofInt? n with
        | none => .error (.notPositive .orderId)
        | some id => .ok id
  else .error (.shardOutOfRange shard)

end OrderId

end OrderDesk
