import OrderDesk.Identifier
import OrderDesk.Text.Quoted

/-!
# Refused input

The reasons for which a request is refused before, or without, touching the store, and their
wording.
-/

namespace OrderDesk

/-- The kinds of number that have to be positive. -/
inductive Positive where
  | itemCount
  | userId
  | orderId
  deriving DecidableEq, Repr

namespace Positive

/-- What such a number is called. -/
def name : Positive → String
  | itemCount => "ItemCount"
  | userId => "UserId"
  | orderId => "OrderId"

/-- The field of a request that carries such a number. -/
def field : Positive → String
  | itemCount => "count"
  | userId => "user"
  | orderId => "order_id"

/-- The rule that a number broke. -/
def rule (kind : Positive) : String :=
  s!"{kind.name} is too small. The value must be greater than 0."

end Positive

/-- Why an input is refused. -/
inductive InvalidInput where
  /-- No order number can encode the shard. -/
  | shardOutOfRange (shard : ShardIndex)
  /-- The order number of the sequence would not fit. -/
  | sequenceOverflow (sequence : Int)
  /-- A number that has to be positive is not. -/
  | notPositive (kind : Positive)
  /-- A field that has to be positive is not. -/
  | fieldNotPositive (kind : Positive)
  /-- A field does not fit into 32 bits. -/
  | tooWide (field : String) (value : Nat)
  /-- No order state has the name. -/
  | unknownState (name : String)
  /-- The lines of one article add up to more than 32 bits hold. -/
  | demandOverflow (sku : Sku)
  /-- An order without lines. -/
  | emptyOrder
  /-- A reason that is given in words. -/
  | stated (reason : String)
  deriving DecidableEq, Repr

/-- The wording of a refusal. -/
def InvalidInput.message : InvalidInput → String
  | shardOutOfRange shard => s!"shard index {shard} out of range"
  | sequenceOverflow sequence => s!"order sequence {sequence} overflows"
  | notPositive kind => kind.rule
  | fieldNotPositive kind => s!"{kind.field}: {kind.rule}"
  | tooWide field value => s!"{field} value {value} does not fit in 32 bits"
  | unknownState name => s!"unknown order state {Text.quote name}"
  | demandOverflow sku => s!"total count for sku {sku} overflows"
  | emptyOrder => "order must contain at least one item"
  | stated reason => reason

end OrderDesk
