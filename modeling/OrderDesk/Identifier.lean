/-!
# Identifiers and counts

The numbers that name things: articles, users, orders, shards and outbox events, and the number
of units of an order line. Each type holds exactly the numbers that the store can hold, so a
value of one of them needs no further check.
-/

namespace OrderDesk

/-- The largest number of a signed 64-bit word. -/
def maxInt64 : Nat := 0x7fffffffffffffff

/-- The number of an article. -/
structure Sku where
  num : UInt32
  deriving DecidableEq, Repr

/-- The units of one order line, at least one. -/
structure ItemCount where
  num : UInt32
  pos : 0 < num
  deriving DecidableEq, Repr

/-- The number of a user: positive and at most a signed 64-bit word. -/
structure UserId where
  num : Nat
  pos : 0 < num
  le_max : num ≤ maxInt64
  deriving DecidableEq, Repr

/-- The number of an order: positive and at most a signed 64-bit word. -/
structure OrderId where
  num : Nat
  pos : 0 < num
  le_max : num ≤ maxInt64
  deriving DecidableEq, Repr

/-- The place of a shard in its topology, counted from zero. -/
structure ShardIndex where
  num : Nat
  deriving DecidableEq, Repr

/-- The number of an outbox event. -/
structure EventId where
  num : Int
  deriving DecidableEq, Repr

/-- A point in time, in milliseconds since the epoch. -/
structure Timestamp where
  millis : Int
  deriving DecidableEq, Repr

namespace ItemCount

/-- The count of so many units, if that is at least one. -/
def ofWord? (units : UInt32) : Option ItemCount :=
  if pos : 0 < units then some ⟨units, pos⟩ else none

end ItemCount

namespace UserId

/-- The user of a number, if it is one of a user. -/
def ofInt? (n : Int) : Option UserId :=
  if h : 0 < n ∧ n ≤ maxInt64 then some ⟨n.toNat, by omega, by omega⟩ else none

end UserId

namespace OrderId

/-- The order of a number, if it is one of an order. -/
def ofInt? (n : Int) : Option OrderId :=
  if h : 0 < n ∧ n ≤ maxInt64 then some ⟨n.toNat, by omega, by omega⟩ else none

/-- How many order numbers lie between two consecutive orders of one shard. -/
def stride : Nat := 1000

/-- The shard that an order's number encodes: the digits below the stride. -/
def shard (id : OrderId) : ShardIndex := ⟨id.num % stride⟩

/-- The place of an order among the orders of its shard: the digits above the stride. -/
def sequence (id : OrderId) : Nat := id.num / stride

end OrderId

namespace ShardIndex

/-- The shard that holds the stock. -/
def inventory : ShardIndex := ⟨0⟩

/-- The most shards that order numbers can tell apart. -/
def maxShards : Nat := OrderId.stride

end ShardIndex

instance : ToString Sku := ⟨fun sku => toString sku.num⟩
instance : ToString UserId := ⟨fun user => toString user.num⟩
instance : ToString OrderId := ⟨fun id => toString id.num⟩
instance : ToString ShardIndex := ⟨fun shard => toString shard.num⟩
instance : ToString EventId := ⟨fun event => toString event.num⟩

end OrderDesk
