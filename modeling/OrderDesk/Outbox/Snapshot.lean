import OrderDesk.Order.Document

/-!
# Snapshots of orders

What an outbox event tells about an order: the order as it was right after a change, in the form
that readers of the events expect. A snapshot holds plain numbers, as its readers check them.
-/

namespace OrderDesk

/-- A line of a snapshot. -/
structure SnapshotItem where
  sku : UInt32
  count : UInt32
  deriving DecidableEq, Repr

/-- An order as it was after a change. -/
structure Snapshot where
  id : Int64
  user : Int64
  state : OrderState
  items : List SnapshotItem
  deriving DecidableEq, Repr

instance : Wire SnapshotItem where
  shape := .record false [("SKU", Wire.shape UInt32), ("Count", Wire.shape UInt32)]
  toJson item := .object [("SKU", Wire.toJson item.sku), ("Count", Wire.toJson item.count)]
  ofJson? document := do
    let sku ← Wire.field? document "SKU"
    let count ← Wire.field? document "Count"
    some ⟨sku, count⟩

instance : Wire Snapshot where
  shape := .record false [("ID", Wire.shape Int64), ("UserId", Wire.shape Int64),
    ("State", Wire.shape OrderState), ("Items", Wire.shape (List SnapshotItem))]
  toJson snapshot := .object [("ID", Wire.toJson snapshot.id),
    ("UserId", Wire.toJson snapshot.user), ("State", Wire.toJson snapshot.state),
    ("Items", Wire.toJson snapshot.items)]
  ofJson? document := do
    let id ← Wire.field? document "ID"
    let user ← Wire.field? document "UserId"
    let state ← Wire.field? document "State"
    let items ← Wire.field? document "Items"
    some ⟨id, user, state, items⟩

namespace Snapshot

/-- The snapshot of an order. -/
def ofOrder (order : Order) : Snapshot where
  id := Int64.ofInt order.id.num
  user := Int64.ofInt order.user.num
  state := order.state
  items := order.items.map fun item => ⟨item.sku.num, item.count.num⟩

/-- The stored text of a snapshot. -/
def payload (snapshot : Snapshot) : String := Wire.write snapshot

/-- The snapshot that a stored text holds. -/
def ofPayload (payload : String) : Except Error Snapshot :=
  match Wire.read Snapshot (Utf8.encode payload) with
  | .error _ => .error .serialization
  | .ok snapshot => .ok snapshot

end Snapshot

end OrderDesk
