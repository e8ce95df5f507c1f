import OrderDesk.Identifier.Document
import OrderDesk.Order
import OrderDesk.Stock

/-!
# Orders and stock as documents
-/

namespace OrderDesk

instance : Wire OrderState where
  shape := .choice (OrderState.all.map OrderState.name)
  toJson state := .text state.name
  ofJson?
    | .text name => OrderState.ofName? name
    | _ => none

instance : Wire Item where
  shape := .record false [("sku", Wire.shape Sku), ("count", Wire.shape ItemCount)]
  toJson item := .object [("sku", Wire.toJson item.sku), ("count", Wire.toJson item.count)]
  ofJson? document := do
    let sku ← Wire.field? document "sku"
    let count ← Wire.field? document "count"
    some ⟨sku, count⟩

instance : Wire Order where
  shape := .record false [("id", Wire.shape OrderId), ("user_id", Wire.shape UserId),
    ("state", Wire.shape OrderState), ("items", Wire.shape (List Item))]
  toJson order := .object [("id", Wire.toJson order.id), ("user_id", Wire.toJson order.user),
    ("state", Wire.toJson order.state), ("items", Wire.toJson order.items)]
  ofJson? document := do
    let id ← Wire.field? document "id"
    let user ← Wire.field? document "user_id"
    let state ← Wire.field? document "state"
    let items ← Wire.field? document "items"
    some ⟨id, user, state, items⟩

/-- A row of the stock is read as it is, also one that promises more units than are held. -/
instance : Wire Stock where
  shape := .record false [("sku", Wire.shape Sku), ("total_count", Wire.shape UInt32),
    ("reserved_count", Wire.shape UInt32)]
  toJson stock := .object [("sku", Wire.toJson stock.sku),
    ("total_count", Wire.toJson stock.total), ("reserved_count", Wire.toJson stock.reserved)]
  ofJson? document := do
    let sku ← Wire.field? document "sku"
    let total ← Wire.field? document "total_count"
    let reserved ← Wire.field? document "reserved_count"
    some ⟨sku, total, reserved⟩

end OrderDesk
