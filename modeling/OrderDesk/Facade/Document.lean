import OrderDesk.Facade
import OrderDesk.Order.Document

/-!
# Requests and answers as documents
-/

namespace OrderDesk

instance : Wire Code where
  shape := .choice (Code.all.map Code.name)
  toJson code := .text code.name
  ofJson?
    | .text name => Code.ofName? name
    | _ => none

instance : Wire Status where
  shape := .record false [("code", Wire.shape Code), ("message", Wire.shape String)]
  toJson status :=
    .object [("code", Wire.toJson status.code), ("message", Wire.toJson status.message)]
  ofJson? document := do
    let code ← Wire.field? document "code"
    let message ← Wire.field? document "message"
    some ⟨code, message⟩

instance : Wire WireItem where
  shape := .record false [("sku", Wire.shape UInt64), ("count", Wire.shape UInt64)]
  toJson item := .object [("sku", Wire.toJson item.sku), ("count", Wire.toJson item.count)]
  ofJson? document := do
    let sku ← Wire.field? document "sku"
    let count ← Wire.field? document "count"
    some ⟨sku, count⟩

instance : Wire CreateRequest where
  shape := .record false [("user", Wire.shape Int64), ("items", Wire.shape (List WireItem))]
  toJson request :=
    .object [("user", Wire.toJson request.user), ("items", Wire.toJson request.items)]
  ofJson? document := do
    let user ← Wire.field? document "user"
    let items ← Wire.field? document "items"
    some ⟨user, items⟩

instance : Wire OrderRequest where
  shape := .record false [("order_id", Wire.shape Int64)]
  toJson request := .object [("order_id", Wire.toJson request.order)]
  ofJson? document := (Wire.field? document "order_id").map OrderRequest.mk

instance : Wire CreateResponse where
  shape := .record false [("order_id", Wire.shape Int64)]
  toJson response := .object [("order_id", Wire.toJson response.order)]
  ofJson? document := (Wire.field? document "order_id").map CreateResponse.mk

instance : Wire InfoResponse where
  shape := .record false [("user", Wire.shape Int64), ("status", Wire.shape String),
    ("items", Wire.shape (List WireItem))]
  toJson response := .object [("user", Wire.toJson response.user),
    ("status", Wire.toJson response.status), ("items", Wire.toJson response.items)]
  ofJson? document := do
    let user ← Wire.field? document "user"
    let status ← Wire.field? document "status"
    let items ← Wire.field? document "items"
    some ⟨user, status, items⟩

instance : Wire StockRequest where
  shape := .record false [("sku", Wire.shape UInt64)]
  toJson request := .object [("sku", Wire.toJson request.sku)]
  ofJson? document := (Wire.field? document "sku").map StockRequest.mk

instance : Wire StockResponse where
  shape := .record false [("count", Wire.shape UInt64)]
  toJson response := .object [("count", Wire.toJson response.count)]
  ofJson? document := (Wire.field? document "count").map StockResponse.mk

end OrderDesk
