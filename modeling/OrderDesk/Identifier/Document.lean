import OrderDesk.Identifier
import OrderDesk.Json.Wire

/-!
# Identifiers as documents

Identifiers are written as plain integers, and read only if they are in range.
-/

namespace OrderDesk

instance : Wire Sku where
  shape := Wire.shape UInt32
  toJson sku := Wire.toJson sku.num
  ofJson? document := (Wire.ofJson? document).map Sku.mk

instance : Wire ItemCount where
  shape := .integer 1 (UInt32.size - 1)
  toJson count := Wire.toJson count.num
  ofJson? document := (Wire.ofJson? document).bind ItemCount.ofWord?

instance : Wire UserId where
  shape := .integer 1 maxInt64
  toJson user := .number user.num
  ofJson?
    | .number n => UserId.ofInt? n
    | _ => none

instance : Wire OrderId where
  shape := .integer 1 maxInt64
  toJson id := .number id.num
  ofJson?
    | .number n => OrderId.ofInt? n
    | _ => none

instance : Wire EventId where
  shape := Wire.shape Int64
  toJson event := .number event.num
  ofJson?
    | .number n => some ⟨n⟩
    | _ => none

instance : Wire ShardIndex where
  shape := Wire.shape UInt64
  toJson shard := .number shard.num
  ofJson?
    | .number n => some ⟨n.toNat⟩
    | _ => none

end OrderDesk
