import OrderDesk.Order
import OrderDesk.Stock

/-!
# Rows of a relational store

A relational store answers a query for orders with one row per line, the columns of the order
repeated on each, and keeps its numbers in signed 64-bit columns. Here rows become orders and
stock again, or are reported as corrupt.
-/

namespace OrderDesk

/-- An order joined with one of its lines. -/
structure OrderRow where
  id : Int64
  user : Int64
  state : String
  sku : Int64
  count : Int64
  deriving DecidableEq

/-- A row of the stock. -/
structure StockRow where
  sku : Int64
  total : Int64
  reserved : Int64
  deriving DecidableEq

/-- A column as a 32-bit word. -/
def columnWord (column : String) (value : Int64) : Except RowFault UInt32 :=
  if 0 ≤ value.toInt ∧ value.toInt < UInt32.size then .ok (UInt32.ofNat value.toInt.toNat)
  else .error (.outOfRange column value.toInt)

namespace StockRow

/-- The stock that a row holds; the first column that does not fit is blamed. -/
def toStock (row : StockRow) : Except RowFault Stock := do
  let sku ← columnWord "sku" row.sku
  let total ← columnWord "total_count" row.total
  let reserved ← columnWord "reserved" row.reserved
  return ⟨⟨sku⟩, total, reserved⟩

/-- The stock that a row holds, read by an operation. -/
def read (operation : Operation) (row : StockRow) : Except StorageError Stock :=
  row.toStock.mapError (.corrupt operation)

end StockRow

namespace OrderRow

/-- The line that a row holds. -/
def item (row : OrderRow) : Except RowFault Item :=
  match columnWord "sku" row.sku with
  | .error fault => .error fault
  | .ok sku =>
    match columnWord "count" row.count with
    | .error fault => .error fault
    | .ok units =>
      match ItemCount.ofWord? units with
      | none => .error (.notPositive .itemCount)
      | some count => .ok ⟨⟨sku⟩, count⟩

/-- The order that a row holds, with one line. -/
def order (row : OrderRow) (item : Item) : Except RowFault Order :=
  match OrderId.ofInt? row.id.toInt with
  | none => .error (.notPositive .orderId)
  | some id =>
    match UserId.ofInt? row.user.toInt with
    | none => .error (.notPositive .userId)
    | some user =>
      match OrderState.ofName? row.state with
      | none => .error (.unknownState row.state)
      | some state => .ok ⟨id, user, state, [item]⟩

/-- Whether a row belongs to an order. -/
def isOf (row : OrderRow) (order : Order) : Bool := (order.id.num : Int) = row.id.toInt

/-- Orders with the line of one more row: at the end of its order or, if there is none yet, in an
    order of its own at the end. Only the first row of an order tells its user and state. -/
def addTo (orders : List Order) (row : OrderRow) : Except RowFault (List Order) :=
  match row.item with
  | .error fault => .error fault
  | .ok item =>
    if orders.any row.isOf then
      .ok (orders.map fun order =>
        if row.isOf order then { order with items := order.items ++ [item] } else order)
    else
      match row.order item with
      | .error fault => .error fault
      | .ok order => .ok (orders ++ [order])

/-- Orders with the lines of further rows, up to the first row that is corrupt. -/
def addAll (orders : List Order) : List OrderRow → Except RowFault (List Order)
  | [] => .ok orders
  | row :: rest =>
    match addTo orders row with
    | .error fault => .error fault
    | .ok orders => addAll orders rest

/-- The orders that rows hold, in the order of their first rows; the lines of an order need not
    stand together. -/
def group (operation : Operation) (rows : List OrderRow) : Except StorageError (List Order) :=
  (addAll [] rows).mapError (.corrupt operation)

end OrderRow

end OrderDesk
