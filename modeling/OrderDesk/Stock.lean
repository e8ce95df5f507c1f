import OrderDesk.Error

/-!
# Stock

The stock of one article: the units that are held and how many of them are promised to orders
that are not paid yet. Three adjustments move units; each checks first that the words cannot
leave their range, so a refused adjustment leaves the row as it was.
-/

namespace OrderDesk

/-- The stock of one article. -/
structure Stock where
  sku : Sku
  total : UInt32
  reserved : UInt32
  deriving DecidableEq, Repr

/-- What a reservation call does to a row of the stock. -/
inductive Adjustment where
  /-- Promises units to an order. -/
  | reserve
  /-- Takes promised units out of the stock. -/
  | remove
  /-- Gives promised units back. -/
  | cancel
  deriving DecidableEq, Repr

namespace Stock

/-- No more units are promised than are held. -/
def Sound (stock : Stock) : Prop := stock.reserved ≤ stock.total

instance (stock : Stock) : Decidable stock.Sound :=
  inferInstanceAs (Decidable (stock.reserved ≤ stock.total))

/-- The units that can still be promised. -/
def available (stock : Stock) : Except Error UInt32 :=
  if stock.reserved ≤ stock.total then .ok (stock.total - stock.reserved)
  else .error (.negativeAvailable stock.sku stock.total stock.reserved)

/-- A row of the stock, if no more units are promised than are held. -/
def checked (sku : Sku) (total reserved : UInt32) : Except Error Stock :=
  let stock : Stock := ⟨sku, total, reserved⟩
  stock.available.map fun _ => stock

/-- Promises so many more units. -/
def reserve (stock : Stock) (units : UInt32) : Except Error Stock :=
  match stock.available with
  | .error error => .error error
  | .ok available =>
    if available < units then .error (.insufficientStock stock.sku units available)
    else .ok { stock with reserved := stock.reserved + units }

/-- Takes so many promised units out of the stock. -/
def remove (stock : Stock) (units : UInt32) : Except Error Stock :=
  if stock.reserved < units then
    .error (.negativeReserved stock.sku stock.reserved units)
  else if stock.total < units then
    .error (.insufficientStock stock.sku units stock.total)
  else .ok { stock with reserved := stock.reserved - units, total := stock.total - units }

/-- Gives so many promised units back. -/
def cancel (stock : Stock) (units : UInt32) : Except Error Stock :=
  if stock.reserved < units then
    .error (.negativeReserved stock.sku stock.reserved units)
  else .ok { stock with reserved := stock.reserved - units }

/-- The adjustment of a row by so many units. -/
def adjust : Adjustment → Stock → UInt32 → Except Error Stock
  | .reserve => reserve
  | .remove => remove
  | .cancel => cancel

end Stock

end OrderDesk
