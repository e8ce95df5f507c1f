import OrderDesk.Stock
import OrderDesk.Stock.Demand

/-!
# Inventory

The rows of the stock, at most one that counts for each article, and what a reservation call
does to them as a whole: either every row of the demand is adjusted or none is.
-/

namespace OrderDesk

/-- The rows of the stock. -/
structure Inventory where
  rows : List Stock
  deriving DecidableEq, Repr

namespace Inventory

/-- The row of an article. -/
def get? (inventory : Inventory) (sku : Sku) : Option Stock :=
  inventory.rows.find? (·.sku = sku)

/-- Rows with one of them put in the place of the row of its article, or at the end. -/
def putIn (stock : Stock) : List Stock → List Stock
  | [] => [stock]
  | row :: rest => if row.sku = stock.sku then stock :: rest else row :: putIn stock rest

/-- Puts a row in the place of the row of its article. -/
def put (inventory : Inventory) (stock : Stock) : Inventory := ⟨putIn stock inventory.rows⟩

/-- Puts rows, one after the other. -/
def putAll (inventory : Inventory) (stocks : List Stock) : Inventory := stocks.foldl put inventory

/-- The rows of the given articles, as far as there are any. -/
def rowsOf (inventory : Inventory) (skus : List Sku) : List Stock :=
  skus.filterMap inventory.get?

/-- Checks that every article asked for is among the rows found; the first one that is not is
    reported. -/
def requireAll (requested : List Sku) (found : List Stock) : Except Error Unit :=
  match requested.find? fun sku => !found.any (·.sku = sku) with
  | some missing => .error (.stockNotFound missing)
  | none => .ok ()

/-- The rows of a demand after the adjustment, in the order of the demand. -/
def adjustRows (adjustment : Adjustment) (rows : List Stock) :
    List (Sku × UInt32) → Except Error (List Stock)
  | [] => .ok []
  | (sku, units) :: rest =>
    match rows.find? (·.sku = sku) with
    | none => .error (.stockNotFound sku)
    | some row =>
      match row.adjust adjustment units with
      | .error error => .error error
      | .ok row =>
        match adjustRows adjustment rows rest with
        | .error error => .error error
        | .ok adjusted => .ok (row :: adjusted)

/-- The rows that an adjustment by a demand puts into the inventory. Nothing is put before every
    row has been adjusted. -/
def adjusted (inventory : Inventory) (adjustment : Adjustment) (demand : Demand) :
    Except Error (List Stock) :=
  let rows := inventory.rowsOf demand.skus
  match requireAll demand.skus rows with
  | .error error => .error error
  | .ok () => adjustRows adjustment rows demand.lines

theorem find?_putIn (stock : Stock) (rows : List Stock) (sku : Sku) :
    (putIn stock rows).find? (·.sku = sku) =
      if stock.sku = sku then some stock else rows.find? (·.sku = sku) := by
  induction rows with
  | nil => by_cases h : stock.sku = sku <;> simp [putIn, h]
  | cons row rest ih =>
    by_cases same : row.sku = stock.sku
    · by_cases h : stock.sku = sku
      · simp [putIn, same, h]
      · have other : ¬ row.sku = sku := fun e => h (same.symm.trans e)
        simp [putIn, same, h]
    · have kept : putIn stock (row :: rest) = row :: putIn stock rest := by simp [putIn, same]
      rw [kept]
      by_cases h : row.sku = sku
      · have other : ¬ stock.sku = sku := fun e => same (h.trans e.symm)
        simp [h, other]
      · simp [h, ih]

/-- Putting a row changes the row of its article and no other. -/
@[simp] theorem get?_put (inventory : Inventory) (stock : Stock) (sku : Sku) :
    (inventory.put stock).get? sku = if stock.sku = sku then some stock else inventory.get? sku :=
  find?_putIn stock inventory.rows sku

end Inventory

end OrderDesk
