import OrderDesk.Order

/-!
# Demand

What a list of order lines asks of the stock: the units of each article, lines of one article
added up. A demand lists every article once, in ascending order.
-/

namespace OrderDesk

/-- Units per article, ascending by article. -/
structure Demand where
  lines : List (Sku × UInt32)
  deriving DecidableEq, Repr

namespace Demand

/-- The sum of two words, if it is one. -/
def sum? (a b : UInt32) : Option UInt32 :=
  if a.toNat + b.toNat < UInt32.size then some (a + b) else none

/-- Adds units of an article to ascending lines, unless their sum does not fit. -/
def addTo (sku : Sku) (units : UInt32) : List (Sku × UInt32) → Option (List (Sku × UInt32))
  | [] => some [(sku, units)]
  | (other, held) :: rest =>
    if sku.num < other.num then some ((sku, units) :: (other, held) :: rest)
    else if sku = other then (sum? held units).map fun total => (other, total) :: rest
    else (addTo sku units rest).map ((other, held) :: ·)

/-- The demand after one more order line. -/
def add (demand : Demand) (item : Item) : Except Error Demand :=
  match addTo item.sku item.count.num demand.lines with
  | none => .error (.invalidInput (.demandOverflow item.sku))
  | some lines => .ok ⟨lines⟩

/-- The demand after further order lines; the first line that does not fit is blamed. -/
def addAll (demand : Demand) : List Item → Except Error Demand
  | [] => .ok demand
  | item :: rest =>
    match demand.add item with
    | .error error => .error error
    | .ok demand => addAll demand rest

/-- What a list of order lines asks for. -/
def ofItems (items : List Item) : Except Error Demand := addAll ⟨[]⟩ items

/-- The articles asked for, ascending. -/
def skus (demand : Demand) : List Sku := demand.lines.map (·.1)

/-- The units asked for of an article. -/
def get? (demand : Demand) (sku : Sku) : Option UInt32 :=
  (demand.lines.find? (·.1 = sku)).map (·.2)

/-- The number of articles asked for. -/
def size (demand : Demand) : Nat := demand.lines.length

/-- Whether nothing is asked for. -/
def isEmpty (demand : Demand) : Bool := demand.lines.isEmpty

end Demand

end OrderDesk
