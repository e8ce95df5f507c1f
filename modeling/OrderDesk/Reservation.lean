import OrderDesk.Store.Stocks

/-!
# Reservations

Reserving, consuming and releasing the units of a list of order lines. The lines of one article
are added up first, so a call changes every article of the list by its sum or changes nothing.
-/

namespace OrderDesk.Cluster

/-- Adjusts the stock by the demand of a list of lines. Nothing is asked of the storage if there
    are no lines. -/
def adjustStock (cluster : Cluster) (adjustment : Adjustment) (items : List Item) :
    Except Error Unit × Cluster :=
  match Demand.ofItems items with
  | .error error => (.error error, cluster)
  | .ok demand =>
    if demand.isEmpty then (.ok (), cluster)
    else
      match cluster.modifyStock demand adjustment with
      | (.error error, cluster) => (.error error, cluster)
      | (.ok _, cluster) => (.ok (), cluster)

/-- Promises the units of every line. -/
def reserve (cluster : Cluster) (items : List Item) : Except Error Unit × Cluster :=
  cluster.adjustStock .reserve items

/-- Takes the promised units of every line out of the stock. -/
def consume (cluster : Cluster) (items : List Item) : Except Error Unit × Cluster :=
  cluster.adjustStock .remove items

/-- Gives the promised units of every line back. -/
def release (cluster : Cluster) (items : List Item) : Except Error Unit × Cluster :=
  cluster.adjustStock .cancel items

/-- The units of an article that can still be promised. -/
def available (cluster : Cluster) (sku : Sku) : Except Error UInt32 :=
  match cluster.stocks [sku] with
  | .error error => .error error
  | .ok rows =>
    match rows.find? (·.sku = sku) with
    | none => .error (.stockNotFound sku)
    | some row => row.available

end OrderDesk.Cluster
