import OrderDesk.Store.Cluster

/-!
# The stock in a cluster

The stock lies on one shard. Each operation here is one atomic step: it either fails and changes
nothing or does all of its work.
-/

namespace OrderDesk.Cluster

/-- The inventory of a cluster. -/
def inventory (cluster : Cluster) : Inventory := (cluster.tables .inventory).stock

/-- Replaces the inventory of a cluster. -/
def setInventory (cluster : Cluster) (inventory : Inventory) : Cluster :=
  cluster.setTables .inventory { cluster.tables .inventory with stock := inventory }

/-- The rows of the given articles; every one of them has to have a row. -/
def stocks (cluster : Cluster) (skus : List Sku) : Except Error (List Stock) :=
  match cluster.bind .inventory .read with
  | .error error => .error (.storage error)
  | .ok binding =>
    match cluster.read .readStocks (fun tables => tables.stock.rowsOf skus) binding with
    | .error error => .error (.storage error)
    | .ok rows =>
      match Inventory.requireAll skus rows with
      | .error error => .error error
      | .ok () => .ok rows

/-- Adjusts every row of a demand, or none. The answer holds the rows after the adjustment. -/
def modifyStock (cluster : Cluster) (demand : Demand) (adjustment : Adjustment) :
    Except Error (List Stock) × Cluster :=
  match cluster.permitWrite .inventory .writeStocks with
  | .error error => (.error (.storage error), cluster)
  | .ok () =>
    match cluster.inventory.adjusted adjustment demand with
    | .error error => (.error error, cluster)
    | .ok rows => (.ok rows, cluster.setInventory (cluster.inventory.putAll rows))

/-- Puts rows into the stock as they are. -/
def upsertStock (cluster : Cluster) (stocks : List Stock) : Except Error Unit × Cluster :=
  match cluster.permitWrite .inventory .writeStocks with
  | .error error => (.error (.storage error), cluster)
  | .ok () => (.ok (), cluster.setInventory (cluster.inventory.putAll stocks))

end OrderDesk.Cluster
