import OrderDesk.Identifier.Raw
import OrderDesk.Store.Cluster

/-!
# The orders in a cluster

The orders of a user lie on the shard that the user's number hashes to; the number of an order
encodes that shard. Each operation here is one atomic step: it either fails and changes nothing,
or it changes one order and appends the event of the change.
-/

namespace OrderDesk.Cluster

/-- Stores a new order of a user. -/
def createOrder (cluster : Cluster) (user : UserId) (items : List Item) :
    Except Error Order × Cluster :=
  let shard := cluster.router.shardForUser user
  match cluster.permitWrite shard .insertOrder with
  | .error error => (.error (.storage error), cluster)
  | .ok () =>
    let tables := cluster.tables shard
    match OrderId.compose (tables.orderSequence + 1) shard with
    | .error reason => (.error (.invalidInput reason), cluster)
    | .ok id =>
      let order : Order := ⟨id, user, .new, items⟩
      (.ok order, cluster.setTables shard (tables.insertOrder order (cluster.now shard)))

/-- Gives a stored order the state of the given one, if it stands in the state expected. Lines and
    user of the stored order stay as they are. -/
def updateState (cluster : Cluster) (order : Order) (expected : OrderState) :
    Except Error Unit × Cluster :=
  match cluster.router.shardForOrder order.id with
  | .error _ => (.error (.orderNotFound order.id), cluster)
  | .ok shard =>
    match cluster.permitWrite shard .updateOrderState with
    | .error error => (.error (.storage error), cluster)
    | .ok () =>
      let tables := cluster.tables shard
      match tables.order? order.id with
      | none => (.error (.orderNotFound order.id), cluster)
      | some stored =>
        if stored.state = expected then
          (.ok (), cluster.setTables shard
            (tables.updateState stored order.state (cluster.now shard)))
        else (.error (.invalidOrderState order.id stored.state order.state), cluster)

/-- The order of a number. -/
def order (cluster : Cluster) (id : OrderId) (intent : Intent) : Except Error Order :=
  match cluster.router.shardForOrder id with
  | .error _ => .error (.orderNotFound id)
  | .ok shard =>
    match cluster.bind shard intent with
    | .error error => .error (.storage error)
    | .ok binding =>
      match cluster.read .readOrder (fun tables => tables.order? id) binding with
      | .error error => .error (.storage error)
      | .ok none => .error (.orderNotFound id)
      | .ok (some order) => .ok order

/-- The order of a number bears that number. -/
theorem id_of_order {cluster : Cluster} {id : OrderId} {intent : Intent} {found : Order}
    (h : cluster.order id intent = .ok found) : found.id = id := by
  unfold order at h
  split at h
  · cases h
  · split at h
    · cases h
    · split at h
      · cases h
      · cases h
      · rename_i result stored
        cases h
        obtain ⟨shard, same⟩ := exists_of_read stored
        have matching := List.find?_some same.symm
        simpa using matching

/-- The orders that the given bindings lead to, up to the first that fails. -/
def ordersOf (cluster : Cluster) : List (Binding Member) → Except StorageError (List Order)
  | [] => .ok []
  | binding :: rest =>
    match cluster.read .listOrders Tables.orders binding with
    | .error error => .error error
    | .ok orders =>
      match cluster.ordersOf rest with
      | .error error => .error error
      | .ok others => .ok (orders ++ others)

/-- Whether an order is listed before another: the greater number first. -/
def newestFirst (a b : Order) : Bool := b.id.num ≤ a.id.num

/-- Every order, the greatest number first. -/
def orders (cluster : Cluster) : Except Error (List Order) :=
  match Id.run (cluster.router.pickAll (m := Id) Member.acquire .read) with
  | .error error => .error (.storage error)
  | .ok bindings =>
    match cluster.ordersOf bindings with
    | .error error => .error (.storage error)
    | .ok orders => .ok (orders.mergeSort newestFirst)

end OrderDesk.Cluster
