import OrderDesk.Reservation
import OrderDesk.Store.Orders

/-!
# Checkout

The life of an order: it is created, and then paid or cancelled. Order and stock lie on different
shards, so every call is a sequence of atomic steps of the storage: storing or reading the order,
changing the stock, and moving the order on if it still stands where it stood. Whatever fails
ends the call, and what was done before stays done.
-/

namespace OrderDesk

/-- The two ways in which an order that waits for payment is settled. -/
inductive Settlement where
  | pay
  | cancel
  deriving DecidableEq, Repr

namespace Settlement

/-- The state in which a settled order stands. -/
def target : Settlement → OrderState
  | pay => .payed
  | cancel => .cancelled

/-- What a settlement does to the stock of the order's lines. -/
def adjustment : Settlement → Adjustment
  | pay => .remove
  | cancel => .cancel

end Settlement

namespace Cluster

/-- Moves an order on after its reservation went well. -/
def confirm (cluster : Cluster) (order : Order) : Except Error OrderId × Cluster :=
  match order.transition .awaitingPayment with
  | .error error => (.error error, cluster)
  | .ok (previous, order) =>
    match cluster.updateState order previous with
    | (.error error, cluster) => (.error error, cluster)
    | (.ok (), cluster) => (.ok order.id, cluster)

/-- Marks an order failed after its reservation failed; the answer is why it failed. -/
def giveUp (cluster : Cluster) (order : Order) (reason : Error) :
    Except Error OrderId × Cluster :=
  match order.transition .failed with
  | .error error => (.error error, cluster)
  | .ok (previous, order) =>
    match cluster.updateState order previous with
    | (.error error, cluster) => (.error error, cluster)
    | (.ok (), cluster) => (.error reason, cluster)

/-- Stores an order and reserves its units. Once stored the order stays: it waits for payment, or
    it has failed and the reason is the answer. -/
def checkout (cluster : Cluster) (user : UserId) (items : List Item) :
    Except Error OrderId × Cluster :=
  if items.isEmpty then (.error (.invalidInput .emptyOrder), cluster)
  else
    match cluster.createOrder user items with
    | (.error error, cluster) => (.error error, cluster)
    | (.ok order, cluster) =>
      match cluster.reserve order.items with
      | (.ok (), cluster) => cluster.confirm order
      | (.error reason, cluster) => cluster.giveUp order reason

/-- Settles an order that waits for payment: the stock of its lines is adjusted, then the order
    is moved on. -/
def settle (cluster : Cluster) (settlement : Settlement) (id : OrderId) :
    Except Error Unit × Cluster :=
  match cluster.order id .write with
  | .error error => (.error error, cluster)
  | .ok order =>
    match order.transition settlement.target with
    | .error error => (.error error, cluster)
    | .ok (previous, order) =>
      match cluster.adjustStock settlement.adjustment order.items with
      | (.error error, cluster) => (.error error, cluster)
      | (.ok (), cluster) => cluster.updateState order previous

/-- Pays an order: its promised units leave the stock. -/
def pay (cluster : Cluster) (id : OrderId) : Except Error Unit × Cluster :=
  cluster.settle .pay id

/-- Cancels an order: its promised units are free again. -/
def cancel (cluster : Cluster) (id : OrderId) : Except Error Unit × Cluster :=
  cluster.settle .cancel id

/-- Looks an order up; a replica may serve it. -/
def lookUp (cluster : Cluster) (id : OrderId) : Except Error Order := cluster.order id .read

end Cluster

end OrderDesk
