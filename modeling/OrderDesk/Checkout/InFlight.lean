import OrderDesk.Checkout

/-!
# Calls in flight

A checkout or a settlement, stopped between two atomic steps of the storage. Several calls may be
in flight on one cluster, their steps interleaved in any order. A call that is advanced to its
end without others in between does what it does in one go.
-/

namespace OrderDesk

/-- Where a call stands: the step of the storage that comes next and what it needs. -/
inductive Call where
  /-- The order is to be stored. -/
  | storing (user : UserId) (items : List Item)
  /-- The order is stored; its units are to be reserved. -/
  | reserving (order : Order)
  /-- The units are reserved; the order is to wait for payment. -/
  | confirming (order : Order)
  /-- The units could not be reserved; the order is to be marked failed. -/
  | failing (order : Order) (reason : Error)
  /-- The order to settle is to be read. -/
  | loading (settlement : Settlement) (id : OrderId)
  /-- The order was read and may move on; its stock is to be adjusted. -/
  | adjusting (settlement : Settlement) (order : Order)
  /-- The stock is adjusted; the order is to be moved on. -/
  | closing (settlement : Settlement) (order : Order)
  /-- The call has ended. -/
  | done (answer : Except Error OrderId)

namespace Call

/-- A checkout before its first step. An order without lines is refused at once. -/
def checkout (user : UserId) (items : List Item) : Call :=
  if items.isEmpty then done (.error (.invalidInput .emptyOrder)) else storing user items

/-- A settlement before its first step. -/
def settle (settlement : Settlement) (id : OrderId) : Call := loading settlement id

/-- Takes the next step of a call. -/
def advance (cluster : Cluster) : Call → Call × Cluster
  | storing user items =>
    match cluster.createOrder user items with
    | (.error error, cluster) => (done (.error error), cluster)
    | (.ok order, cluster) => (reserving order, cluster)
  | reserving order =>
    match cluster.reserve order.items with
    | (.error reason, cluster) => (failing order reason, cluster)
    | (.ok (), cluster) => (confirming order, cluster)
  | confirming order =>
    match cluster.confirm order with
    | (answer, cluster) => (done answer, cluster)
  | failing order reason =>
    match cluster.giveUp order reason with
    | (answer, cluster) => (done answer, cluster)
  | loading settlement id =>
    match cluster.order id .write with
    | .error error => (done (.error error), cluster)
    | .ok order =>
      match order.transition settlement.target with
      | .error error => (done (.error error), cluster)
      | .ok _ => (adjusting settlement order, cluster)
  | adjusting settlement order =>
    match cluster.adjustStock settlement.adjustment order.items with
    | (.error error, cluster) => (done (.error error), cluster)
    | (.ok (), cluster) => (closing settlement order, cluster)
  | closing settlement order =>
    match cluster.updateState { order with state := settlement.target } order.state with
    | (.error error, cluster) => (done (.error error), cluster)
    | (.ok (), cluster) => (done (.ok order.id), cluster)
  | done answer => (done answer, cluster)

/-- Takes so many steps of a call. -/
def advanceBy : Nat → Call → Cluster → Call × Cluster
  | 0, call, cluster => (call, cluster)
  | steps + 1, call, cluster =>
    match call.advance cluster with
    | (call, cluster) => advanceBy steps call cluster

/-- Three steps lead a checkout to its end, with the answer and the cluster of the call in one
    go. -/
theorem advanceBy_checkout (user : UserId) (items : List Item) (cluster : Cluster) :
    advanceBy 3 (checkout user items) cluster =
      (done (cluster.checkout user items).1, (cluster.checkout user items).2) := by
  by_cases none : items.isEmpty
  · simp [checkout, Cluster.checkout, none, advanceBy, advance]
  · rcases created : cluster.createOrder user items with ⟨_ | order, stored⟩
    · simp [checkout, Cluster.checkout, none, advanceBy, advance, created]
    · rcases reserved : stored.reserve order.items with ⟨_ | _, changed⟩ <;>
        simp [checkout, Cluster.checkout, none, advanceBy, advance, created, reserved]

/-- Three steps lead a settlement to its end, with the answer and the cluster of the call in one
    go. -/
theorem advanceBy_settle (settlement : Settlement) (id : OrderId) (cluster : Cluster) :
    advanceBy 3 (settle settlement id) cluster =
      (done ((cluster.settle settlement id).1.map fun _ => id),
        (cluster.settle settlement id).2) := by
  rcases loaded : cluster.order id .write with _ | order
  · simp [settle, Cluster.settle, advanceBy, advance, loaded, Except.map]
  · have same : order.id = id := Cluster.id_of_order loaded
    subst same
    by_cases allowed : order.state.allows settlement.target
    · rcases adjusted : cluster.adjustStock settlement.adjustment order.items with ⟨_ | _, changed⟩
      · simp [settle, Cluster.settle, advanceBy, advance, loaded, Order.transition, allowed,
          adjusted, Except.map]
      · rcases closed : changed.updateState { order with state := settlement.target } order.state
          with ⟨_ | _, final⟩ <;>
        simp [settle, Cluster.settle, advanceBy, advance, loaded, Order.transition, allowed,
          adjusted, closed, Except.map]
    · simp [settle, Cluster.settle, advanceBy, advance, loaded, Order.transition, allowed,
        Except.map]

end Call

end OrderDesk
