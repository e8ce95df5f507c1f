import OrderDesk.Proofs.Backing
import OrderDesk.Proofs.Reads

/-!
# What calls come to on healthy shards

While every primary does its work, a call is a function of the stock and of the orders: which shard
an order lies on has no part in it. A checkout stores its order if its number can be composed, and
the stock says what becomes of it; a settlement finds its order by number, and the stock and the
order's state say the rest; a reader is told what is stored.
-/

namespace OrderDesk

namespace Inventory

/-- An inventory after an adjustment by order lines. -/
def adjustedBy (inventory : Inventory) (adjustment : Adjustment) (items : List Item) :
    Except Error Inventory :=
  match Demand.ofItems items with
  | .error error => .error error
  | .ok demand => (inventory.adjusted adjustment demand).map inventory.putAll

/-- What becomes of an order of some lines: whether they could be reserved, the state in which the
    order is left, and the inventory after it. -/
def reserving (inventory : Inventory) (items : List Item) :
    Except Error Unit × OrderState × Inventory :=
  match inventory.adjustedBy .reserve items with
  | .error error => (.error error, .failed, inventory)
  | .ok inventory => (.ok (), .awaitingPayment, inventory)

/-- The units of an article that can still be promised. -/
def availableOf (inventory : Inventory) (sku : Sku) : Except Error UInt32 :=
  match requireAll [sku] (inventory.rowsOf [sku]) with
  | .error error => .error error
  | .ok () =>
    match (inventory.rowsOf [sku]).find? (·.sku = sku) with
    | none => .error (.stockNotFound sku)
    | some row => row.available

end Inventory

namespace OrderId

/-- The number of the next place of a shard can be composed as long as it fits. -/
theorem exists_compose {place : Nat} {shard : ShardIndex} (small : shard.num < stride)
    (fits : stride * (place + 1) + shard.num ≤ maxInt64) :
    ∃ id, compose ((place : Int) + 1) shard = .ok id ∧ id.shard = shard := by
  have range : 0 < ((place : Int) + 1) * stride + shard.num ∧
      ((place : Int) + 1) * stride + shard.num ≤ maxInt64 := by
    rw [stride] at fits ⊢
    omega
  obtain ⟨id, composed⟩ := exists_compose_iff.2 ⟨small, range⟩
  exact ⟨id, composed, (num_of_compose composed).2⟩

end OrderId

namespace Cluster

variable {cluster : Cluster}

theorem AllHealthy.inventory (healthy : cluster.AllHealthy) : cluster.Healthy .inventory :=
  healthy .inventory cluster.has_inventory

/-! ## The stock -/

theorem adjustStock_eq (healthy : cluster.Healthy .inventory) (adjustment : Adjustment)
    (items : List Item) : cluster.adjustStock adjustment items =
      match cluster.inventory.adjustedBy adjustment items with
      | .error error => (.error error, cluster)
      | .ok inventory => (.ok (), cluster.setInventory inventory) := by
  unfold adjustStock Inventory.adjustedBy
  cases Demand.ofItems items with
  | error error => rfl
  | ok demand =>
    by_cases empty : demand.isEmpty = true
    · -- Nothing is asked of the storage then, which comes to the same as putting no row.
      have nothing : demand.lines = [] := List.isEmpty_iff.1 empty
      have none : cluster.inventory.adjusted adjustment demand = .ok [] := by
        unfold Inventory.adjusted Demand.skus
        rw [nothing]
        rfl
      simp only [empty, if_true, none, Except.map, Inventory.putAll, List.foldl_nil,
        setInventory_self]
    · simp only [empty, Bool.false_eq_true, if_false, modifyStock, permitWrite_eq_ok_iff.2 healthy]
      cases cluster.inventory.adjusted adjustment demand <;> rfl

theorem available_eq (healthy : cluster.Healthy .inventory) (sku : Sku) :
    cluster.available sku = cluster.inventory.availableOf sku := by
  unfold available Inventory.availableOf
  rw [stocks_eq_fetch, fetch_of_healthy _ _ healthy]
  simp only
  unfold inventory
  cases Inventory.requireAll [sku] ((cluster.tables .inventory).stock.rowsOf [sku]) <;> rfl

/-! ## Checkouts -/

/-- The shard of a user is part of the topology. -/
theorem has_shardForUser (cluster : Cluster) (user : UserId) :
    cluster.Has (cluster.router.shardForUser user) := by
  have below := cluster.router.num_shardForUser_lt user
  rwa [size_router] at below

/-- A cluster with a further order in its last state, and with the inventory after it. -/
def place (cluster : Cluster) (order : Order) (state : OrderState)
    (inventory : Inventory) : Cluster :=
  ((cluster.addOrder order).setInventory inventory).moveOrder order state

/-- Once the number of its order can be composed, a checkout stores it. -/
theorem checkout_eq (placed : cluster.Placed) (healthy : cluster.AllHealthy) {user : UserId}
    {items : List Item} {id : OrderId} (nonempty : items ≠ [])
    (belongs : cluster.router.shardForUser user = id.shard) (present : cluster.Has id.shard)
    (composed : OrderId.compose ((cluster.tables id.shard).orderSequence + 1) id.shard = .ok id) :
    cluster.checkout user items =
      ((cluster.inventory.reserving items).1.map fun _ => id,
        cluster.place ⟨id, user, .new, items⟩ (cluster.inventory.reserving items).2.1
          (cluster.inventory.reserving items).2.2) := by
  have healthyHere := healthy id.shard present
  have next : cluster.IsNext id := isNext_of_compose composed
  have created : cluster.createOrder user items =
      (.ok ⟨id, user, .new, items⟩, cluster.addOrder ⟨id, user, .new, items⟩) := by
    rw [createOrder_eq belongs, permitWrite_eq_ok_iff.2 healthyHere, composed]
    rfl
  have same : (cluster.addOrder ⟨id, user, .new, items⟩).inventory = cluster.inventory :=
    inventory_addOrder present
  have healthyThere : (cluster.addOrder ⟨id, user, .new, items⟩).Healthy .inventory :=
    healthy_addOrder.2 healthy.inventory
  have adjusted := adjustStock_eq healthyThere .reserve items
  rw [same] at adjusted
  rw [checkout_eq_of_created placed nonempty healthyHere next created]
  unfold Inventory.reserving place
  simp only [reserve, adjusted]
  cases cluster.inventory.adjustedBy .reserve items with
  | error reason =>
    simp only [Except.map]
    rw [← same, setInventory_self]
  | ok inventory => simp only [Except.map]

/-! ## Settlements -/

/-- A settlement of an order that does not wait for payment changes nothing, and where the order can
    be read it is refused for the state of the order. -/
theorem settle_of_not_waiting {id : OrderId} {order : Order}
    (found : cluster.stored? id = some order) (settled : order.state ≠ .awaitingPayment)
    (settlement : Settlement) :
    (cluster.settle settlement id).2 = cluster ∧ (cluster.Healthy id.shard →
      (cluster.settle settlement id).1 =
        .error (.invalidOrderState id order.state settlement.target)) := by
  constructor
  · rcases cluster.settle_cases settlement id with
      ⟨error, failed⟩ | ⟨other, inventory, -, listed, waits, -, -⟩
    · rw [failed]
    · rw [found] at listed
      cases listed
      exact absurd waits settled
  · intro healthy
    have loaded := order_write_of_healthy healthy
    obtain rfl : order.id = id := Tables.id_of_order? found
    rw [found] at loaded
    simp only [settle, loaded, Order.transition_of_not_waiting settled]

/-- A settlement depends on the order that is stored under the number, and on the stock. -/
theorem settle_eq_of_healthy (healthy : cluster.AllHealthy) (settlement : Settlement)
    (id : OrderId) : cluster.settle settlement id =
      match cluster.stored? id with
      | none => (.error (.orderNotFound id), cluster)
      | some order =>
        if order.state = .awaitingPayment then
          match cluster.inventory.adjustedBy settlement.adjustment order.items with
          | .error error => (.error error, cluster)
          | .ok inventory =>
              (.ok (), (cluster.setInventory inventory).moveOrder order settlement.target)
        else (.error (.invalidOrderState id order.state settlement.target), cluster) := by
  by_cases present : cluster.Has id.shard
  · have loaded := order_write_of_healthy (healthy id.shard present)
    unfold settle
    rw [loaded]
    cases found : cluster.stored? id with
    | none => rfl
    | some order =>
      obtain rfl : order.id = id := Tables.id_of_order? found
      by_cases waits : order.state = .awaitingPayment
      · simp only [Order.transition_of_waiting waits, if_pos waits,
          adjustStock_eq healthy.inventory]
        cases cluster.inventory.adjustedBy settlement.adjustment order.items with
        | error error => rfl
        | ok inventory =>
          exact updateState_of_stored (healthy_setInventory.2 (healthy order.id.shard present))
            ((stored?_setInventory order.id).trans found) rfl
      · simp only [Order.transition_of_not_waiting waits, if_neg waits]
  · rw [stored?_of_not_has present]
    simp only [settle, order_of_not_has present]

/-! ## Reads -/

/-- A reader is told what is stored. -/
theorem lookUp_of_healthy (healthy : cluster.AllHealthy) (id : OrderId) :
    cluster.lookUp id =
      match cluster.stored? id with
      | none => .error (.orderNotFound id)
      | some order => .ok order := by
  by_cases present : cluster.Has id.shard
  · rw [lookUp_eq_fetch, shardForOrder_eq_ok.2 ⟨present, rfl⟩]
    simp only [fetch_of_healthy _ _ (healthy id.shard present)]
    unfold stored?
    cases (cluster.tables id.shard).order? id <;> rfl
  · rw [stored?_of_not_has present]
    exact order_of_not_has present .read

/-! ## A cluster of one shard -/

/-- All users are at home on the one shard that there is. -/
theorem shardForUser_of_one (alone : cluster.shards.length = 1) (user : UserId) :
    cluster.router.shardForUser user = ⟨0⟩ := by
  unfold Router.shardForUser Router.shardForKey
  rw [size_router, alone, Nat.mod_one]

/-- A checkout on a single shard that has the stock for it. -/
theorem checkout_of_one (order : Order) (inventory : Inventory) (placed : cluster.Placed)
    (healthy : cluster.AllHealthy) (alone : cluster.shards.length = 1) (nonempty : order.items ≠ [])
    (home : order.id.shard = .inventory)
    (composed : OrderId.compose ((cluster.tables .inventory).orderSequence + 1) .inventory =
      .ok order.id)
    (reserved : cluster.inventory.reserving order.items = (.ok (), .awaitingPayment, inventory)) :
    (cluster.checkout order.user order.items).2 =
      cluster.place { order with state := .new } .awaitingPayment inventory := by
  have belongs := (shardForUser_of_one alone order.user).trans home.symm
  rw [← home] at composed
  rw [checkout_eq placed healthy nonempty belongs (home ▸ cluster.has_inventory) composed, reserved]

/-- One shard with a replica that holds the stock of `twoShards`. -/
def oneShard : Cluster :=
  setInventory ⟨[.empty (fun _ => ⟨0⟩) true], by decide, by decide⟩ ⟨[⟨⟨7⟩, 5, 2⟩]⟩

theorem inventory_oneShard : oneShard.inventory = ⟨[⟨⟨7⟩, 5, 2⟩]⟩ := inventory_setInventory

theorem unused_oneShard : oneShard.Unused := by
  have created : create 1 true (fun _ _ => ⟨0⟩) =
      .ok ⟨[.empty (fun _ => ⟨0⟩) true], by decide, by decide⟩ := rfl
  exact (unused_create created).setInventory _

theorem allHealthy_oneShard : oneShard.AllHealthy := by
  rintro ⟨i⟩ present
  match i, present with
  | 0, _ => exact ⟨_, rfl, rfl⟩

theorem allHealthy_twoShards : twoShards.AllHealthy := by
  rintro ⟨i⟩ present
  match i, present with
  | 0, _ => exact ⟨_, rfl, rfl⟩
  | 1, _ => exact ⟨_, rfl, rfl⟩

end Cluster

end OrderDesk
