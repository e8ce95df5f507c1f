import OrderDesk.Checkout
import OrderDesk.Proofs.Store

/-!
# How a call ends

A checkout or a settlement that runs without others in between ends in one of a few ways, and
what each leaves behind is said here once. The step that was made first, storing or reading the
order, proves the primary of the order's shard healthy, so the move of the order at the end of the
call cannot fail: nothing is ever left half done.
-/

namespace OrderDesk

theorem Settlement.awaitingPayment_of_allows {settlement : Settlement} {state : OrderState}
    (h : state.allows settlement.target = true) : state = .awaitingPayment := by
  cases settlement <;> cases state <;> first | rfl | cases h

namespace Order

/-- An order that waits for payment may be settled either way. -/
theorem transition_of_waiting {order : Order} (waits : order.state = .awaitingPayment)
    (settlement : Settlement) : order.transition settlement.target =
      .ok (order.state, { order with state := settlement.target }) := by
  rw [transition, waits]
  cases settlement <;> rfl

/-- An order that does not wait for payment can be settled neither way. -/
theorem transition_of_not_waiting {order : Order} (settled : order.state ≠ .awaitingPayment)
    (settlement : Settlement) : order.transition settlement.target =
      .error (.invalidOrderState order.id order.state settlement.target) := by
  rw [transition, if_neg fun allows => settled (Settlement.awaitingPayment_of_allows allows)]

end Order

namespace Cluster

theorem confirm_of_stored {cluster : Cluster} {order : Order}
    (healthy : cluster.Healthy order.id.shard) (found : cluster.stored? order.id = some order)
    (new : order.state = .new) :
    cluster.confirm order = (.ok order.id, cluster.moveOrder order .awaitingPayment) := by
  have moved : cluster.updateState { order with state := .awaitingPayment } order.state =
      (.ok (), cluster.moveOrder order .awaitingPayment) :=
    updateState_of_stored healthy found rfl
  rw [new] at moved
  simp only [confirm, Order.transition, new, OrderState.allows, if_true, moved]

theorem giveUp_of_stored {cluster : Cluster} {order : Order}
    (healthy : cluster.Healthy order.id.shard) (found : cluster.stored? order.id = some order)
    (new : order.state = .new) (reason : Error) :
    cluster.giveUp order reason = (.error reason, cluster.moveOrder order .failed) := by
  have moved : cluster.updateState { order with state := .failed } order.state =
      (.ok (), cluster.moveOrder order .failed) :=
    updateState_of_stored healthy found rfl
  rw [new] at moved
  simp only [giveUp, Order.transition, new, OrderState.allows, if_true, moved]

theorem Healthy.added {cluster : Cluster} {shard : ShardIndex} (healthy : cluster.Healthy shard)
    (order : Order) (inventory : Inventory) :
    ((cluster.addOrder order).setInventory inventory).Healthy shard :=
  healthy_setInventory.2 (healthy_addOrder.2 healthy)

/-- A checkout that stores its order reserves the lines, and moves the order on by the answer. -/
theorem checkout_eq_of_created {cluster : Cluster} (placed : cluster.Placed) {user : UserId}
    {items : List Item} {id : OrderId} (nonempty : items ≠ []) (healthy : cluster.Healthy id.shard)
    (next : cluster.IsNext id) (created : cluster.createOrder user items =
      (.ok ⟨id, user, .new, items⟩, cluster.addOrder ⟨id, user, .new, items⟩)) :
    cluster.checkout user items =
      match (cluster.addOrder ⟨id, user, .new, items⟩).reserve items with
      | (.ok (), after) => (.ok id, after.moveOrder ⟨id, user, .new, items⟩ .awaitingPayment)
      | (.error reason, after) =>
        (.error reason, after.moveOrder ⟨id, user, .new, items⟩ .failed) := by
  have filled : ¬ items.isEmpty = true := fun empty => nonempty (List.isEmpty_iff.1 empty)
  unfold checkout
  rw [if_neg filled, created]
  -- The new order stands as a variable from here on, with the three fields that matter, so that
  -- rewriting does not take its record apart.
  generalize named : (⟨id, user, .new, items⟩ : Order) = order
  obtain ⟨rfl, new, rfl⟩ : order.id = id ∧ order.state = .new ∧ order.items = items := by
    subst named
    exact ⟨rfl, rfl, rfl⟩
  have found : (cluster.addOrder order).stored? order.id = some order := by
    rw [stored?_addOrder healthy.has (placed.stored?_next next), if_pos rfl]
  rcases adjustStock_cases (cluster.addOrder order) .reserve order.items with
    ⟨reason, refused⟩ | ⟨inventory, -, reserved⟩
  · simp only [reserve, refused, giveUp_of_stored (healthy_addOrder.2 healthy) found new]
  · have stays : ((cluster.addOrder order).setInventory inventory).stored? order.id = some order :=
      (stored?_setInventory order.id).trans found
    simp only [reserve, reserved, confirm_of_stored (healthy.added order inventory) stays new]

/-- A checkout that stores its order answers what the reservation of the lines is answered, and
    moves the order on accordingly. -/
theorem checkout_of_created {cluster : Cluster} (placed : cluster.Placed) {user : UserId}
    {items : List Item} {id : OrderId} (nonempty : items ≠ []) (healthy : cluster.Healthy id.shard)
    (next : cluster.IsNext id) (created : cluster.createOrder user items =
      (.ok ⟨id, user, .new, items⟩, cluster.addOrder ⟨id, user, .new, items⟩)) :
    (∃ reason, ((cluster.addOrder ⟨id, user, .new, items⟩).reserve items).1 = .error reason ∧
      cluster.checkout user items = (.error reason,
        ((cluster.addOrder ⟨id, user, .new, items⟩).setInventory cluster.inventory).moveOrder
          ⟨id, user, .new, items⟩ .failed)) ∨
    ∃ inventory, ((cluster.addOrder ⟨id, user, .new, items⟩).reserve items).1 = .ok () ∧
      Inventory.Gained (fun sku => Item.units sku items) (fun _ => 0) cluster.inventory inventory ∧
      cluster.checkout user items = (.ok id,
        ((cluster.addOrder ⟨id, user, .new, items⟩).setInventory inventory).moveOrder
          ⟨id, user, .new, items⟩ .awaitingPayment) := by
  have same : (cluster.addOrder ⟨id, user, .new, items⟩).inventory = cluster.inventory :=
    inventory_addOrder healthy.has
  rw [checkout_eq_of_created placed nonempty healthy next created]
  rcases adjustStock_cases (cluster.addOrder ⟨id, user, .new, items⟩) .reserve items with
    ⟨reason, refused⟩ | ⟨inventory, gained, reserved⟩
  · refine .inl ⟨reason, by rw [reserve, refused], ?_⟩
    simp only [reserve, refused]
    rw [← same, setInventory_self]
  · refine .inr ⟨inventory, by rw [reserve, reserved], ?_, ?_⟩
    · rw [same] at gained
      simpa [Adjustment.promised, Adjustment.held] using gained
    · simp only [reserve, reserved]

/-- A checkout either stores nothing, or it adds its order and moves it on: to wait for payment,
    with its units reserved, or to have failed, with the stock as it was. -/
theorem checkout_cases {cluster : Cluster} (placed : cluster.Placed) (user : UserId)
    (items : List Item) :
    (∃ error, cluster.checkout user items = (.error error, cluster)) ∨
    ∃ id inventory state answer, items ≠ [] ∧ cluster.router.shardForUser user = id.shard ∧
      cluster.Healthy id.shard ∧ cluster.IsNext id ∧
      (state = .awaitingPayment ∧ answer = .ok id ∧
          Inventory.Gained (fun sku => Item.units sku items)
            (fun _ => 0) cluster.inventory inventory ∨
        state = .failed ∧ (∃ error, answer = .error error) ∧ inventory = cluster.inventory) ∧
      cluster.checkout user items = (answer,
        ((cluster.addOrder ⟨id, user, .new, items⟩).setInventory inventory).moveOrder
          ⟨id, user, .new, items⟩ state) := by
  by_cases empty : items.isEmpty = true
  · exact .inl ⟨_, by rw [checkout, if_pos empty]⟩
  · have nonempty : items ≠ [] := fun equal => empty (by rw [equal]; rfl)
    rcases cluster.createOrder_cases user items with ⟨error, failed⟩ |
      ⟨id, belongs, healthy, next, created⟩
    · exact .inl ⟨error, by rw [checkout, if_neg empty, failed]⟩
    · rcases checkout_of_created placed nonempty healthy next created with
        ⟨reason, -, done⟩ | ⟨inventory, -, gained, done⟩
      · exact .inr ⟨id, cluster.inventory, .failed, .error reason, nonempty, belongs, healthy, next,
          .inr ⟨rfl, ⟨reason, rfl⟩, rfl⟩, done⟩
      · exact .inr ⟨id, inventory, .awaitingPayment, .ok id, nonempty, belongs, healthy, next,
          .inl ⟨rfl, rfl, gained⟩, done⟩

/-- A settlement either changes nothing, or it adjusts the stock by the units of an order that
    waits for payment and moves the order on. -/
theorem settle_cases (cluster : Cluster) (settlement : Settlement) (id : OrderId) :
    (∃ error, cluster.settle settlement id = (.error error, cluster)) ∨
    ∃ order inventory, cluster.Healthy id.shard ∧ cluster.stored? id = some order ∧
      order.state = .awaitingPayment ∧
      Inventory.Gained (fun sku => settlement.adjustment.promised * Item.units sku order.items)
        (fun sku => settlement.adjustment.held * Item.units sku order.items)
        cluster.inventory inventory ∧
      cluster.settle settlement id =
        (.ok (), (cluster.setInventory inventory).moveOrder order settlement.target) := by
  unfold settle
  cases loaded : cluster.order id .write with
  | error error => exact .inl ⟨error, rfl⟩
  | ok order =>
    obtain ⟨healthy, found⟩ := order_write_eq_ok_iff.1 loaded
    have named : order.id = id := Tables.id_of_order? found
    subst named
    by_cases allowed : order.state.allows settlement.target = true
    · simp only [Order.transition, allowed, if_true]
      rcases adjustStock_cases cluster settlement.adjustment order.items with
        ⟨error, refused⟩ | ⟨inventory, gained, adjusted⟩
      · exact .inl ⟨error, by rw [refused]⟩
      · refine .inr ⟨order, inventory, healthy, found, Settlement.awaitingPayment_of_allows allowed,
          gained, ?_⟩
        rw [adjusted]
        exact updateState_of_stored (healthy_setInventory.2 healthy)
          ((stored?_setInventory order.id).trans found) rfl
    · exact .inl ⟨_, by simp only [Order.transition, allowed]; rfl⟩

/-! ## What a call leaves behind -/

section Left

variable {cluster : Cluster}

theorem Placed.checkout (placed : cluster.Placed) (user : UserId) (items : List Item) :
    (cluster.checkout user items).2.Placed := by
  rcases checkout_cases placed user items with
    ⟨error, failed⟩ | ⟨id, inventory, state, answer, -, -, healthy, next, -, done⟩
  · rw [failed]
    exact placed
  · rw [done]
    exact ((placed.addOrder healthy.has next).setInventory).moveOrder
      (healthy.added ⟨id, user, .new, items⟩ inventory).has

theorem Placed.settle (placed : cluster.Placed) (settlement : Settlement) (id : OrderId) :
    (cluster.settle settlement id).2.Placed := by
  rcases cluster.settle_cases settlement id with
    ⟨error, failed⟩ | ⟨order, inventory, healthy, found, -, -, done⟩
  · rw [failed]
    exact placed
  · rw [done]
    rw [← Tables.id_of_order? found] at healthy
    exact placed.setInventory.moveOrder (healthy_setInventory.2 healthy).has

theorem length_checkout (placed : cluster.Placed) (user : UserId) (items : List Item) :
    (cluster.checkout user items).2.shards.length = cluster.shards.length := by
  rcases checkout_cases placed user items with
    ⟨error, failed⟩ | ⟨id, inventory, state, answer, -, -, -, -, -, done⟩
  · rw [failed]
  · rw [done]
    simp only [moveOrder, setInventory, addOrder, setTables, length_modifyShard]

theorem length_settle (cluster : Cluster) (settlement : Settlement) (id : OrderId) :
    (cluster.settle settlement id).2.shards.length = cluster.shards.length := by
  rcases cluster.settle_cases settlement id with
    ⟨error, failed⟩ | ⟨order, inventory, -, -, -, -, done⟩
  · rw [failed]
  · rw [done]
    simp only [moveOrder, setInventory, setTables, length_modifyShard]

variable (order : Order) (inventory : Inventory) (state : OrderState)

theorem inventory_added (healthy : cluster.Healthy order.id.shard) :
    (((cluster.addOrder order).setInventory inventory).moveOrder order state).inventory =
      inventory := by
  rw [inventory_moveOrder (healthy.added order inventory).has, inventory_setInventory]

theorem stored?_added (placed : cluster.Placed) (healthy : cluster.Healthy order.id.shard)
    (next : cluster.IsNext order.id) (id : OrderId) :
    ((cluster.addOrder order).setInventory inventory).stored? id =
      if order.id = id then some order else cluster.stored? id := by
  rw [stored?_setInventory, stored?_addOrder healthy.has (placed.stored?_next next)]

/-- What is stored once an order was added and moved on. -/
theorem stored?_ended (placed : cluster.Placed) (healthy : cluster.Healthy order.id.shard)
    (next : cluster.IsNext order.id) (id : OrderId) :
    (((cluster.addOrder order).setInventory inventory).moveOrder order state).stored? id =
      if order.id = id then some { order with state := state } else cluster.stored? id := by
  have stores := stored?_added order inventory placed healthy next
  rw [stored?_moveOrder (healthy.added order inventory).has ((stores order.id).trans (if_pos rfl)),
    stores]
  by_cases same : order.id = id
  · rw [if_pos same, if_pos same]
  · rw [if_neg same, if_neg same, if_neg same]

/-- An order that is added and moved on leaves its units in the state that it was moved to. -/
theorem unitsIn_added (placed : cluster.Placed) (healthy : cluster.Healthy order.id.shard)
    (next : cluster.IsNext order.id) (other : OrderState) (sku : Sku) :
    Order.unitsIn other sku
        (((cluster.addOrder order).setInventory inventory).moveOrder order state).everyOrder =
      Order.unitsIn other sku cluster.everyOrder +
        { order with state := state : Order }.unitsAs other sku := by
  have found := (stored?_added order inventory placed healthy next order.id).trans (if_pos rfl)
  have moved := unitsIn_moveOrder (placed.addOrder healthy.has next).setInventory
    (healthy.added order inventory).has found state other sku
  rw [unitsIn_setInventory, unitsIn_addOrder healthy.has] at moved
  omega

theorem inventory_settled (healthy : cluster.Healthy order.id.shard) :
    ((cluster.setInventory inventory).moveOrder order state).inventory = inventory := by
  rw [inventory_moveOrder (healthy_setInventory.2 healthy).has, inventory_setInventory]

/-- What is stored once an order was settled. -/
theorem stored?_settled (healthy : cluster.Healthy order.id.shard)
    (found : cluster.stored? order.id = some order) (id : OrderId) :
    ((cluster.setInventory inventory).moveOrder order state).stored? id =
      if order.id = id then some { order with state := state } else cluster.stored? id := by
  rw [stored?_moveOrder (healthy_setInventory.2 healthy).has
    ((stored?_setInventory order.id).trans found), stored?_setInventory]

/-- An order that is moved on takes its units along. -/
theorem unitsIn_settled (placed : cluster.Placed) (healthy : cluster.Healthy order.id.shard)
    (found : cluster.stored? order.id = some order) (other : OrderState) (sku : Sku) :
    Order.unitsIn other sku ((cluster.setInventory inventory).moveOrder order state).everyOrder +
        order.unitsAs other sku =
      Order.unitsIn other sku cluster.everyOrder +
        { order with state := state : Order }.unitsAs other sku := by
  have stays : (cluster.setInventory inventory).stored? order.id = some order :=
    (stored?_setInventory order.id).trans found
  have moved := unitsIn_moveOrder placed.setInventory (healthy_setInventory.2 healthy).has stays
    state other sku
  rwa [unitsIn_setInventory] at moved

end Left

/-! ## Orders that a call is not about -/

variable {cluster : Cluster} {id : OrderId} {stored : Order}

/-- A checkout leaves the orders alone that were there before it. -/
theorem Placed.stored?_checkout (placed : cluster.Placed) (user : UserId) (items : List Item)
    (found : cluster.stored? id = some stored) :
    (cluster.checkout user items).2.stored? id = some stored := by
  rcases checkout_cases placed user items with
    ⟨error, failed⟩ | ⟨fresh, inventory, state, answer, -, -, healthy, next, -, done⟩
  · rwa [failed]
  · have apart : fresh ≠ id := placed.ne_of_next next found
    rw [done, stored?_ended _ inventory state placed healthy next, if_neg apart]
    exact found

/-- A settlement leaves the other orders alone. -/
theorem stored?_settle {other : OrderId} (apart : other ≠ id) (settlement : Settlement) :
    (cluster.settle settlement other).2.stored? id = cluster.stored? id := by
  rcases cluster.settle_cases settlement other with
    ⟨error, failed⟩ | ⟨order, inventory, healthy, listed, -, -, done⟩
  · rw [failed]
  · obtain rfl : order.id = other := Tables.id_of_order? listed
    rw [done, stored?_settled order inventory settlement.target healthy listed, if_neg apart]

end Cluster

end OrderDesk
