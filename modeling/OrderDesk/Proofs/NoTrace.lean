import OrderDesk.Proofs.Outbox

/-!
# A settlement that fails leaves no trace

A settlement adjusts the stock before it moves the order on, on another shard and without a way
back. That the order could be read for writing proves its primary healthy, and nobody else moves it
meanwhile, so the move cannot fail. Hence a settlement either changes nothing at all, or it changes
the state of its order and the rows of its lines, and appends one event. Rows may be put into the
stock at any time, also rows with more units reserved than held.
-/

namespace OrderDesk

/-! ## What one settlement changes -/

namespace Stock

/-- A row that gained nothing is the same row. -/
theorem Gained.eq_of_zero {before after : Stock} (gained : Gained 0 0 before after) :
    after = before := by
  obtain ⟨sku, reserved, total, -⟩ := gained
  have sameReserved : after.reserved = before.reserved := UInt32.toNat_inj.1 (by omega)
  have sameTotal : after.total = before.total := UInt32.toNat_inj.1 (by omega)
  cases before
  cases after
  simp_all

end Stock

/-- An article that gained nothing has the row that it had. -/
theorem Inventory.Gained.get?_eq_of_zero {reserved total : Sku → Int} {before after : Inventory}
    (gained : Gained reserved total before after) {sku : Sku} (noneReserved : reserved sku = 0)
    (noneHeld : total sku = 0) : after.get? sku = before.get? sku := by
  have related := gained sku
  rw [noneReserved, noneHeld] at related
  revert related
  generalize before.get? sku = was, after.get? sku = now
  rintro (same | _)
  · rw [same.eq_of_zero]
  · rfl

/-- Lines that do not name an article ask for no unit of it. -/
theorem Item.units_eq_zero {sku : Sku} {items : List Item}
    (others : ∀ item ∈ items, item.sku ≠ sku) :
    units sku items = 0 := by
  induction items with
  | nil => rfl
  | cons item rest ih =>
    obtain ⟨here, there⟩ := List.forall_mem_cons.1 others
    rw [units_cons, ih there, unitsOf, if_neg here]

namespace Tables

/-- Where numbers are distinct, a change of state changes one order, at its place. -/
theorem exists_setState {orders : List Order} (distinct : (orders.map (·.id)).Nodup)
    {stored : Order} (member : stored ∈ orders) (next : OrderState) :
    ∃ early late, orders = early ++ stored :: late ∧
      setState stored.id next orders = early ++ { stored with state := next } :: late := by
  obtain ⟨early, late, rfl⟩ := List.append_of_mem member
  rw [List.map_append, List.map_cons, List.nodup_middle, ← List.map_append] at distinct
  have fresh := (List.nodup_cons.1 distinct).1
  rw [List.map_append, List.mem_append, not_or] at fresh
  have split : setState stored.id next (early ++ stored :: late) =
      setState stored.id next early ++ { stored with state := next } ::
        setState stored.id next late := by
    simp [setState]
  rw [setState_of_notMem fresh.1, setState_of_notMem fresh.2] at split
  exact ⟨early, late, rfl, split⟩

end Tables

namespace Cluster

/-- What a settlement of an order that waits for payment makes of a cluster, and all that it makes
    of it. -/
structure Settled (settlement : Settlement) (order : Order) (before after : Cluster) : Prop where
  waited : order.state = .awaitingPayment
  /-- The order is in its new state, and the other orders of its shard are as they were. -/
  orders : ∃ early late, (before.tables order.id.shard).orders = early ++ order :: late ∧
    (after.tables order.id.shard).orders =
      early ++ { order with state := settlement.target } :: late
  /-- There is one more event on its shard, about the order as it is now. -/
  outbox : (after.tables order.id.shard).outbox = (before.tables order.id.shard).outbox ++
    [(before.tables order.id.shard).eventOf { order with state := settlement.target }
      (before.now order.id.shard)]
  outboxSequence : (after.tables order.id.shard).outboxSequence =
    (before.tables order.id.shard).outboxSequence + 1
  orderSequence : ∀ shard, (after.tables shard).orderSequence = (before.tables shard).orderSequence
  /-- Orders and events of the other shards are as they were. -/
  elsewhere : ∀ shard, shard ≠ order.id.shard →
    (after.tables shard).orders = (before.tables shard).orders ∧
    (after.tables shard).outbox = (before.tables shard).outbox ∧
    (after.tables shard).outboxSequence = (before.tables shard).outboxSequence
  /-- The rows of the lines have lost the units of the lines. -/
  gained : Inventory.Gained (fun sku => settlement.adjustment.promised * Item.units sku order.items)
    (fun sku => settlement.adjustment.held * Item.units sku order.items)
    before.inventory after.inventory
  /-- The rows of other articles are as they were. -/
  untouched : ∀ sku, (∀ item ∈ order.items, item.sku ≠ sku) →
    after.inventory.get? sku = before.inventory.get? sku
  stock : ∀ shard, shard ≠ .inventory → (after.tables shard).stock = (before.tables shard).stock

variable {before after : Cluster} {settlement : Settlement} {id : OrderId}

/-- A settlement that goes through settles an order that is stored under its number. -/
theorem Placed.settled (placed : before.Placed)
    (done : before.settle settlement id = (.ok (), after)) :
    ∃ order, before.stored? id = some order ∧ Settled settlement order before after := by
  rcases before.settle_cases settlement id with
    ⟨error, failed⟩ | ⟨order, inventory, healthy, found, waited, gained, settled⟩
  · rw [failed] at done
    cases done
  · rw [settled] at done
    obtain rfl : (before.setInventory inventory).moveOrder order settlement.target = after :=
      congrArg Prod.snd done
    obtain rfl : order.id = id := Tables.id_of_order? found
    have present : (before.setInventory inventory).Has order.id.shard :=
      (healthy_setInventory.2 healthy).has
    have bought := inventory_settled order inventory settlement.target healthy
    refine ⟨order, found, waited, ?_, ?_, ?_, ?_, ?_, ?_, ?_, ?_⟩
    · rw [tables_moveOrder present, if_pos rfl, Tables.orders_updateState, orders_setInventory]
      exact Tables.exists_setState (placed order.id.shard).nodup (Tables.mem_of_order? found) _
    · rw [tables_moveOrder present, if_pos rfl, Tables.outbox_updateState, outbox_setInventory,
        now_setInventory, Tables.eventOf, outboxSequence_setInventory]
      rfl
    · rw [tables_moveOrder present, if_pos rfl, Tables.outboxSequence_updateState,
        outboxSequence_setInventory]
    · intro shard
      rw [tables_moveOrder present]
      split
      · exact orderSequence_setInventory shard
      · exact orderSequence_setInventory shard
    · intro shard other
      rw [tables_moveOrder present, if_neg other.symm]
      exact ⟨orders_setInventory shard, outbox_setInventory shard,
        outboxSequence_setInventory shard⟩
    · rw [bought]
      exact gained
    · intro sku others
      rw [bought]
      have none := Item.units_eq_zero others
      exact gained.get?_eq_of_zero (by simp [none]) (by simp [none])
    · intro shard other
      have kept :
          ((before.setInventory inventory).tables shard).stock = (before.tables shard).stock := by
        rw [tables_setInventory, if_neg other.symm]
      rw [tables_moveOrder present]
      split
      · rw [Tables.stock_updateState]
        exact kept
      · exact kept

/-- Once the stock of an order that was read for writing has been adjusted, its move cannot fail. -/
theorem updateState_of_adjusted {order moved : Order} {previous : OrderState}
    (loaded : before.order id .write = .ok order)
    (allowed : order.transition settlement.target = .ok (previous, moved))
    (adjusted : before.adjustStock settlement.adjustment moved.items = (.ok (), after)) :
    (after.updateState moved previous).1 = .ok () := by
  obtain ⟨healthy, found⟩ := order_write_eq_ok_iff.1 loaded
  obtain rfl : order.id = id := Tables.id_of_order? found
  unfold Order.transition at allowed
  split at allowed
  · obtain ⟨rfl, rfl⟩ := Prod.mk.inj (Except.ok.inj allowed)
    rcases before.adjustStock_cases settlement.adjustment order.items with
      ⟨error, refused⟩ | ⟨inventory, -, done⟩
    · rw [refused] at adjusted
      cases adjusted
    · rw [done] at adjusted
      cases adjusted
      have stays : (before.setInventory inventory).stored? order.id = some order :=
        (stored?_setInventory order.id).trans found
      have moves : (before.setInventory inventory).updateState
          { order with state := settlement.target } order.state = (.ok (), _) :=
        updateState_of_stored (healthy_setInventory.2 healthy) stays rfl
      rw [moves]
  · cases allowed

theorem Placed.upsertStock (placed : before.Placed) (stocks : List Stock) :
    (before.upsertStock stocks).2.Placed := by
  rcases before.upsertStock_cases stocks with ⟨error, failed⟩ | ⟨inventory, done⟩
  · rw [failed]
    exact placed
  · rw [done]
    exact placed.setInventory

end Cluster

/-! ## Sessions with changes of the stock -/

/-- An action, or rows that are put into the stock as they are. -/
inductive Task where
  | act (action : Action)
  | upsert (stocks : List Stock)

namespace Desk

variable {σ : Type} (publisher : Publisher σ)

/-- Does one task. -/
def carryOut (desk : Desk σ) : Task → Desk σ
  | .act action => (desk.perform publisher action).2
  | .upsert stocks => { desk with cluster := (desk.cluster.upsertStock stocks).2 }

/-- Does tasks, one after the other. -/
def work (desk : Desk σ) (tasks : List Task) : Desk σ := tasks.foldl (carryOut publisher) desk

/-- Orders stay placed, whatever is put into the stock between the calls. -/
theorem placed_work (desk : Desk σ) (tasks : List Task) (placed : desk.cluster.Placed) :
    (desk.work publisher tasks).cluster.Placed := by
  induction tasks generalizing desk with
  | nil => exact placed
  | cons task rest ih =>
    refine ih _ ?_
    cases task with
    | upsert stocks => exact placed.upsertStock stocks
    | act action =>
      have kept : (desk.perform publisher action).2.cluster.Placed ∧
          (fun _ => True) (desk.perform publisher action).2.cluster :=
        perform_keeps (fun _ _ _ _ _ => trivial) (fun _ _ _ _ _ => trivial)
          (fun _ _ _ _ => trivial) desk action placed trivial
      exact kept.1

/-- A settlement leaves no trace unless it goes through. In any state that a session from a store
    without orders can reach, whatever rows were put into the stock in between and however the
    switches stand: if a payment or a cancellation fails, the cluster is exactly as it was before.
    If it goes through, the state of the order, the rows of its lines and one more event are all
    that has changed. And after the order was read and the stock adjusted, the move of the order
    never fails. -/
theorem settle_leaves_no_trace {start : Desk σ} (unused : start.cluster.Unused) (tasks : List Task)
    (settlement : Settlement) (id : OrderId) :
    let before := (start.work publisher tasks).cluster
    (∀ error after, before.settle settlement id = (.error error, after) → after = before) ∧
    (∀ after, before.settle settlement id = (.ok (), after) →
      ∃ order, before.stored? id = some order ∧ Cluster.Settled settlement order before after) ∧
    (∀ order previous moved after, before.order id .write = .ok order →
      order.transition settlement.target = .ok (previous, moved) →
      before.adjustStock settlement.adjustment moved.items = (.ok (), after) →
      (after.updateState moved previous).1 = .ok ()) := by
  intro before
  have placed : before.Placed := placed_work publisher start tasks unused.placed
  refine ⟨?_, fun after => placed.settled, fun _ _ _ _ => Cluster.updateState_of_adjusted⟩
  intro error after failed
  rcases before.settle_cases settlement id with
    ⟨reason, kept⟩ | ⟨order, inventory, -, -, -, -, settled⟩
  · rw [kept] at failed
    exact (congrArg Prod.snd failed).symm
  · rw [settled] at failed
    cases failed

/-- Rows with more units reserved than held are put in after a checkout, and the shard of the order
    fails while it is paid. -/
theorem settle_leaves_no_trace_twoShards :
    let tasks : List Task := [.act (.checkout ⟨1, by decide, by decide⟩ [⟨⟨7⟩, 1, by decide⟩]),
      .upsert [⟨⟨7⟩, 1, 9⟩], .act (.setPrimary ⟨1⟩ ⟨true, false⟩)]
    let before := ((⟨.twoShards, ()⟩ : Desk Unit).work .log tasks).cluster
    ∀ error after, before.pay ⟨1001, by decide, by decide⟩ = (.error error, after) →
      after = before := by
  intro tasks before
  have unused : (⟨.twoShards, ()⟩ : Desk Unit).cluster.Unused := Cluster.unused_twoShards
  exact (settle_leaves_no_trace .log unused tasks .pay ⟨1001, by decide, by decide⟩).1

end Desk

end OrderDesk
