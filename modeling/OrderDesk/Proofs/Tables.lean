import Mathlib.Algebra.GroupWithZero.Nat
import OrderDesk.Store.Tables

/-!
# What the tables of a shard hold

The orders of a shard bear the numbers that the shard gives out, one after the other, so a number
finds at most one order. An order that moves keeps its place and its facts. The units on the lines
of all orders in one state are what the stock is later held against.
-/

namespace OrderDesk

namespace Order

/-- The units of an article on the lines of those orders that stand in a state. -/
def unitsIn (state : OrderState) (sku : Sku) (orders : List Order) : Nat :=
  ((orders.filter (·.state = state)).map fun order => Item.units sku order.items).sum

/-- The units of an article on the lines of an order, if it stands in a state. -/
def unitsAs (state : OrderState) (sku : Sku) (order : Order) : Nat :=
  if order.state = state then Item.units sku order.items else 0

variable {state : OrderState} {sku : Sku}

@[simp] theorem unitsIn_nil : unitsIn state sku [] = 0 := rfl

@[simp] theorem unitsIn_cons (order : Order) (orders : List Order) :
    unitsIn state sku (order :: orders) = order.unitsAs state sku + unitsIn state sku orders := by
  unfold unitsIn unitsAs
  by_cases h : order.state = state <;> simp [h]

@[simp] theorem unitsIn_append (a b : List Order) :
    unitsIn state sku (a ++ b) = unitsIn state sku a + unitsIn state sku b := by
  simp [unitsIn]

end Order

namespace Tables

/-- The orders of a shard bear, in sequence, the numbers that the shard gives out. -/
def Numbered (shard : ShardIndex) (tables : Tables) : Prop :=
  tables.orders.map (·.id.num) =
    (List.range tables.orderSequence).map fun k => OrderId.stride * (k + 1) + shard.num

theorem numbered_empty (shard : ShardIndex) : Numbered shard .empty := rfl

/-- A shard has given out as many numbers as it stores orders. -/
theorem Numbered.length_orders {shard : ShardIndex} {tables : Tables}
    (numbered : tables.Numbered shard) : tables.orders.length = tables.orderSequence := by
  have lengths := congrArg List.length numbered
  rwa [List.length_map, List.length_map, List.length_range] at lengths

theorem Numbered.nodup {shard : ShardIndex} {tables : Tables} (numbered : tables.Numbered shard) :
    (tables.orders.map (·.id)).Nodup := by
  have numbers : (tables.orders.map (·.id.num)).Nodup := by
    rw [numbered]
    refine List.Pairwise.map _ (fun a b apart => ?_) List.nodup_range
    simp only [OrderId.stride]
    omega
  refine List.pairwise_map.2 ((List.pairwise_map.1 numbers).imp fun {a b} apart equal => ?_)
  exact apart (congrArg OrderId.num equal)

theorem Numbered.shard_eq {shard : ShardIndex} {tables : Tables} (numbered : tables.Numbered shard)
    (small : shard.num < OrderId.stride) {order : Order} (member : order ∈ tables.orders) :
    order.id.shard = shard := by
  have listed : order.id.num ∈ tables.orders.map (·.id.num) := List.mem_map_of_mem member
  rw [numbered] at listed
  obtain ⟨k, -, equal⟩ := List.mem_map.1 listed
  have digits : order.id.num % OrderId.stride = shard.num := by
    rw [← equal, Nat.mul_add_mod, Nat.mod_eq_of_lt small]
  cases shard
  simpa [OrderId.shard] using digits

/-! ## Orders by number -/

theorem id_of_order? {tables : Tables} {id : OrderId} {order : Order}
    (h : tables.order? id = some order) : order.id = id := by
  simpa using List.find?_some h

theorem mem_of_order? {tables : Tables} {id : OrderId} {order : Order}
    (h : tables.order? id = some order) : order ∈ tables.orders :=
  List.mem_of_find?_eq_some h

/-- Where numbers are distinct, each order is found under its number. -/
theorem find?_of_mem {orders : List Order} (distinct : (orders.map (·.id)).Nodup) {order : Order}
    (member : order ∈ orders) : orders.find? (·.id = order.id) = some order := by
  induction orders with
  | nil => cases member
  | cons first rest ih =>
    obtain ⟨fresh, others⟩ := List.nodup_cons.1 distinct
    rcases List.mem_cons.1 member with rfl | inside
    · simp
    · have apart : ¬ first.id = order.id := fun equal =>
        fresh (List.mem_map.2 ⟨order, inside, equal.symm⟩)
      simp [apart, ih others inside]

theorem map_id_setState (id : OrderId) (state : OrderState) (orders : List Order) :
    (setState id state orders).map (·.id) = orders.map (·.id) := by
  unfold setState
  rw [List.map_map]
  apply List.map_congr_left
  intro order _
  show (if order.id = id then { order with state := state } else order).id = order.id
  split <;> rfl

theorem find?_setState (id other : OrderId) (state : OrderState) (orders : List Order) :
    (setState id state orders).find? (·.id = other) =
      (orders.find? (·.id = other)).map fun order =>
        if order.id = id then { order with state := state } else order := by
  induction orders with
  | nil => rfl
  | cons first rest ih =>
    have named :
        (if first.id = id then { first with state := state } else first).id = first.id := by
      split <;> rfl
    unfold setState at ih ⊢
    rw [List.map_cons, List.find?_cons, List.find?_cons]
    simp only [named]
    by_cases h : first.id = other
    · simp [h]
    · simp [h, ih]

theorem setState_of_notMem {id : OrderId} {state : OrderState} {orders : List Order}
    (absent : id ∉ orders.map (·.id)) : setState id state orders = orders := by
  unfold setState
  refine (List.map_congr_left fun order member => ?_).trans (List.map_id orders)
  exact if_neg fun equal => absent (List.mem_map.2 ⟨order, member, equal⟩)

/-- A move takes the units of one order from the one state to the other. -/
theorem unitsIn_setState {orders : List Order} (distinct : (orders.map (·.id)).Nodup)
    {stored : Order} (member : stored ∈ orders) (next state : OrderState) (sku : Sku) :
    Order.unitsIn state sku (setState stored.id next orders) + stored.unitsAs state sku =
      Order.unitsIn state sku orders +
        { stored with state := next : Order }.unitsAs state sku := by
  induction orders with
  | nil => cases member
  | cons first rest ih =>
    obtain ⟨fresh, others⟩ := List.nodup_cons.1 distinct
    rcases List.mem_cons.1 member with rfl | inside
    · have kept : setState stored.id next rest = rest := setState_of_notMem fresh
      have same :
          setState stored.id next (stored :: rest) = { stored with state := next } :: rest := by
        unfold setState at kept ⊢
        simp [kept]
      rw [same, Order.unitsIn_cons, Order.unitsIn_cons]
      omega
    · have apart : ¬ first.id = stored.id := fun equal =>
        fresh (List.mem_map.2 ⟨stored, inside, equal.symm⟩)
      have same :
          setState stored.id next (first :: rest) = first :: setState stored.id next rest := by
        simp [setState, apart]
      have moved := ih others inside
      rw [same, Order.unitsIn_cons, Order.unitsIn_cons]
      omega

/-! ## What is written -/

/-- The event about an order as it is now. -/
def eventOf (tables : Tables) (order : Order) (now : Timestamp) : Event :=
  { id := ⟨tables.outboxSequence + 1⟩, order := order.id,
    payload := (Snapshot.ofOrder order).payload, createdAt := now, processed := false }

variable (tables : Tables) (order : Order) (state : OrderState) (now : Timestamp)

@[simp] theorem orders_insertOrder :
    (tables.insertOrder order now).orders = tables.orders ++ [order] := rfl

@[simp] theorem orderSequence_insertOrder :
    (tables.insertOrder order now).orderSequence = tables.orderSequence + 1 := rfl

@[simp] theorem outbox_insertOrder :
    (tables.insertOrder order now).outbox = tables.outbox ++ [tables.eventOf order now] := rfl

@[simp] theorem orders_updateState :
    (tables.updateState order state now).orders = setState order.id state tables.orders := rfl

@[simp] theorem outbox_updateState :
    (tables.updateState order state now).outbox =
      tables.outbox ++ [tables.eventOf { order with state := state } now] := rfl

@[simp] theorem outboxSequence_updateState :
    (tables.updateState order state now).outboxSequence = tables.outboxSequence + 1 := rfl

@[simp] theorem stock_updateState : (tables.updateState order state now).stock = tables.stock := rfl

variable {tables order state now}

/-- A shard that stores an order under its next number stays numbered. -/
theorem Numbered.insertOrder {shard : ShardIndex} (numbered : tables.Numbered shard)
    (next : order.id.num = OrderId.stride * (tables.orderSequence + 1) + shard.num) :
    (tables.insertOrder order now).Numbered shard := by
  unfold Numbered at numbered ⊢
  rw [orders_insertOrder, orderSequence_insertOrder, List.map_append, numbered, List.range_succ]
  simp [next]

theorem Numbered.updateState {shard : ShardIndex} (numbered : tables.Numbered shard) :
    (tables.updateState order state now).Numbered shard := by
  unfold Numbered at numbered ⊢
  have ids := congrArg (List.map OrderId.num) (map_id_setState order.id state tables.orders)
  rw [List.map_map, List.map_map] at ids
  exact ids.trans numbered

/-- The next number of a shard is the number of no order on it. -/
theorem Numbered.order?_next {shard : ShardIndex} (numbered : tables.Numbered shard) {id : OrderId}
    (next : id.num = OrderId.stride * (tables.orderSequence + 1) + shard.num) :
    tables.order? id = none := by
  refine List.find?_eq_none.2 fun order member => ?_
  have listed : order.id.num ∈ tables.orders.map (·.id.num) := List.mem_map_of_mem member
  rw [numbered] at listed
  obtain ⟨k, below, equal⟩ := List.mem_map.1 listed
  have bound := List.mem_range.1 below
  simp only [decide_eq_true_eq]
  rintro rfl
  simp only [OrderId.stride] at equal next
  omega

end Tables

end OrderDesk
