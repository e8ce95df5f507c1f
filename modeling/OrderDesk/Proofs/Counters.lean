import OrderDesk.Proofs.Creation
import OrderDesk.Proofs.Filing
import OrderDesk.Proofs.Placement
import OrderDesk.Proofs.RoundTrip

/-!
# Counters

A shard numbers its orders and its events by two counters that are raised unchecked. An order brings
two events when it is taken in and a third when it is settled, and nothing else brings any, so the
counter of the events is tied to that of the orders. And the counter of the orders stops long before
64 bits are used up: the number of an order carries its shard in the lower digits, and an order
whose number would not fit is refused. A shard on which that happens goes on with the orders that it
has.
-/

namespace OrderDesk

/-- Whether an order was paid or cancelled. -/
def Order.isSettled (order : Order) : Bool := order.state = .payed ∨ order.state = .cancelled

namespace Tables

/-- Every order has brought two events, and one more if it was settled. -/
def Tallied (tables : Tables) : Prop :=
  tables.outboxSequence = 2 * tables.orderSequence + tables.orders.countP Order.isSettled

/-- The counters of a shard stand for what it stores. -/
structure Counts (shard : ShardIndex) (tables : Tables) : Prop where
  orders : tables.orderSequence = tables.orders.length
  /-- The number of the last order fits. -/
  fits : OrderId.stride * tables.orderSequence + shard.num ≤ maxInt64
  size : tables.outboxSequence = tables.outbox.length
  ids : tables.outbox.map (·.id) = (List.range' 1 tables.outboxSequence).map fun n => ⟨n⟩
  tallied : tables.Tallied
  least : 2 * tables.orderSequence ≤ tables.outboxSequence
  most : tables.outboxSequence ≤ 3 * tables.orderSequence

variable {tables before after : Tables} {shard : ShardIndex}

/-- What one task comes to on one shard: the counters stay, or an order is taken in, or an order is
    settled. -/
inductive Effect (before after : Tables) : Prop where
  | quiet (orders : after.orders = before.orders)
      (orderSequence : after.orderSequence = before.orderSequence)
      (outboxSequence : after.outboxSequence = before.outboxSequence)
  | entered (order : Order) (unsettled : order.isSettled = false)
      (orders : after.orders = before.orders ++ [order])
      (orderSequence : after.orderSequence = before.orderSequence + 1)
      (outboxSequence : after.outboxSequence = before.outboxSequence + 2)
  | settled (early late : List Order) (order next : Order) (waited : order.isSettled = false)
      (left : next.isSettled = true) (was : before.orders = early ++ order :: late)
      (is : after.orders = early ++ next :: late)
      (orderSequence : after.orderSequence = before.orderSequence)
      (outboxSequence : after.outboxSequence = before.outboxSequence + 1)

/-- Where orders are taken in and settled, the events stay tallied. -/
theorem Tallied.effect (tallied : before.Tallied) (effect : Effect before after) :
    after.Tallied := by
  unfold Tallied at tallied ⊢
  cases effect with
  | quiet orders orderSequence outboxSequence =>
    rw [orders, orderSequence, outboxSequence]
    exact tallied
  | entered order unsettled orders orderSequence outboxSequence =>
    have none : [order].countP Order.isSettled = 0 := by simp [unsettled]
    rw [orders, orderSequence, outboxSequence, List.countP_append, none]
    omega
  | settled early late order next waited left was is orderSequence outboxSequence =>
    rw [was, List.countP_append, List.countP_cons_of_neg (by simp [waited])] at tallied
    rw [is, orderSequence, outboxSequence, List.countP_append, List.countP_cons_of_pos left]
    omega

/-- One task raises the counter of the orders by one at most, and that of the events by two. -/
theorem Effect.raises (effect : Effect before after) :
    after.orderSequence ≤ before.orderSequence + 1 ∧
      after.outboxSequence ≤ before.outboxSequence + 2 := by
  cases effect with
  | quiet => omega
  | entered => omega
  | settled => omega

theorem Stamped.ids {clock : Nat → Timestamp} (stamped : tables.Stamped clock) :
    tables.outbox.map (·.id) = (List.range' 1 tables.outboxSequence).map fun n => ⟨n⟩ := by
  have size := stamped.size
  apply List.ext_getElem
  · rw [List.length_map, List.length_map, List.length_range', size]
  · intro place below _
    rw [List.length_map] at below
    rw [List.getElem_map, List.getElem_map, List.getElem_range',
      stamped.id place _ (List.getElem?_eq_getElem below)]
    congr 1
    omega

/-- Both counters can be raised as far as one more task raises them. -/
theorem Counts.room (counts : tables.Counts shard) :
    tables.orderSequence + 1 ≤ maxInt64 ∧ tables.outboxSequence + 2 ≤ maxInt64 := by
  have fits := counts.fits
  have most := counts.most
  rw [OrderId.stride, maxInt64] at fits
  rw [maxInt64]
  omega

end Tables

namespace Cluster

/-- Every shard has its events tallied. -/
def Tallied (cluster : Cluster) : Prop := ∀ shard, (cluster.tables shard).Tallied

variable {cluster before after : Cluster} {user : UserId} {items : List Item} {shard : ShardIndex}

theorem Unused.tallied (unused : cluster.Unused) : cluster.Tallied := by
  intro shard
  rw [unused shard]
  rfl

theorem SameButMarks.effect (same : SameButMarks before after) (shard : ShardIndex) :
    (before.tables shard).Effect (after.tables shard) :=
  .quiet (same.tables shard).orders (same.tables shard).orderSequence
    (same.tables shard).outboxSequence

theorem effect_setInventory (cluster : Cluster) (inventory : Inventory) (shard : ShardIndex) :
    (cluster.tables shard).Effect ((cluster.setInventory inventory).tables shard) :=
  .quiet (orders_setInventory shard) (orderSequence_setInventory shard)
    (outboxSequence_setInventory shard)

theorem Entered.effect {order : Order} (entered : before.Entered order after)
    (unsettled : order.isSettled = false) (shard : ShardIndex) :
    (before.tables shard).Effect (after.tables shard) := by
  by_cases here : shard = order.id.shard
  · subst here
    exact .entered order unsettled entered.orders entered.orderSequence entered.outboxSequence
  · rw [← entered.elsewhere shard here]
    exact .quiet rfl rfl rfl

theorem Settled.effect {settlement : Settlement} {order : Order}
    (settled : Settled settlement order before after) (shard : ShardIndex) :
    (before.tables shard).Effect (after.tables shard) := by
  by_cases here : shard = order.id.shard
  · subst here
    obtain ⟨early, late, was, is⟩ := settled.orders
    have waited : order.isSettled = false := by
      rw [Order.isSettled, settled.waited]
      rfl
    have left : { order with state := settlement.target : Order }.isSettled = true := by
      cases settlement <;> rfl
    exact .settled early late order _ waited left was is (settled.orderSequence _)
      settled.outboxSequence
  · obtain ⟨orders, -, outboxSequence⟩ := settled.elsewhere shard here
    exact .quiet orders (settled.orderSequence shard) outboxSequence

theorem Placed.effect_checkout (placed : cluster.Placed) (user : UserId) (items : List Item)
    (shard : ShardIndex) :
    (cluster.tables shard).Effect ((cluster.checkout user items).2.tables shard) := by
  rcases checkout_cases placed user items with
    ⟨error, failed⟩ | ⟨id, inventory, state, answer, -, -, healthy, next, outcome, done⟩
  · rw [failed]
    exact .quiet rfl rfl rfl
  · rw [done]
    have entered := entered_ended placed ⟨id, user, .new, items⟩ inventory state rfl healthy next
    apply entered.effect
    rcases outcome with ⟨rfl, -, -⟩ | ⟨rfl, -, -⟩
    · rfl
    · rfl

theorem Placed.effect_settle (placed : cluster.Placed) (settlement : Settlement) (id : OrderId)
    (shard : ShardIndex) :
    (cluster.tables shard).Effect ((cluster.settle settlement id).2.tables shard) := by
  rcases cluster.settle_cases settlement id with
    ⟨reason, failed⟩ | ⟨order, inventory, -, -, -, -, done⟩
  · rw [failed]
    exact .quiet rfl rfl rfl
  · obtain ⟨order, -, settled⟩ := placed.settled done
    rw [done]
    exact settled.effect shard

/-- The number of the last order of a shard fits. -/
theorem Placed.stride_orderSequence_le (placed : cluster.Placed) (present : cluster.Has shard) :
    OrderId.stride * (cluster.tables shard).orderSequence + shard.num ≤ maxInt64 := by
  rcases Nat.eq_zero_or_pos (cluster.tables shard).orderSequence with none | some
  · have small : shard.num < OrderId.stride := Nat.lt_of_lt_of_le present cluster.le_max
    rw [none, maxInt64]
    rw [OrderId.stride] at small
    omega
  · obtain ⟨order, -, last⟩ := (placed shard).exists_num_iff.2 ⟨_, some, Nat.le_refl _, rfl⟩
    rw [← last]
    exact order.id.le_max

theorem Placed.counts (placed : cluster.Placed) (tallied : cluster.Tallied) (filed : cluster.Filed)
    (present : cluster.Has shard) : (cluster.tables shard).Counts shard := by
  obtain ⟨clock, stamped⟩ := (filed shard).stamped
  have orders := (placed shard).length_orders
  have tally : _ = _ := tallied shard
  have few : (cluster.tables shard).orders.countP Order.isSettled ≤ _ := List.countP_le_length
  refine ⟨orders.symm, placed.stride_orderSequence_le present, stamped.size, stamped.ids,
    tallied shard, ?_, ?_⟩
  · omega
  · omega

/-! ## A shard that is full -/

/-- A shard that has given out its last number blames the number for which it was asked. -/
theorem createOrder_of_full (belongs : cluster.router.shardForUser user = shard)
    (healthy : cluster.Healthy shard) (full : cluster.Full shard) (items : List Item) :
    cluster.createOrder user items = (.error (.invalidInput
      (.sequenceOverflow ((cluster.tables shard).orderSequence + 1))), cluster) := by
  have small : shard.num < OrderId.stride := Nat.lt_of_lt_of_le healthy.has cluster.le_max
  have exceeds : (maxInt64 : Int) <
      (((cluster.tables shard).orderSequence : Int) + 1) * OrderId.stride + shard.num := by
    unfold Full at full
    rw [OrderId.stride, maxInt64] at full ⊢
    omega
  rw [createOrder_eq belongs]
  simp only [permitWrite_eq_ok_iff.2 healthy, OrderId.compose_of_exceeds small exceeds]

/-- An order is stored exactly on a shard that works and has a number left. -/
theorem exists_createOrder_iff (belongs : cluster.router.shardForUser user = shard)
    (items : List Item) : (∃ order, (cluster.createOrder user items).1 = .ok order) ↔
      cluster.Healthy shard ∧ ¬ cluster.Full shard := by
  have opened : cluster.Healthy shard ∧ ¬ cluster.Full shard ↔ ¬ cluster.Closed shard := by
    rw [Closed, not_or, not_not]
  rw [opened]
  constructor
  · rintro ⟨order, stored⟩ closed
    obtain ⟨error, failed⟩ := createOrder_of_closed belongs closed items
    rw [failed] at stored
    cases stored
  · intro room
    obtain ⟨id, -, -, -, created⟩ := createOrder_of_open belongs room items
    exact ⟨_, by rw [created]⟩

theorem checkout_of_full (belongs : cluster.router.shardForUser user = shard)
    (healthy : cluster.Healthy shard) (full : cluster.Full shard) (items : List Item) :
    ∃ reason, cluster.checkout user items = (.error (.invalidInput reason), cluster) := by
  by_cases empty : items.isEmpty = true
  · exact ⟨_, by rw [checkout, if_pos empty]⟩
  · exact ⟨_, by rw [checkout, if_neg empty, createOrder_of_full belongs healthy full]⟩

/-! ## Settlements of what was reserved -/

theorem secures_of_checkout {id : OrderId} (done : (cluster.checkout user items).1 = .ok id) :
    cluster.inventory.Secures items := by
  obtain ⟨before, after, same, reserved⟩ := exists_reserved_of_checkout done
  rw [← same]
  rcases adjustStock_eq_ok reserved with ⟨rfl, -⟩ | ⟨-, promised, went, -⟩
  · exact ⟨fun sku => Nat.zero_lt_succ _, List.forall_mem_nil _⟩
  · exact Inventory.secures_of_reserve went

/-- The stock lets go of what was reserved, also if rows of other articles are corrupt. -/
theorem Backed.settles (backed : cluster.Backed Inventory.Secures) {start : Cluster}
    (balanced : Balanced start cluster) {id : OrderId} {order : Order}
    (healthy : cluster.Healthy id.shard) (stock : cluster.Healthy .inventory)
    (found : cluster.stored? id = some order) (waits : order.state = .awaitingPayment)
    (settlement : Settlement) : (cluster.settle settlement id).1 = .ok () := by
  obtain ⟨left, went⟩ := (backed id order found waits).exists_settled
    (fun sku row there => balanced.units_le_reserved found waits there) settlement
  rw [settle_of_waiting healthy found waits, adjustStock_eq stock, went]

end Cluster

/-! ## Work -/

/-- A task as an errand. -/
def Task.errand : Task → Errand
  | .act action => .act action
  | .upsert stocks => .upsert stocks

namespace Desk

variable {σ : Type} (publisher : Publisher σ)

theorem work_eq_serveAll (desk : Desk σ) (tasks : List Task) :
    desk.work publisher tasks = desk.serveAll publisher (tasks.map Task.errand) := by
  rw [work, serveAll, List.foldl_map]
  congr
  funext desk task
  cases task <;> rfl

/-- Tasks that put no row into the stock are a session. -/
theorem work_acts (desk : Desk σ) (actions : List Action) :
    desk.work publisher (actions.map .act) = (desk.run publisher actions).2 := by
  induction actions generalizing desk with
  | nil => rfl
  | cons action rest ih =>
    rw [run_cons, ← ih]
    rfl

theorem effect_perform (desk : Desk σ) (action : Action) (placed : desk.cluster.Placed)
    (shard : ShardIndex) :
    (desk.cluster.tables shard).Effect
      ((desk.perform publisher action).2.cluster.tables shard) := by
  cases action with
  | checkout user items => exact placed.effect_checkout user items shard
  | settle settlement id => exact placed.effect_settle settlement id shard
  | lookUp id => exact .quiet rfl rfl rfl
  | list => exact .quiet rfl rfl rfl
  | tick settings => exact (Relay.sameButMarks_tick publisher settings _ _).effect shard
  | setPrimary other faults => exact (Cluster.sameButMarks_setPrimary ..).effect shard
  | setReplica other faults => exact (Cluster.sameButMarks_setReplica ..).effect shard

theorem effect_carryOut (desk : Desk σ) (task : Task) (placed : desk.cluster.Placed)
    (shard : ShardIndex) :
    (desk.cluster.tables shard).Effect ((desk.carryOut publisher task).cluster.tables shard) := by
  cases task with
  | act action => exact effect_perform publisher desk action placed shard
  | upsert stocks =>
    rcases desk.cluster.upsertStock_cases stocks with ⟨error, failed⟩ | ⟨inventory, done⟩
    · rw [carryOut, failed]
      exact .quiet rfl rfl rfl
    · rw [carryOut, done]
      exact Cluster.effect_setInventory _ inventory shard

theorem tallied_work (desk : Desk σ) (tasks : List Task) (placed : desk.cluster.Placed)
    (tallied : desk.cluster.Tallied) : (desk.work publisher tasks).cluster.Tallied := by
  induction tasks generalizing desk with
  | nil => exact tallied
  | cons task rest ih =>
    have next : (desk.carryOut publisher task).cluster.Placed :=
      placed_work publisher desk [task] placed
    refine ih _ next fun shard => ?_
    exact (tallied shard).effect (effect_carryOut publisher desk task placed shard)

theorem secured_run (desk : Desk σ) (actions : List Action) (placed : desk.cluster.Placed)
    (secured : desk.cluster.Backed Inventory.Secures) :
    (desk.run publisher actions).2.cluster.Backed Inventory.Secures :=
  backed_run publisher Inventory.lasting_secures Cluster.secures_of_checkout desk actions placed
    secured

theorem work_checkout (desk : Desk σ) (user : UserId) (items : List Item) (rest : List Task) :
    desk.work publisher (.act (.checkout user items) :: rest) =
      { desk with cluster := (desk.cluster.checkout user items).2 }.work publisher rest := rfl

/-- Checkouts on a single shard whose primary works take its numbers one by one, and leave the
    orders alone that are there. -/
theorem work_checkouts (desk : Desk σ) (user : UserId) {items : List Item}
    (placed : desk.cluster.Placed) (healthy : desk.cluster.AllHealthy)
    (alone : desk.cluster.shards.length = 1) (asks : items ≠ []) (n : Nat)
    (room : OrderId.stride * ((desk.cluster.tables .inventory).orderSequence + n) ≤ maxInt64) :
    let later := (desk.work publisher (List.replicate n (.act (.checkout user items)))).cluster
    later.AllHealthy ∧ later.shards.length = 1 ∧
      (later.tables .inventory).orderSequence = (desk.cluster.tables .inventory).orderSequence + n ∧
      ∀ id order, desk.cluster.stored? id = some order → later.stored? id = some order := by
  induction n generalizing desk with
  | zero => exact ⟨healthy, alone, rfl, fun _ _ found => found⟩
  | succ n ih =>
    have belongs : desk.cluster.router.shardForUser user = .inventory :=
      Cluster.shardForUser_of_one alone user
    have opened : ¬ desk.cluster.Closed .inventory := by
      rintro (ill | full)
      · exact ill healthy.inventory
      · have zero : ShardIndex.inventory.num = 0 := rfl
        rw [Cluster.Full, OrderId.stride, zero] at full
        rw [OrderId.stride] at room
        omega
    obtain ⟨id, lies, -, outcome⟩ := Cluster.checkout_of_open placed asks belongs opened
    have taken : ((desk.cluster.checkout user items).2.tables .inventory).orderSequence =
        (desk.cluster.tables .inventory).orderSequence + 1 := by
      rw [← lies]
      rcases outcome with ⟨-, -, entered, -⟩ | ⟨reason, -, -, entered, -⟩
      · exact entered.orderSequence
      · exact entered.orderSequence
    have count : ((desk.cluster.checkout user items).2.tables .inventory).orderSequence + n =
        (desk.cluster.tables .inventory).orderSequence + (n + 1) := by
      rw [taken, Nat.add_assoc, Nat.add_comm 1 n]
    have size := (Cluster.length_checkout placed user items).trans alone
    obtain ⟨well, lone, counted, kept⟩ :=
      ih { desk with cluster := (desk.cluster.checkout user items).2 }
      (placed.checkout user items) (healthy.checkout placed user items) size (by rwa [count])
    rw [List.replicate_succ, work_checkout]
    refine ⟨well, lone, counted.trans count, fun other order found => kept other order ?_⟩
    exact placed.stored?_checkout user items found

/-- Counters never overflow. In every state that calls, ticks and faults can reach from a store
    without orders, whatever rows the stock has or is given: the counters of a shard count its
    orders and its events, which bear the numbers up to the counter in sequence, with two or three
    events for each order; the number of the last order fits, and so does whatever the next task
    makes of the counters. A shard that works stores orders until it has given out its last number;
    from then on an order is refused as an input that makes no sense, and nothing changes. What is
    stored there can still be settled: an order that waits is answered what the stock answers, and
    if no row was put into the stock by hand, the stock lets it go. -/
theorem counters_stay_in_range {start : Desk σ} (unused : start.cluster.Unused) (tasks : List Task)
    (shard : ShardIndex) :
    let desk := start.work publisher tasks
    let now := desk.cluster
    now.Has shard →
      (now.tables shard).Counts shard ∧
      ((now.tables shard).orderSequence + 1 ≤ maxInt64 ∧
        (now.tables shard).outboxSequence + 2 ≤ maxInt64) ∧
      (∀ task, let later := (desk.carryOut publisher task).cluster
        (later.tables shard).orderSequence ≤ (now.tables shard).orderSequence + 1 ∧
          (later.tables shard).outboxSequence ≤ (now.tables shard).outboxSequence + 2) ∧
      (∀ user items, now.router.shardForUser user = shard →
        ((∃ order, (now.createOrder user items).1 = .ok order) ↔
          now.Healthy shard ∧ ¬ now.Full shard) ∧
        (now.Full shard →
          (∃ error, now.createOrder user items = (.error error, now)) ∧
          (∃ error, now.checkout user items = (.error error, now)) ∧
          (now.Healthy shard →
            (now.createOrder user items).1 = .error (.invalidInput
              (.sequenceOverflow ((now.tables shard).orderSequence + 1))) ∧
            ∃ reason, (now.checkout user items).1 = .error (.invalidInput reason)))) ∧
      ∀ id order settlement, id.shard = shard → now.stored? id = some order →
        order.state = .awaitingPayment → now.Healthy shard →
          (now.settle settlement id).1 = (now.adjustStock settlement.adjustment order.items).1 ∧
          ((∃ actions : List Action, tasks = actions.map .act) → now.Healthy .inventory →
            (now.settle settlement id).1 = .ok ()) := by
  intro desk now present
  have placed : now.Placed := placed_work publisher start tasks unused.placed
  have tallied : now.Tallied := tallied_work publisher start tasks unused.placed unused.tallied
  have filed : now.Filed := by
    have served := filed_serveAll publisher unused (tasks.map Task.errand)
    rwa [← work_eq_serveAll] at served
  have counts := placed.counts tallied filed present
  refine ⟨counts, counts.room, ?_, ?_, ?_⟩
  · intro task
    exact (effect_carryOut publisher desk task placed shard).raises
  · intro user items belongs
    refine ⟨Cluster.exists_createOrder_iff belongs items, fun full => ?_⟩
    refine ⟨Cluster.createOrder_of_closed belongs (.inr full) items,
      Cluster.checkout_of_closed belongs (.inr full) items, fun healthy => ?_⟩
    obtain ⟨reason, refused⟩ := Cluster.checkout_of_full belongs healthy full items
    rw [Cluster.createOrder_of_full belongs healthy full, refused]
    exact ⟨rfl, reason, rfl⟩
  · rintro id order settlement rfl found waits healthy
    refine ⟨Cluster.settle_of_waiting healthy found waits settlement, ?_⟩
    rintro ⟨actions, rfl⟩ stock
    have ran : now = (start.run publisher actions).2.cluster :=
      congrArg Desk.cluster (work_acts publisher start actions)
    have secured : now.Backed Inventory.Secures := by
      rw [ran]
      exact secured_run publisher start actions unused.placed unused.backed
    have balanced : Cluster.Balanced start.cluster now := by
      rw [ran]
      exact balanced_run publisher start actions unused.placed unused.balanced
    exact secured.settles balanced healthy stock found waits settlement

/-- As many checkouts of one unit on a single shard as there is room for: the stock grants the
    first. -/
theorem work_oneShard (n : Nat) (room : OrderId.stride * (1 + n) ≤ maxInt64) :
    let call : Task := .act (.checkout ⟨1, by decide, by decide⟩ [⟨⟨7⟩, 1, by decide⟩])
    let later := ((⟨.oneShard, ()⟩ : Desk Unit).work .log (call :: List.replicate n call)).cluster
    later.AllHealthy ∧ later.shards.length = 1 ∧ (later.tables .inventory).orderSequence = 1 + n ∧
      later.stored? ⟨1000, by decide, by decide⟩ = some ⟨⟨1000, by decide, by decide⟩,
        ⟨1, by decide, by decide⟩, .awaitingPayment, [⟨⟨7⟩, 1, by decide⟩]⟩ := by
  intro call later
  let user : UserId := ⟨1, by decide, by decide⟩
  let items : List Item := [⟨⟨7⟩, 1, by decide⟩]
  let order : Order := ⟨⟨1000, by decide, by decide⟩, user, .awaitingPayment, items⟩
  let first : Desk Unit := ⟨(Cluster.oneShard.checkout user items).2, ()⟩
  have asks : items ≠ [] := List.cons_ne_nil _ _
  have placed := Cluster.unused_oneShard.placed
  have ended : first.cluster = _ := Cluster.checkout_of_one order ⟨[⟨⟨7⟩, 5, 3⟩]⟩ placed
    Cluster.allHealthy_oneShard rfl asks (by decide) (by rfl)
    (by rw [Cluster.inventory_oneShard]; rfl)
  have stored : first.cluster.stored? order.id = some order := by
    rw [ended]
    decide
  have one : (first.cluster.tables .inventory).orderSequence = 1 := by
    rw [ended]
    decide
  obtain ⟨healthy, alone, counted, kept⟩ := work_checkouts .log first user
    (placed.checkout user items) (Cluster.allHealthy_oneShard.checkout placed user items)
    (Cluster.length_checkout placed user items) asks n (by rwa [one])
  have same : later = (first.work .log (List.replicate n call)).cluster :=
    congrArg Desk.cluster (work_checkout ..)
  rw [same]
  exact ⟨healthy, alone, counted.trans (by rw [one]), kept _ _ stored⟩

/-- A shard whose numbers were used up: nothing more is taken in, and the first order can be
    paid. -/
theorem counters_stay_in_range_oneShard :
    let user : UserId := ⟨1, by decide, by decide⟩
    let items : List Item := [⟨⟨7⟩, 1, by decide⟩]
    let call : Action := .checkout user items
    let now := ((⟨.oneShard, ()⟩ : Desk Unit).work .log
      (.act call :: List.replicate 9223372036854774 (.act call))).cluster
    now.Full .inventory ∧ (now.tables .inventory).outboxSequence + 2 ≤ maxInt64 ∧
      (∃ error, now.checkout user items = (.error error, now)) ∧
      (now.pay ⟨1000, by decide, by decide⟩).1 = .ok () := by
  intro user items call now
  have unused : (⟨.oneShard, ()⟩ : Desk Unit).cluster.Unused := Cluster.unused_oneShard
  obtain ⟨healthy, alone, counted, waits⟩ := work_oneShard 9223372036854774 (by decide)
  have full : now.Full .inventory := by
    rw [Cluster.Full, counted]
    decide
  obtain ⟨-, ⟨-, events⟩, -, exhausted, settles⟩ := counters_stay_in_range .log unused
    (.act call :: List.replicate 9223372036854774 (.act call)) .inventory now.has_inventory
  have belongs : now.router.shardForUser user = .inventory := Cluster.shardForUser_of_one alone user
  have acts : ∃ actions : List Action,
      .act call :: List.replicate 9223372036854774 (.act call) = actions.map Task.act :=
    ⟨call :: List.replicate 9223372036854774 call, by rw [List.map_cons, List.map_replicate]⟩
  refine ⟨full, events, ((exhausted user items belongs).2 full).2.1, ?_⟩
  exact (settles _ _ .pay rfl waits rfl healthy.inventory).2 acts healthy.inventory

end Desk

end OrderDesk
