import OrderDesk.Proofs.Errands

/-!
# What a call leaves alone

A checkout and a settlement reach no further than the shard and the events of their own order and
the rows of its lines; a query changes nothing at all, and a tick nothing but marks. Outboxes are
append-only: an event stays at its place and stays what it is, and once sent it is sent for good.
-/

namespace OrderDesk

/-! ## Events later on -/

/-- What has become of an event later: it is what it was and, if it had been sent, still is sent. -/
structure Event.Ages (event later : Event) : Prop where
  id : later.id = event.id
  order : later.order = event.order
  payload : later.payload = event.payload
  createdAt : later.createdAt = event.createdAt
  processed : event.processed = true → later.processed = true

theorem Event.Ages.refl (event : Event) : event.Ages event := ⟨rfl, rfl, rfl, rfl, fun sent => sent⟩

theorem Event.Ages.trans {a b c : Event} (first : a.Ages b) (second : b.Ages c) : a.Ages c where
  id := second.id.trans first.id
  order := second.order.trans first.order
  payload := second.payload.trans first.payload
  createdAt := second.createdAt.trans first.createdAt
  processed := second.processed ∘ first.processed

namespace Cluster

/-- Every event is still at its place. -/
def Lasts (before after : Cluster) : Prop :=
  ∀ shard (place : Nat) event, (before.tables shard).outbox[place]? = some event →
    ∃ later, (after.tables shard).outbox[place]? = some later ∧ event.Ages later

variable {cluster before after : Cluster}

theorem Lasts.refl (cluster : Cluster) : cluster.Lasts cluster :=
  fun _ _ event found => ⟨event, found, .refl event⟩

theorem Lasts.trans {a b c : Cluster} (first : a.Lasts b) (second : b.Lasts c) : a.Lasts c := by
  intro shard place event found
  obtain ⟨middle, there, early⟩ := first shard place event found
  obtain ⟨later, still, late⟩ := second shard place middle there
  exact ⟨later, still, early.trans late⟩

/-- Nothing happens to the events of an outbox that grows. -/
theorem Grew.lasts (grew : Grew before after) : before.Lasts after := by
  intro shard place event found
  obtain ⟨fresh, came, -⟩ := grew.outbox shard
  have below := (List.getElem?_eq_some_iff.1 found).1
  exact ⟨event, by rw [came, List.getElem?_append_left below, found], .refl event⟩

/-! ## Ticks -/

/-- A cluster with none of its events marked as sent. -/
def unmarked (cluster : Cluster) : Cluster where
  shards := cluster.shards.map fun shard =>
    { shard with tables :=
      { shard.tables with outbox := shard.tables.outbox.map Event.unmarked } }
  pos := by simpa using cluster.pos
  le_max := by simpa using cluster.le_max

/-- All that is different are marks of events that have been sent since. -/
structure OnlyMarked (before after : Cluster) : Prop where
  unmarked : after.unmarked = before.unmarked
  lasts : before.Lasts after

theorem OnlyMarked.refl (cluster : Cluster) : cluster.OnlyMarked cluster := ⟨rfl, .refl cluster⟩

theorem OnlyMarked.trans {a b c : Cluster} (first : a.OnlyMarked b) (second : b.OnlyMarked c) :
    a.OnlyMarked c :=
  ⟨second.unmarked.trans first.unmarked, first.lasts.trans second.lasts⟩

theorem unmarked_commit (cluster : Cluster) (transaction : Transaction) :
    (cluster.commit transaction).unmarked = cluster.unmarked := by
  apply eq_of_shards
  apply List.ext_getElem?
  intro i
  unfold unmarked commit setTables
  rw [List.getElem?_map, List.getElem?_map, getElem?_modifyShard]
  cases found : cluster.shards[i]? with
  | none => rfl
  | some stored =>
    by_cases here : transaction.shard.num = i
    · have tables : cluster.tables transaction.shard = stored.tables := by
        rw [← here] at found
        simp only [Cluster.tables, found]
      have marks := (Tables.sameButMarks_markSent stored.tables transaction.staged).outbox
      simp only [Option.map_some, if_pos here, tables, marks]
    · simp only [Option.map_some, if_neg here]

theorem lasts_commit (cluster : Cluster) (transaction : Transaction) :
    cluster.Lasts (cluster.commit transaction) := by
  intro shard place event found
  unfold commit
  by_cases present : cluster.Has transaction.shard
  · rw [tables_setTables present]
    by_cases here : transaction.shard = shard
    · subst here
      simp only [if_true, Tables.markSent, List.getElem?_map, found, Option.map_some]
      refine ⟨_, rfl, ?_⟩
      split
      · exact ⟨rfl, rfl, rfl, rfl, fun _ => rfl⟩
      · exact .refl event
    · rw [if_neg here]
      exact ⟨event, found, .refl event⟩
  · rw [tables_setTables_of_not_has present]
    exact ⟨event, found, .refl event⟩

theorem onlyMarked_commit (cluster : Cluster) (transaction : Transaction) :
    cluster.OnlyMarked (cluster.commit transaction) :=
  ⟨cluster.unmarked_commit transaction, cluster.lasts_commit transaction⟩

end Cluster

theorem Relay.onlyMarked_tick {σ : Type} (publisher : Publisher σ) (settings : RelaySettings)
    (cluster : Cluster) (state : σ) :
    cluster.OnlyMarked (tick publisher settings cluster state).2.1 :=
  related_tick publisher settings Cluster.OnlyMarked.refl Cluster.OnlyMarked.trans
    Cluster.onlyMarked_commit cluster state

/-! ## Checkouts and settlements -/

/-- A change of state passes the orders of other numbers by. -/
theorem Tables.filter_setState (id : OrderId) (state : OrderState) (orders : List Order) :
    (setState id state orders).filter (·.id ≠ id) = orders.filter (·.id ≠ id) := by
  induction orders with
  | nil => rfl
  | cons order rest ih =>
    unfold setState at ih ⊢
    rw [List.map_cons]
    by_cases same : order.id = id
    · rw [if_pos same, List.filter_cons_of_neg (by simpa using same),
        List.filter_cons_of_neg (by simpa using same), ih]
    · rw [if_neg same, List.filter_cons_of_pos (by simpa using same),
        List.filter_cons_of_pos (by simpa using same), ih]

namespace Cluster

/-- All that changed belongs to one order: the order itself, new events about it at the end of the
    outbox of its shard, the counters of its shard, and the rows of its lines. -/
structure Confined (id : OrderId) (items : List Item) (before after : Cluster) : Prop where
  orders : ∀ shard, (after.tables shard).orders.filter (·.id ≠ id) =
    (before.tables shard).orders.filter (·.id ≠ id)
  outbox : ∃ fresh, (after.tables id.shard).outbox = (before.tables id.shard).outbox ++ fresh ∧
    ∀ event ∈ fresh, event.order = id ∧ event.processed = false
  elsewhere : ∀ shard, shard ≠ id.shard →
    (after.tables shard).orders = (before.tables shard).orders ∧
    (after.tables shard).orderSequence = (before.tables shard).orderSequence ∧
    (after.tables shard).outbox = (before.tables shard).outbox ∧
    (after.tables shard).outboxSequence = (before.tables shard).outboxSequence
  rows : ∀ sku, (∀ item ∈ items, item.sku ≠ sku) →
    after.inventory.get? sku = before.inventory.get? sku
  stock : ∀ shard, shard ≠ .inventory → (after.tables shard).stock = (before.tables shard).stock

variable {cluster before after : Cluster} {id : OrderId} {items : List Item} {order stored : Order}
  {state : OrderState} {inventory : Inventory}

theorem Confined.trans {a b c : Cluster} (first : Confined id items a b)
    (second : Confined id items b c) : Confined id items a c where
  orders shard := (second.orders shard).trans (first.orders shard)
  outbox := by
    obtain ⟨some, came, about⟩ := first.outbox
    obtain ⟨more, followed, also⟩ := second.outbox
    refine ⟨some ++ more, by rw [followed, came, List.append_assoc], ?_⟩
    intro event member
    rcases List.mem_append.1 member with early | late
    · exact about event early
    · exact also event late
  elsewhere shard other := by
    obtain ⟨orders, orderSequence, outbox, outboxSequence⟩ := second.elsewhere shard other
    rw [orders, orderSequence, outbox, outboxSequence]
    exact first.elsewhere shard other
  rows sku others := (second.rows sku others).trans (first.rows sku others)
  stock shard other := (second.stock shard other).trans (first.stock shard other)

theorem confined_addOrder (present : cluster.Has order.id.shard) (items : List Item) :
    Confined order.id items cluster (cluster.addOrder order) where
  orders shard := by
    rw [tables_addOrder present]
    split
    · rw [Tables.orders_insertOrder, List.filter_append]
      simp
    · rfl
  outbox := by
    rw [tables_addOrder present, if_pos rfl]
    refine ⟨_, Tables.outbox_insertOrder .., ?_⟩
    intro event member
    rw [List.mem_singleton.1 member]
    exact ⟨rfl, rfl⟩
  elsewhere shard other := by
    rw [tables_addOrder present, if_neg other.symm]
    exact ⟨rfl, rfl, rfl, rfl⟩
  rows sku _ := by rw [inventory_addOrder present]
  stock shard _ := by
    rw [tables_addOrder present]
    split <;> rfl

theorem confined_moveOrder (present : cluster.Has stored.id.shard) (items : List Item) :
    Confined stored.id items cluster (cluster.moveOrder stored state) where
  orders shard := by
    rw [tables_moveOrder present]
    split
    · rw [Tables.orders_updateState, Tables.filter_setState]
    · rfl
  outbox := by
    rw [tables_moveOrder present, if_pos rfl]
    refine ⟨_, Tables.outbox_updateState .., ?_⟩
    intro event member
    rw [List.mem_singleton.1 member]
    exact ⟨rfl, rfl⟩
  elsewhere shard other := by
    rw [tables_moveOrder present, if_neg other.symm]
    exact ⟨rfl, rfl, rfl, rfl⟩
  rows sku _ := by rw [inventory_moveOrder present]
  stock shard _ := by
    rw [tables_moveOrder present]
    split <;> rfl

/-- An inventory in which only rows of the lines have gained or lost units. -/
theorem confined_setInventory {reserved total : Sku → Int} (id : OrderId)
    (gained : Inventory.Gained reserved total cluster.inventory inventory)
    (aside : ∀ sku, (∀ item ∈ items, item.sku ≠ sku) → reserved sku = 0 ∧ total sku = 0) :
    Confined id items cluster (cluster.setInventory inventory) where
  orders shard := by rw [orders_setInventory]
  outbox := ⟨[], by rw [outbox_setInventory, List.append_nil], fun _ member => nomatch member⟩
  elsewhere shard _ := ⟨orders_setInventory shard, orderSequence_setInventory shard,
    outbox_setInventory shard, outboxSequence_setInventory shard⟩
  rows sku others := by
    obtain ⟨noneReserved, noneHeld⟩ := aside sku others
    rw [inventory_setInventory]
    exact gained.get?_eq_of_zero noneReserved noneHeld
  stock shard other := by rw [tables_setInventory, if_neg other.symm]

/-- A checkout changes nothing, or no more than its new order, and what belongs to it. -/
theorem Placed.confined_checkout (placed : cluster.Placed) (user : UserId) (items : List Item) :
    (cluster.checkout user items).2 = cluster ∨
      ∃ id, id.shard = cluster.router.shardForUser user ∧ cluster.stored? id = none ∧
        Confined id items cluster (cluster.checkout user items).2 := by
  rcases checkout_cases placed user items with
    ⟨error, failed⟩ | ⟨id, inventory, state, answer, -, belongs, healthy, next, outcome, done⟩
  · exact .inl (by rw [failed])
  · refine .inr ⟨id, belongs.symm, placed.stored?_next next, ?_⟩
    rw [done]
    generalize added : (⟨id, user, .new, items⟩ : Order) = order
    obtain ⟨rfl, rfl⟩ : order.id = id ∧ order.items = items := by
      subst added
      exact ⟨rfl, rfl⟩
    have same := inventory_addOrder healthy.has
    have stock : Confined order.id order.items (cluster.addOrder order)
        ((cluster.addOrder order).setInventory inventory) := by
      rcases outcome with ⟨-, -, gained⟩ | ⟨-, -, rfl⟩
      · rw [← same] at gained
        refine confined_setInventory order.id gained fun sku others => ?_
        simp [Item.units_eq_zero others]
      · have gained := Inventory.Gained.refl (cluster.addOrder order).inventory
        rw [← same]
        exact confined_setInventory order.id gained fun _ _ => ⟨rfl, rfl⟩
    exact ((confined_addOrder healthy.has order.items).trans stock).trans
      (confined_moveOrder (healthy.added order inventory).has order.items)

/-- A settlement changes nothing, or no more than the order stored under its number, and what
    belongs to it. -/
theorem confined_settle (cluster : Cluster) (settlement : Settlement) (id : OrderId) :
    (cluster.settle settlement id).2 = cluster ∨
      ∃ order, cluster.stored? id = some order ∧
        Confined id order.items cluster (cluster.settle settlement id).2 := by
  rcases cluster.settle_cases settlement id with
    ⟨error, failed⟩ | ⟨order, inventory, healthy, found, -, gained, done⟩
  · exact .inl (by rw [failed])
  · obtain rfl : order.id = id := Tables.id_of_order? found
    refine .inr ⟨order, found, ?_⟩
    rw [done]
    have stock : Confined order.id order.items cluster (cluster.setInventory inventory) := by
      refine confined_setInventory order.id gained fun sku others => ?_
      simp [Item.units_eq_zero others]
    exact stock.trans (confined_moveOrder (healthy_setInventory.2 healthy).has order.items)

end Cluster

/-! ## Whatever is asked -/

namespace Desk

variable {σ : Type} (publisher : Publisher σ)

theorem lasts_perform (desk : Desk σ) (action : Action) (placed : desk.cluster.Placed) :
    desk.cluster.Lasts (desk.perform publisher action).2.cluster := by
  cases action with
  | checkout user items => exact (placed.grew_checkout user items).lasts
  | settle settlement id => exact (desk.cluster.grew_settle settlement id).lasts
  | lookUp id => exact .refl _
  | list => exact .refl _
  | tick settings => exact (Relay.onlyMarked_tick publisher settings _ _).lasts
  | setPrimary shard faults => exact (Cluster.grew_setPrimary shard faults).lasts
  | setReplica shard faults => exact (Cluster.grew_setReplica shard faults).lasts

theorem lasts_serve (desk : Desk σ) (errand : Errand) (placed : desk.cluster.Placed) :
    desk.cluster.Lasts (desk.serve publisher errand).2.cluster := by
  cases errand with
  | act action => exact lasts_perform publisher desk action placed
  | upsert stocks =>
    simp only [serve]
    rcases desk.cluster.upsertStock_cases stocks with ⟨error, failed⟩ | ⟨inventory, done⟩
    · rw [failed]
      exact .refl _
    · rw [done]
      exact (Cluster.grew_setInventory inventory).lasts
  | modify demand adjustment =>
    simp only [serve]
    rcases desk.cluster.modifyStock_cases demand adjustment with
      ⟨error, failed⟩ | ⟨rows, inventory, done⟩
    · rw [failed]
      exact .refl _
    · rw [done]
      exact (Cluster.grew_setInventory inventory).lasts
  | create user items =>
    simp only [serve]
    rcases desk.cluster.createOrder_cases user items with
      ⟨error, failed⟩ | ⟨id, belongs, healthy, next, done⟩
    · rw [failed]
      exact .refl _
    · rw [done]
      exact (Cluster.grew_addOrder healthy.has).lasts
  | move order expected =>
    simp only [serve]
    rcases desk.cluster.updateState_cases order expected with
      ⟨error, failed⟩ | ⟨stored, healthy, found, -, done⟩
    · rw [failed]
      exact .refl _
    · rw [done]
      rw [← Tables.id_of_order? found] at healthy
      exact (Cluster.grew_moveOrder healthy.has).lasts
  | available sku => exact .refl _

/-- No event is ever lost or changed, whatever a desk is asked. -/
theorem lasts_serveAll (desk : Desk σ) (errands : List Errand) (placed : desk.cluster.Placed) :
    desk.cluster.Lasts (desk.serveAll publisher errands).cluster := by
  induction errands generalizing desk with
  | nil => exact .refl desk.cluster
  | cons errand rest ih =>
    have next := placed_serveAll publisher desk [errand] placed
    exact (lasts_serve publisher desk errand placed).trans (ih _ next)

/-- Calls stay in their frame, and the outboxes are append-only. In any state that a desk can reach
    from a store without orders, however the switches stand and whatever the call answers: a
    checkout changes nothing or no more than what belongs to one new order of the user's shard, a
    settlement nothing or no more than what belongs to the order under its number; to look up an
    order or to list them changes nothing at all, and a tick nothing but the publisher and marks of
    events that it sent. Whatever comes next, each event that is stored now is stored at the same
    place at any later time, the same in all it says, and still sent if it had been sent. -/
theorem calls_stay_in_frame {start : Desk σ} (unused : start.cluster.Unused)
    (errands : List Errand) :
    let now := start.serveAll publisher errands
    (∀ user items, (now.cluster.checkout user items).2 = now.cluster ∨
      ∃ id, id.shard = now.cluster.router.shardForUser user ∧ now.cluster.stored? id = none ∧
        Cluster.Confined id items now.cluster (now.cluster.checkout user items).2) ∧
    (∀ settlement id, (now.cluster.settle settlement id).2 = now.cluster ∨
      ∃ order, now.cluster.stored? id = some order ∧
        Cluster.Confined id order.items now.cluster (now.cluster.settle settlement id).2) ∧
    (∀ id, (now.perform publisher (.lookUp id)).2 = now) ∧
    (now.perform publisher .list).2 = now ∧
    (∀ settings, now.cluster.OnlyMarked (now.perform publisher (.tick settings)).2.cluster) ∧
    ∀ later, now.cluster.Lasts (now.serveAll publisher later).cluster := by
  intro now
  have placed : now.cluster.Placed := placed_serveAll publisher start errands unused.placed
  refine ⟨placed.confined_checkout, now.cluster.confined_settle, fun _ => rfl, rfl, ?_, ?_⟩
  · exact fun settings => Relay.onlyMarked_tick publisher settings _ _
  · exact fun later => lasts_serveAll publisher now later placed

/-- The event of a checkout is sent by a tick, and then a row is put in and a further order stored:
    the event is still there and still sent. -/
theorem calls_stay_in_frame_twoShards :
    let errands : List Errand := [.act (.checkout ⟨1, by decide, by decide⟩ [⟨⟨7⟩, 1, by decide⟩]),
      .act (.tick ⟨"orders", 10⟩)]
    let now := (⟨.twoShards, ()⟩ : Desk Unit).serveAll .log errands
    now.cluster.Lasts (now.serveAll .log
      [.upsert [⟨⟨7⟩, 1, 9⟩],
        .create ⟨1, by decide, by decide⟩ [⟨⟨7⟩, 1, by decide⟩]]).cluster := by
  intro errands now
  have unused : (⟨.twoShards, ()⟩ : Desk Unit).cluster.Unused := Cluster.unused_twoShards
  obtain ⟨-, -, -, -, -, lasts⟩ := calls_stay_in_frame .log unused errands
  exact lasts _

end Desk

end OrderDesk
