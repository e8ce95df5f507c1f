import OrderDesk.Proofs.Errands
import OrderDesk.Proofs.Outcome
import OrderDesk.Proofs.Requests

/-!
# How a request to create an order ends

A request to create an order ends in one of three ways. It is turned away, and nothing changes; or
it is stored and its units are reserved; or it is stored, its units cannot be reserved, and it has
failed. Which of the three it is follows from the request, the primary of the user's shard, the
numbers that this shard has left, and the answer of the stock to a reservation of the lines.
-/

namespace OrderDesk

/-! ## Requests that make sense -/

theorem exists_narrow_iff (field : String) {value : UInt64} :
    (∃ word, narrow field value = .ok word) ↔ value.toNat < UInt32.size := by
  unfold narrow
  split
  · rename_i small
    simp [small]
  · rename_i wide
    simp [wide]

theorem ItemCount.exists_ofRaw_iff {value : UInt64} :
    (∃ count, ofRaw value = .ok count) ↔ value.toNat < UInt32.size ∧ value ≠ 0 := by
  unfold ofRaw narrow ofWord?
  by_cases small : value.toNat < UInt32.size
  · have same : value.toUInt32.toNat = value.toNat := by
      rw [UInt64.toNat_toUInt32]
      exact Nat.mod_eq_of_lt small
    have positive : 0 < value.toUInt32 ↔ value ≠ 0 := by
      rw [UInt32.lt_iff_toNat_lt, same, Ne, ← UInt64.toNat_inj]
      exact Nat.pos_iff_ne_zero
    simp only [small, true_and, ← positive]
    by_cases pos : 0 < value.toUInt32
    · simp [pos]
    · simp [pos]
  · simp [small]

theorem UserId.exists_ofRaw_iff {value : Int64} : (∃ user, ofRaw value = .ok user) ↔ 0 < value := by
  have bound : value.toInt ≤ maxInt64 := value.toInt_le
  rw [Int64.lt_iff_toInt_lt, Int64.toInt_zero]
  unfold ofRaw ofInt?
  by_cases pos : 0 < value.toInt
  · simp [pos, bound]
  · simp [pos]

/-- The word that tells a user's number names that user. -/
theorem UserId.ofRaw_word (user : UserId) : ofRaw (Int64.ofInt user.num) = .ok user := by
  have same := Snapshot.toInt_of_le_max user.le_max
  have range : 0 < (user.num : Int) ∧ (user.num : Int) ≤ maxInt64 :=
    ⟨Int.natCast_pos.2 user.pos, Int.ofNat_le.2 user.le_max⟩
  unfold ofRaw ofInt?
  rw [same, dif_pos range]
  rfl

namespace WireItem

/-- A line names an article and at least one unit, each by 32 bits. -/
def Fits (line : WireItem) : Prop :=
  line.sku.toNat < UInt32.size ∧ line.count.toNat < UInt32.size ∧ line.count ≠ 0

/-- Lines that are told alike are the same. -/
theorem ofItem_injective : Function.Injective ofItem := by
  rintro ⟨⟨sku⟩, ⟨count, _⟩⟩ ⟨⟨other⟩, ⟨units, _⟩⟩ same
  obtain ⟨skus, counts⟩ := WireItem.mk.inj same
  have skuSame := congrArg UInt64.toNat skus
  have countSame := congrArg UInt64.toNat counts
  simp only [UInt32.toNat_toUInt64, UInt32.toNat_inj] at skuSame countSame
  subst skuSame countSame
  rfl

theorem exists_toItem_iff {line : WireItem} : (∃ item, line.toItem = .ok item) ↔ line.Fits := by
  have article : (∃ sku, Sku.ofRaw line.sku = .ok sku) ↔ line.sku.toNat < UInt32.size := by
    rw [← exists_narrow_iff "sku", Sku.ofRaw]
    cases narrow "sku" line.sku <;> simp [Except.map]
  rw [Fits, ← article, ← ItemCount.exists_ofRaw_iff, toItem]
  cases Sku.ofRaw line.sku with
  | error reason => simp
  | ok sku => cases ItemCount.ofRaw line.count <;> simp

/-- Lines are in order exactly if each of them is. -/
theorem exists_toItems_iff {lines : List WireItem} :
    (∃ items, toItems lines = .ok items) ↔ ∀ line ∈ lines, line.Fits := by
  induction lines with
  | nil => exact iff_of_true ⟨_, rfl⟩ (List.forall_mem_nil _)
  | cons line rest ih =>
    rw [List.forall_mem_cons, ← ih, ← exists_toItem_iff, toItems]
    cases line.toItem with
    | error reason => simp
    | ok item => cases toItems rest <;> simp

end WireItem

/-- A request that makes no sense: its user is none, it asks for nothing, or some line of it does
    not fit. -/
def CreateRequest.Malformed (request : CreateRequest) : Prop :=
  request.user ≤ 0 ∨ request.items = [] ∨ ∃ line ∈ request.items, ¬ line.Fits

/-- A request makes sense exactly if it names a user and lines, of which there are some. -/
theorem CreateRequest.not_malformed_iff {request : CreateRequest} :
    ¬ request.Malformed ↔ ∃ user items, UserId.ofRaw request.user = .ok user ∧
      WireItem.toItems request.items = .ok items ∧ items ≠ [] := by
  unfold Malformed
  rw [not_or, not_or, Int64.not_le, ← UserId.exists_ofRaw_iff]
  simp only [not_exists, not_and, not_not]
  rw [← WireItem.exists_toItems_iff]
  have some : ∀ items, WireItem.toItems request.items = .ok items →
      (request.items ≠ [] ↔ items ≠ []) := by
    intro items narrowed
    rw [← WireItem.map_ofItem_of_toItems narrowed, Ne, List.map_eq_nil_iff]
  constructor
  · rintro ⟨⟨user, known⟩, asks, items, narrowed⟩
    exact ⟨user, items, known, narrowed, (some items narrowed).1 asks⟩
  · rintro ⟨user, items, known, narrowed, asks⟩
    exact ⟨⟨user, known⟩, (some items narrowed).2 asks, items, narrowed⟩

/-- An event tells about an order as it is, and waits to be sent. -/
structure Event.TellsOf (told : Order) (event : Event) : Prop where
  order : event.order = told.id
  snapshot : event.snapshot = .ok (.ofOrder told)
  waits : event.processed = false

theorem Tables.tellsOf_eventOf (tables : Tables) (order : Order) (now : Timestamp) :
    (tables.eventOf order now).TellsOf order := by
  have read : (tables.eventOf order now).snapshot =
      Snapshot.ofPayload (Snapshot.ofOrder order).payload := by
    rw [Event.snapshot, eventOf]
  rw [Snapshot.ofPayload_payload] at read
  exact ⟨rfl, read, rfl⟩

/-- The state of an order that stands behind all others is replaced there. -/
theorem Tables.setState_append {orders : List Order} {order : Order}
    (fresh : order.id ∉ orders.map (·.id)) (state : OrderState) :
    setState order.id state (orders ++ [order]) = orders ++ [{ order with state := state }] := by
  have kept : setState order.id state orders = orders := setState_of_notMem fresh
  unfold setState at kept ⊢
  rw [List.map_append, kept]
  simp

namespace Cluster

/-- A shard has given out the last number that an order of it can bear. -/
def Full (cluster : Cluster) (shard : ShardIndex) : Prop :=
  maxInt64 < OrderId.stride * ((cluster.tables shard).orderSequence + 1) + shard.num

/-- A shard takes no order in. -/
def Closed (cluster : Cluster) (shard : ShardIndex) : Prop :=
  ¬ cluster.Healthy shard ∨ cluster.Full shard

/-- What becomes of a cluster that takes an order in, the stock of the inventory apart. -/
structure Entered (order : Order) (before after : Cluster) : Prop where
  next : before.IsNext order.id
  orders : (after.tables order.id.shard).orders = (before.tables order.id.shard).orders ++ [order]
  orderSequence : (after.tables order.id.shard).orderSequence =
    (before.tables order.id.shard).orderSequence + 1
  /-- There are two more events on its shard: the order as it came, and as it is now. -/
  outbox : ∃ entry outcome, (after.tables order.id.shard).outbox =
      (before.tables order.id.shard).outbox ++ [entry, outcome] ∧
    entry.TellsOf { order with state := .new } ∧ outcome.TellsOf order
  outboxSequence : (after.tables order.id.shard).outboxSequence =
    (before.tables order.id.shard).outboxSequence + 2
  /-- Orders and events of the other shards are as they were. -/
  elsewhere : ∀ shard, shard ≠ order.id.shard →
    { after.tables shard with stock := (before.tables shard).stock } = before.tables shard
  stock : ∀ shard, shard ≠ .inventory → (after.tables shard).stock = (before.tables shard).stock

variable {cluster before after : Cluster} {user : UserId} {items : List Item} {id : OrderId}
  {order : Order} {shard : ShardIndex}

/-- A cluster that took an order in is not what it was. -/
theorem Entered.ne (entered : before.Entered order after) : after ≠ before := by
  intro same
  have grown := entered.orderSequence
  rw [same] at grown
  omega

/-- An order that is added under the next number of its shard, and moved on, was taken in. -/
theorem entered_ended (placed : cluster.Placed) (order : Order) (inventory : Inventory)
    (state : OrderState) (new : order.state = .new) (healthy : cluster.Healthy order.id.shard)
    (next : cluster.IsNext order.id) : cluster.Entered { order with state := state }
      (((cluster.addOrder order).setInventory inventory).moveOrder order state) := by
  have present : ((cluster.addOrder order).setInventory inventory).Has order.id.shard :=
    (healthy.added order inventory).has
  have absent : order.id ∉ (cluster.tables order.id.shard).orders.map (·.id) := by
    intro listed
    obtain ⟨other, member, same⟩ := List.mem_map.1 listed
    have found := placed.stored?_next next
    rw [← same, (placed.stored?_of_mem member).2] at found
    cases found
  have here : (((cluster.addOrder order).setInventory inventory).moveOrder order state).tables
      order.id.shard = (((cluster.addOrder order).setInventory inventory).tables
        order.id.shard).updateState order state
          (((cluster.addOrder order).setInventory inventory).now order.id.shard) := by
    rw [tables_moveOrder present, if_pos rfl]
  have added := tables_addOrder healthy.has order.id.shard
  rw [if_pos rfl] at added
  refine ⟨next, ?_, ?_, ?_, ?_, ?_, ?_⟩
  · show Tables.orders (tables _ order.id.shard) = _
    rw [here, Tables.orders_updateState, orders_setInventory, added, Tables.orders_insertOrder]
    exact Tables.setState_append absent state
  · show Tables.orderSequence (tables _ order.id.shard) = _
    rw [here]
    show (tables _ order.id.shard).orderSequence = _
    rw [orderSequence_setInventory, added, Tables.orderSequence_insertOrder]
  · have entry : Event.TellsOf { order with state := .new }
        ((cluster.tables order.id.shard).eventOf order (cluster.now order.id.shard)) := by
      rw [← new]
      exact Tables.tellsOf_eventOf ..
    have outcome := (((cluster.addOrder order).setInventory inventory).tables
      order.id.shard).tellsOf_eventOf { order with state := state }
        (((cluster.addOrder order).setInventory inventory).now order.id.shard)
    refine ⟨_, _, ?_, entry, outcome⟩
    show Tables.outbox (tables _ order.id.shard) = _
    rw [here, Tables.outbox_updateState, outbox_setInventory, added, Tables.outbox_insertOrder,
      List.append_assoc, List.singleton_append]
  · show Tables.outboxSequence (tables _ order.id.shard) = _
    rw [here, Tables.outboxSequence_updateState, outboxSequence_setInventory, added]
    rfl
  · intro shard other
    rw [tables_moveOrder present, if_neg other.symm, tables_setInventory,
      tables_addOrder healthy.has, if_neg other.symm]
    split <;> rfl
  · intro shard other
    rw [tables_moveOrder present]
    have kept : (((cluster.addOrder order).setInventory inventory).tables shard).stock =
        (cluster.tables shard).stock := by
      rw [tables_setInventory, if_neg other.symm, tables_addOrder healthy.has]
      split <;> rfl
    split
    · exact kept
    · exact kept

/-! ## Storing and reserving -/

/-- An order that was stored makes no difference to what a reservation is answered. -/
theorem reserve_addOrder (order : Order) (present : cluster.Has order.id.shard)
    (items : List Item) :
    ((cluster.addOrder order).reserve items).1 = (cluster.reserve items).1 := by
  have permitted : (cluster.addOrder order).permitWrite .inventory .writeStocks =
      cluster.permitWrite .inventory .writeStocks := permitWrite_setTables ..
  unfold reserve adjustStock modifyStock
  rw [permitted, inventory_addOrder present]
  cases Demand.ofItems items with
  | error error => rfl
  | ok demand =>
    simp only
    split
    · rfl
    · cases cluster.permitWrite .inventory .writeStocks with
      | error error => rfl
      | ok _ => cases cluster.inventory.adjusted .reserve demand <;> rfl

/-- A shard that is closed stores no order. -/
theorem createOrder_of_closed (belongs : cluster.router.shardForUser user = shard)
    (closed : cluster.Closed shard) (items : List Item) :
    ∃ error, cluster.createOrder user items = (.error error, cluster) := by
  rw [createOrder_eq belongs]
  split
  · exact ⟨_, rfl⟩
  · rename_i permitted
    have healthy := permitWrite_eq_ok_iff.1 permitted
    have full : cluster.Full shard := closed.resolve_left fun ill => ill healthy
    split
    · exact ⟨_, rfl⟩
    · rename_i id composed
      obtain ⟨-, rfl⟩ := OrderId.num_of_compose composed
      have next := isNext_of_compose composed
      have fits := id.le_max
      unfold Full at full
      unfold IsNext at next
      omega

/-- A shard that is not closed stores an order under its next number. -/
theorem createOrder_of_open (belongs : cluster.router.shardForUser user = shard)
    (opened : ¬ cluster.Closed shard) (items : List Item) :
    ∃ id, id.shard = shard ∧ cluster.Healthy shard ∧ cluster.IsNext id ∧
      cluster.createOrder user items =
        (.ok ⟨id, user, .new, items⟩, cluster.addOrder ⟨id, user, .new, items⟩) := by
  rw [Closed, not_or, not_not, Full, Nat.not_lt] at opened
  obtain ⟨healthy, fits⟩ := opened
  have small : shard.num < OrderId.stride := Nat.lt_of_lt_of_le healthy.has cluster.le_max
  obtain ⟨id, composed, rfl⟩ := OrderId.exists_compose small fits
  refine ⟨id, rfl, healthy, isNext_of_compose composed, ?_⟩
  rw [createOrder_eq belongs]
  simp only [permitWrite_eq_ok_iff.2 healthy, composed]
  rfl

/-- A shard that is closed takes no order in. -/
theorem checkout_of_closed (belongs : cluster.router.shardForUser user = shard)
    (closed : cluster.Closed shard) (items : List Item) :
    ∃ error, cluster.checkout user items = (.error error, cluster) := by
  by_cases empty : items.isEmpty = true
  · exact ⟨_, by rw [checkout, if_pos empty]⟩
  · obtain ⟨error, failed⟩ := createOrder_of_closed belongs closed items
    exact ⟨error, by rw [checkout, if_neg empty, failed]⟩

/-- A shard that is not closed takes an order in, and the checkout ends as the stock answers a
    reservation of the lines. -/
theorem checkout_of_open (placed : cluster.Placed) (asks : items ≠ [])
    (belongs : cluster.router.shardForUser user = shard) (opened : ¬ cluster.Closed shard) :
    let answer := (cluster.checkout user items).1
    let after := (cluster.checkout user items).2
    ∃ id : OrderId, id.shard = shard ∧ cluster.stored? id = none ∧
      ((cluster.reserve items).1 = .ok () ∧ answer = .ok id ∧
          cluster.Entered ⟨id, user, .awaitingPayment, items⟩ after ∧
          Inventory.Gained (fun sku => Item.units sku items) (fun _ => 0) cluster.inventory
            after.inventory ∨
        ∃ reason, (cluster.reserve items).1 = .error reason ∧ answer = .error reason ∧
          cluster.Entered ⟨id, user, .failed, items⟩ after ∧
          after.inventory = cluster.inventory) := by
  obtain ⟨id, rfl, healthy, next, created⟩ := createOrder_of_open belongs opened items
  have same := reserve_addOrder ⟨id, user, .new, items⟩ healthy.has items
  have entered := fun inventory state => entered_ended placed ⟨id, user, .new, items⟩
    inventory state rfl healthy next
  have stock := fun inventory state => inventory_added ⟨id, user, .new, items⟩ inventory
    state healthy
  refine ⟨id, rfl, placed.stored?_next next, ?_⟩
  rcases checkout_of_created placed asks healthy next created with
    ⟨reason, refused, done⟩ | ⟨inventory, reserved, gained, done⟩
  · rw [done]
    exact .inr ⟨reason, same.symm.trans refused, rfl, entered _ _, stock _ _⟩
  · rw [done]
    refine .inl ⟨same.symm.trans reserved, rfl, entered _ _, ?_⟩
    rw [stock]
    exact gained

end Cluster

namespace Facade

variable {cluster : Cluster} {request : CreateRequest}

/-- A malformed request is turned away, whatever the state of the cluster. -/
theorem createOrder_of_malformed (cluster : Cluster) (malformed : request.Malformed) :
    ∃ message, createOrder cluster request = (.error ⟨.invalidArgument, message⟩, cluster) := by
  cases known : UserId.ofRaw request.user with
  | error reason => exact ⟨_, by rw [createOrder, known]; rfl⟩
  | ok user =>
    cases narrowed : WireItem.toItems request.items with
    | error reason => exact ⟨_, by rw [createOrder, known]; simp only [narrowed]; rfl⟩
    | ok items =>
      have nothing : items = [] := by
        by_contra asks
        exact CreateRequest.not_malformed_iff.2 ⟨user, items, known, narrowed, asks⟩ malformed
      rw [nothing] at narrowed
      exact ⟨_, by rw [createOrder_of_narrowed known narrowed]; rfl⟩

/-- A request that makes sense is turned away where the user's shard is closed. -/
theorem createOrder_of_closed {user : UserId} {items : List Item}
    (known : UserId.ofRaw request.user = .ok user)
    (narrowed : WireItem.toItems request.items = .ok items)
    (closed : cluster.Closed (cluster.router.shardForUser user)) :
    ∃ status, createOrder cluster request = (.error status, cluster) := by
  obtain ⟨error, failed⟩ := Cluster.checkout_of_closed rfl closed items
  rw [createOrder_of_narrowed known narrowed, failed]
  exact ⟨_, rfl⟩

/-- A request that makes sense is taken in where the user's shard is open, and ends as the stock
    answers a reservation of its lines. -/
theorem createOrder_of_open {user : UserId} {items : List Item} (placed : cluster.Placed)
    (known : UserId.ofRaw request.user = .ok user)
    (narrowed : WireItem.toItems request.items = .ok items) (asks : items ≠ [])
    (opened : ¬ cluster.Closed (cluster.router.shardForUser user)) :
    let answer := (createOrder cluster request).1
    let after := (createOrder cluster request).2
    ∃ id : OrderId, id.shard = cluster.router.shardForUser user ∧ cluster.stored? id = none ∧
      ((cluster.reserve items).1 = .ok () ∧ answer = .ok ⟨Int64.ofInt id.num⟩ ∧
          cluster.Entered ⟨id, user, .awaitingPayment, items⟩ after ∧
          Inventory.Gained (fun sku => Item.units sku items) (fun _ => 0) cluster.inventory
            after.inventory ∨
        ∃ reason, (cluster.reserve items).1 = .error reason ∧ answer = .error (.ofError reason) ∧
          cluster.Entered ⟨id, user, .failed, items⟩ after ∧
          after.inventory = cluster.inventory) := by
  obtain ⟨id, lies, fresh, outcome⟩ := Cluster.checkout_of_open placed asks rfl opened
  rw [createOrder_of_narrowed known narrowed]
  simp only [answer_snd, answer_fst]
  refine ⟨id, lies, fresh, ?_⟩
  rcases outcome with ⟨granted, told, entered, gained⟩ | ⟨reason, refused, told, entered, kept⟩
  · rw [told]
    exact .inl ⟨granted, rfl, entered, gained⟩
  · rw [told]
    exact .inr ⟨reason, refused, rfl, entered, kept⟩

end Facade

namespace Desk

variable {σ : Type} (publisher : Publisher σ)

/-- A request to create an order ends in one of three ways. In any state that errands from an unused
    store can reach, with any rows in the stock and however the switches stand: the cluster stays as
    it was exactly if the request is malformed, or the primary of the user's shard is out of order,
    or that shard has no number left; the answer is an error then, and blames the request if it is
    malformed. Otherwise one order is stored that was not there before, of the user and with the
    lines that the request names, with two events. If the stock grants the lines, the answer is the
    order's number, the order waits for payment, and every article has the units of its lines
    reserved; if it does not, the answer is its reason, the order has failed, and the stock is as it
    was. -/
theorem creates_in_three_ways {start : Desk σ} (unused : start.cluster.Unused)
    (errands : List Errand) (request : CreateRequest) :
    let now := (start.serveAll publisher errands).cluster
    let answer := (Facade.createOrder now request).1
    let after := (Facade.createOrder now request).2
    (after = now ↔ request.Malformed ∨ ∃ user : UserId, Int64.ofInt user.num = request.user ∧
      (¬ now.Healthy (now.router.shardForUser user) ∨ now.Full (now.router.shardForUser user))) ∧
    (after = now → ∃ status, answer = .error status) ∧
    (request.Malformed → ∃ message, answer = .error ⟨.invalidArgument, message⟩) ∧
    (after ≠ now → ∃ (user : UserId) (items : List Item) (id : OrderId),
      Int64.ofInt user.num = request.user ∧ items.map WireItem.ofItem = request.items ∧
      id.shard = now.router.shardForUser user ∧ now.stored? id = none ∧
      ((now.reserve items).1 = .ok () ∧ answer = .ok ⟨Int64.ofInt id.num⟩ ∧
          now.Entered ⟨id, user, .awaitingPayment, items⟩ after ∧
          Inventory.Gained (fun sku => Item.units sku items) (fun _ => 0) now.inventory
            after.inventory ∨
        ∃ reason, (now.reserve items).1 = .error reason ∧ answer = .error (.ofError reason) ∧
          now.Entered ⟨id, user, .failed, items⟩ after ∧ after.inventory = now.inventory)) := by
  intro now answer after
  have placed : now.Placed := placed_serveAll publisher start errands unused.placed
  by_cases malformed : request.Malformed
  · obtain ⟨message, refused⟩ := Facade.createOrder_of_malformed now malformed
    obtain ⟨told, same⟩ : answer = _ ∧ after = now := Prod.mk.inj refused
    exact ⟨iff_of_true same (.inl malformed), fun _ => ⟨_, told⟩, fun _ => ⟨message, told⟩,
      fun other => absurd same other⟩
  · obtain ⟨user, items, known, narrowed, asks⟩ := CreateRequest.not_malformed_iff.1 malformed
    have word := UserId.word_of_ofRaw known
    by_cases closed : now.Closed (now.router.shardForUser user)
    · obtain ⟨status, refused⟩ := Facade.createOrder_of_closed known narrowed closed
      obtain ⟨told, same⟩ : answer = _ ∧ after = now := Prod.mk.inj refused
      exact ⟨iff_of_true same (.inr ⟨user, word, closed⟩), fun _ => ⟨status, told⟩,
        fun wrong => absurd wrong malformed, fun other => absurd same other⟩
    · obtain ⟨id, lies, fresh, outcome⟩ :=
        Facade.createOrder_of_open placed known narrowed asks closed
      have changed : after ≠ now := by
        rcases outcome with ⟨-, -, entered, -⟩ | ⟨reason, -, -, entered, -⟩
        · exact entered.ne
        · exact entered.ne
      refine ⟨iff_of_false changed ?_, fun same => absurd same changed,
        fun wrong => absurd wrong malformed, fun _ => ⟨user, items, id, word,
          WireItem.map_ofItem_of_toItems narrowed, lies, fresh, outcome⟩⟩
      rintro (wrong | ⟨other, named, closedThere⟩)
      · exact malformed wrong
      · have same := other.ofRaw_word
        rw [named, known] at same
        cases same
        exact closed closedThere

/-- The row of the article promises more than it holds, so that the order fails. -/
theorem creates_in_three_ways_twoShards :
    let now := ((⟨.twoShards, ()⟩ : Desk Unit).serveAll .log [.upsert [⟨⟨7⟩, 1, 9⟩]]).cluster
    let request : CreateRequest := ⟨5, [⟨7, 1⟩, ⟨7, 1⟩]⟩
    let answer := (Facade.createOrder now request).1
    let after := (Facade.createOrder now request).2
    answer = .error (.ofError (.negativeAvailable ⟨7⟩ 1 9)) ∧ ∃ id, now.stored? id = none ∧
      now.Entered ⟨id, ⟨5, by decide, by decide⟩, .failed,
        [⟨⟨7⟩, 1, by decide⟩, ⟨⟨7⟩, 1, by decide⟩]⟩ after := by
  intro now request answer after
  have unused : (⟨.twoShards, ()⟩ : Desk Unit).cluster.Unused := Cluster.unused_twoShards
  obtain ⟨kept, -, -, changed⟩ :=
    creates_in_three_ways .log unused [.upsert [⟨⟨7⟩, 1, 9⟩]] request
  have healthy : now.AllHealthy := Cluster.allHealthy_twoShards.setTables _ _
  have empty : now.Unused := Cluster.unused_twoShards.setInventory ⟨[⟨⟨7⟩, 1, 9⟩]⟩
  have sequence : ∀ shard, (now.tables shard).orderSequence = 0 := by
    intro shard
    rw [empty shard]
    rfl
  have other : after ≠ now := by
    intro same
    rcases kept.1 same with malformed | ⟨user, -, ill | full⟩
    · exact CreateRequest.not_malformed_iff.2 ⟨_, _, rfl, rfl, by decide⟩ malformed
    · exact ill (healthy _ (now.has_shardForUser user))
    · have few : (now.router.shardForUser user).num < 2 := now.has_shardForUser user
      change maxInt64 < OrderId.stride * ((now.tables _).orderSequence + 1) +
        (now.router.shardForUser user).num at full
      rw [sequence, maxInt64, OrderId.stride] at full
      omega
  obtain ⟨user, items, id, word, lines, -, fresh, outcome⟩ := changed other
  have named := user.ofRaw_word
  rw [word] at named
  obtain rfl : (⟨5, by decide, by decide⟩ : UserId) = user := Except.ok.inj named
  obtain rfl : items = [⟨⟨7⟩, 1, by decide⟩, ⟨⟨7⟩, 1, by decide⟩] :=
    List.map_injective_iff.2 WireItem.ofItem_injective lines
  have refused : (now.reserve [⟨⟨7⟩, 1, by decide⟩, ⟨⟨7⟩, 1, by decide⟩]).1 =
      .error (.negativeAvailable ⟨7⟩ 1 9) := rfl
  rcases outcome with ⟨granted, -⟩ | ⟨reason, told, answered, entered, -⟩
  · rw [refused] at granted
    cases granted
  · rw [refused] at told
    cases told
    exact ⟨answered, id, fresh, entered⟩

end Desk

end OrderDesk
