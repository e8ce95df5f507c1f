import OrderDesk.Proofs.Cluster
import OrderDesk.Proofs.Composition
import OrderDesk.Proofs.Inventory
import OrderDesk.Proofs.Tables
import OrderDesk.Reservation

/-!
# What the operations of the store do

Each operation of the store either fails and leaves the cluster as it is, or makes one of three
writes: a new order is added, a stored order is moved, or the inventory is replaced. First stand
the three writes and what they do to each view of the cluster; then, for every operation, when it
fails and which write it makes otherwise.
-/

namespace OrderDesk

namespace Cluster

/-! ## The three writes -/

/-- A cluster with a further order on the shard that the order's number encodes. -/
def addOrder (cluster : Cluster) (order : Order) : Cluster :=
  cluster.setTables order.id.shard
    ((cluster.tables order.id.shard).insertOrder order (cluster.now order.id.shard))

/-- A cluster with a stored order in another state. -/
def moveOrder (cluster : Cluster) (stored : Order) (state : OrderState) : Cluster :=
  cluster.setTables stored.id.shard
    ((cluster.tables stored.id.shard).updateState stored state (cluster.now stored.id.shard))

/-- Every shard numbers its orders in sequence. -/
def Placed (cluster : Cluster) : Prop := ∀ shard, (cluster.tables shard).Numbered shard

/-- Nothing but stock is stored: no order was ever numbered and no event was ever written. -/
def Unused (cluster : Cluster) : Prop :=
  ∀ shard, cluster.tables shard = { Tables.empty with stock := (cluster.tables shard).stock }

/-- A number is the next one of the shard that it encodes. -/
def IsNext (cluster : Cluster) (id : OrderId) : Prop :=
  id.num = OrderId.stride * ((cluster.tables id.shard).orderSequence + 1) + id.shard.num

theorem setTables_self (cluster : Cluster) (shard : ShardIndex) :
    cluster.setTables shard (cluster.tables shard) = cluster := by
  apply eq_of_shards
  apply List.ext_getElem?
  intro i
  rw [setTables, getElem?_modifyShard]
  cases found : cluster.shards[i]? with
  | none => rfl
  | some stored =>
    simp only [Option.map_some, Option.some.injEq]
    split
    · rename_i equal
      subst equal
      simp [tables, found]
    · rfl

/-- Of two writes to the tables of one shard the second counts. -/
theorem setTables_setTables (cluster : Cluster) (shard : ShardIndex) (first second : Tables) :
    (cluster.setTables shard first).setTables shard second = cluster.setTables shard second := by
  apply eq_of_shards
  apply List.ext_getElem?
  intro i
  simp only [setTables, getElem?_modifyShard, Option.map_map]
  refine congrArg (Option.map · _) (funext fun stored => ?_)
  by_cases here : shard.num = i
  · simp [here]
  · simp [here]

theorem setInventory_self (cluster : Cluster) : cluster.setInventory cluster.inventory = cluster :=
  cluster.setTables_self .inventory

theorem Unused.placed {cluster : Cluster} (unused : cluster.Unused) : cluster.Placed := by
  intro shard
  rw [unused shard]
  exact Tables.numbered_empty shard

theorem Unused.everyOrder {cluster : Cluster} (unused : cluster.Unused) :
    cluster.everyOrder = [] := by
  apply List.flatMap_eq_nil_iff.2
  intro shard member
  obtain ⟨i, below, rfl⟩ := List.getElem_of_mem member
  have empty := congrArg Tables.orders (unused ⟨i⟩)
  unfold tables at empty
  rwa [List.getElem?_eq_getElem below] at empty

theorem Unused.stored? {cluster : Cluster} (unused : cluster.Unused) (id : OrderId) :
    cluster.stored? id = none := by
  unfold Cluster.stored?
  rw [unused id.shard]
  rfl

theorem Unused.setInventory {cluster : Cluster} (unused : cluster.Unused) (inventory : Inventory) :
    (cluster.setInventory inventory).Unused := by
  intro shard
  rw [Cluster.setInventory, tables_setTables cluster.has_inventory]
  split
  · rw [unused .inventory]
  · exact unused shard

/-- A cluster that has just been created is unused. -/
theorem unused_create {count : Nat} {hasReplicas : Bool} {clock : ShardIndex → Nat → Timestamp}
    {cluster : Cluster} (h : create count hasReplicas clock = .ok cluster) : cluster.Unused := by
  unfold create at h
  split at h
  · cases h
  · split at h
    · cases h
      intro shard
      unfold tables
      simp only [List.getElem?_map]
      cases (List.range count)[shard.num]? <;> rfl
    · cases h

section Views

variable {cluster : Cluster} {order stored : Order} {state : OrderState} {inventory : Inventory}

theorem tables_addOrder (present : cluster.Has order.id.shard) (shard : ShardIndex) :
    (cluster.addOrder order).tables shard =
      if order.id.shard = shard then (cluster.tables shard).insertOrder order (cluster.now shard)
      else cluster.tables shard := by
  rw [addOrder, tables_setTables present]
  split
  · rename_i same
    rw [same]
  · rfl

theorem tables_moveOrder (present : cluster.Has stored.id.shard) (shard : ShardIndex) :
    (cluster.moveOrder stored state).tables shard =
      if stored.id.shard = shard then
        (cluster.tables shard).updateState stored state (cluster.now shard)
      else cluster.tables shard := by
  rw [moveOrder, tables_setTables present]
  split
  · rename_i same
    rw [same]
  · rfl

theorem tables_setInventory (shard : ShardIndex) :
    (cluster.setInventory inventory).tables shard =
      if ShardIndex.inventory = shard then { cluster.tables shard with stock := inventory }
      else cluster.tables shard := by
  rw [setInventory, tables_setTables cluster.has_inventory]
  split
  · rename_i same
    rw [same]
  · rfl

@[simp] theorem orders_setInventory (shard : ShardIndex) :
    ((cluster.setInventory inventory).tables shard).orders = (cluster.tables shard).orders := by
  rw [tables_setInventory]
  split <;> rfl

@[simp] theorem orderSequence_setInventory (shard : ShardIndex) :
    ((cluster.setInventory inventory).tables shard).orderSequence =
      (cluster.tables shard).orderSequence := by
  rw [tables_setInventory]
  split <;> rfl

@[simp] theorem outbox_setInventory (shard : ShardIndex) :
    ((cluster.setInventory inventory).tables shard).outbox = (cluster.tables shard).outbox := by
  rw [tables_setInventory]
  split <;> rfl

@[simp] theorem inventory_setInventory :
    (cluster.setInventory inventory).inventory = inventory := by
  rw [Cluster.inventory, tables_setInventory, if_pos rfl]

theorem setInventory_setInventory (first second : Inventory) :
    (cluster.setInventory first).setInventory second = cluster.setInventory second := by
  have written : { (cluster.setInventory first).tables .inventory with stock := second } =
      { cluster.tables .inventory with stock := second } := by
    rw [tables_setInventory, if_pos rfl]
  unfold setInventory at written ⊢
  rw [written, setTables_setTables]

theorem inventory_addOrder (present : cluster.Has order.id.shard) :
    (cluster.addOrder order).inventory = cluster.inventory := by
  rw [Cluster.inventory, tables_addOrder present]
  split <;> rfl

theorem inventory_moveOrder (present : cluster.Has stored.id.shard) :
    (cluster.moveOrder stored state).inventory = cluster.inventory := by
  rw [Cluster.inventory, tables_moveOrder present]
  split <;> rfl

@[simp] theorem healthy_addOrder {shard : ShardIndex} :
    (cluster.addOrder order).Healthy shard ↔ cluster.Healthy shard := healthy_setTables ..

@[simp] theorem healthy_setInventory {shard : ShardIndex} :
    (cluster.setInventory inventory).Healthy shard ↔ cluster.Healthy shard := healthy_setTables ..

@[simp] theorem stored?_setInventory (id : OrderId) :
    (cluster.setInventory inventory).stored? id = cluster.stored? id := by
  simp only [stored?, Tables.order?, orders_setInventory]

theorem stored?_addOrder (present : cluster.Has order.id.shard)
    (fresh : cluster.stored? order.id = none) (id : OrderId) :
    (cluster.addOrder order).stored? id =
      if order.id = id then some order else cluster.stored? id := by
  unfold stored? at fresh ⊢
  rw [tables_addOrder present]
  by_cases same : order.id.shard = id.shard
  · rw [if_pos same, Tables.order?, Tables.orders_insertOrder, List.find?_append]
    by_cases equal : order.id = id
    · subst equal
      unfold Tables.order? at fresh
      simp [fresh]
    · simp [equal, Tables.order?]
  · have apart : ¬ order.id = id := fun equal => same (congrArg OrderId.shard equal)
    rw [if_neg same, if_neg apart]

theorem stored?_moveOrder (present : cluster.Has stored.id.shard)
    (found : cluster.stored? stored.id = some stored) (id : OrderId) :
    (cluster.moveOrder stored state).stored? id =
      if stored.id = id then some { stored with state := state } else cluster.stored? id := by
  unfold stored? at found ⊢
  rw [tables_moveOrder present]
  by_cases equal : stored.id = id
  · subst equal
    rw [if_pos rfl, if_pos rfl, Tables.order?, Tables.orders_updateState, Tables.find?_setState]
    unfold Tables.order? at found
    simp [found]
  · rw [if_neg equal]
    by_cases same : stored.id.shard = id.shard
    · rw [if_pos same, Tables.order?, Tables.orders_updateState, Tables.find?_setState]
      refine (Option.map_congr fun order listed => ?_).trans Option.map_id'
      have named := Tables.id_of_order? listed
      exact if_neg fun other => equal (other.symm.trans named)
    · rw [if_neg same]

/-- The units of one state after the tables of a shard were replaced. -/
theorem unitsIn_setTables {shard : ShardIndex} (present : cluster.Has shard) (tables : Tables)
    (state : OrderState) (sku : Sku) :
    Order.unitsIn state sku (cluster.setTables shard tables).everyOrder +
        Order.unitsIn state sku (cluster.tables shard).orders =
      Order.unitsIn state sku cluster.everyOrder + Order.unitsIn state sku tables.orders := by
  have found : cluster.tables shard = (cluster.shards.get ⟨shard.num, present⟩).tables := by
    unfold Cluster.tables
    rw [List.getElem?_eq_getElem present]
    rfl
  rw [found]
  unfold everyOrder setTables modifyShard
  simp only [List.get_eq_getElem]
  unfold Has at present
  -- A list of any length with a place in it, as the bounds of a cluster would not survive the
  -- induction.
  clear found
  generalize cluster.shards = shards at present
  generalize shard.num = i at present
  induction shards generalizing i with
  | nil => cases present
  | cons first rest ih =>
    cases i with
    | zero =>
      simp only [List.modify_zero_cons, List.flatMap_cons, Order.unitsIn_append,
        List.getElem_cons_zero]
      omega
    | succ i =>
      have later := ih i (Nat.lt_of_succ_lt_succ present)
      simp only [List.modify_succ_cons, List.flatMap_cons, Order.unitsIn_append,
        List.getElem_cons_succ]
      omega

theorem unitsIn_addOrder (present : cluster.Has order.id.shard) (state : OrderState) (sku : Sku) :
    Order.unitsIn state sku (cluster.addOrder order).everyOrder =
      Order.unitsIn state sku cluster.everyOrder + order.unitsAs state sku := by
  have written := unitsIn_setTables present
    ((cluster.tables order.id.shard).insertOrder order (cluster.now order.id.shard)) state sku
  rw [Tables.orders_insertOrder, Order.unitsIn_append, Order.unitsIn_cons] at written
  rw [addOrder]
  simp only [Order.unitsIn_nil] at written
  omega

theorem unitsIn_moveOrder (placed : cluster.Placed) (present : cluster.Has stored.id.shard)
    (found : cluster.stored? stored.id = some stored) (next state : OrderState) (sku : Sku) :
    Order.unitsIn state sku (cluster.moveOrder stored next).everyOrder + stored.unitsAs state sku =
      Order.unitsIn state sku cluster.everyOrder +
        { stored with state := next : Order }.unitsAs state sku := by
  have written := unitsIn_setTables present
    ((cluster.tables stored.id.shard).updateState stored next (cluster.now stored.id.shard)) state
      sku
  have moved := Tables.unitsIn_setState (placed stored.id.shard).nodup (Tables.mem_of_order? found)
    next state sku
  rw [Tables.orders_updateState] at written
  rw [moveOrder]
  omega

theorem unitsIn_setInventory (state : OrderState) (sku : Sku) :
    Order.unitsIn state sku (cluster.setInventory inventory).everyOrder =
      Order.unitsIn state sku cluster.everyOrder := by
  have written := unitsIn_setTables cluster.has_inventory
    { cluster.tables .inventory with stock := inventory } state sku
  rw [setInventory]
  exact Nat.add_right_cancel written

theorem Placed.addOrder (placed : cluster.Placed) (present : cluster.Has order.id.shard)
    (next : cluster.IsNext order.id) : (cluster.addOrder order).Placed := by
  intro shard
  rw [tables_addOrder present]
  split
  · rename_i same
    subst same
    exact (placed _).insertOrder next
  · exact placed shard

theorem Placed.moveOrder (placed : cluster.Placed) (present : cluster.Has stored.id.shard) :
    (cluster.moveOrder stored state).Placed := by
  intro shard
  rw [tables_moveOrder present]
  split
  · exact (placed shard).updateState
  · exact placed shard

theorem Placed.setInventory (placed : cluster.Placed) :
    (cluster.setInventory inventory).Placed := by
  intro shard
  unfold Tables.Numbered
  rw [orders_setInventory, orderSequence_setInventory]
  exact placed shard

/-- An order that a shard stores bears a number of that shard, and is found under it. -/
theorem Placed.stored?_of_mem (placed : cluster.Placed) {shard : ShardIndex}
    (member : order ∈ (cluster.tables shard).orders) :
    order.id.shard = shard ∧ cluster.stored? order.id = some order := by
  have present : cluster.Has shard := by
    by_cases present : cluster.Has shard
    · exact present
    · rw [tables_of_not_has present] at member
      cases member
  have small : shard.num < OrderId.stride := Nat.lt_of_lt_of_le present cluster.le_max
  have here := (placed shard).shard_eq small member
  refine ⟨here, ?_⟩
  rw [stored?, here]
  exact Tables.find?_of_mem (placed shard).nodup member

theorem Placed.stored?_next (placed : cluster.Placed) {id : OrderId} (next : cluster.IsNext id) :
    cluster.stored? id = none :=
  (placed id.shard).order?_next next

/-- The next number of a shard is not that of an order that is stored. -/
theorem Placed.ne_of_next (placed : cluster.Placed) {next id : OrderId}
    (fresh : cluster.IsNext next) (found : cluster.stored? id = some stored) : next ≠ id := by
  rintro rfl
  rw [placed.stored?_next fresh] at found
  cases found

end Views

/-- Two shards with replicas that hold five units of one article, two of them promised. -/
def twoShards : Cluster :=
  setInventory ⟨[.empty (fun _ => ⟨0⟩) true, .empty (fun _ => ⟨0⟩) true], by decide, by decide⟩
    ⟨[⟨⟨7⟩, 5, 2⟩]⟩

theorem inventory_twoShards : twoShards.inventory = ⟨[⟨⟨7⟩, 5, 2⟩]⟩ := inventory_setInventory

theorem unused_twoShards : twoShards.Unused := by
  have created : create 2 true (fun _ _ => ⟨0⟩) =
      .ok ⟨[.empty (fun _ => ⟨0⟩) true, .empty (fun _ => ⟨0⟩) true], by decide, by decide⟩ := rfl
  exact (unused_create created).setInventory _

theorem sound_twoShards : twoShards.inventory.Sound := by
  rw [inventory_twoShards]
  exact Inventory.sound_of_rows (by decide)

/-! ## The operations -/

/-- How an order is stored, once the user's shard is given. The shard is a variable here, as the
    hash that it comes from must never be computed in a proof. -/
theorem createOrder_eq {cluster : Cluster} {user : UserId} {shard : ShardIndex}
    (h : cluster.router.shardForUser user = shard) (items : List Item) :
    cluster.createOrder user items =
      match cluster.permitWrite shard .insertOrder with
      | .error error => (.error (.storage error), cluster)
      | .ok () =>
        match OrderId.compose ((cluster.tables shard).orderSequence + 1) shard with
        | .error reason => (.error (.invalidInput reason), cluster)
        | .ok id =>
          (.ok ⟨id, user, .new, items⟩, cluster.setTables shard
            ((cluster.tables shard).insertOrder ⟨id, user, .new, items⟩ (cluster.now shard))) := by
  unfold createOrder
  rewrite [h]
  rfl

/-- The number that is composed for the next place of a shard is the next one of that shard. -/
theorem isNext_of_compose {cluster : Cluster} {id : OrderId} (composed : OrderId.compose
    ((cluster.tables id.shard).orderSequence + 1) id.shard = .ok id) : cluster.IsNext id := by
  have digits := (OrderId.num_of_compose composed).1
  unfold IsNext
  simp only [OrderId.stride] at digits ⊢
  omega

/-- Storing an order fails, or adds a new order under the next number of the user's shard, which
    is healthy. -/
theorem createOrder_cases (cluster : Cluster) (user : UserId) (items : List Item) :
    (∃ error, cluster.createOrder user items = (.error error, cluster)) ∨
      ∃ id, cluster.router.shardForUser user = id.shard ∧ cluster.Healthy id.shard ∧
        cluster.IsNext id ∧ cluster.createOrder user items =
          (.ok ⟨id, user, .new, items⟩, cluster.addOrder ⟨id, user, .new, items⟩) := by
  obtain ⟨shard, belongs⟩ : ∃ shard, cluster.router.shardForUser user = shard := ⟨_, rfl⟩
  rw [createOrder_eq belongs, belongs]
  split
  · exact .inl ⟨_, rfl⟩
  · rename_i permitted
    split
    · exact .inl ⟨_, rfl⟩
    · rename_i id composed
      obtain ⟨-, rfl⟩ := OrderId.num_of_compose composed
      exact .inr ⟨id, rfl, permitWrite_eq_ok_iff.1 permitted, isNext_of_compose composed, rfl⟩

/-- A conditional move goes through on a healthy shard that stores the order in the state
    expected. -/
theorem updateState_of_stored {cluster : Cluster} {order stored : Order} {expected : OrderState}
    (healthy : cluster.Healthy order.id.shard) (found : cluster.stored? order.id = some stored)
    (stands : stored.state = expected) :
    cluster.updateState order expected = (.ok (), cluster.moveOrder stored order.state) := by
  have named := Tables.id_of_order? found
  unfold stored? at found
  unfold updateState
  rw [shardForOrder_eq_ok.2 ⟨healthy.has, rfl⟩]
  simp only [permitWrite_eq_ok_iff.2 healthy, found, stands, if_true, moveOrder, named]

/-- Why a conditional move is refused. -/
inductive Refusal (cluster : Cluster) (order : Order) (expected : OrderState) : Error → Prop where
  /-- The number encodes a shard that is not part of the topology. -/
  | unknownShard (absent : ¬cluster.Has order.id.shard) :
      Refusal cluster order expected (.orderNotFound order.id)
  | unavailable {site : Shard} (there : cluster.shards[order.id.shard.num]? = some site)
      (down : site.primary.unavailable = true) :
      Refusal cluster order expected (.storage (.failure .acquire .unavailable))
  | failing {site : Shard} (there : cluster.shards[order.id.shard.num]? = some site)
      (up : site.primary.unavailable = false) (fails : site.primary.failing = true) :
      Refusal cluster order expected (.storage (.failure .updateOrderState .refused))
  | unknownOrder (healthy : cluster.Healthy order.id.shard)
      (absent : cluster.stored? order.id = none) :
      Refusal cluster order expected (.orderNotFound order.id)
  /-- The order stands in another state; that state is told, and the one that was asked for. -/
  | otherState {stored : Order} (healthy : cluster.Healthy order.id.shard)
      (found : cluster.stored? order.id = some stored) (differs : stored.state ≠ expected) :
      Refusal cluster order expected (.invalidOrderState order.id stored.state order.state)

/-- A conditional move is refused and changes nothing, or it moves the stored order. -/
theorem updateState_outcome (cluster : Cluster) (order : Order) (expected : OrderState) :
    (∃ error, cluster.Refusal order expected error ∧
        cluster.updateState order expected = (.error error, cluster)) ∨
      ∃ stored, cluster.Healthy order.id.shard ∧ cluster.stored? order.id = some stored ∧
        stored.state = expected ∧
        cluster.updateState order expected = (.ok (), cluster.moveOrder stored order.state) := by
  rcases located : cluster.router.shardForOrder order.id with reason | shard
  · refine .inl ⟨_, .unknownShard fun present => ?_, by simp only [updateState, located]⟩
    rw [shardForOrder_eq_ok.2 ⟨present, rfl⟩] at located
    cases located
  · obtain ⟨present, rfl⟩ := shardForOrder_eq_ok.1 located
    have there := List.getElem?_eq_getElem present
    generalize cluster.shards[order.id.shard.num] = site at there
    have permitted := permitWrite_eq there .updateOrderState
    cases down : site.primary.unavailable with
    | true =>
      rw [down, if_pos rfl] at permitted
      exact .inl ⟨_, .unavailable there down, by simp only [updateState, located, permitted]⟩
    | false =>
      cases fails : site.primary.failing with
      | true =>
        rw [down, fails, if_neg Bool.false_ne_true, if_pos rfl] at permitted
        exact .inl ⟨_, .failing there down fails, by simp only [updateState, located, permitted]⟩
      | false =>
        rw [down, fails, if_neg Bool.false_ne_true, if_neg Bool.false_ne_true] at permitted
        have healthy : cluster.Healthy order.id.shard := permitWrite_eq_ok_iff.1 permitted
        cases found : cluster.stored? order.id with
        | none =>
          have looked : (cluster.tables order.id.shard).order? order.id = none := found
          exact .inl ⟨_, .unknownOrder healthy found,
            by simp only [updateState, located, permitted, looked]⟩
        | some stored =>
          have looked : (cluster.tables order.id.shard).order? order.id = some stored := found
          by_cases stands : stored.state = expected
          · exact .inr ⟨stored, healthy, rfl, stands, updateState_of_stored healthy found stands⟩
          · exact .inl ⟨_, .otherState healthy found stands,
              by simp only [updateState, located, permitted, looked, if_neg stands]⟩

/-- A conditional move fails, or moves an order that is stored in the state expected. -/
theorem updateState_cases (cluster : Cluster) (order : Order) (expected : OrderState) :
    (∃ error, cluster.updateState order expected = (.error error, cluster)) ∨
      ∃ stored, cluster.Healthy order.id.shard ∧ cluster.stored? order.id = some stored ∧
        stored.state = expected ∧
        cluster.updateState order expected = (.ok (), cluster.moveOrder stored order.state) := by
  rcases cluster.updateState_outcome order expected with ⟨error, -, failed⟩ | moved
  · exact .inl ⟨error, failed⟩
  · exact .inr moved

/-- Reading an order for writing finds what a healthy shard stores. -/
theorem order_write_eq_ok_iff {cluster : Cluster} {id : OrderId} {order : Order} :
    cluster.order id .write = .ok order ↔
      cluster.Healthy id.shard ∧ cluster.stored? id = some order := by
  unfold Cluster.order
  by_cases present : cluster.Has id.shard
  · obtain ⟨stored, found⟩ : ∃ stored, cluster.shards[id.shard.num]? = some stored :=
      ⟨_, List.getElem?_eq_getElem present⟩
    rw [shardForOrder_eq_ok.2 ⟨present, rfl⟩]
    simp only [bind_write, Healthy, stored?, found, Option.some.injEq, exists_eq_left']
    rcases stored with ⟨tables, clock, ⟨unavailable, failing⟩, replica⟩
    cases unavailable with
    | true => simp [Faults.none]
    | false =>
      cases failing with
      | true => simp [Cluster.read, Binding.run, Binding.direct, Member.permit, Id.run, Faults.none]
      | false =>
        have looked : cluster.read .readOrder (fun tables => tables.order? id)
            (.direct id.shard ⟨id.shard, .primary, ⟨false, false⟩⟩) =
              .ok ((cluster.tables id.shard).order? id) := rfl
        cases listed : (cluster.tables id.shard).order? id <;>
          simp [looked, listed, Faults.none]
  · have unhealthy : ¬ cluster.Healthy id.shard := fun healthy => present healthy.has
    split
    · simp [unhealthy]
    · rename_i shard located
      exact absurd (shardForOrder_eq_ok.1 located).1 present

/-- Adjusting the stock by order lines fails, or gains exactly the units of the lines. -/
theorem adjustStock_cases (cluster : Cluster) (adjustment : Adjustment) (items : List Item) :
    (∃ error, cluster.adjustStock adjustment items = (.error error, cluster)) ∨
      ∃ inventory,
        Inventory.Gained (fun sku => adjustment.promised * Item.units sku items)
          (fun sku => adjustment.held * Item.units sku items) cluster.inventory inventory ∧
        cluster.adjustStock adjustment items = (.ok (), cluster.setInventory inventory) := by
  unfold adjustStock
  split
  · exact .inl ⟨_, rfl⟩
  · rename_i demand built
    have sums := Demand.sumsUp_ofItems built
    split
    · rename_i empty
      refine .inr ⟨cluster.inventory, ?_, ?_⟩
      · have nothing : demand.lines = [] := List.isEmpty_iff.1 empty
        have zero : ∀ sku, Item.units sku items = 0 := by
          intro sku
          rw [← sums.units, nothing]
          rfl
        simpa [zero] using Inventory.Gained.refl cluster.inventory
      · rw [setInventory_self]
    · unfold modifyStock
      split
      · rename_i refused
        split at refused
        · cases refused
          exact .inl ⟨_, rfl⟩
        · split at refused
          · cases refused
            exact .inl ⟨_, rfl⟩
          · cases refused
      · rename_i rows after done
        split at done
        · cases done
        · split at done
          · cases done
          · rename_i rows changed
            cases done
            exact .inr ⟨_, Inventory.gained_adjusted changed sums, rfl⟩

/-- Adjusting rows by hand fails, or replaces the inventory. -/
theorem modifyStock_cases (cluster : Cluster) (demand : Demand) (adjustment : Adjustment) :
    (∃ error, cluster.modifyStock demand adjustment = (.error error, cluster)) ∨
      ∃ rows inventory,
        cluster.modifyStock demand adjustment = (.ok rows, cluster.setInventory inventory) := by
  unfold modifyStock
  split
  · exact .inl ⟨_, rfl⟩
  · split
    · exact .inl ⟨_, rfl⟩
    · exact .inr ⟨_, _, rfl⟩

theorem upsertStock_of_healthy {cluster : Cluster} (healthy : cluster.Healthy .inventory)
    (stocks : List Stock) :
    cluster.upsertStock stocks =
      (.ok (), cluster.setInventory (cluster.inventory.putAll stocks)) := by
  simp only [upsertStock, permitWrite_eq_ok_iff.2 healthy]

theorem upsertStock_of_not_healthy {cluster : Cluster} (ill : ¬cluster.Healthy .inventory)
    (stocks : List Stock) :
    ∃ error, cluster.upsertStock stocks = (.error (.storage error), cluster) := by
  cases permitted : cluster.permitWrite .inventory .writeStocks with
  | error error => exact ⟨error, by simp only [upsertStock, permitted]⟩
  | ok => exact absurd (permitWrite_eq_ok_iff.1 permitted) ill

/-- Putting rows into the stock fails, or replaces the inventory. -/
theorem upsertStock_cases (cluster : Cluster) (stocks : List Stock) :
    (∃ error, cluster.upsertStock stocks = (.error error, cluster)) ∨
      ∃ inventory, cluster.upsertStock stocks = (.ok (), cluster.setInventory inventory) := by
  by_cases healthy : cluster.Healthy .inventory
  · exact .inr ⟨_, upsertStock_of_healthy healthy stocks⟩
  · obtain ⟨error, failed⟩ := upsertStock_of_not_healthy healthy stocks
    exact .inl ⟨_, failed⟩

end Cluster

end OrderDesk
