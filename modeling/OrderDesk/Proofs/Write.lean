import OrderDesk.Proofs.Store

/-!
# Writes

The three calls of the store that may change something, as data, so that it can be said which of
them went through. A write that fails changes nothing; what one that goes through makes of a
cluster is the relation `Wrote`, which is all that later modules open.
-/

namespace OrderDesk

/-- A call of the store that may change something. -/
inductive Write where
  | create (user : UserId) (items : List Item)
  | adjust (adjustment : Adjustment) (items : List Item)
  /-- Moves an order on from the state in which it was seen. -/
  | move (seen : Order) (next : OrderState)
  deriving DecidableEq, Repr

namespace Write

def perform (cluster : Cluster) : Write → Except Error Unit × Cluster
  | create user items =>
    match cluster.createOrder user items with
    | (.error error, cluster) => (.error error, cluster)
    | (.ok _, cluster) => (.ok (), cluster)
  | adjust adjustment items => cluster.adjustStock adjustment items
  | move seen next => cluster.updateState { seen with state := next } seen.state

/-- Whether a write goes through. -/
def succeeds (cluster : Cluster) (write : Write) : Bool :=
  match (write.perform cluster).1 with
  | .error _ => false
  | .ok () => true

end Write

/-- What a write that goes through makes of a cluster. -/
inductive Wrote (before : Cluster) : Write → Cluster → Prop where
  | create {id : OrderId} {user : UserId} {items : List Item}
      (belongs : before.router.shardForUser user = id.shard) (healthy : before.Healthy id.shard)
      (next : before.IsNext id) :
      Wrote before (.create user items) (before.addOrder ⟨id, user, .new, items⟩)
  | adjust {adjustment : Adjustment} {items : List Item} {inventory : Inventory}
      (gained : Inventory.Gained (fun sku => adjustment.promised * Item.units sku items)
        (fun sku => adjustment.held * Item.units sku items) before.inventory inventory) :
      Wrote before (.adjust adjustment items) (before.setInventory inventory)
  | move {seen stored : Order} {next : OrderState} (healthy : before.Healthy stored.id.shard)
      (named : stored.id = seen.id) (found : before.stored? stored.id = some stored)
      (stands : stored.state = seen.state) :
      Wrote before (.move seen next) (before.moveOrder stored next)

namespace Write

theorem perform_cases (cluster : Cluster) (write : Write) :
    (∃ error, write.perform cluster = (.error error, cluster)) ∨
      ∃ after, write.perform cluster = (.ok (), after) ∧ Wrote cluster write after := by
  cases write with
  | create user items =>
    rcases cluster.createOrder_cases user items with ⟨error, failed⟩ |
      ⟨id, belongs, healthy, next, created⟩
    · exact .inl ⟨error, by rw [perform, failed]⟩
    · exact .inr ⟨_, by rw [perform, created], .create belongs healthy next⟩
  | adjust adjustment items =>
    rcases cluster.adjustStock_cases adjustment items with failed | ⟨inventory, gained, adjusted⟩
    · exact .inl failed
    · exact .inr ⟨_, adjusted, .adjust gained⟩
  | move seen next =>
    rcases cluster.updateState_cases { seen with state := next } seen.state with
      failed | ⟨stored, healthy, found, stands, moved⟩
    · exact .inl failed
    · have named : stored.id = seen.id := Tables.id_of_order? found
      refine .inr ⟨_, moved, .move ?_ named ?_ stands⟩
      · rwa [named]
      · rwa [named]

/-- A write leaves the cluster as it is, or it goes through. -/
theorem succeeds_cases (cluster : Cluster) (write : Write) :
    write.succeeds cluster = false ∧ (write.perform cluster).2 = cluster ∨
      write.succeeds cluster = true ∧ Wrote cluster write (write.perform cluster).2 := by
  unfold succeeds
  rcases write.perform_cases cluster with ⟨error, failed⟩ | ⟨after, done, wrote⟩
  · rw [failed]
    exact .inl ⟨rfl, rfl⟩
  · rw [done]
    exact .inr ⟨rfl, wrote⟩

end Write

namespace Cluster

/-- An order is stored under its number with its user and lines, in whatever state. -/
def Knows (cluster : Cluster) (order : Order) : Prop :=
  ∃ state, cluster.stored? order.id = some { order with state := state }

theorem Knows.stored_eq {cluster : Cluster} {order stored : Order} (known : cluster.Knows order)
    (found : cluster.stored? order.id = some stored) :
    stored = { order with state := stored.state } := by
  obtain ⟨state, present⟩ := known
  rw [present] at found
  cases found
  rfl

/-- An order that stands as it was seen is the order that was seen. -/
theorem Knows.eq {cluster : Cluster} {seen stored : Order} (known : cluster.Knows seen)
    (named : stored.id = seen.id) (found : cluster.stored? stored.id = some stored)
    (stands : stored.state = seen.state) : stored = seen := by
  rw [named] at found
  rw [known.stored_eq found, stands]

theorem knows_of_stored? {cluster : Cluster} {order : Order}
    (found : cluster.stored? order.id = some order) : cluster.Knows order :=
  ⟨order.state, found⟩

end Cluster

namespace Wrote

variable {before after : Cluster} {write : Write}

theorem placed (wrote : Wrote before write after) (placed : before.Placed) : after.Placed := by
  cases wrote with
  | create belongs healthy next => exact placed.addOrder healthy.has next
  | adjust gained => exact placed.setInventory
  | move healthy named found stands => exact placed.moveOrder healthy.has

/-- What a write makes of a stored order: nothing, or it is the order that the write moves. -/
theorem stored? (wrote : Wrote before write after) (placed : before.Placed) {id : OrderId}
    {order : Order} (found : before.stored? id = some order) :
    after.stored? id = some order ∨
      ∃ seen next, write = .move seen next ∧ seen.id = id ∧ seen.state = order.state ∧
        after.stored? id = some { order with state := next } := by
  cases wrote with
  | @create fresh user items belongs healthy next =>
    refine .inl ?_
    have unknown := placed.stored?_next next
    rw [Cluster.stored?_addOrder healthy.has unknown]
    have apart : ¬ fresh = id := placed.ne_of_next next found
    rw [if_neg apart, found]
  | adjust gained =>
    refine .inl ?_
    rw [Cluster.stored?_setInventory, found]
  | @move seen stored next healthy named present stands =>
    rw [Cluster.stored?_moveOrder healthy.has present]
    by_cases same : stored.id = id
    · subst same
      obtain rfl : stored = order := Option.some.inj (present.symm.trans found)
      exact .inr ⟨seen, next, rfl, named.symm, stands.symm, if_pos rfl⟩
    · exact .inl (by rw [if_neg same, found])

/-- An order that was not stored before a write was created by it. -/
theorem stored?_of_none (wrote : Wrote before write after) (placed : before.Placed) {id : OrderId}
    {order : Order} (unknown : before.stored? id = none) (found : after.stored? id = some order) :
    ∃ user items, write = .create user items ∧ order = ⟨id, user, .new, items⟩ := by
  cases wrote with
  | @create fresh user items belongs healthy next =>
    rw [Cluster.stored?_addOrder healthy.has (placed.stored?_next next)] at found
    split at found
    · rename_i same
      subst same
      exact ⟨user, items, rfl, (Option.some.inj found).symm⟩
    · rw [unknown] at found
      cases found
  | adjust gained =>
    rw [Cluster.stored?_setInventory, unknown] at found
    cases found
  | @move seen stored next healthy named present stands =>
    rw [Cluster.stored?_moveOrder healthy.has present] at found
    split at found
    · rename_i same
      subst same
      rw [unknown] at present
      cases present
    · rw [unknown] at found
      cases found

/-- No write changes user or lines of an order. -/
theorem knows (wrote : Wrote before write after) (placed : before.Placed) {order : Order}
    (known : before.Knows order) : after.Knows order := by
  obtain ⟨state, found⟩ := known
  rcases wrote.stored? placed found with kept | ⟨seen, next, -, -, -, moved⟩
  · exact ⟨state, kept⟩
  · exact ⟨next, moved⟩

end Wrote

end OrderDesk
