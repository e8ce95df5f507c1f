import OrderDesk.Proofs.Adjusting
import OrderDesk.Proofs.Conservation
import OrderDesk.Proofs.NoTrace

/-!
# Every waiting order is backed

While an order waits for payment, its lines still add up, each of its articles has a row, and the
row holds the order's units reserved, whatever other orders of the same articles have done since.
So no check of the stock can stop its settlement: once the primaries are healthy, the answer to a
settlement depends on the order alone.
-/

namespace OrderDesk

/-! ## Adjustments that go through -/

namespace Stock

/-- A sound row that has the units reserved lets them go, whichever way. -/
theorem adjust_of_reserved {row : Stock} {units : UInt32} (sound : row.Sound)
    (reserved : units.toNat ≤ row.reserved.toNat) (settlement : Settlement) :
    ∃ after, row.adjust settlement.adjustment units = .ok after := by
  have held := Nat.le_trans reserved (sound_iff.1 sound)
  cases settlement with
  | pay => exact exists_adjust_of_allows ⟨reserved, held⟩
  | cancel => exact exists_adjust_of_allows reserved

end Stock

namespace Demand

theorem le_unitsOn {lines : List (Sku × UInt32)} {line : Sku × UInt32} (member : line ∈ lines) :
    line.2.toNat ≤ unitsOn line.1 lines := by
  induction lines with
  | nil => cases member
  | cons first rest ih =>
    rw [unitsOn_cons]
    rcases List.mem_cons.1 member with rfl | later
    · simp
    · exact Nat.le_add_left_of_le (ih later)

end Demand

namespace Inventory

/-- Order lines add up, and each of their articles has a row. -/
def Covers (inventory : Inventory) (items : List Item) : Prop :=
  ∃ demand, Demand.ofItems items = .ok demand ∧
    ∀ sku ∈ demand.skus, (inventory.get? sku).isSome = true

/-- A sense in which an inventory backs lines, and that holds on whatever the inventory gains. -/
def Lasting (Backs : Inventory → List Item → Prop) : Prop :=
  ∀ (reserved total : Sku → Int) (before after : Inventory) (items : List Item),
    Gained reserved total before after → Backs before items → Backs after items

theorem lasting_covers : Lasting Covers := by
  rintro reserved total before after items gained ⟨demand, built, rows⟩
  exact ⟨demand, built, fun sku member => (gained.isSome_get? sku).trans (rows sku member)⟩

/-- The articles asked for are all found exactly if each of them has a row. -/
theorem requireAll_eq_ok_iff {inventory : Inventory} {skus : List Sku} :
    requireAll skus (inventory.rowsOf skus) = .ok () ↔
      ∀ sku ∈ skus, (inventory.get? sku).isSome = true := by
  unfold requireAll
  split
  · rename_i missing absent
    refine iff_of_false (fun equal => nomatch equal) fun rows => ?_
    have member := List.mem_of_find?_eq_some absent
    have gone := List.find?_some absent
    simp [any_rowsOf inventory member, rows missing member] at gone
  · rename_i none
    refine iff_of_true rfl fun sku member => ?_
    rw [← any_rowsOf inventory member]
    simpa using List.find?_eq_none.1 none sku member

theorem exists_adjustRows {adjustment : Adjustment} {rows : List Stock}
    {lines : List (Sku × UInt32)}
    (each : ∀ line ∈ lines, ∃ row after, rows.find? (·.sku = line.1) = some row ∧
      row.adjust adjustment line.2 = .ok after) :
    ∃ adjusted, adjustRows adjustment rows lines = .ok adjusted := by
  induction lines with
  | nil => exact ⟨[], rfl⟩
  | cons line rest ih =>
    obtain ⟨⟨row, after, found, changed⟩, others⟩ := List.forall_mem_cons.1 each
    obtain ⟨adjusted, went⟩ := ih others
    exact ⟨after :: adjusted, by simp only [adjustRows, found, changed, went]⟩

/-- A demand can be adjusted if the row of each of its articles can be. -/
theorem exists_adjusted {inventory : Inventory} {adjustment : Adjustment} {demand : Demand}
    (each : ∀ line ∈ demand.lines, ∃ row after, inventory.get? line.1 = some row ∧
      row.adjust adjustment line.2 = .ok after) :
    ∃ rows, inventory.adjusted adjustment demand = .ok rows := by
  have all : ∀ sku ∈ demand.skus, (inventory.get? sku).isSome = true := by
    intro sku member
    obtain ⟨line, listed, rfl⟩ := List.mem_map.1 member
    obtain ⟨row, after, found, -⟩ := each line listed
    rw [found]
    rfl
  unfold adjusted
  simp only [requireAll_eq_ok_iff.2 all]
  refine exists_adjustRows fun line member => ?_
  have listed : line.1 ∈ demand.skus := List.mem_map_of_mem member
  rw [find?_rowsOf, if_pos listed]
  exact each line member

/-- Where a demand was adjusted, each of its articles has a row. -/
theorem isSome_of_adjusted {inventory : Inventory} {adjustment : Adjustment} {demand : Demand}
    {rows : List Stock} (h : inventory.adjusted adjustment demand = .ok rows) :
    ∀ sku ∈ demand.skus, (inventory.get? sku).isSome = true := by
  unfold adjusted at h
  simp only at h
  split at h
  · cases h
  · rename_i all
    exact requireAll_eq_ok_iff.1 all

end Inventory

namespace Cluster

variable {cluster after : Cluster} {adjustment : Adjustment} {items : List Item}

/-- Stock can only be adjusted by lines that add up, and whose articles have rows. -/
theorem covers_of_adjustStock (done : cluster.adjustStock adjustment items = (.ok (), after)) :
    cluster.inventory.Covers items := by
  unfold adjustStock at done
  split at done
  · cases done
  · rename_i demand built
    refine ⟨demand, built, ?_⟩
    split at done
    · rename_i empty
      have nothing : demand.lines = [] := List.isEmpty_iff.1 empty
      simp [Demand.skus, nothing]
    · unfold modifyStock at done
      rcases changed : cluster.inventory.adjusted adjustment demand with error | rows
      · simp only [changed] at done
        split at done
        · cases done
        · rename_i refused
          split at refused <;> cases refused
      · exact Inventory.isSome_of_adjusted changed

/-- Giving an order up is never a success. -/
theorem giveUp_ne_ok (cluster : Cluster) (order : Order) (reason : Error) (id : OrderId) :
    (cluster.giveUp order reason).1 ≠ .ok id := by
  unfold giveUp
  split
  · exact fun equal => nomatch equal
  · split
    · exact fun equal => nomatch equal
    · exact fun equal => nomatch equal

/-- A checkout that goes through has reserved its lines. -/
theorem exists_reserved_of_checkout {user : UserId} {id : OrderId}
    (done : (cluster.checkout user items).1 = .ok id) : ∃ before after : Cluster,
      before.inventory = cluster.inventory ∧ before.adjustStock .reserve items =
        (.ok (), after) := by
  unfold checkout at done
  split at done
  · cases done
  · rcases cluster.createOrder_cases user items with
      ⟨error, failed⟩ | ⟨number, -, healthy, -, created⟩
    · rw [failed] at done
      cases done
    · rw [created] at done
      simp only [reserve] at done
      rcases reserved : (cluster.addOrder ⟨number, user, .new, items⟩).adjustStock .reserve items
        with ⟨reason | _, changed⟩
      · simp only [reserved] at done
        exact absurd done (giveUp_ne_ok changed _ reason id)
      · exact ⟨_, changed, inventory_addOrder healthy.has, reserved⟩

theorem covers_of_checkout {user : UserId} {id : OrderId}
    (done : (cluster.checkout user items).1 = .ok id) : cluster.inventory.Covers items := by
  obtain ⟨before, after, same, reserved⟩ := exists_reserved_of_checkout done
  rw [← same]
  exact covers_of_adjustStock reserved

/-- Stock is adjusted on a healthy shard if the row of each article can be. -/
theorem exists_adjustStock (healthy : cluster.Healthy .inventory) {demand : Demand}
    (built : Demand.ofItems items = .ok demand)
    (each : ∀ line ∈ demand.lines, ∃ row after, cluster.inventory.get? line.1 = some row ∧
      row.adjust adjustment line.2 = .ok after) :
    ∃ after, cluster.adjustStock adjustment items = (.ok (), after) := by
  obtain ⟨rows, changed⟩ := Inventory.exists_adjusted each
  unfold adjustStock modifyStock
  simp only [built, permitWrite_eq_ok_iff.2 healthy, changed]
  split
  · exact ⟨_, rfl⟩
  · exact ⟨_, rfl⟩

/-! ## Orders that wait -/

/-- The stock backs the lines of every order that waits for payment, in some sense of backing. -/
def Backed (Backs : Inventory → List Item → Prop) (cluster : Cluster) : Prop :=
  ∀ id order, cluster.stored? id = some order → order.state = .awaitingPayment →
    Backs cluster.inventory order.items

/-- The lines of every order that waits for payment are covered. -/
def Covered (cluster : Cluster) : Prop :=
  ∀ id order, cluster.stored? id = some order → order.state = .awaitingPayment →
    cluster.inventory.Covers order.items

section Backed

variable {Backs : Inventory → List Item → Prop}

theorem Unused.backed (unused : cluster.Unused) : cluster.Backed Backs := by
  intro id order found
  rw [unused.stored?] at found
  cases found

theorem Backed.marks {before : Cluster} (backed : before.Backed Backs)
    (same : SameButMarks before after) : after.Backed Backs := by
  intro id order found
  rw [same.stored?] at found
  rw [same.inventory]
  exact backed id order found

variable (lasting : Inventory.Lasting Backs)

include lasting

/-- Where a checkout goes through only for lines that are backed, it leaves all that wait backed. -/
theorem Backed.checkout (backed : cluster.Backed Backs) (placed : cluster.Placed) (user : UserId)
    (items : List Item)
    (granted : ∀ id, (cluster.checkout user items).1 = .ok id → Backs cluster.inventory items) :
    (cluster.checkout user items).2.Backed Backs := by
  rcases checkout_cases placed user items with
    ⟨error, failed⟩ | ⟨id, inventory, state, answer, -, -, healthy, next, outcome, done⟩
  · rw [failed]
    exact backed
  · rw [done] at granted ⊢
    intro other order found waits
    rw [inventory_added ⟨id, user, .new, items⟩ inventory state healthy]
    rw [stored?_ended _ inventory state placed healthy next] at found
    have grows : ∃ reserved total, Inventory.Gained reserved total cluster.inventory inventory := by
      rcases outcome with ⟨-, -, gained⟩ | ⟨-, -, rfl⟩
      · exact ⟨_, _, gained⟩
      · exact ⟨_, _, .refl _⟩
    obtain ⟨reserved, total, gained⟩ := grows
    split at found
    · obtain rfl := Option.some.inj found
      rcases outcome with ⟨-, rfl, -⟩ | ⟨rfl, -, -⟩
      · exact lasting _ _ _ _ _ gained (granted id rfl)
      · cases waits
    · exact lasting _ _ _ _ _ gained (backed other order found waits)

theorem Backed.settle (backed : cluster.Backed Backs) (settlement : Settlement) (id : OrderId) :
    (cluster.settle settlement id).2.Backed Backs := by
  rcases cluster.settle_cases settlement id with
    ⟨error, failed⟩ | ⟨stored, inventory, healthy, listed, -, gained, done⟩
  · rw [failed]
    exact backed
  · obtain rfl : stored.id = id := Tables.id_of_order? listed
    rw [done]
    intro other order found waits
    rw [inventory_settled stored inventory settlement.target healthy]
    rw [stored?_settled stored inventory settlement.target healthy listed] at found
    split at found
    · obtain rfl := Option.some.inj found
      cases settlement <;> cases waits
    · exact lasting _ _ _ _ _ gained (backed other order found waits)

end Backed

theorem Unused.covered (unused : cluster.Unused) : cluster.Covered := unused.backed

theorem Covered.checkout (covered : cluster.Covered) (placed : cluster.Placed) (user : UserId)
    (items : List Item) : (cluster.checkout user items).2.Covered :=
  Backed.checkout Inventory.lasting_covers covered placed user items fun _ => covers_of_checkout

theorem Covered.settle (covered : cluster.Covered) (settlement : Settlement) (id : OrderId) :
    (cluster.settle settlement id).2.Covered :=
  Backed.settle Inventory.lasting_covers covered settlement id

theorem Covered.marks {before : Cluster} (covered : before.Covered)
    (same : SameButMarks before after) :
    after.Covered :=
  Backed.marks covered same

/-- An order that is found by its number is among all orders. -/
theorem mem_everyOrder {id : OrderId} {order : Order} (found : cluster.stored? id = some order) :
    order ∈ cluster.everyOrder := by
  have member := Tables.mem_of_order? found
  unfold tables at member
  split at member
  · cases member
  · rename_i shard there
    exact List.mem_flatMap.2 ⟨shard, List.mem_of_getElem? there, member⟩

/-- The units of an order are among those of all orders in its state. -/
theorem units_le_unitsIn {id : OrderId} {order : Order} (found : cluster.stored? id = some order)
    (sku : Sku) :
    Item.units sku order.items ≤ Order.unitsIn order.state sku cluster.everyOrder := by
  obtain ⟨early, late, split⟩ := List.append_of_mem (mem_everyOrder found)
  rw [split, Order.unitsIn_append, Order.unitsIn_cons, Order.unitsAs, if_pos rfl]
  omega

/-- The units of an order that waits for payment are among those that are reserved. -/
theorem Balanced.units_le_reserved {start : Cluster} (balanced : Balanced start cluster)
    {id : OrderId} {order : Order} (found : cluster.stored? id = some order)
    (waits : order.state = .awaitingPayment) {sku : Sku} {row : Stock}
    (there : cluster.inventory.get? sku = some row) :
    Item.units sku order.items ≤ row.reserved.toNat := by
  obtain ⟨first, -, gained⟩ := Inventory.Gained.exists_before balanced there
  have all := units_le_unitsIn found sku
  have promised := gained.reserved
  rw [waits] at all
  omega

/-- The stock lets go of the units of an order that waits for payment. -/
theorem Covered.exists_adjustStock {start : Cluster} (covered : cluster.Covered)
    (balanced : Balanced start cluster) (sound : start.inventory.Sound)
    (healthy : cluster.Healthy .inventory) {id : OrderId} {order : Order}
    (found : cluster.stored? id = some order) (waits : order.state = .awaitingPayment)
    (settlement : Settlement) :
    ∃ after, cluster.adjustStock settlement.adjustment order.items = (.ok (), after) := by
  obtain ⟨demand, built, rows⟩ := covered id order found waits
  have sums := Demand.sumsUp_ofItems built
  refine Cluster.exists_adjustStock healthy built fun line member => ?_
  obtain ⟨row, there⟩ := Option.isSome_iff_exists.1 (rows line.1 (List.mem_map_of_mem member))
  obtain ⟨first, seeded, gained⟩ := Inventory.Gained.exists_before balanced there
  have units : line.2.toNat ≤ row.reserved.toNat := by
    have among := Demand.le_unitsOn member
    rw [sums.units] at among
    exact Nat.le_trans among (balanced.units_le_reserved found waits there)
  obtain ⟨after, adjusted⟩ := Stock.adjust_of_reserved
    (gained.sound (sound line.1 first seeded)) units settlement
  exact ⟨row, after, there, adjusted⟩

/-! ## What a settlement answers -/

/-- Every shard has a healthy primary. -/
def AllHealthy (cluster : Cluster) : Prop := ∀ shard, cluster.Has shard → cluster.Healthy shard

theorem AllHealthy.setTables (healthy : cluster.AllHealthy) (shard : ShardIndex) (tables : Tables) :
    (cluster.setTables shard tables).AllHealthy := by
  intro other present
  refine (healthy_setTables ..).2 (healthy other ?_)
  rwa [Has, Cluster.setTables, length_modifyShard] at present

/-- A checkout harms no primary. -/
theorem AllHealthy.checkout (healthy : cluster.AllHealthy) (placed : cluster.Placed) (user : UserId)
    (items : List Item) : (cluster.checkout user items).2.AllHealthy := by
  rcases checkout_cases placed user items with
    ⟨error, failed⟩ | ⟨id, inventory, state, answer, -, -, -, -, -, done⟩
  · rw [failed]
    exact healthy
  · rw [done]
    have added : (cluster.addOrder ⟨id, user, .new, items⟩).AllHealthy := healthy.setTables _ _
    have reserved :
        ((cluster.addOrder ⟨id, user, .new, items⟩).setInventory inventory).AllHealthy :=
      added.setTables _ _
    exact reserved.setTables _ _

/-- On a healthy shard an order is read for writing as it is stored. -/
theorem order_write_of_healthy {id : OrderId} (healthy : cluster.Healthy id.shard) :
    cluster.order id .write = match cluster.stored? id with
      | none => .error (.orderNotFound id)
      | some order => .ok order := by
  have present := healthy.has
  obtain ⟨shard, there, fine⟩ := healthy
  have bound : cluster.bind id.shard .write =
      .ok (.direct id.shard ⟨id.shard, .primary, .none⟩) := by
    rw [bind_write, there, ← fine]
    simp [fine, Faults.none]
  have looked : cluster.read .readOrder (fun tables => tables.order? id)
      (.direct id.shard ⟨id.shard, .primary, .none⟩) = .ok (cluster.stored? id) := rfl
  unfold order
  rw [shardForOrder_eq_ok.2 ⟨present, rfl⟩]
  simp only [bound, looked]
  cases cluster.stored? id <;> rfl

/-- A number whose shard is not part of the topology finds no order. -/
theorem order_of_not_has {id : OrderId} (absent : ¬ cluster.Has id.shard) (intent : Intent) :
    cluster.order id intent = .error (.orderNotFound id) := by
  unfold order
  split
  · rfl
  · rename_i shard located
    exact absurd (shardForOrder_eq_ok.1 located).1 absent

/-- A settlement of an order that waits for payment is answered what the stock answers. -/
theorem settle_of_waiting {id : OrderId} {order : Order} (healthy : cluster.Healthy id.shard)
    (found : cluster.stored? id = some order) (waits : order.state = .awaitingPayment)
    (settlement : Settlement) : (cluster.settle settlement id).1 =
      (cluster.adjustStock settlement.adjustment order.items).1 := by
  have loaded := order_write_of_healthy healthy
  rw [found] at loaded
  obtain rfl : order.id = id := Tables.id_of_order? found
  have allowed := Order.transition_of_waiting waits settlement
  simp only [settle, loaded, allowed]
  rcases answer : cluster.adjustStock settlement.adjustment order.items with ⟨error | _, after⟩
  · rfl
  · exact updateState_of_adjusted loaded allowed answer

/-- While the primaries are healthy, the answer to a settlement depends on the order alone. -/
theorem settle_eq {start : Cluster} (covered : cluster.Covered) (balanced : Balanced start cluster)
    (sound : start.inventory.Sound) (healthy : cluster.AllHealthy) (settlement : Settlement)
    (id : OrderId) :
    (cluster.settle settlement id).1 =
      match cluster.stored? id with
      | none => .error (.orderNotFound id)
      | some order =>
        if order.state = .awaitingPayment then .ok ()
        else .error (.invalidOrderState id order.state settlement.target) := by
  by_cases present : cluster.Has id.shard
  · have loaded := order_write_of_healthy (healthy id.shard present)
    cases found : cluster.stored? id with
    | none =>
      rw [found] at loaded
      simp only [settle, loaded]
    | some order =>
      rw [found] at loaded
      obtain rfl : order.id = id := Tables.id_of_order? found
      by_cases waits : order.state = .awaitingPayment
      · obtain ⟨after, adjusted⟩ := covered.exists_adjustStock balanced sound
          (healthy .inventory cluster.has_inventory) found waits settlement
        rw [settle_of_waiting (healthy order.id.shard present) found waits, adjusted]
        exact (if_pos waits).symm
      · simp only [settle, loaded, Order.transition_of_not_waiting waits, if_neg waits]
  · simp only [settle, order_of_not_has present, stored?_of_not_has present]

end Cluster

namespace Desk

variable {σ : Type} (publisher : Publisher σ)

/-- What is backed at the checkout stays backed until the settlement. -/
theorem backed_run {Backs : Inventory → List Item → Prop} (lasting : Inventory.Lasting Backs)
    (granted : ∀ {cluster : Cluster} {user : UserId} {items : List Item} {id : OrderId},
      (cluster.checkout user items).1 = .ok id → Backs cluster.inventory items)
    (desk : Desk σ) (actions : List Action) (placed : desk.cluster.Placed)
    (backed : desk.cluster.Backed Backs) :
    (desk.run publisher actions).2.cluster.Backed Backs := by
  refine (run_keeps ?_ ?_ ?_ desk actions placed backed).2
  · intro cluster user items placed backed
    exact backed.checkout lasting placed user items fun _ => granted
  · intro cluster settlement id _ backed
    exact backed.settle lasting settlement id
  · intro before after same backed
    exact backed.marks same

theorem covered_run (desk : Desk σ) (actions : List Action) (placed : desk.cluster.Placed)
    (covered : desk.cluster.Covered) : (desk.run publisher actions).2.cluster.Covered :=
  backed_run publisher Inventory.lasting_covers Cluster.covers_of_checkout desk actions
    placed covered

/-- No order is ever stuck. After any session that starts with sound stock and no orders, under any
    faults and whatever the publisher answers: once every primary is healthy again, an order that
    waits for payment can be paid and can be cancelled. An order in another state answers that it
    cannot be moved from there, and any other number, also one that encodes no shard, answers that
    there is no such order. There is no other answer. -/
theorem settles_exactly {start : Desk σ} (unused : start.cluster.Unused)
    (sound : start.cluster.inventory.Sound) (actions : List Action)
    (healthy : (start.run publisher actions).2.cluster.AllHealthy)
    (settlement : Settlement) (id : OrderId) :
    let now := (start.run publisher actions).2.cluster
    (now.settle settlement id).1 =
      match now.stored? id with
      | none => .error (.orderNotFound id)
      | some order =>
        if order.state = .awaitingPayment then .ok ()
        else .error (.invalidOrderState id order.state settlement.target) :=
  Cluster.settle_eq (covered_run publisher start actions unused.placed unused.covered)
    (balanced_run publisher start actions unused.placed unused.balanced) sound healthy settlement id

/-- The primary of a shard fails and comes back before an order is placed. -/
theorem settles_exactly_twoShards :
    let now := ((⟨.twoShards, ()⟩ : Desk Unit).run .log [.setPrimary ⟨1⟩ ⟨true, false⟩,
      .setPrimary ⟨1⟩ .none, .checkout ⟨1, by decide, by decide⟩ [⟨⟨7⟩, 1, by decide⟩]]).2.cluster
    (now.pay ⟨1001, by decide, by decide⟩).1 =
      match now.stored? ⟨1001, by decide, by decide⟩ with
      | none => .error (.orderNotFound ⟨1001, by decide, by decide⟩)
      | some order =>
        if order.state = .awaitingPayment then .ok ()
        else .error (.invalidOrderState ⟨1001, by decide, by decide⟩ order.state .payed) := by
  have unused : (⟨.twoShards, ()⟩ : Desk Unit).cluster.Unused := Cluster.unused_twoShards
  have recovered :
      ((Cluster.twoShards.setPrimary ⟨1⟩ ⟨true, false⟩).setPrimary ⟨1⟩ .none).AllHealthy := by
    rintro ⟨i⟩ present
    match i, present with
    | 0, _ => exact ⟨_, rfl, rfl⟩
    | 1, _ => exact ⟨_, rfl, rfl⟩
  have placed : ((Cluster.twoShards.setPrimary ⟨1⟩ ⟨true, false⟩).setPrimary ⟨1⟩ .none).Placed :=
    (Cluster.sameButMarks_setPrimary ..).placed
      ((Cluster.sameButMarks_setPrimary ..).placed Cluster.unused_twoShards.placed)
  intro now
  have healthy : now.AllHealthy := by
    simp only [now, run_cons, run_nil, perform_setPrimary, perform_checkout]
    exact recovered.checkout placed _ _
  exact settles_exactly .log unused Cluster.sound_twoShards _ healthy .pay _

end Desk

end OrderDesk
