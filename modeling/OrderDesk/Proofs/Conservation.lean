import OrderDesk.Proofs.Session
import OrderDesk.Publisher.Log

/-!
# Conservation of stock

The stock and the orders lie on different shards and are changed in separate steps, so that they
agree is no matter of course. After every session they do: of each article the units reserved
since the start are those of the orders that wait for payment, and the units that have left are
those of the orders that were paid.
-/

namespace OrderDesk

namespace Cluster

/-- The stock of a cluster is that of the start but for what the orders say: units of orders that
    wait for payment are reserved, and units of paid orders are gone. -/
def Balanced (start now : Cluster) : Prop :=
  Inventory.Gained (fun sku => Order.unitsIn .awaitingPayment sku now.everyOrder)
    (fun sku => -Order.unitsIn .payed sku now.everyOrder) start.inventory now.inventory

theorem Unused.balanced {cluster : Cluster} (unused : cluster.Unused) :
    Balanced cluster cluster := by
  unfold Balanced
  rw [unused.everyOrder]
  exact .refl cluster.inventory

section Steps

variable {start before after : Cluster}

theorem Balanced.marks (balanced : Balanced start before) (same : SameButMarks before after) :
    Balanced start after := by
  unfold Balanced at balanced ⊢
  rwa [same.everyOrder, same.inventory]

/-- A stock that gains what the orders say stays in balance. -/
theorem Balanced.gain {reserved total : Sku → Int} (balanced : Balanced start before)
    (gained : Inventory.Gained reserved total before.inventory after.inventory)
    (waiting : ∀ sku, (Order.unitsIn .awaitingPayment sku after.everyOrder : Int) =
      Order.unitsIn .awaitingPayment sku before.everyOrder + reserved sku)
    (paid : ∀ sku, (Order.unitsIn .payed sku after.everyOrder : Int) =
      Order.unitsIn .payed sku before.everyOrder - total sku) : Balanced start after := by
  apply (Inventory.Gained.trans balanced gained).congr
  · intro sku
    exact (waiting sku).symm
  · intro sku
    rw [paid sku]
    omega

theorem Balanced.checkout (balanced : Balanced start before) (placed : before.Placed)
    (user : UserId) (items : List Item) : Balanced start (before.checkout user items).2 := by
  rcases checkout_cases placed user items with
    ⟨error, failed⟩ | ⟨id, inventory, state, answer, -, -, healthy, next, outcome, done⟩
  · rw [failed]
    exact balanced
  · rw [done]
    have units := unitsIn_added ⟨id, user, .new, items⟩ inventory state placed healthy next
    have kept := inventory_added ⟨id, user, .new, items⟩ inventory state healthy
    rcases outcome with ⟨rfl, -, gained⟩ | ⟨rfl, -, rfl⟩
    · refine balanced.gain (by rwa [kept]) ?_ ?_
      · intro sku
        rw [units]
        simp [Order.unitsAs]
      · intro sku
        rw [units]
        simp [Order.unitsAs]
    · refine balanced.gain (by rw [kept]; exact .refl _) ?_ ?_
      · intro sku
        rw [units]
        simp [Order.unitsAs]
      · intro sku
        rw [units]
        simp [Order.unitsAs]

theorem Balanced.settle (balanced : Balanced start before) (placed : before.Placed)
    (settlement : Settlement) (id : OrderId) : Balanced start (before.settle settlement id).2 := by
  rcases before.settle_cases settlement id with
    ⟨error, failed⟩ | ⟨order, inventory, healthy, found, waiting, gained, done⟩
  · rw [failed]
    exact balanced
  · rw [done]
    obtain rfl : order.id = id := Tables.id_of_order? found
    have kept := inventory_settled order inventory settlement.target healthy
    refine balanced.gain (by rwa [kept]) ?_ ?_
    · intro sku
      have units := unitsIn_settled order inventory settlement.target placed healthy found
        .awaitingPayment sku
      cases settlement <;>
        simp [Order.unitsAs, waiting, Settlement.target, Settlement.adjustment,
          Adjustment.promised] at units ⊢ <;>
        omega
    · intro sku
      have units := unitsIn_settled order inventory settlement.target placed healthy
        found .payed sku
      cases settlement <;>
        simp [Order.unitsAs, waiting, Settlement.target, Settlement.adjustment,
          Adjustment.held] at units ⊢ <;>
        omega

end Steps

end Cluster

namespace Desk

variable {σ : Type} (publisher : Publisher σ)

theorem balanced_run {start : Cluster} (desk : Desk σ) (actions : List Action)
    (placed : desk.cluster.Placed) (balanced : Cluster.Balanced start desk.cluster) :
    Cluster.Balanced start (desk.run publisher actions).2.cluster := by
  refine (run_keeps ?_ ?_ ?_ desk actions placed balanced).2
  · intro cluster user items placed balanced
    exact balanced.checkout placed user items
  · intro cluster settlement id placed balanced
    exact balanced.settle placed settlement id
  · intro before after same balanced
    exact balanced.marks same

/-- Stock is conserved. After any session that starts with sound stock and no orders, under any
    faults and whatever the publisher answers: an article has as many more units reserved than at
    the start as the orders that wait for payment ask for, it has lost as many units as the paid
    orders asked for, its row is sound, and no row came or went. As the session is any list of
    actions, this holds after every call. -/
theorem stock_conserved {start : Desk σ} (unused : start.cluster.Unused)
    (sound : start.cluster.inventory.Sound) (actions : List Action) (sku : Sku) :
    let now := (start.run publisher actions).2.cluster
    (now.inventory.get? sku).isSome = (start.cluster.inventory.get? sku).isSome ∧
      ∀ row, start.cluster.inventory.get? sku = some row →
        ∃ left, now.inventory.get? sku = some left ∧
          (left.reserved.toNat : Int) =
            row.reserved.toNat + Order.unitsIn .awaitingPayment sku now.everyOrder ∧
          (left.total.toNat : Int) =
            row.total.toNat - Order.unitsIn .payed sku now.everyOrder ∧
          left.reserved ≤ left.total := by
  intro now
  have balanced := balanced_run publisher start actions unused.placed unused.balanced
  refine ⟨Inventory.Gained.isSome_get? balanced sku, ?_⟩
  intro row found
  obtain ⟨left, has, gained⟩ := Inventory.Gained.get? balanced found
  exact ⟨left, has, gained.reserved, gained.total, gained.sound (sound sku row found)⟩

theorem stock_conserved_twoShards :
    let now := ((⟨.twoShards, ()⟩ : Desk Unit).run .log
      [.checkout ⟨1, by decide, by decide⟩ [⟨⟨7⟩, 1, by decide⟩], .setPrimary ⟨1⟩ ⟨true, false⟩,
        .tick ⟨"orders", 10⟩]).2.cluster
    ∃ left, now.inventory.get? ⟨7⟩ = some left ∧
      (left.reserved.toNat : Int) = 2 + Order.unitsIn .awaitingPayment ⟨7⟩ now.everyOrder ∧
      (left.total.toNat : Int) = 5 - Order.unitsIn .payed ⟨7⟩ now.everyOrder ∧
      left.reserved ≤ left.total := by
  have seeded : Cluster.twoShards.inventory.get? ⟨7⟩ = some ⟨⟨7⟩, 5, 2⟩ := by
    rw [Cluster.inventory_twoShards]
    rfl
  have unused : (⟨.twoShards, ()⟩ : Desk Unit).cluster.Unused := Cluster.unused_twoShards
  exact (stock_conserved .log unused Cluster.sound_twoShards _ ⟨7⟩).2 _ seeded

end Desk

end OrderDesk
