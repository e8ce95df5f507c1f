import OrderDesk.Proofs.Booking
import OrderDesk.Proofs.Readable

/-!
# What is promised can be given back or taken out

Units that were just promised can be given back, which leaves the stock as it was before the
promise, or they can be taken out, which leaves the reserved units as they were before. Rows may be
corrupt: a reservation goes through only where it meets sound rows, and what it leaves there lets
both ways pass.
-/

namespace OrderDesk

namespace Stock

variable {row promised before after : Stock} {units : UInt32} {reserved total : Int}

/-- Units are promised on sound rows only. -/
theorem sound_of_reserve (done : row.reserve units = .ok promised) : row.Sound := by
  unfold reserve available at done
  by_cases sound : row.reserved ≤ row.total
  · exact sound
  · rw [if_neg sound] at done
    cases done

/-- On a sound row the units that are left change by what is held more and what is reserved less. -/
theorem Gained.available (gained : Gained reserved total before after) (sound : before.Sound) :
    ∃ free left, before.available = .ok free ∧ after.available = .ok left ∧
      (left.toNat : Int) = free.toNat + total - reserved := by
  have stays := gained.sound sound
  refine ⟨before.total - before.reserved, after.total - after.reserved, if_pos sound,
    if_pos stays, ?_⟩
  have below := sound_iff.1 sound
  have belowAfter := sound_iff.1 stays
  have moreReserved := gained.reserved
  have moreHeld := gained.total
  rw [UInt32.toNat_sub_of_le _ _ sound, UInt32.toNat_sub_of_le _ _ stays]
  omega

end Stock

namespace Inventory

variable {inventory promised before after : Inventory} {items others : List Item}
  {reserved total : Sku → Int}

/-- The units that are left of an article change by its gain, if its row is sound or gains
    nothing. -/
theorem Gained.availableOf (gained : Gained reserved total before after)
    (sound : ∀ sku row, before.get? sku = some row →
      row.Sound ∨ reserved sku = 0 ∧ total sku = 0) (sku : Sku) :
    match before.availableOf sku with
    | .error error => after.availableOf sku = .error error
    | .ok free => ∃ left, after.availableOf sku = .ok left ∧
        (left.toNat : Int) = free.toNat + total sku - reserved sku := by
  rw [Cluster.availableOf_eq, Cluster.availableOf_eq]
  cases found : before.get? sku with
  | none =>
    rw [gained.get?_eq_none found]
  | some row =>
    rcases sound sku row found with fine | ⟨noneReserved, noneHeld⟩
    · obtain ⟨now, there, gains⟩ := gained.get? found
      obtain ⟨free, left, was, is, exact⟩ := gains.available fine
      simp only [there, was, is]
      exact ⟨left, rfl, exact⟩
    · rw [gained.get?_eq_of_zero noneReserved noneHeld, found]
      simp only
      cases row.available with
      | error error => rfl
      | ok free => exact ⟨free, rfl, by omega⟩

/-- A reservation that goes through has promised the units of its lines on sound rows. -/
theorem reserved_of_adjustedBy (done : inventory.adjustedBy .reserve items = .ok promised) :
    Item.AddUp items ∧ inventory.Adjusted .reserve items promised := by
  have addUp : Item.AddUp items := by
    by_contra excess
    obtain ⟨sku, refused⟩ := inventory.adjustedBy_of_not_addUp .reserve excess
    rw [refused] at done
    cases done
  refine ⟨addUp, ?_⟩
  rcases inventory.adjustedBy_cases .reserve addUp with
    ⟨sku, -, lacking⟩ | ⟨-, ⟨sku, error, -, -, refused⟩ | ⟨-, after, went, adjusted⟩⟩
  · rw [lacking] at done
    cases done
  · rw [refused] at done
    cases done
  · rw [went] at done
    cases done
    exact adjusted

/-- Lines add up, and each of their articles has a sound row. -/
def Secures (inventory : Inventory) (items : List Item) : Prop :=
  Item.AddUp items ∧ ∀ sku ∈ items.map (·.sku), ∃ row, inventory.get? sku = some row ∧ row.Sound

theorem lasting_secures : Lasting Secures := by
  rintro reserved total before after items gained ⟨addUp, rows⟩
  refine ⟨addUp, fun sku asked => ?_⟩
  obtain ⟨row, there, sound⟩ := rows sku asked
  obtain ⟨now, found, gains⟩ := gained.get? there
  exact ⟨now, found, gains.sound sound⟩

theorem secures_of_reserve (done : inventory.adjustedBy .reserve items = .ok promised) :
    inventory.Secures items := by
  obtain ⟨addUp, adjusted⟩ := reserved_of_adjustedBy done
  refine ⟨addUp, fun sku asked => ?_⟩
  obtain ⟨row, _, there, reserves, -⟩ := (adjusted sku).1 asked
  exact ⟨row, there, Stock.sound_of_reserve reserves⟩

/-- Secure lines can be settled either way where their units are reserved. -/
theorem Secures.exists_settled (secures : inventory.Secures items)
    (reserved : ∀ sku row, inventory.get? sku = some row →
      Item.units sku items ≤ row.reserved.toNat)
    (settlement : Settlement) :
    ∃ left, inventory.adjustedBy settlement.adjustment items = .ok left := by
  obtain ⟨addUp, rows⟩ := secures
  rcases inventory.adjustedBy_cases settlement.adjustment addUp with
    ⟨sku, ⟨⟨asked, absent⟩, -⟩, -⟩ |
      ⟨-, ⟨sku, error, -, ⟨asked, row, there, refused⟩, -⟩ | ⟨-, left, went, -⟩⟩
  · obtain ⟨row, there, -⟩ := rows sku asked
    rw [absent] at there
    cases there
  · obtain ⟨other, same, sound⟩ := rows sku asked
    rw [there] at same
    cases same
    have enough := reserved sku row there
    rw [← Item.toNat_sum addUp] at enough
    obtain ⟨left, settles⟩ := Stock.adjust_of_reserved sound enough settlement
    rw [refused] at settles
    cases settles
  · exact ⟨left, went⟩

/-- What a reservation has promised can be settled either way, by any lines with the same sums. -/
theorem exists_settled (done : inventory.adjustedBy .reserve items = .ok promised)
    (same : ∀ sku, Item.units sku others = Item.units sku items) (settlement : Settlement) :
    ∃ left, promised.adjustedBy settlement.adjustment others = .ok left := by
  obtain ⟨-, gained⟩ := adjustedBy_eq_ok done
  have secures := secures_of_reserve done
  rw [adjustedBy_congr same secures.1]
  apply (lasting_secures _ _ _ _ _ gained secures).exists_settled
  intro sku row there
  obtain ⟨before, -, gains⟩ := gained.exists_before there
  have more := gains.reserved
  simp only [Adjustment.promised] at more
  omega

/-- What was promised and then settled leaves the reserved units as they were, and of the held units
    it takes those that the settlement takes. -/
theorem gained_of_settled (done : inventory.adjustedBy .reserve items = .ok promised)
    (same : ∀ sku, Item.units sku others = Item.units sku items) {settlement : Settlement}
    (settled : promised.adjustedBy settlement.adjustment others = .ok after) :
    InPlace inventory after ∧
      Gained (fun _ => 0) (fun sku => settlement.adjustment.held * Item.units sku items)
        inventory after := by
  obtain ⟨stays, promise⟩ := adjustedBy_eq_ok done
  obtain ⟨staysToo, loss⟩ := adjustedBy_eq_ok settled
  refine ⟨stays.trans staysToo, (promise.trans loss).congr (fun sku => ?_) fun sku => ?_⟩
  · have back : settlement.adjustment.promised = -1 := by cases settlement <;> rfl
    have forth : Adjustment.reserve.promised = 1 := rfl
    rw [same, back, forth]
    omega
  · rw [same]
    simp [Adjustment.held]

/-- Giving back what was promised restores the inventory. -/
theorem adjustedBy_cancel_of_reserve (done : inventory.adjustedBy .reserve items = .ok promised)
    (same : ∀ sku, Item.units sku others = Item.units sku items) :
    promised.adjustedBy .cancel others = .ok inventory := by
  obtain ⟨left, settled⟩ := exists_settled done same .cancel
  obtain ⟨stays, gained⟩ := gained_of_settled done same settled
  have unchanged : Gained (fun _ => 0) (fun _ => 0) inventory left :=
    gained.congr (fun _ => rfl) fun sku => by simp [Settlement.adjustment, Adjustment.held]
  have restored : left = inventory :=
    stays.eq_of_get? (.refl inventory) (unchanged.get?_eq (.refl inventory))
  rw [← restored]
  exact settled

/-- A row of an article that was reserved is sound, before and after. -/
theorem Adjusted.sound (adjusted : inventory.Adjusted .reserve items promised) (sku : Sku) :
    (∀ row, inventory.get? sku = some row → row.Sound ∨ Item.units sku items = 0) ∧
      ∀ row, promised.get? sku = some row → row.Sound ∨ Item.units sku items = 0 := by
  by_cases asked : sku ∈ items.map (·.sku)
  · obtain ⟨row, after, there, reserves, now⟩ := (adjusted sku).1 asked
    have sound := Stock.sound_of_reserve reserves
    constructor
    · intro other found
      rw [there] at found
      cases found
      exact .inl sound
    · intro other found
      rw [now] at found
      cases found
      exact .inl ((Stock.gained_reserve reserves).sound sound)
  · have none : Item.units sku items = 0 :=
      Nat.eq_zero_of_not_pos fun pos => asked (Item.units_pos_iff.1 pos)
    exact ⟨fun _ _ => .inr none, fun _ _ => .inr none⟩

/-- A reservation lowers the units that are left of an article by those of its lines. -/
theorem availableOf_of_reserve (done : inventory.adjustedBy .reserve items = .ok promised)
    (sku : Sku) :
    match inventory.availableOf sku with
    | .error error => promised.availableOf sku = .error error
    | .ok free => ∃ fewer, promised.availableOf sku = .ok fewer ∧
        fewer.toNat + Item.units sku items = free.toNat := by
  obtain ⟨-, promise⟩ := adjustedBy_eq_ok done
  obtain ⟨-, adjusted⟩ := reserved_of_adjustedBy done
  have told := promise.availableOf (fun sku row there => ((adjusted.sound sku).1 row there).imp id
    fun none => by simp [none]) sku
  cases was : inventory.availableOf sku with
  | error error => simpa only [was] using told
  | ok free =>
    simp only [was] at told
    obtain ⟨fewer, now, exact⟩ := told
    refine ⟨fewer, now, ?_⟩
    simp only [Adjustment.promised, Adjustment.held] at exact
    omega

/-- Taking out what was promised leaves the units that are left of every article. -/
theorem availableOf_of_consume (done : inventory.adjustedBy .reserve items = .ok promised)
    (same : ∀ sku, Item.units sku others = Item.units sku items)
    (consumed : promised.adjustedBy .remove others = .ok after) (sku : Sku) :
    after.availableOf sku = promised.availableOf sku := by
  obtain ⟨-, loss⟩ := adjustedBy_eq_ok consumed
  obtain ⟨-, adjusted⟩ := reserved_of_adjustedBy done
  have told := loss.availableOf (fun sku row there => ((adjusted.sound sku).2 row there).imp id
    fun none => by simp [same, none]) sku
  cases was : promised.availableOf sku with
  | error error => simpa only [was] using told
  | ok free =>
    simp only [was] at told
    obtain ⟨left, now, exact⟩ := told
    simp only [Adjustment.promised, Adjustment.held] at exact
    have equal : left = free := UInt32.toNat_inj.1 (by omega)
    rw [now, equal]

end Inventory

namespace Cluster

variable {cluster after : Cluster} {items others : List Item}

/-- An adjustment that goes through has no lines, or the stock took it on a healthy primary. -/
theorem adjustStock_eq_ok {adjustment : Adjustment}
    (done : cluster.adjustStock adjustment items = (.ok (), after)) :
    items = [] ∧ after = cluster ∨
      cluster.Healthy .inventory ∧ ∃ inventory,
        cluster.inventory.adjustedBy adjustment items = .ok inventory ∧
          after = cluster.setInventory inventory := by
  by_cases healthy : cluster.Healthy .inventory
  · refine .inr ⟨healthy, ?_⟩
    rw [adjustStock_eq healthy] at done
    cases went : cluster.inventory.adjustedBy adjustment items with
    | error error =>
      rw [went] at done
      cases done
    | ok inventory =>
      rw [went] at done
      exact ⟨inventory, rfl, (congrArg Prod.snd done).symm⟩
  · refine .inl ?_
    unfold adjustStock at done
    split at done
    · cases done
    · rename_i demand built
      split at done
      · rename_i empty
        have nothing : demand.lines = [] := List.isEmpty_iff.1 empty
        have unasked : ∀ item ∈ items, False := by
          intro item member
          have listed := (Demand.mem_skus_iff built).2 (List.mem_map_of_mem member)
          rw [Demand.skus, nothing] at listed
          cases listed
        exact ⟨List.eq_nil_iff_forall_not_mem.2 unasked, (congrArg Prod.snd done).symm⟩
      · have refused : cluster.permitWrite .inventory .writeStocks ≠ .ok () :=
          fun permitted => healthy (permitWrite_eq_ok_iff.1 permitted)
        unfold modifyStock at done
        cases answer : cluster.permitWrite .inventory .writeStocks with
        | ok => exact absurd answer refused
        | error error =>
          rw [answer] at done
          cases done

/-- An adjustment of an inventory that was put there, on a healthy primary. -/
theorem adjustStock_of_setInventory {inventory left : Inventory} {adjustment : Adjustment}
    (healthy : cluster.Healthy .inventory)
    (done : inventory.adjustedBy adjustment items = .ok left) :
    (cluster.setInventory inventory).adjustStock adjustment items =
      (.ok (), cluster.setInventory left) := by
  rw [adjustStock_eq (healthy_setInventory.2 healthy), inventory_setInventory, done]
  simp only [setInventory_setInventory]

/-- Lines with the sums of no lines are no lines. -/
theorem eq_nil_of_units (none : ∀ sku, Item.units sku others = 0) : others = [] := by
  refine List.eq_nil_iff_forall_not_mem.2 fun item member => ?_
  have asked := Item.units_pos_iff.2 (List.mem_map_of_mem (f := (·.sku)) member)
  rw [none] at asked
  cases asked

/-- What was promised can be given back or taken out. Lines were reserved on any cluster, whatever
    its rows and its faults, and other lines have the same sums. Then giving the other lines back
    goes through and leaves exactly the cluster of before the reservation; and taking them out goes
    through and leaves, of each article, the units reserved as they were before and the units held
    less by those of the lines. A reservation lowers the units that are left of an article by those
    of its lines; taking them out does not change them any more. -/
theorem reservations_round_trip (reserved : cluster.reserve items = (.ok (), after))
    (same : ∀ sku, Item.units sku others = Item.units sku items) :
    after.release others = (.ok (), cluster) ∧
    (∃ left, after.consume others = (.ok (), left) ∧
      (∃ inventory, left = cluster.setInventory inventory) ∧
      (∀ sku, cluster.inventory.get? sku = none → left.inventory.get? sku = none) ∧
      (∀ sku row, cluster.inventory.get? sku = some row →
        ∃ now, left.inventory.get? sku = some now ∧
        now.reserved = row.reserved ∧
        now.total.toNat + Item.units sku items = row.total.toNat) ∧
      ∀ sku, left.available sku = after.available sku) ∧
    (∀ sku ∈ items.map (·.sku), ∃ free, cluster.available sku = .ok free) ∧
    ∀ sku,
      match cluster.available sku with
      | .error error => after.available sku = .error error
      | .ok free => ∃ fewer, after.available sku = .ok fewer ∧
          fewer.toNat + Item.units sku items = free.toNat := by
  obtain ⟨rfl, unchanged⟩ | ⟨healthy, promised, done, rfl⟩ := adjustStock_eq_ok reserved
  · -- Nothing was reserved, and the storage, which may be down, is not asked at all.
    obtain rfl : others = [] := eq_nil_of_units same
    rw [unchanged]
    refine ⟨rfl, ⟨cluster, rfl, ⟨_, cluster.setInventory_self.symm⟩, fun _ absent => absent,
      fun _ row found => ⟨row, found, rfl, rfl⟩, fun _ => rfl⟩, List.forall_mem_nil _,
        fun sku => ?_⟩
    cases cluster.available sku with
    | error error => rfl
    | ok free => exact ⟨free, rfl, rfl⟩
  · obtain ⟨left, consumed⟩ := Inventory.exists_settled done same .pay
    have release := adjustStock_of_setInventory healthy
      (Inventory.adjustedBy_cancel_of_reserve done same)
    rw [setInventory_self] at release
    obtain ⟨-, gained⟩ := Inventory.gained_of_settled done same consumed
    refine ⟨release, ⟨_, adjustStock_of_setInventory healthy consumed, ⟨left, rfl⟩,
      fun sku absent => ?_, fun sku row found => ?_, fun sku => ?_⟩, ?_, ?_⟩
    · rw [inventory_setInventory]
      exact gained.get?_eq_none absent
    · rw [inventory_setInventory]
      obtain ⟨now, there, gains⟩ := gained.get? found
      have sameReserved := gains.reserved
      have lessHeld := gains.total
      have taken : Settlement.pay.adjustment.held = -1 := rfl
      rw [taken] at lessHeld
      exact ⟨now, there, UInt32.toNat_inj.1 (by omega), by omega⟩
    · rw [available_eq (healthy_setInventory.2 healthy),
        available_eq (healthy_setInventory.2 healthy), inventory_setInventory,
        inventory_setInventory]
      exact Inventory.availableOf_of_consume done same consumed sku
    · intro sku asked
      obtain ⟨row, _, there, reserves, -⟩ :=
        ((Inventory.reserved_of_adjustedBy done).2 sku).1 asked
      rw [available_eq healthy, availableOf_eq, there]
      exact ⟨_, if_pos (Stock.sound_of_reserve reserves)⟩
    · intro sku
      rw [available_eq healthy, available_eq (healthy_setInventory.2 healthy),
        inventory_setInventory]
      exact Inventory.availableOf_of_reserve done sku

/-- Three units are reserved on two lines, and one line asks for as many. -/
theorem reservations_round_trip_twoShards :
    let items : List Item := [⟨⟨7⟩, 1, by decide⟩, ⟨⟨7⟩, 2, by decide⟩]
    let others : List Item := [⟨⟨7⟩, 3, by decide⟩]
    ∃ after, twoShards.reserve items = (.ok (), after) ∧
      after.release others = (.ok (), twoShards) ∧
      ∃ left now, after.consume others = (.ok (), left) ∧ left.inventory.get? ⟨7⟩ = some now ∧
        now.reserved = 2 ∧ now.total.toNat = 2 := by
  intro items others
  have reserved : twoShards.reserve items =
      (.ok (), twoShards.setInventory ⟨[⟨⟨7⟩, 5, 5⟩]⟩) := by
    rw [reserve, adjustStock_eq allHealthy_twoShards.inventory, inventory_twoShards]
    rfl
  have same : ∀ sku, Item.units sku others = Item.units sku items := by
    intro sku
    simp only [items, others, Item.units_cons, Item.units_nil, Item.unitsOf]
    split <;> rfl
  have there : twoShards.inventory.get? ⟨7⟩ = some ⟨⟨7⟩, 5, 2⟩ := by
    rw [inventory_twoShards]
    rfl
  obtain ⟨released, ⟨left, consumed, -, -, rows, -⟩, -⟩ := reservations_round_trip reserved same
  obtain ⟨now, found, sameReserved, lessHeld⟩ := rows ⟨7⟩ _ there
  exact ⟨_, reserved, released, left, now, consumed, found, sameReserved,
    Nat.add_right_cancel (m := 3) lessHeld⟩

end Cluster

end OrderDesk
