import OrderDesk.Proofs.Traffic

/-!
# The ledger of the stock under traffic

While calls are in flight, orders and stock need not agree: a call adjusts the stock first and
moves its order later, and between the two another call may have moved the order or a database
may have failed. What is off is exactly what such calls still owe, whether they are under way or
have ended. So the stock is accounted for at every step of every interleaving.
-/

namespace OrderDesk

/-- The state in which an order stands whose stock was adjusted, once the call has gone well. -/
def Adjustment.goal : Adjustment → OrderState
  | reserve => .awaitingPayment
  | remove => .payed
  | cancel => .cancelled

/-- The units of an article that a write adjusted in one way. -/
def Write.adjusted (adjustment : Adjustment) (sku : Sku) : Write → Nat
  | adjust other items => if other = adjustment then Item.units sku items else 0
  | _ => 0

/-- The units that a call has adjusted in one way although it has not moved its order to the
    state that goes with it: not yet, or it was refused, or a database failed. -/
def Flight.due (adjustment : Adjustment) (sku : Sku) (flight : Flight) : Nat :=
  if flight.moved adjustment.goal then 0 else (flight.deeds.map (Write.adjusted adjustment sku)).sum

namespace Traffic

/-- The units that calls have adjusted in one way without moving their orders. -/
def due (adjustment : Adjustment) (sku : Sku) (traffic : Traffic) : Nat :=
  (traffic.flights.map (Flight.due adjustment sku)).sum

/-- The stock differs from that of the start by what the stored orders say and what calls owe. -/
def Balanced (start : Cluster) (now : Traffic) : Prop :=
  Inventory.Gained
    (fun sku => Order.unitsIn .awaitingPayment sku now.cluster.everyOrder + now.due .reserve sku
      - now.due .remove sku - now.due .cancel sku)
    (fun sku => -Order.unitsIn .payed sku now.cluster.everyOrder - now.due .remove sku)
    start.inventory now.cluster.inventory

variable {start : Cluster} {before after : Traffic}

theorem balanced_on (unused : start.Unused) : Balanced start (on start) := by
  unfold Balanced on
  rw [unused.everyOrder]
  exact .refl start.inventory

/-- A stock that gains what orders and calls say stays in balance. -/
theorem Balanced.gain {reserved total : Sku → Int} (balanced : Balanced start before)
    (gained : Inventory.Gained reserved total before.cluster.inventory after.cluster.inventory)
    (promised : ∀ sku, (Order.unitsIn .awaitingPayment sku after.cluster.everyOrder : Int) +
        after.due .reserve sku - after.due .remove sku - after.due .cancel sku =
      Order.unitsIn .awaitingPayment sku before.cluster.everyOrder +
        before.due .reserve sku - before.due .remove sku - before.due .cancel sku + reserved sku)
    (held : ∀ sku, (Order.unitsIn .payed sku after.cluster.everyOrder : Int) +
        after.due .remove sku =
      Order.unitsIn .payed sku before.cluster.everyOrder + before.due .remove sku - total sku) :
    Balanced start after := by
  apply (Inventory.Gained.trans balanced gained).congr
  · intro sku
    exact (promised sku).symm
  · intro sku
    have paid := held sku
    omega

theorem due_split {early late : List Flight} {flight : Flight} {traffic : Traffic}
    (there : traffic.flights = early ++ flight :: late) (adjustment : Adjustment) (sku : Sku) :
    traffic.due adjustment sku = flight.due adjustment sku +
      ((early.map (Flight.due adjustment sku)).sum +
        (late.map (Flight.due adjustment sku)).sum) := by
  rw [due, there, List.map_append, List.map_cons, List.sum_append, List.sum_cons]
  omega

section Wrote

variable {before after : Cluster}

/-- A move that goes through takes the units that its caller has seen along. -/
theorem unitsIn_moved {seen : Order} {next : OrderState}
    (wrote : Wrote before (.move seen next) after) (placed : before.Placed)
    (known : before.Knows seen) (state : OrderState) (sku : Sku) :
    Order.unitsIn state sku after.everyOrder + seen.unitsAs state sku =
      Order.unitsIn state sku before.everyOrder +
        { seen with state := next : Order }.unitsAs state sku := by
  cases wrote with
  | @move _ stored _ healthy named found stands =>
    obtain rfl : stored = seen := known.eq named found stands
    exact Cluster.unitsIn_moveOrder placed healthy.has found next state sku

theorem inventory_moved {seen : Order} {next : OrderState}
    (wrote : Wrote before (.move seen next) after) : after.inventory = before.inventory := by
  cases wrote with
  | move healthy named found stands => exact Cluster.inventory_moveOrder healthy.has

end Wrote

/-- What a write that goes through gains the stock, and how it changes what stored orders and the
    call that made it account for. -/
theorem exists_gained {before after : Cluster} {flight : Flight} {write : Write}
    (sits : flight.Sits before) (planned : flight.call.write? = some write)
    (placed : before.Placed) (wrote : Wrote before write after) (call : Call) :
    ∃ reserved total : Sku → Int,
      Inventory.Gained reserved total before.inventory after.inventory ∧ ∀ sku,
        let moved : Flight := { flight with call := call, deeds := flight.deeds ++ [write] }
        (Order.unitsIn .awaitingPayment sku after.everyOrder : Int) +
            moved.due .reserve sku - moved.due .remove sku - moved.due .cancel sku =
          Order.unitsIn .awaitingPayment sku before.everyOrder +
            flight.due .reserve sku - flight.due .remove sku - flight.due .cancel sku +
            reserved sku ∧
        (Order.unitsIn .payed sku after.everyOrder : Int) + moved.due .remove sku =
          Order.unitsIn .payed sku before.everyOrder + flight.due .remove sku - total sku := by
  -- The state in which a caller saw its order says which of the sums a move shifts; that the order
  -- still stands there is the guard of the move.
  cases sits with
  | storing user items =>
    cases planned
    cases wrote with
    | @create id _ _ belongs healthy next =>
      have present : before.Has (Order.mk id user .new items).id.shard := healthy.has
      rw [Cluster.inventory_addOrder present]
      refine ⟨_, _, .refl before.inventory, ?_⟩
      intro sku
      simp [Cluster.unitsIn_addOrder present, Order.unitsAs, Flight.due, Flight.moved,
        Write.adjusted]
  | reserving order new known =>
    cases planned
    cases wrote with
    | adjust gained =>
      rw [Cluster.inventory_setInventory]
      refine ⟨_, _, gained, ?_⟩
      intro sku
      simp [Cluster.unitsIn_setInventory, Flight.due, Flight.moved, Write.adjusted,
        Adjustment.promised, Adjustment.held]
  | confirming order new known =>
    cases planned
    rw [inventory_moved wrote]
    refine ⟨_, _, .refl before.inventory, ?_⟩
    intro sku
    have waiting := unitsIn_moved wrote placed known .awaitingPayment sku
    have paid := unitsIn_moved wrote placed known .payed sku
    simp [Order.unitsAs, new, Flight.due, Flight.moved, Write.adjusted, Adjustment.goal]
      at waiting paid ⊢
    omega
  | failing order reason new known =>
    cases planned
    rw [inventory_moved wrote]
    refine ⟨_, _, .refl before.inventory, ?_⟩
    intro sku
    have waiting := unitsIn_moved wrote placed known .awaitingPayment sku
    have paid := unitsIn_moved wrote placed known .payed sku
    simp [Order.unitsAs, new, Flight.due, Flight.moved, Write.adjusted, Adjustment.goal]
      at waiting paid ⊢
    omega
  | ended user items answer deeds => cases planned
  | loading settlement id => cases planned
  | adjusting settlement order waiting known =>
    cases planned
    cases wrote with
    | adjust gained =>
      rw [Cluster.inventory_setInventory]
      refine ⟨_, _, gained, ?_⟩
      intro sku
      cases settlement <;>
        simp [Cluster.unitsIn_setInventory, Flight.due, Flight.moved, Write.adjusted,
          Adjustment.promised, Adjustment.held, Settlement.adjustment] <;>
        omega
  | closing settlement order waiting known =>
    cases planned
    rw [inventory_moved wrote]
    refine ⟨_, _, .refl before.inventory, ?_⟩
    intro sku
    have promised := unitsIn_moved wrote placed known .awaitingPayment sku
    have paid := unitsIn_moved wrote placed known .payed sku
    cases settlement <;>
      simp [Order.unitsAs, waiting, Flight.due, Flight.moved, Write.adjusted, Adjustment.goal,
        Settlement.adjustment, Settlement.target] at promised paid ⊢ <;>
      omega
  | refused settlement id error deeds unmoved => cases planned
  | settled settlement order => cases planned

theorem Balanced.change (balanced : Balanced start before) (orderly : before.Orderly)
    (change : Change before after) : Balanced start after := by
  cases change with
  | switched same =>
    unfold Balanced at balanced ⊢
    rw [same.everyOrder, same.inventory]
    exact balanced
  | arrived request =>
    have nothing : ∀ adjustment sku, due adjustment sku
        { before with flights := before.flights ++ [.ofRequest request] } =
          before.due adjustment sku := by
      intro adjustment sku
      unfold due
      rw [List.map_append, List.sum_append]
      simp [Flight.ofRequest, Flight.due]
    unfold Balanced at balanced ⊢
    simpa only [nothing] using balanced
  | @turned early late flight call there =>
    have same : ∀ adjustment sku, due adjustment sku
        { before with flights := early ++ { flight with call := call } :: late } =
          before.due adjustment sku := by
      intro adjustment sku
      rw [due_split there, due_split rfl]
      rfl
    unfold Balanced at balanced ⊢
    simpa only [same] using balanced
  | @wrote early late flight call write cluster there planned wrote =>
    have sits := orderly.sits flight (by simp [there])
    obtain ⟨reserved, total, gained, law⟩ :=
      exists_gained sits planned orderly.placed wrote call
    apply balanced.gain gained
    · intro sku
      have accounts := (law sku).1
      rw [due_split there, due_split there, due_split there, due_split rfl, due_split rfl,
        due_split rfl]
      simp only at accounts ⊢
      omega
    · intro sku
      have accounts := (law sku).2
      rw [due_split there, due_split rfl]
      simp only at accounts ⊢
      omega

/-- The stock is accounted for at every moment. Whatever calls arrive on a cluster that starts with
    sound stock and no orders, and in whatever order their steps and the failures of databases
    come: an article has as many more units reserved than at the start as the orders that wait for
    payment ask for, and those that checkouts have reserved for orders that they have not moved
    there, less those that settlements have released without moving their orders. It has lost the
    units of paid orders and those that payments have taken without moving their orders. Its row
    is sound, and no row came or went. -/
theorem stock_accounted {start : Cluster} (unused : start.Unused) (sound : start.inventory.Sound)
    (steps : List Step) (sku : Sku) :
    let now := (on start).run steps
    (now.cluster.inventory.get? sku).isSome = (start.inventory.get? sku).isSome ∧
      ∀ row, start.inventory.get? sku = some row →
        ∃ left, now.cluster.inventory.get? sku = some left ∧
          (left.reserved.toNat : Int) =
            row.reserved.toNat + Order.unitsIn .awaitingPayment sku now.cluster.everyOrder +
              now.due .reserve sku - now.due .remove sku - now.due .cancel sku ∧
          (left.total.toNat : Int) =
            row.total.toNat - Order.unitsIn .payed sku now.cluster.everyOrder -
              now.due .remove sku ∧
          left.reserved ≤ left.total := by
  intro now
  have balanced : Balanced start now :=
    (orderly_on unused).run_keeps (Balanced start)
      (fun _ _ orderly change holds => holds.change orderly change) (balanced_on unused) steps
  refine ⟨Inventory.Gained.isSome_get? balanced sku, ?_⟩
  intro row found
  obtain ⟨left, has, gained⟩ := Inventory.Gained.get? balanced found
  refine ⟨left, has, ?_, ?_, gained.sound (sound sku row found)⟩
  · rw [gained.reserved]
    omega
  · rw [gained.total]
    omega

theorem stock_accounted_twoShards :
    let now := (on .twoShards).run
      [.arrive (.checkout ⟨1, by decide, by decide⟩ [⟨⟨7⟩, 1, by decide⟩]), .advance 0, .advance 0,
        .setPrimary ⟨1⟩ ⟨true, false⟩, .advance 0]
    ∃ left, now.cluster.inventory.get? ⟨7⟩ = some left ∧
      (left.reserved.toNat : Int) =
        2 + Order.unitsIn .awaitingPayment ⟨7⟩ now.cluster.everyOrder + now.due .reserve ⟨7⟩ -
          now.due .remove ⟨7⟩ - now.due .cancel ⟨7⟩ ∧
      (left.total.toNat : Int) =
        5 - Order.unitsIn .payed ⟨7⟩ now.cluster.everyOrder - now.due .remove ⟨7⟩ ∧
      left.reserved ≤ left.total := by
  have seeded : Cluster.twoShards.inventory.get? ⟨7⟩ = some ⟨⟨7⟩, 5, 2⟩ := by
    rw [Cluster.inventory_twoShards]
    rfl
  exact (stock_accounted Cluster.unused_twoShards Cluster.sound_twoShards _ ⟨7⟩).2 _ seeded

end Traffic

end OrderDesk
