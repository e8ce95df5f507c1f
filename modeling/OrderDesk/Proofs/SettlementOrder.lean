import Mathlib.Algebra.BigOperators.Group.List.Basic
import Mathlib.Algebra.Ring.Int.Defs
import OrderDesk.Proofs.Books
import OrderDesk.Proofs.InPlace

/-!
# Settlements in any order

Orders that wait for payment can be settled in any order. What a list of settlements leaves behind
is said here in a form in which two of them may change places: orders that are given new states,
sums of units, and events without their stamps, order by order. That each settlement of the list
goes through, whatever went before it, is the work of the stock that backs all waiting orders.
-/

namespace OrderDesk

/-! ## What settlements come to on one shard -/

/-- An event without its stamp. -/
def Event.unstamped (event : Event) : Event := { event with id := ⟨0⟩, createdAt := ⟨0⟩ }

/-- The tables of a shard without stock and stamps, and with the events told order by order. -/
structure Gist where
  orders : List Order
  orderSequence : Nat
  outboxSequence : Nat
  told : OrderId → List Event

namespace Tables

/-- The events about an order without their stamps, oldest first. -/
def told (tables : Tables) (id : OrderId) : List Event :=
  (tables.outbox.filter (·.order = id)).map Event.unstamped

def gist (tables : Tables) : Gist :=
  ⟨tables.orders, tables.orderSequence, tables.outboxSequence, tables.told⟩

/-- Changes of state of different orders may change places. -/
theorem setState_comm {a b : OrderId} (apart : a ≠ b) (s t : OrderState) (orders : List Order) :
    setState a s (setState b t orders) = setState b t (setState a s orders) := by
  unfold setState
  rw [List.map_map, List.map_map]
  refine List.map_congr_left fun order _ => ?_
  by_cases first : order.id = a
  · have other : ¬ order.id = b := fun same => apart (first.symm.trans same)
    simp [first, apart]
  · by_cases second : order.id = b
    · simp [second, Ne.symm apart]
    · simp [first, second]

end Tables

/-- An order, and how it is settled. -/
structure Bill where
  settlement : Settlement
  order : Order

namespace Bill

def action (bill : Bill) : Action := .settle bill.settlement bill.order.id

/-- The order after its settlement. -/
def settled (bill : Bill) : Order := { bill.order with state := bill.settlement.target }

/-- The event of the settlement, without a stamp. -/
def event (bill : Bill) : Event :=
  ⟨⟨0⟩, bill.order.id, (Snapshot.ofOrder bill.settled).payload, ⟨0⟩, false⟩

/-- The reserved units of an article that the settlement gains. -/
def promised (sku : Sku) (bill : Bill) : Int :=
  bill.settlement.adjustment.promised * Item.units sku bill.order.items

/-- The held units of an article that the settlement gains. -/
def held (sku : Sku) (bill : Bill) : Int :=
  bill.settlement.adjustment.held * Item.units sku bill.order.items

/-- What the settlement makes of the tables of a shard. -/
def enter (shard : ShardIndex) (gist : Gist) (bill : Bill) : Gist :=
  if bill.order.id.shard = shard then
    { gist with
      orders := Tables.setState bill.order.id bill.settlement.target gist.orders
      outboxSequence := gist.outboxSequence + 1
      told := fun id => gist.told id ++ if bill.order.id = id then [bill.event] else [] }
  else gist

/-- Settlements of different orders may change places. -/
theorem enter_comm {a b : Bill} (apart : a.order.id ≠ b.order.id) (shard : ShardIndex)
    (gist : Gist) :
    enter shard (enter shard gist a) b = enter shard (enter shard gist b) a := by
  unfold enter
  by_cases here : a.order.id.shard = shard
  · by_cases there : b.order.id.shard = shard
    · simp only [if_pos here, if_pos there, Gist.mk.injEq, true_and]
      refine ⟨Tables.setState_comm apart.symm _ _ _, ?_⟩
      funext id
      by_cases about : a.order.id = id
      · have other : ¬ b.order.id = id := fun same => apart (about.trans same.symm)
        simp [other]
      · simp [about]
    · simp only [if_neg there]
  · simp only [if_neg here]

/-- Settlements of pairwise different orders come to the same in any order. -/
theorem foldl_enter_perm {first second : List Bill} (perm : first.Perm second)
    (distinct : (first.map (·.order.id)).Nodup) (shard : ShardIndex) (gist : Gist) :
    first.foldl (enter shard) gist = second.foldl (enter shard) gist := by
  refine perm.foldl_eq' (fun a memberA b memberB gist => ?_) gist
  -- Bills of the same order are the same bill, as the orders of the list are distinct.
  by_cases same : a.order.id = b.order.id
  · obtain rfl := List.inj_on_of_nodup_map distinct memberA memberB same
    rfl
  · exact enter_comm same shard gist

end Bill

namespace Cluster

variable {start cluster before after : Cluster} {bill : Bill} {first second rest bills : List Bill}

theorem gist_setInventory (inventory : Inventory) (shard : ShardIndex) :
    ((cluster.setInventory inventory).tables shard).gist = (cluster.tables shard).gist := by
  unfold Tables.gist Tables.told
  simp only [orders_setInventory, orderSequence_setInventory, outbox_setInventory,
    outboxSequence_setInventory]

theorem gist_moveOrder (present : cluster.Has bill.order.id.shard) (shard : ShardIndex) :
    ((cluster.moveOrder bill.order bill.settlement.target).tables shard).gist =
      bill.enter shard (cluster.tables shard).gist := by
  rw [tables_moveOrder present, Bill.enter]
  split
  · unfold Tables.gist
    simp only [Tables.orders_updateState, Tables.outboxSequence_updateState, Gist.mk.injEq,
      true_and]
    refine ⟨rfl, ?_⟩
    funext id
    unfold Tables.told
    rw [Tables.outbox_updateState, List.filter_append, List.map_append]
    refine congrArg _ ?_
    by_cases about : bill.order.id = id
    · simp [about, Tables.eventOf, Event.unstamped, Bill.event, Bill.settled]
    · simp [about, Tables.eventOf]
  · rfl

/-! ## What settlements come to -/

/-- What a list of settlements makes of a cluster. -/
structure Settles (bills : List Bill) (before after : Cluster) : Prop where
  gist : ∀ shard,
    (after.tables shard).gist = bills.foldl (Bill.enter shard) (before.tables shard).gist
  gained : Inventory.Gained (fun sku => (bills.map (Bill.promised sku)).sum)
    (fun sku => (bills.map (Bill.held sku)).sum) before.inventory after.inventory
  inPlace : before.inventory.InPlace after.inventory
  stock : ∀ shard, shard ≠ .inventory → (after.tables shard).stock = (before.tables shard).stock

theorem settles_nil (cluster : Cluster) : Settles [] cluster cluster :=
  ⟨fun _ => rfl, .refl _, .refl _, fun _ _ => rfl⟩

theorem Settles.cons {a b c : Cluster} (here : Settles [bill] a b) (later : Settles rest b c) :
    Settles (bill :: rest) a c where
  gist shard := by rw [later.gist, here.gist, List.foldl_cons, List.foldl_cons, List.foldl_nil]
  gained := (here.gained.trans later.gained).congr (fun sku => by simp) (fun sku => by simp)
  inPlace := here.inPlace.trans later.inPlace
  stock shard other := (later.stock shard other).trans (here.stock shard other)

/-- Lists of settlements that differ in their order only, made on the same tables, leave the same
    tables behind but for stamps and the way in which events of different orders follow each
    other. -/
theorem Settles.perm {a b c d : Cluster} (left : Settles first a c) (right : Settles second b d)
    (perm : first.Perm second) (distinct : (first.map (·.order.id)).Nodup)
    (same : ∀ shard, b.tables shard = a.tables shard) (shard : ShardIndex) :
    (c.tables shard).gist = (d.tables shard).gist ∧
      (c.tables shard).stock = (d.tables shard).stock := by
  refine ⟨?_, ?_⟩
  · rw [left.gist, right.gist, same shard, Bill.foldl_enter_perm perm distinct]
  · by_cases here : shard = .inventory
    · have whole : b.inventory = a.inventory := congrArg Tables.stock (same .inventory)
      have gained := right.gained.congr (fun sku => (perm.map (Bill.promised sku)).sum_eq.symm)
        (fun sku => (perm.map (Bill.held sku)).sum_eq.symm)
      have inPlace := right.inPlace
      rw [whole] at gained inPlace
      rw [here]
      exact left.inPlace.eq_of_get? inPlace (left.gained.get?_eq gained)
    · rw [left.stock shard here, right.stock shard here, same shard]

/-! ## Every settlement goes through -/

/-- A cluster on which a list of settlements can be made: the orders wait for payment, their units
    are backed by the stock, and every primary does its work. -/
structure Ready (start : Cluster) (bills : List Bill) (cluster : Cluster) : Prop where
  placed : cluster.Placed
  covered : cluster.Covered
  balanced : Balanced start cluster
  healthy : cluster.AllHealthy
  waiting : ∀ bill ∈ bills, cluster.stored? bill.order.id = some bill.order ∧
    bill.order.state = .awaitingPayment
  distinct : (bills.map (·.order.id)).Nodup

theorem Ready.perm (ready : Ready start first cluster) (perm : first.Perm second) :
    Ready start second cluster where
  placed := ready.placed
  covered := ready.covered
  balanced := ready.balanced
  healthy := ready.healthy
  waiting bill member := ready.waiting bill (perm.mem_iff.2 member)
  distinct := (perm.map _).nodup_iff.1 ready.distinct

/-- The next settlement of the list goes through. -/
theorem Ready.settle_eq (ready : Ready start (bill :: rest) cluster)
    (sound : start.inventory.Sound) :
    ∃ inventory, cluster.inventory.adjustedBy bill.settlement.adjustment bill.order.items =
      .ok inventory ∧
      cluster.settle bill.settlement bill.order.id =
        (.ok (), (cluster.setInventory inventory).moveOrder bill.order bill.settlement.target) := by
  obtain ⟨found, waits⟩ := ready.waiting bill List.mem_cons_self
  obtain ⟨after, adjusted⟩ := ready.covered.exists_adjustStock ready.balanced sound
    ready.healthy.inventory found waits bill.settlement
  have settles := settle_eq_of_healthy ready.healthy bill.settlement bill.order.id
  rw [adjustStock_eq ready.healthy.inventory] at adjusted
  simp only [found, if_pos waits] at settles
  cases came : cluster.inventory.adjustedBy bill.settlement.adjustment bill.order.items with
  | error error =>
    rw [came] at adjusted
    cases adjusted
  | ok inventory =>
    rw [came] at settles
    exact ⟨inventory, rfl, settles⟩

theorem Ready.settles (ready : Ready start (bill :: rest) cluster) (sound : start.inventory.Sound) :
    Settles [bill] cluster (cluster.settle bill.settlement bill.order.id).2 := by
  obtain ⟨inventory, came, done⟩ := ready.settle_eq sound
  obtain ⟨inPlace, gained⟩ := Inventory.adjustedBy_eq_ok came
  have present := has_of_stored? (ready.waiting bill List.mem_cons_self).1
  have healthy := ready.healthy bill.order.id.shard present
  have bought := inventory_settled bill.order inventory bill.settlement.target healthy
  have there : (cluster.setInventory inventory).Has bill.order.id.shard :=
    (healthy_setInventory.2 healthy).has
  rw [done]
  refine ⟨?_, ?_, ?_, ?_⟩
  · intro shard
    rw [gist_moveOrder there, gist_setInventory]
    rfl
  · rw [bought]
    exact gained.congr (fun sku => by simp [Bill.promised]) (fun sku => by simp [Bill.held])
  · rw [bought]
    exact inPlace
  · intro shard other
    have kept :
        ((cluster.setInventory inventory).tables shard).stock = (cluster.tables shard).stock := by
      rw [tables_setInventory, if_neg other.symm]
    rw [tables_moveOrder there]
    split
    · rw [Tables.stock_updateState, kept]
    · exact kept

/-- The other orders of the list wait on after the settlement. -/
theorem Ready.settle (ready : Ready start (bill :: rest) cluster) (sound : start.inventory.Sound) :
    Ready start rest (cluster.settle bill.settlement bill.order.id).2 where
  placed := ready.placed.settle bill.settlement bill.order.id
  covered := ready.covered.settle bill.settlement bill.order.id
  balanced := ready.balanced.settle ready.placed bill.settlement bill.order.id
  healthy := ready.healthy.settle bill.settlement bill.order.id
  waiting other member := by
    obtain ⟨inventory, -, done⟩ := ready.settle_eq sound
    have found := (ready.waiting bill List.mem_cons_self).1
    have healthy := ready.healthy bill.order.id.shard (has_of_stored? found)
    have apart : bill.order.id ≠ other.order.id := fun same =>
      (List.nodup_cons.1 ready.distinct).1 (List.mem_map.2 ⟨other, member, same.symm⟩)
    rw [done, stored?_settled bill.order inventory bill.settlement.target healthy found,
      if_neg apart]
    exact ready.waiting other (List.mem_cons_of_mem bill member)
  distinct := (List.nodup_cons.1 ready.distinct).2

/-! ## Other times -/

/-- A cluster whose shards stamp their events by other clocks. -/
def withClock (cluster : Cluster) (clock : ShardIndex → Nat → Timestamp) : Cluster where
  shards := cluster.shards.mapIdx fun i shard => { shard with clock := clock ⟨i⟩ }
  pos := by simpa using cluster.pos
  le_max := by simpa using cluster.le_max

variable (clock : ShardIndex → Nat → Timestamp)

@[simp] theorem tables_withClock (shard : ShardIndex) :
    (cluster.withClock clock).tables shard = cluster.tables shard := by
  unfold tables withClock
  rw [List.getElem?_mapIdx]
  cases cluster.shards[shard.num]? <;> rfl

theorem sameButMarks_withClock : SameButMarks cluster (cluster.withClock clock) := by
  refine ⟨by simp [withClock], fun shard => ?_⟩
  rw [tables_withClock]
  exact .refl _

theorem AllHealthy.withClock (healthy : cluster.AllHealthy) :
    (cluster.withClock clock).AllHealthy := by
  intro shard present
  have there : cluster.Has shard := by simpa [Has, Cluster.withClock] using present
  obtain ⟨stored, found, fine⟩ := healthy shard there
  refine ⟨{ stored with clock := clock ⟨shard.num⟩ }, ?_, fine⟩
  simp [Cluster.withClock, found]

theorem Ready.withClock (ready : Ready start bills cluster) :
    Ready start bills (cluster.withClock clock) where
  placed := (sameButMarks_withClock clock).placed ready.placed
  covered := ready.covered.marks (sameButMarks_withClock clock)
  balanced := ready.balanced.marks (sameButMarks_withClock clock)
  healthy := ready.healthy.withClock clock
  waiting bill member := by
    rw [(sameButMarks_withClock clock).stored?]
    exact ready.waiting bill member
  distinct := ready.distinct

end Cluster

namespace Desk

variable {σ : Type} (publisher : Publisher σ)

/-- Every settlement of the list goes through. -/
theorem run_settlements {start : Cluster} (sound : start.inventory.Sound) {bills : List Bill}
    (desk : Desk σ) (ready : Cluster.Ready start bills desk.cluster) :
    (desk.run publisher (bills.map Bill.action)).1 = bills.map (fun _ => .settled (.ok ())) ∧
      Cluster.Settles bills desk.cluster
        (desk.run publisher (bills.map Bill.action)).2.cluster := by
  induction bills generalizing desk with
  | nil => exact ⟨rfl, Cluster.settles_nil desk.cluster⟩
  | cons bill rest ih =>
    obtain ⟨inventory, -, done⟩ := ready.settle_eq sound
    have settles := ready.settles sound
    have next := ready.settle sound
    obtain ⟨answers, later⟩ := ih
      { desk with cluster := (desk.cluster.settle bill.settlement bill.order.id).2 } next
    have here : (desk.perform publisher bill.action).1 = .settled (.ok ()) := by
      simp only [Bill.action, perform, done]
    refine ⟨?_, settles.cons later⟩
    calc (desk.run publisher ((bill :: rest).map Bill.action)).1
        = (desk.perform publisher bill.action).1 ::
            ({ desk with cluster := (desk.cluster.settle bill.settlement bill.order.id).2 }.run
              publisher (rest.map Bill.action)).1 := rfl
      _ = (bill :: rest).map fun _ => .settled (.ok ()) := by rw [here, answers, List.map_cons]

/-- The order of settlements plays no part. After any session that starts with sound stock and no
    orders, once every primary is healthy: take any orders that wait for payment, each with a way to
    settle it, and settle them one after the other, in two different orders and at different times.
    Every settlement goes through in both. Afterwards the stock is the same, and on every shard the
    orders and the counters are; and the events about each order follow each other in the same way
    and say the same, so the outboxes differ only in stamps and in how events of different orders
    interleave. -/
theorem settlements_commute {start : Desk σ} (unused : start.cluster.Unused)
    (sound : start.cluster.inventory.Sound) (actions : List Action) {first second : List Bill}
    (perm : first.Perm second) (distinct : (first.map (·.order.id)).Nodup)
    (healthy : (start.run publisher actions).2.cluster.AllHealthy)
    (waiting : ∀ bill ∈ first,
      (start.run publisher actions).2.cluster.stored? bill.order.id = some bill.order ∧
        bill.order.state = .awaitingPayment)
    (clock : ShardIndex → Nat → Timestamp) :
    let now := (start.run publisher actions).2
    let once := now.run publisher (first.map Bill.action)
    let again := { now with cluster := now.cluster.withClock clock }.run publisher
      (second.map Bill.action)
    once.1 = first.map (fun _ => .settled (.ok ())) ∧
      again.1 = second.map (fun _ => .settled (.ok ())) ∧
      ∀ shard,
        (again.2.cluster.tables shard).stock = (once.2.cluster.tables shard).stock ∧
        (again.2.cluster.tables shard).orders = (once.2.cluster.tables shard).orders ∧
        (again.2.cluster.tables shard).orderSequence = (once.2.cluster.tables shard).orderSequence ∧
        (again.2.cluster.tables shard).outboxSequence =
          (once.2.cluster.tables shard).outboxSequence ∧
        ∀ id, (again.2.cluster.tables shard).told id = (once.2.cluster.tables shard).told id := by
  intro now once again
  have ready : Cluster.Ready start.cluster first now.cluster :=
    { placed := placed_run publisher start actions unused.placed
      covered := covered_run publisher start actions unused.placed unused.covered
      balanced := balanced_run publisher start actions unused.placed unused.balanced
      healthy := healthy
      waiting := waiting
      distinct := distinct }
  obtain ⟨answers, left⟩ := run_settlements publisher sound now ready
  obtain ⟨answersAgain, right⟩ := run_settlements publisher sound
    { now with cluster := now.cluster.withClock clock } ((ready.perm perm).withClock clock)
  refine ⟨answers, answersAgain, fun shard => ?_⟩
  obtain ⟨gist, stock⟩ := left.perm right perm distinct (Cluster.tables_withClock clock) shard
  refine ⟨stock.symm, (congrArg Gist.orders gist).symm, (congrArg Gist.orderSequence gist).symm,
    (congrArg Gist.outboxSequence gist).symm,
    fun id => (congrFun (congrArg Gist.told gist) id).symm⟩

end Desk

namespace Bill

/-- The first order of a user at `oneShard`, for one unit, to be paid. -/
def paid : Bill where
  settlement := .pay
  order := ⟨⟨1000, by decide, by decide⟩, ⟨1, by decide, by decide⟩, .awaitingPayment,
    [⟨⟨7⟩, 1, by decide⟩]⟩

/-- The second order of the same user, for two units of the same article, to be cancelled. -/
def cancelled : Bill where
  settlement := .cancel
  order := ⟨⟨2000, by decide, by decide⟩, ⟨1, by decide, by decide⟩, .awaitingPayment,
    [⟨⟨7⟩, 2, by decide⟩]⟩

end Bill

namespace Desk

/-- Of two orders of one article the one is paid and the other is cancelled, in either order. -/
theorem settlements_commute_oneShard :
    let actions : List Action := [.checkout Bill.paid.order.user Bill.paid.order.items,
      .checkout Bill.cancelled.order.user Bill.cancelled.order.items]
    let now := ((⟨.oneShard, ()⟩ : Desk Unit).run .log actions).2
    let once := now.run .log [Bill.paid.action, Bill.cancelled.action]
    let again := { now with cluster := now.cluster.withClock fun _ n => ⟨n⟩ }.run .log
      [Bill.cancelled.action, Bill.paid.action]
    once.1 = [.settled (.ok ()), .settled (.ok ())] ∧
      again.1 = [.settled (.ok ()), .settled (.ok ())] ∧
      (again.2.cluster.tables .inventory).stock = (once.2.cluster.tables .inventory).stock ∧
      (again.2.cluster.tables .inventory).orders = (once.2.cluster.tables .inventory).orders := by
  intro actions now once again
  have unused : (⟨.oneShard, ()⟩ : Desk Unit).cluster.Unused := Cluster.unused_oneShard
  have placed := unused.placed.checkout Bill.paid.order.user Bill.paid.order.items
  have healthy := Cluster.allHealthy_oneShard.checkout unused.placed Bill.paid.order.user
    Bill.paid.order.items
  have first := Cluster.checkout_of_one Bill.paid.order ⟨[⟨⟨7⟩, 5, 3⟩]⟩ unused.placed
    Cluster.allHealthy_oneShard rfl (List.cons_ne_nil _ _) (by decide) (by rfl)
    (by rw [Cluster.inventory_oneShard]; rfl)
  have second := Cluster.checkout_of_one Bill.cancelled.order ⟨[⟨⟨7⟩, 5, 5⟩]⟩ placed healthy
    (by rw [first]; rfl) (List.cons_ne_nil _ _) (by decide) (by rw [first]; rfl)
    (by rw [first]; rfl)
  have reached : now.cluster = (Cluster.oneShard.place { Bill.paid.order with state := .new }
      .awaitingPayment ⟨[⟨⟨7⟩, 5, 3⟩]⟩).place { Bill.cancelled.order with state := .new }
      .awaitingPayment ⟨[⟨⟨7⟩, 5, 5⟩]⟩ := by
    rw [← first]
    exact second
  have waiting : ∀ bill ∈ [Bill.paid, Bill.cancelled],
      now.cluster.stored? bill.order.id = some bill.order ∧
      bill.order.state = .awaitingPayment := by
    rw [reached]
    decide
  obtain ⟨answers, answersAgain, same⟩ := settlements_commute .log unused
    (by rw [Cluster.inventory_oneShard]; exact Inventory.sound_of_rows (by decide)) actions
    (List.Perm.swap Bill.cancelled Bill.paid []) (by decide)
    (healthy.checkout placed Bill.cancelled.order.user Bill.cancelled.order.items) waiting
      fun _ n => ⟨n⟩
  exact ⟨answers, answersAgain, (same .inventory).1, (same .inventory).2.1⟩

end Desk

end OrderDesk
