import OrderDesk.Proofs.History
import OrderDesk.Proofs.Session
import OrderDesk.Publisher.Log

/-!
# Orders and outboxes agree

After every session the outbox of each shard tells of each order on that shard one of four
courses, and of nothing else. So no change of an order is without its event, no event is without a
change, and no order is left behind as new.
-/

namespace OrderDesk

namespace OrderState

/-- The courses that an order can have taken while no call is under way. -/
def courses : List (List OrderState) :=
  [[new, awaitingPayment], [new, failed], [new, awaitingPayment, payed],
    [new, awaitingPayment, cancelled]]

theorem eq_of_mem_courses {course : List OrderState} (known : course ∈ courses)
    (waits : course.getLast? = some awaitingPayment) : course = [new, awaitingPayment] := by
  simp only [courses, List.mem_cons, List.not_mem_nil, or_false] at known
  rcases known with rfl | rfl | rfl | rfl
  · rfl
  · cases waits
  · cases waits
  · cases waits

theorem ne_new_of_mem_courses {course : List OrderState} (known : course ∈ courses)
    {state : OrderState} (last : course.getLast? = some state) : state ≠ new := by
  simp only [courses, List.mem_cons, List.not_mem_nil, or_false] at known
  rcases known with rfl | rfl | rfl | rfl <;> cases last <;> decide

/-- No order stands in one state twice. -/
theorem nodup_of_mem_courses {course : List OrderState} (known : course ∈ courses) :
    course.Nodup := by
  simp only [courses, List.mem_cons, List.not_mem_nil, or_false] at known
  rcases known with rfl | rfl | rfl | rfl <;> decide

end OrderState

namespace Cluster

/-- The outboxes tell of every stored order one of the courses. -/
def Agreed (cluster : Cluster) : Prop :=
  ∃ course, cluster.Recorded course ∧
    ∀ id order, cluster.stored? id = some order → course id ∈ OrderState.courses

variable {cluster : Cluster} {order : Order}

theorem Unused.agreed (unused : cluster.Unused) : cluster.Agreed := by
  refine ⟨fun _ => [], unused.recorded _, ?_⟩
  intro id order found
  rw [unused.stored?] at found
  cases found

/-- A checkout that stores its order agrees, as it moves the order on before it ends. -/
theorem Agreed.added (agreed : cluster.Agreed) (placed : cluster.Placed)
    (healthy : cluster.Healthy order.id.shard) (next : cluster.IsNext order.id)
    (inventory : Inventory) {state : OrderState}
    (short : [order.state, state] ∈ OrderState.courses) :
    (((cluster.addOrder order).setInventory inventory).moveOrder order state).Agreed := by
  obtain ⟨course, recorded, known⟩ := agreed
  have stores := stored?_added order inventory placed healthy next
  have present := (healthy.added order inventory).has
  have found := (stores order.id).trans (if_pos rfl)
  refine ⟨_, ((recorded.addOrder placed healthy.has next).setInventory inventory).moveOrder
    present found, ?_⟩
  intro id other here
  rw [stored?_moveOrder present found, stores] at here
  by_cases same : order.id = id
  · simpa [same] using short
  · rw [if_neg same, if_neg same] at here
    rw [if_neg same, if_neg same]
    exact known id other here

theorem Agreed.checkout (agreed : cluster.Agreed) (placed : cluster.Placed) (user : UserId)
    (items : List Item) : (cluster.checkout user items).2.Agreed := by
  rcases checkout_cases placed user items with
    ⟨error, failed⟩ | ⟨id, inventory, state, answer, -, -, healthy, next, outcome, done⟩
  · rw [failed]
    exact agreed
  · have short : [.new, state] ∈ OrderState.courses := by
      rcases outcome with ⟨rfl, -, -⟩ | ⟨rfl, -, -⟩ <;> decide
    rw [done]
    exact agreed.added placed healthy next inventory short

theorem Agreed.settle (agreed : cluster.Agreed) (settlement : Settlement) (id : OrderId) :
    (cluster.settle settlement id).2.Agreed := by
  rcases cluster.settle_cases settlement id with
    ⟨error, failed⟩ | ⟨order, inventory, healthy, found, waiting, gained, done⟩
  · rw [failed]
    exact agreed
  · obtain ⟨course, recorded, known⟩ := agreed
    obtain rfl : order.id = id := Tables.id_of_order? found
    have whole : course order.id = [.new, .awaitingPayment] := by
      apply OrderState.eq_of_mem_courses (known order.id order found)
      rw [recorded.last order.id order found, waiting]
    have stays : (cluster.setInventory inventory).stored? order.id = some order :=
      (stored?_setInventory order.id).trans found
    have present : (cluster.setInventory inventory).Has order.id.shard :=
      (healthy_setInventory.2 healthy).has
    rw [done]
    refine ⟨_, (recorded.setInventory inventory).moveOrder present stays, ?_⟩
    intro id other here
    rw [stored?_moveOrder present stays, stored?_setInventory] at here
    by_cases same : order.id = id
    · subst same
      rw [if_pos rfl, whole]
      cases settlement <;> decide
    · rw [if_neg same] at here ⊢
      exact known id other here

theorem Agreed.marks {before after : Cluster} (agreed : before.Agreed)
    (same : SameButMarks before after) : after.Agreed := by
  obtain ⟨course, recorded, known⟩ := agreed
  refine ⟨course, recorded.marks same, ?_⟩
  intro id order found
  rw [same.stored?] at found
  exact known id order found

end Cluster

namespace Desk

variable {σ : Type} (publisher : Publisher σ)

theorem agreed_run (desk : Desk σ) (actions : List Action) (placed : desk.cluster.Placed)
    (agreed : desk.cluster.Agreed) :
    (desk.run publisher actions).2.cluster.Placed ∧
      (desk.run publisher actions).2.cluster.Agreed := by
  refine run_keeps ?_ ?_ ?_ desk actions placed agreed
  · intro cluster user items placed agreed
    exact agreed.checkout placed user items
  · intro cluster settlement id placed agreed
    exact agreed.settle settlement id
  · intro before after same agreed
    exact agreed.marks same

/-- Orders and outboxes agree after any session that starts without orders, under any faults and
    whatever the publisher answers. For every order that a shard stores, the events about it on
    that shard hold, in the order in which they were stored, snapshots with its number, its user
    and its lines, and the states of these snapshots are one of the four courses, up to the
    state in which the order stands; so it is not new any more. And every event on the shard is
    about an order that the shard stores. -/
theorem outbox_agrees {start : Desk σ} (unused : start.cluster.Unused) (actions : List Action)
    (shard : ShardIndex) :
    let tables := (start.run publisher actions).2.cluster.tables shard
    (∀ order ∈ tables.orders, ∃ snapshots : List Snapshot,
      (tables.outbox.filter (·.order = order.id)).map Event.snapshot = snapshots.map .ok ∧
        (∀ snapshot ∈ snapshots, snapshot.Tells order) ∧
        snapshots.map (·.state) ∈ OrderState.courses ∧
        (snapshots.map (·.state)).getLast? = some order.state ∧ order.state ≠ .new) ∧
      ∀ event ∈ tables.outbox, ∃ order ∈ tables.orders, order.id = event.order := by
  intro tables
  obtain ⟨placed, course, recorded, known⟩ :=
    agreed_run publisher start actions unused.placed unused.agreed
  refine ⟨?_, fun event member => recorded.exists_order member⟩
  intro order member
  obtain ⟨here, found⟩ := placed.stored?_of_mem member
  obtain ⟨snapshots, decoded, tells, states⟩ := recorded.exists_snapshots found
  have whole := known order.id order found
  have last := recorded.last order.id order found
  refine ⟨snapshots, ?_, tells, ?_, ?_, OrderState.ne_new_of_mem_courses whole last⟩
  · rwa [Cluster.eventsOf, here] at decoded
  · rwa [states]
  · rwa [states]

theorem outbox_agrees_twoShards :
    let tables := ((⟨.twoShards, ()⟩ : Desk Unit).run .log
      [.checkout ⟨1, by decide, by decide⟩ [⟨⟨7⟩, 1, by decide⟩], .setPrimary ⟨1⟩ ⟨true, false⟩,
        .tick ⟨"orders", 10⟩]).2.cluster.tables ⟨1⟩
    (∀ order ∈ tables.orders, order.state ≠ .new) ∧
      ∀ event ∈ tables.outbox, ∃ order ∈ tables.orders, order.id = event.order := by
  have unused : (⟨.twoShards, ()⟩ : Desk Unit).cluster.Unused := Cluster.unused_twoShards
  have agrees := outbox_agrees .log unused
    [.checkout ⟨1, by decide, by decide⟩ [⟨⟨7⟩, 1, by decide⟩], .setPrimary ⟨1⟩ ⟨true, false⟩,
      .tick ⟨"orders", 10⟩] ⟨1⟩
  refine ⟨?_, agrees.2⟩
  intro order member
  obtain ⟨snapshots, -, -, -, -, moved⟩ := agrees.1 order member
  exact moved

end Desk

end OrderDesk
