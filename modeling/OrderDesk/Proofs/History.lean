import OrderDesk.Proofs.Relay
import OrderDesk.Proofs.Snapshot

/-!
# What the outboxes tell

The events about one order, in the order in which they were stored, tell its course: the states in
which it stood, from the first to the present one. The invariant of this module is that they do
so for every stored order and that no event is about anything else. Each of the three writes keeps
it: a new order starts a course, a move lengthens one, and the stock has no part in it.
-/

namespace OrderDesk.Cluster

/-- The events about an order on the shard that its number encodes, oldest first. -/
def eventsOf (cluster : Cluster) (id : OrderId) : List Event :=
  (cluster.tables id.shard).outbox.filter (·.order = id)

/-- The text of an event about an order as it stood in a state. -/
def tale (order : Order) (state : OrderState) : String :=
  (Snapshot.ofOrder { order with state := state }).payload

/-- The outboxes tell the courses of all stored orders, and nothing else. -/
structure Recorded (course : OrderId → List OrderState) (cluster : Cluster) : Prop where
  told : ∀ id order, cluster.stored? id = some order →
    (cluster.eventsOf id).map Event.payload = (course id).map (tale order)
  last : ∀ id order, cluster.stored? id = some order → (course id).getLast? = some order.state
  owned : ∀ shard, ∀ event ∈ (cluster.tables shard).outbox,
    ((cluster.tables shard).order? event.order).isSome

variable {cluster before after : Cluster} {course : OrderId → List OrderState}
    {order stored : Order}
  {state : OrderState}

theorem Unused.recorded (unused : cluster.Unused) (course : OrderId → List OrderState) :
    cluster.Recorded course := by
  refine ⟨?_, ?_, ?_⟩
  · intro id order found
    rw [unused.stored?] at found
    cases found
  · intro id order found
    rw [unused.stored?] at found
    cases found
  · intro shard event member
    rw [unused shard] at member
    cases member

/-- Only the courses of stored orders matter. -/
theorem Recorded.congr {other : OrderId → List OrderState} (recorded : cluster.Recorded course)
    (same : ∀ id order, cluster.stored? id = some order → other id = course id) :
    cluster.Recorded other where
  told id order found := by rw [same id order found, recorded.told id order found]
  last id order found := by rw [same id order found, recorded.last id order found]
  owned := recorded.owned

/-! ## Events after a write -/

theorem eventsOf_addOrder (present : cluster.Has order.id.shard) (id : OrderId) :
    ((cluster.addOrder order).eventsOf id).map Event.payload =
      (cluster.eventsOf id).map Event.payload ++
        if order.id = id then [tale order order.state] else [] := by
  unfold eventsOf
  rw [tables_addOrder present]
  by_cases same : order.id = id
  · subst same
    simp [Tables.eventOf, tale]
  · rw [if_neg same, List.append_nil]
    split
    · have apart :
        ¬ (((cluster.tables id.shard).eventOf order (cluster.now id.shard)).order = id) := same
      rw [Tables.outbox_insertOrder, List.filter_append]
      simp [apart]
    · rfl

theorem eventsOf_moveOrder (present : cluster.Has stored.id.shard) (id : OrderId) :
    ((cluster.moveOrder stored state).eventsOf id).map Event.payload =
      (cluster.eventsOf id).map Event.payload ++
        if stored.id = id then [tale stored state] else [] := by
  unfold eventsOf
  rw [tables_moveOrder present]
  by_cases same : stored.id = id
  · subst same
    simp [Tables.eventOf, tale]
  · rw [if_neg same, List.append_nil]
    split
    · have apart : ¬ (((cluster.tables id.shard).eventOf { stored with state := state }
          (cluster.now id.shard)).order = id) := same
      rw [Tables.outbox_updateState, List.filter_append]
      simp [apart]
    · rfl

theorem eventsOf_setInventory (inventory : Inventory) (id : OrderId) :
    (cluster.setInventory inventory).eventsOf id = cluster.eventsOf id := by
  rw [eventsOf, outbox_setInventory, eventsOf]

/-- Marks leave the texts of events alone. -/
theorem SameButMarks.eventsOf (same : SameButMarks before after) (id : OrderId) :
    (after.eventsOf id).map Event.payload = (before.eventsOf id).map Event.payload := by
  have unmarked : ∀ outbox : List Event, (outbox.filter (·.order = id)).map Event.payload =
      ((outbox.map Event.unmarked).filter (·.order = id)).map Event.payload := by
    intro outbox
    rw [List.filter_map, List.map_map]
    rfl
  unfold Cluster.eventsOf
  rw [unmarked, unmarked (before.tables id.shard).outbox, (same.tables id.shard).outbox]

/-! ## The invariant -/

/-- No event is about an order that is yet to be stored. -/
theorem Recorded.eventsOf_next (recorded : cluster.Recorded course) (placed : cluster.Placed)
    {id : OrderId} (next : cluster.IsNext id) : cluster.eventsOf id = [] := by
  apply List.filter_eq_nil_iff.2
  intro event member about
  have known := recorded.owned id.shard event member
  rw [of_decide_eq_true about, (placed id.shard).order?_next next] at known
  cases known

theorem Recorded.addOrder (recorded : cluster.Recorded course) (placed : cluster.Placed)
    (present : cluster.Has order.id.shard) (next : cluster.IsNext order.id) :
    (cluster.addOrder order).Recorded fun id =>
      if order.id = id then [order.state] else course id := by
  have stores := stored?_addOrder present (placed.stored?_next next)
  refine ⟨?_, ?_, ?_⟩
  · intro id other found
    rw [stores] at found
    rw [eventsOf_addOrder present]
    by_cases same : order.id = id
    · rw [if_pos same] at found ⊢
      cases found
      subst same
      rw [recorded.eventsOf_next placed next, if_pos rfl]
      rfl
    · rw [if_neg same] at found ⊢
      rw [recorded.told id other found, if_neg same, List.append_nil]
  · intro id other found
    rw [stores] at found
    by_cases same : order.id = id
    · rw [if_pos same] at found ⊢
      cases found
      rfl
    · rw [if_neg same] at found ⊢
      exact recorded.last id other found
  · intro shard event member
    rw [tables_addOrder present] at member ⊢
    split at member
    · rename_i same
      rw [if_pos same]
      rw [Tables.outbox_insertOrder, List.mem_append, List.mem_singleton] at member
      rw [Tables.order?, Tables.orders_insertOrder, List.find?_append]
      rcases member with old | rfl
      · have known := recorded.owned shard event old
        rw [Tables.order?] at known
        rw [Option.isSome_or, known, Bool.true_or]
      · simp [Tables.eventOf]
    · rename_i apart
      rw [if_neg apart]
      exact recorded.owned shard event member

theorem Recorded.moveOrder (recorded : cluster.Recorded course)
    (present : cluster.Has stored.id.shard) (found : cluster.stored? stored.id = some stored) :
    (cluster.moveOrder stored state).Recorded fun id =>
      if stored.id = id then course id ++ [state] else course id := by
  have stores : ∀ id, (cluster.moveOrder stored state).stored? id = _ :=
    stored?_moveOrder present found
  refine ⟨?_, ?_, ?_⟩
  · intro id other here
    rw [stores] at here
    rw [eventsOf_moveOrder present]
    by_cases same : stored.id = id
    · rw [if_pos same] at here ⊢
      cases here
      subst same
      rw [recorded.told _ _ found, if_pos rfl, List.map_append]
      rfl
    · rw [if_neg same] at here ⊢
      rw [recorded.told id other here, if_neg same, List.append_nil]
  · intro id other here
    rw [stores] at here
    by_cases same : stored.id = id
    · rw [if_pos same] at here ⊢
      cases here
      exact List.getLast?_concat
    · rw [if_neg same] at here ⊢
      exact recorded.last id other here
  · intro shard event member
    rw [tables_moveOrder present] at member ⊢
    split at member
    · rename_i same
      rw [if_pos same]
      rw [Tables.outbox_updateState, List.mem_append, List.mem_singleton] at member
      rw [Tables.order?, Tables.orders_updateState, Tables.find?_setState, Option.isSome_map]
      rcases member with old | rfl
      · exact recorded.owned shard event old
      · unfold stored? at found
        rw [same] at found
        exact Option.isSome_of_eq_some found
    · rename_i apart
      rw [if_neg apart]
      exact recorded.owned shard event member

theorem Recorded.setInventory (recorded : cluster.Recorded course) (inventory : Inventory) :
    (cluster.setInventory inventory).Recorded course := by
  refine ⟨?_, ?_, ?_⟩
  · intro id order found
    rw [stored?_setInventory] at found
    rw [eventsOf_setInventory]
    exact recorded.told id order found
  · intro id order found
    rw [stored?_setInventory] at found
    exact recorded.last id order found
  · intro shard event member
    rw [outbox_setInventory] at member
    rw [Tables.order?, orders_setInventory]
    exact recorded.owned shard event member

theorem Recorded.marks (recorded : before.Recorded course) (same : SameButMarks before after) :
    after.Recorded course := by
  refine ⟨?_, ?_, ?_⟩
  · intro id order found
    rw [same.stored?] at found
    rw [same.eventsOf]
    exact recorded.told id order found
  · intro id order found
    rw [same.stored?] at found
    exact recorded.last id order found
  · intro shard event member
    have listed : event.unmarked ∈ (after.tables shard).outbox.map Event.unmarked :=
      List.mem_map_of_mem member
    rw [(same.tables shard).outbox] at listed
    obtain ⟨old, inside, equal⟩ := List.mem_map.1 listed
    have about : old.order = event.order := by
      have same := congrArg Event.order equal
      exact same
    rw [Tables.order?, (same.tables shard).orders, ← about]
    exact recorded.owned shard old inside

/-! ## What readers of the events see -/

theorem snapshot_of_payload {event : Event} (told : event.payload = tale order state) :
    event.snapshot = .ok (Snapshot.ofOrder { order with state := state }) := by
  rw [Event.snapshot, told]
  exact Snapshot.ofPayload_payload _

theorem map_snapshot_of_told {events : List Event} {states : List OrderState}
    (told : events.map Event.payload = states.map (tale order)) :
    events.map Event.snapshot =
      (states.map fun state => Snapshot.ofOrder { order with state := state }).map .ok := by
  induction events generalizing states with
  | nil =>
    cases states with
    | nil => rfl
    | cons state rest => cases told
  | cons event more ih =>
    cases states with
    | nil => cases told
    | cons state rest =>
      obtain ⟨first, others⟩ := List.cons.inj told
      rw [List.map_cons, snapshot_of_payload first, ih others]
      rfl

/-- The events about a stored order hold snapshots of that order, in the states of its course. -/
theorem Recorded.exists_snapshots (recorded : cluster.Recorded course) {id : OrderId}
    (found : cluster.stored? id = some order) :
    ∃ snapshots : List Snapshot, (cluster.eventsOf id).map Event.snapshot = snapshots.map .ok ∧
      (∀ snapshot ∈ snapshots, snapshot.Tells order) ∧ snapshots.map (·.state) = course id := by
  refine ⟨(course id).map fun state => Snapshot.ofOrder { order with state := state },
    map_snapshot_of_told (recorded.told id order found), ?_, ?_⟩
  · intro snapshot inside
    obtain ⟨state, -, rfl⟩ := List.mem_map.1 inside
    exact Snapshot.tells_ofOrder order state
  · rw [List.map_map]
    exact List.map_id _

theorem Recorded.exists_order (recorded : cluster.Recorded course) {shard : ShardIndex}
    {event : Event} (member : event ∈ (cluster.tables shard).outbox) :
    ∃ order ∈ (cluster.tables shard).orders, order.id = event.order := by
  obtain ⟨order, found⟩ := Option.isSome_iff_exists.1 (recorded.owned shard event member)
  exact ⟨order, Tables.mem_of_order? found, Tables.id_of_order? found⟩

end OrderDesk.Cluster
