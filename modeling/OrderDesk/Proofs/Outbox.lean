import Mathlib.Data.List.Nodup
import OrderDesk.Proofs.Agreement

/-!
# Events in the outboxes

The events of a shard bear consecutive numbers and the times that the clock of the shard gave out
for them. A call that runs without others in between only adds events, and none that it adds has
been sent. No two events anywhere in a cluster are sent as the same message, so what was accepted
can be told from the messages alone.
-/

namespace OrderDesk

namespace Tables

/-- The events bear consecutive numbers and the times that a clock gave out for them. -/
structure Stamped (clock : Nat → Timestamp) (tables : Tables) : Prop where
  size : tables.outboxSequence = tables.outbox.length
  id : ∀ (place : Nat) (event : Event), tables.outbox[place]? = some event →
    event.id = ⟨place + 1⟩
  createdAt : ∀ (place : Nat) (event : Event), tables.outbox[place]? = some event →
    event.createdAt = clock place

variable {tables pushed : Tables} {clock : Nat → Timestamp}

theorem stamped_empty (clock : Nat → Timestamp) (stock : Inventory) :
    Stamped clock { empty with stock := stock } :=
  ⟨rfl, fun _ _ found => (nomatch found), fun _ _ found => (nomatch found)⟩

/-- An event that is pushed at the time of the clock is stamped like the others. -/
theorem Stamped.push (stamped : tables.Stamped clock) {order : Order}
    (outbox : pushed.outbox = tables.outbox ++ [tables.eventOf order (clock tables.outboxSequence)])
    (sequence : pushed.outboxSequence = tables.outboxSequence + 1) : pushed.Stamped clock := by
  have last : ∀ (place : Nat) (event : Event), pushed.outbox[place]? = some event →
      tables.outbox[place]? = some event ∨
        place = tables.outboxSequence ∧
        event = tables.eventOf order (clock tables.outboxSequence) := by
    intro place event found
    rw [outbox, List.getElem?_append] at found
    split at found
    · exact .inl found
    · rename_i beyond
      rw [List.getElem?_singleton] at found
      split at found
      · refine .inr ⟨?_, (Option.some.inj found).symm⟩
        have size := stamped.size
        omega
      · cases found
  refine ⟨?_, ?_, ?_⟩
  · rw [sequence, outbox, List.length_append, stamped.size, List.length_singleton]
  · intro place event found
    rcases last place event found with old | ⟨rfl, rfl⟩
    · exact stamped.id place event old
    · rfl
  · intro place event found
    rcases last place event found with old | ⟨rfl, rfl⟩
    · exact stamped.createdAt place event old
    · rfl

/-- Marks leave numbers and times alone. -/
theorem Stamped.marks {before after : Tables} (stamped : before.Stamped clock)
    (same : before.SameButMarks after) : after.Stamped clock := by
  refine ⟨?_, ?_, ?_⟩
  · have length := congrArg List.length same.outbox
    rw [List.length_map, List.length_map] at length
    rw [same.outboxSequence, stamped.size, length]
  · intro place event found
    obtain ⟨old, listed, equal⟩ := same.getElem?_before found
    have named : old.id = event.id := by simpa using congrArg Event.id equal
    rw [← named]
    exact stamped.id place old listed
  · intro place event found
    obtain ⟨old, listed, equal⟩ := same.getElem?_before found
    have timed : old.createdAt = event.createdAt := by simpa using congrArg Event.createdAt equal
    rw [← timed]
    exact stamped.createdAt place old listed

/-- A number is at one place only. -/
theorem Stamped.nodup_ids (stamped : tables.Stamped clock) : (tables.outbox.map (·.id)).Nodup := by
  rw [List.nodup_iff_pairwise_ne, List.pairwise_map, List.pairwise_iff_getElem]
  intro i j below above less same
  rw [stamped.id i _ (List.getElem?_eq_getElem below),
    stamped.id j _ (List.getElem?_eq_getElem above)] at same
  have places : (i : Int) + 1 = j + 1 := congrArg EventId.num same
  omega

/-- The events of a shard are told apart by their numbers. -/
theorem Stamped.eq_of_id (stamped : tables.Stamped clock) {a b : Event} (first : a ∈ tables.outbox)
    (second : b ∈ tables.outbox) (same : a.id = b.id) : a = b :=
  List.inj_on_of_nodup_map stamped.nodup_ids first second same

end Tables

namespace Cluster

/-- The clock of a shard. -/
def clock (cluster : Cluster) (shard : ShardIndex) : Nat → Timestamp :=
  match cluster.shards[shard.num]? with
  | none => fun _ => ⟨0⟩
  | some shard => shard.clock

theorem now_eq_clock (cluster : Cluster) (shard : ShardIndex) :
    cluster.now shard = cluster.clock shard (cluster.tables shard).outboxSequence := by
  unfold now clock tables
  cases cluster.shards[shard.num]? <;> rfl

/-- A change that keeps the clock of a shard keeps all clocks. -/
theorem clock_modifyShard {change : Shard → Shard}
    (keeps : ∀ stored, (change stored).clock = stored.clock) (cluster : Cluster)
    (shard other : ShardIndex) :
    (cluster.modifyShard shard change).clock other = cluster.clock other := by
  unfold clock
  rw [getElem?_modifyShard]
  cases cluster.shards[other.num]? with
  | none => rfl
  | some stored =>
    simp only [Option.map_some]
    split
    · exact keeps stored
    · rfl

@[simp] theorem clock_setTables (cluster : Cluster) (shard other : ShardIndex) (tables : Tables) :
    (cluster.setTables shard tables).clock other = cluster.clock other := by
  rw [setTables, clock_modifyShard]
  exact fun _ => rfl

@[simp] theorem clock_setPrimary (cluster : Cluster) (shard other : ShardIndex) (faults : Faults) :
    (cluster.setPrimary shard faults).clock other = cluster.clock other := by
  rw [setPrimary, clock_modifyShard]
  exact fun _ => rfl

@[simp] theorem clock_setReplica (cluster : Cluster) (shard other : ShardIndex) (faults : Faults) :
    (cluster.setReplica shard faults).clock other = cluster.clock other := by
  rw [setReplica, clock_modifyShard]
  exact fun _ => rfl

@[simp] theorem clock_commit (cluster : Cluster) (transaction : Transaction) (shard : ShardIndex) :
    (cluster.commit transaction).clock shard = cluster.clock shard := clock_setTables ..

@[simp] theorem outboxSequence_setInventory {cluster : Cluster} {inventory : Inventory}
    (shard : ShardIndex) : ((cluster.setInventory inventory).tables shard).outboxSequence =
      (cluster.tables shard).outboxSequence := by
  rw [tables_setInventory]
  split <;> rfl

/-- Stock plays no part in the stamp of the next event. -/
@[simp] theorem now_setInventory {cluster : Cluster} {inventory : Inventory} (shard : ShardIndex) :
    (cluster.setInventory inventory).now shard = cluster.now shard := by
  rw [now_eq_clock, now_eq_clock, outboxSequence_setInventory, setInventory, clock_setTables]

/-- The events of every shard are stamped by the clock of the shard. -/
def Stamped (cluster : Cluster) : Prop :=
  ∀ shard, (cluster.tables shard).Stamped (cluster.clock shard)

theorem Unused.stamped {cluster : Cluster} (unused : cluster.Unused) : cluster.Stamped := by
  intro shard
  rw [unused shard]
  exact Tables.stamped_empty _ _

theorem Stamped.marks {before after : Cluster} (stamped : before.Stamped)
    (same : SameButMarks before after) (clock : ∀ shard, after.clock shard = before.clock shard) :
    after.Stamped := by
  intro shard
  rw [clock shard]
  exact (stamped shard).marks (same.tables shard)

/-! ## Growth -/

/-- The outboxes have grown: what was there is there as it was, and what came behind it has not
    been sent. -/
structure Grew (before after : Cluster) : Prop where
  clock : ∀ shard, after.clock shard = before.clock shard
  outbox : ∀ shard, ∃ fresh, (after.tables shard).outbox = (before.tables shard).outbox ++ fresh ∧
    ∀ event ∈ fresh, event.processed = false
  stamped : before.Stamped → after.Stamped

variable {cluster before after : Cluster} {order stored : Order} {state : OrderState}

theorem Grew.trans {a b c : Cluster} (first : Grew a b) (second : Grew b c) : Grew a c where
  clock shard := (second.clock shard).trans (first.clock shard)
  outbox shard := by
    obtain ⟨some, came, unsent⟩ := first.outbox shard
    obtain ⟨more, followed, waiting⟩ := second.outbox shard
    refine ⟨some ++ more, ?_, ?_⟩
    · rw [followed, came, List.append_assoc]
    · intro event member
      rcases List.mem_append.1 member with early | late
      · exact unsent event early
      · exact waiting event late
  stamped := second.stamped ∘ first.stamped

/-- Nothing grows where all events stay as they are. -/
theorem grew_of_same (clock : ∀ shard, after.clock shard = before.clock shard)
    (outbox : ∀ shard, (after.tables shard).outbox = (before.tables shard).outbox)
    (sequence : ∀ shard, (after.tables shard).outboxSequence =
      (before.tables shard).outboxSequence) :
    Grew before after where
  clock := clock
  outbox shard := ⟨[], by rw [outbox shard, List.append_nil], fun _ member => (nomatch member)⟩
  stamped stamped shard := by
    obtain ⟨size, id, createdAt⟩ := stamped shard
    refine ⟨?_, ?_, ?_⟩
    · rw [sequence shard, outbox shard, size]
    · rw [outbox shard]
      exact id
    · rw [outbox shard, clock shard]
      exact createdAt

theorem Grew.refl (cluster : Cluster) : Grew cluster cluster :=
  grew_of_same (fun _ => rfl) (fun _ => rfl) (fun _ => rfl)

/-- A write that pushes one event lets the outbox of its shard grow by that event. -/
theorem grew_push {shard : ShardIndex} (present : cluster.Has shard) {pushed : Tables}
    {order : Order} (outbox : pushed.outbox = (cluster.tables shard).outbox ++
      [(cluster.tables shard).eventOf order (cluster.now shard)])
    (sequence : pushed.outboxSequence = (cluster.tables shard).outboxSequence + 1) :
    Grew cluster (cluster.setTables shard pushed) where
  clock other := clock_setTables ..
  outbox other := by
    rw [tables_setTables present]
    split
    · rename_i same
      subst same
      refine ⟨_, outbox, ?_⟩
      intro event member
      rw [List.mem_singleton.1 member]
      rfl
    · exact ⟨[], (List.append_nil _).symm, fun _ member => (nomatch member)⟩
  stamped stamped other := by
    rw [clock_setTables, tables_setTables present]
    split
    · rename_i same
      subst same
      rw [now_eq_clock] at outbox
      exact (stamped shard).push outbox sequence
    · exact stamped other

theorem grew_addOrder (present : cluster.Has order.id.shard) :
    Grew cluster (cluster.addOrder order) :=
  grew_push present rfl rfl

theorem grew_moveOrder (present : cluster.Has stored.id.shard) :
    Grew cluster (cluster.moveOrder stored state) :=
  grew_push present rfl rfl

theorem grew_setInventory (inventory : Inventory) :
    Grew cluster (cluster.setInventory inventory) := by
  apply grew_of_same
  · exact fun _ => clock_setTables ..
  · exact fun _ => outbox_setInventory _
  · exact fun _ => outboxSequence_setInventory _

theorem grew_setPrimary (shard : ShardIndex) (faults : Faults) :
    Grew cluster (cluster.setPrimary shard faults) := by
  apply grew_of_same
  · exact fun _ => clock_setPrimary ..
  · exact fun _ => by rw [tables_setPrimary]
  · exact fun _ => by rw [tables_setPrimary]

theorem grew_setReplica (shard : ShardIndex) (faults : Faults) :
    Grew cluster (cluster.setReplica shard faults) := by
  apply grew_of_same
  · exact fun _ => clock_setReplica ..
  · exact fun _ => by rw [tables_setReplica]
  · exact fun _ => by rw [tables_setReplica]

theorem Placed.grew_checkout (placed : cluster.Placed) (user : UserId) (items : List Item) :
    Grew cluster (cluster.checkout user items).2 := by
  rcases checkout_cases placed user items with
    ⟨error, failed⟩ | ⟨id, inventory, state, answer, -, -, healthy, -, -, done⟩
  · rw [failed]
    exact .refl cluster
  · rw [done]
    have present := (healthy.added ⟨id, user, .new, items⟩ inventory).has
    exact ((grew_addOrder healthy.has).trans (grew_setInventory inventory)).trans
      (grew_moveOrder present)

theorem grew_settle (cluster : Cluster) (settlement : Settlement) (id : OrderId) :
    Grew cluster (cluster.settle settlement id).2 := by
  rcases cluster.settle_cases settlement id with
    ⟨error, failed⟩ | ⟨order, inventory, healthy, found, -, -, done⟩
  · rw [failed]
    exact .refl cluster
  · rw [done]
    rw [← Tables.id_of_order? found] at healthy
    exact (grew_setInventory inventory).trans (grew_moveOrder (healthy_setInventory.2 healthy).has)

/-! ## Messages and events -/

/-- What is stored is in order: orders and events bear their numbers, and the events tell of the
    orders what they went through. -/
structure Orderly (cluster : Cluster) : Prop where
  placed : cluster.Placed
  agreed : cluster.Agreed
  stamped : cluster.Stamped

theorem Unused.orderly (unused : cluster.Unused) : cluster.Orderly :=
  ⟨unused.placed, unused.agreed, unused.stamped⟩

theorem Orderly.marks (orderly : before.Orderly) (same : SameButMarks before after)
    (clock : ∀ shard, after.clock shard = before.clock shard) : after.Orderly :=
  ⟨same.placed orderly.placed, orderly.agreed.marks same, orderly.stamped.marks same clock⟩

theorem Orderly.commit (orderly : cluster.Orderly) (transaction : Transaction) :
    (cluster.commit transaction).Orderly :=
  orderly.marks (sameButMarks_commit cluster transaction) (clock_commit cluster transaction)

/-- An event that a shard stores tells of an order on that shard, in a state of its course. -/
theorem Recorded.exists_tale {course : OrderId → List OrderState}
    (recorded : cluster.Recorded course) (placed : cluster.Placed) {shard : ShardIndex}
    {event : Event} (member : event ∈ (cluster.tables shard).outbox) :
    ∃ order state, cluster.stored? order.id = some order ∧ order.id.shard = shard ∧
      event ∈ cluster.eventsOf order.id ∧ event.payload = tale order state := by
  obtain ⟨order, listed, named⟩ := recorded.exists_order member
  obtain ⟨here, found⟩ := placed.stored?_of_mem listed
  have about : event ∈ cluster.eventsOf order.id := by
    unfold eventsOf
    rw [here]
    exact List.mem_filter.2 ⟨member, by simp [named]⟩
  have told : event.payload ∈ (course order.id).map (tale order) := by
    rw [← recorded.told order.id order found]
    exact List.mem_map_of_mem about
  obtain ⟨state, -, equal⟩ := List.mem_map.1 told
  exact ⟨order, state, found, here, about, equal.symm⟩

/-- The text of an event tells which order it is about and in which state. -/
theorem tale_eq {a b : Order} {s t : OrderState}
    (same : Snapshot.ofPayload (tale a s) = Snapshot.ofPayload (tale b t)) :
    a.id = b.id ∧ s = t := by
  unfold tale at same
  rw [Snapshot.ofPayload_payload, Snapshot.ofPayload_payload] at same
  have equal := Except.ok.inj same
  refine ⟨?_, congrArg Snapshot.state equal⟩
  have left := (Snapshot.tells_ofOrder a s).id
  have right := (Snapshot.tells_ofOrder b t).id
  rw [equal, right] at left
  have numbers : a.id.num = b.id.num := (Int.ofNat.inj left).symm
  cases ida : a.id
  cases idb : b.id
  simp_all

/-- The events of a cluster are told apart by their texts, as these are read. -/
theorem Orderly.eq_of_snapshot (orderly : cluster.Orderly) {i j : ShardIndex} {a b : Event}
    (first : a ∈ (cluster.tables i).outbox) (second : b ∈ (cluster.tables j).outbox)
    (same : a.snapshot = b.snapshot) : i = j ∧ a = b := by
  obtain ⟨course, recorded, known⟩ := orderly.agreed
  obtain ⟨order, s, found, rfl, about, told⟩ := recorded.exists_tale orderly.placed first
  obtain ⟨other, t, found', rfl, about', told'⟩ := recorded.exists_tale orderly.placed second
  rw [Event.snapshot, Event.snapshot, told, told'] at same
  obtain ⟨named, rfl⟩ := tale_eq same
  rw [named] at found about
  obtain rfl : order = other := Option.some.inj (found.symm.trans found')
  refine ⟨rfl, ?_⟩
  have distinct : ((cluster.eventsOf order.id).map Event.payload).Nodup := by
    rw [recorded.told order.id order found']
    have once : (course order.id).Nodup := OrderState.nodup_of_mem_courses (known _ _ found')
    exact once.map fun x y equal => (tale_eq (congrArg Snapshot.ofPayload equal)).2
  exact List.inj_on_of_nodup_map distinct about about' (told.trans told'.symm)

/-- No two events of a cluster are sent as the same message. -/
theorem Orderly.eq_of_message (orderly : cluster.Orderly) {i j : ShardIndex} {a b : Event}
    (first : a ∈ (cluster.tables i).outbox) (second : b ∈ (cluster.tables j).outbox)
    {topic : String} (same : Message.ofEvent topic a = .ofEvent topic b) : i = j ∧ a = b := by
  have values : Utf8.encode a.payload = Utf8.encode b.payload := congrArg Message.value same
  apply orderly.eq_of_snapshot first second
  rw [Event.snapshot, Event.snapshot, Snapshot.ofPayload, Snapshot.ofPayload, values]

/-- The messages of a shard are all different. -/
theorem Orderly.nodup_messages (orderly : cluster.Orderly) (topic : String) (shard : ShardIndex) :
    ((cluster.tables shard).outbox.map (Message.ofEvent topic)).Nodup := by
  have distinct := (orderly.stamped shard).nodup_ids.of_map
  exact distinct.map_on fun a here b there same => (orderly.eq_of_message here there same).2

end Cluster

end OrderDesk
