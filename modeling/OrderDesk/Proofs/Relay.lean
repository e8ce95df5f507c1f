import OrderDesk.Proofs.Store
import OrderDesk.Proofs.Transaction
import OrderDesk.Relay

/-!
# What a tick changes

A tick of the relay marks events as sent and changes nothing else in the tables: orders, stock and
counters of every shard stay, and each outbox keeps its events in their order, with all that they
say. Databases that fail or come back change even less.
-/

namespace OrderDesk

/-- An event as it was stored, whether or not it has been sent since. -/
def Event.unmarked (event : Event) : Event := { event with processed := false }

@[simp] theorem Event.id_unmarked (event : Event) : event.unmarked.id = event.id := rfl

@[simp] theorem Event.createdAt_unmarked (event : Event) :
    event.unmarked.createdAt = event.createdAt := rfl

@[simp] theorem Message.ofEvent_unmarked (topic : String) (event : Event) :
    ofEvent topic event.unmarked = ofEvent topic event := rfl

/-- Events that are the same but for their marks are sent as the same message. -/
theorem Message.ofEvent_congr (topic : String) {a b : Event} (same : a.unmarked = b.unmarked) :
    ofEvent topic a = ofEvent topic b := by
  rw [← ofEvent_unmarked, same, ofEvent_unmarked]

theorem Event.unmarked_of_waits {event : Event} (waits : event.processed = false) :
    event.unmarked = event := by
  cases event
  cases waits
  rfl

/-- Tables that differ at most in which of their events are marked as sent. -/
structure Tables.SameButMarks (before after : Tables) : Prop where
  orders : after.orders = before.orders
  orderSequence : after.orderSequence = before.orderSequence
  stock : after.stock = before.stock
  outbox : after.outbox.map Event.unmarked = before.outbox.map Event.unmarked
  outboxSequence : after.outboxSequence = before.outboxSequence

theorem Tables.SameButMarks.refl (tables : Tables) : SameButMarks tables tables :=
  ⟨rfl, rfl, rfl, rfl, rfl⟩

theorem Tables.SameButMarks.trans {a b c : Tables} (first : SameButMarks a b)
    (second : SameButMarks b c) : SameButMarks a c where
  orders := second.orders.trans first.orders
  orderSequence := second.orderSequence.trans first.orderSequence
  stock := second.stock.trans first.stock
  outbox := second.outbox.trans first.outbox
  outboxSequence := second.outboxSequence.trans first.outboxSequence

/-- An event stays stored, whatever its mark. -/
theorem Tables.SameButMarks.exists_after {before after : Tables} (same : SameButMarks before after)
    {event : Event} (stored : event ∈ before.outbox) :
    ∃ later ∈ after.outbox, later.unmarked = event.unmarked := by
  have kept := List.mem_map_of_mem (f := Event.unmarked) stored
  rw [← same.outbox] at kept
  exact List.mem_map.1 kept

/-- What is at a place of the outbox was there before, whatever its mark. -/
theorem Tables.SameButMarks.getElem?_before {before after : Tables}
    (same : SameButMarks before after) {place : Nat} {event : Event}
    (found : after.outbox[place]? = some event) :
    ∃ old, before.outbox[place]? = some old ∧ old.unmarked = event.unmarked := by
  have here := congrArg (·[place]?) same.outbox
  simp only [List.getElem?_map, found, Option.map_some] at here
  exact Option.map_eq_some_iff.1 here.symm

/-- Marks do not change what is sent. -/
theorem Tables.SameButMarks.messages {before after : Tables} (same : SameButMarks before after)
    (topic : String) :
    after.outbox.map (Message.ofEvent topic) = before.outbox.map (Message.ofEvent topic) := by
  have whole := congrArg (List.map (Message.ofEvent topic)) same.outbox
  simpa only [List.map_map, Function.comp_def, Message.ofEvent_unmarked] using whole

theorem Tables.sameButMarks_markSent (tables : Tables) (staged : List EventId) :
    SameButMarks tables { tables with outbox := markSent staged tables.outbox } := by
  refine ⟨rfl, rfl, rfl, ?_, rfl⟩
  simp only [markSent, List.map_map]
  apply List.map_congr_left
  intro event _
  show (if staged.contains event.id then { event with processed := true } else event).unmarked = _
  split <;> rfl

namespace Cluster

/-- Clusters whose tables differ at most in marks. -/
structure SameButMarks (before after : Cluster) : Prop where
  size : after.shards.length = before.shards.length
  tables : ∀ shard, (before.tables shard).SameButMarks (after.tables shard)

theorem SameButMarks.refl (cluster : Cluster) : SameButMarks cluster cluster :=
  ⟨rfl, fun _ => .refl _⟩

theorem SameButMarks.trans {a b c : Cluster} (first : SameButMarks a b)
    (second : SameButMarks b c) : SameButMarks a c where
  size := second.size.trans first.size
  tables shard := (first.tables shard).trans (second.tables shard)

theorem SameButMarks.everyOrder {before after : Cluster} (same : SameButMarks before after) :
    after.everyOrder = before.everyOrder :=
  everyOrder_congr same.size fun shard => (same.tables shard).orders

theorem SameButMarks.inventory {before after : Cluster} (same : SameButMarks before after) :
    after.inventory = before.inventory :=
  (same.tables .inventory).stock

theorem SameButMarks.placed {before after : Cluster} (same : SameButMarks before after)
    (placed : before.Placed) : after.Placed := by
  intro shard
  unfold Tables.Numbered
  rw [(same.tables shard).orders, (same.tables shard).orderSequence]
  exact placed shard

theorem SameButMarks.stored? {before after : Cluster} (same : SameButMarks before after)
    (id : OrderId) : after.stored? id = before.stored? id := by
  unfold Cluster.stored? Tables.order?
  rw [(same.tables id.shard).orders]

theorem sameButMarks_setPrimary (cluster : Cluster) (shard : ShardIndex) (faults : Faults) :
    SameButMarks cluster (cluster.setPrimary shard faults) := by
  refine ⟨length_modifyShard .., ?_⟩
  intro other
  rw [tables_setPrimary]
  exact .refl _

theorem sameButMarks_setReplica (cluster : Cluster) (shard : ShardIndex) (faults : Faults) :
    SameButMarks cluster (cluster.setReplica shard faults) := by
  refine ⟨length_modifyShard .., ?_⟩
  intro other
  rw [tables_setReplica]
  exact .refl _

theorem sameButMarks_commit (cluster : Cluster) (transaction : Transaction) :
    SameButMarks cluster (cluster.commit transaction) := by
  refine ⟨length_modifyShard .., fun shard => ?_⟩
  rw [tables_commit]
  split
  · exact Tables.sameButMarks_markSent _ _
  · exact .refl _

end Cluster

namespace Relay

variable {σ : Type} (publisher : Publisher σ) (settings : RelaySettings)

section Related

variable {Related : Cluster → Cluster → Prop} (refl : ∀ cluster, Related cluster cluster)
  (trans : ∀ {a b c}, Related a b → Related b c → Related a c)
  (commit : ∀ cluster transaction, Related cluster (Cluster.commit cluster transaction))

include refl commit in
theorem related_drain (transaction : Transaction) (cluster : Cluster) (state : σ) :
    Related cluster (drain publisher settings transaction cluster state).2.1 := by
  unfold drain
  simp only
  split
  · exact refl cluster
  · exact commit cluster _

include refl trans commit

theorem related_drainEach (transactions : List Transaction) (cluster : Cluster) (state : σ) :
    Related cluster (drainEach publisher settings transactions cluster state).2.1 := by
  induction transactions generalizing cluster state with
  | nil => exact refl cluster
  | cons transaction rest ih =>
    exact trans (related_drain publisher settings refl commit transaction cluster state) (ih _ _)

/-- All that a tick does to a cluster are commits: what relates a cluster to itself after one
    commit, and from one to the next, relates it to itself after a tick. -/
theorem related_tick (cluster : Cluster) (state : σ) :
    Related cluster (tick publisher settings cluster state).2.1 := by
  unfold tick
  split
  · exact refl cluster
  · exact related_drainEach publisher settings refl trans commit _ cluster state

end Related

/-- A tick changes nothing but marks, whatever the publisher answers. -/
theorem sameButMarks_tick (cluster : Cluster) (state : σ) :
    cluster.SameButMarks (tick publisher settings cluster state).2.1 :=
  related_tick publisher settings Cluster.SameButMarks.refl Cluster.SameButMarks.trans
    Cluster.sameButMarks_commit cluster state

end Relay

end OrderDesk
