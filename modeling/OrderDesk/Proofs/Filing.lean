import OrderDesk.Proofs.Errands
import OrderDesk.Proofs.Outbox

/-!
# Where events are filed

Whatever is asked of a desk, the events of a shard bear consecutive numbers, and each of them is
about an order whose number encodes the shard. So the events of a shard are told apart by their
numbers, and what is sent for an event of one shard is never sent for an event of another.
-/

namespace OrderDesk

theorem OrderId.toString_injective : Function.Injective (toString : OrderId → String) := by
  intro a b same
  have repr : Nat.repr a.num = Nat.repr b.num := same
  have digits : Nat.toDigits 10 a.num = Nat.toDigits 10 b.num := by
    simpa only [Nat.toList_repr] using congrArg String.toList repr
  apply eq_of_num
  rw [← @Nat.ofDigitChars_ten_toDigits a.num, digits, Nat.ofDigitChars_ten_toDigits]

namespace Tables

/-- The events bear consecutive numbers and are about orders of a shard. -/
structure Filed (shard : ShardIndex) (tables : Tables) : Prop where
  stamped : ∃ clock, tables.Stamped clock
  about : ∀ event ∈ tables.outbox, event.order.shard = shard

variable {tables pushed : Tables} {shard : ShardIndex} {clock : Nat → Timestamp}

/-- A clock may say anything for events that are still to come. -/
theorem Stamped.update (stamped : tables.Stamped clock) (now : Timestamp) :
    tables.Stamped (Function.update clock tables.outboxSequence now) := by
  refine ⟨stamped.size, stamped.id, fun place event found => ?_⟩
  have below := (List.getElem?_eq_some_iff.1 found).1
  have apart : place ≠ tables.outboxSequence := by
    rw [stamped.size]
    exact Nat.ne_of_lt below
  rw [Function.update_of_ne apart]
  exact stamped.createdAt place event found

theorem Filed.push (filed : tables.Filed shard) {order : Order} {now : Timestamp}
    (outbox : pushed.outbox = tables.outbox ++ [tables.eventOf order now])
    (sequence : pushed.outboxSequence = tables.outboxSequence + 1) (lies : order.id.shard = shard) :
    pushed.Filed shard := by
  obtain ⟨clock, stamped⟩ := filed.stamped
  have told : pushed.outbox = tables.outbox ++ [tables.eventOf order
      (Function.update clock tables.outboxSequence now tables.outboxSequence)] := by
    rw [outbox, Function.update_self]
  refine ⟨⟨_, (stamped.update now).push told sequence⟩, fun event member => ?_⟩
  rw [outbox] at member
  rcases List.mem_append.1 member with old | new
  · exact filed.about event old
  · rw [List.mem_singleton.1 new]
    exact lies

/-- Orders and stock have no part in how events are filed. -/
theorem Filed.congr {before after : Tables} (filed : before.Filed shard)
    (outbox : after.outbox = before.outbox)
    (sequence : after.outboxSequence = before.outboxSequence) : after.Filed shard := by
  obtain ⟨⟨clock, size, id, createdAt⟩, about⟩ := filed
  rw [← outbox] at size id createdAt about
  rw [← sequence] at size
  exact ⟨⟨clock, size, id, createdAt⟩, about⟩

theorem Filed.marks {before after : Tables} (filed : before.Filed shard)
    (same : before.SameButMarks after) : after.Filed shard := by
  obtain ⟨clock, stamped⟩ := filed.stamped
  refine ⟨⟨clock, stamped.marks same⟩, fun event member => ?_⟩
  obtain ⟨place, found⟩ := List.mem_iff_getElem?.1 member
  obtain ⟨old, there, equal⟩ := same.getElem?_before found
  have order : old.order = event.order := by simpa [Event.unmarked] using congrArg Event.order equal
  rw [← order]
  exact filed.about old (List.mem_of_getElem? there)

end Tables

namespace Cluster

/-- The events of every shard are filed there. -/
def Filed (cluster : Cluster) : Prop := ∀ shard, (cluster.tables shard).Filed shard

variable {cluster before after : Cluster} {order stored : Order} {state : OrderState}

theorem Unused.filed (unused : cluster.Unused) : cluster.Filed := by
  intro shard
  rw [unused shard]
  exact ⟨⟨_, Tables.stamped_empty (fun _ => ⟨0⟩) _⟩, List.forall_mem_nil _⟩

theorem Filed.addOrder (filed : cluster.Filed) (present : cluster.Has order.id.shard) :
    (cluster.addOrder order).Filed := by
  intro shard
  rw [tables_addOrder present]
  split
  · rename_i same
    exact (filed shard).push rfl rfl same
  · exact filed shard

theorem Filed.moveOrder (filed : cluster.Filed) (present : cluster.Has stored.id.shard) :
    (cluster.moveOrder stored state).Filed := by
  intro shard
  rw [tables_moveOrder present]
  split
  · rename_i same
    exact (filed shard).push rfl rfl same
  · exact filed shard

theorem Filed.setInventory (filed : cluster.Filed) (inventory : Inventory) :
    (cluster.setInventory inventory).Filed :=
  fun shard => (filed shard).congr (outbox_setInventory shard) (outboxSequence_setInventory shard)

theorem Filed.marks (filed : before.Filed) (same : SameButMarks before after) : after.Filed :=
  fun shard => (filed shard).marks (same.tables shard)

/-- Events of different shards are sent as different messages. -/
theorem Filed.shard_eq_of_message (filed : cluster.Filed) {i j : ShardIndex} {a b : Event}
    (first : a ∈ (cluster.tables i).outbox) (second : b ∈ (cluster.tables j).outbox)
    {topic : String} (same : Message.ofEvent topic a = .ofEvent topic b) : i = j := by
  have orders : a.order = b.order := OrderId.toString_injective (congrArg Message.key same)
  rw [← (filed i).about a first, ← (filed j).about b second, orders]

end Cluster

/-- Whatever is asked of a desk, the events of every shard stay filed there. -/
theorem Desk.filed_serveAll {σ : Type} (publisher : Publisher σ) {start : Desk σ}
    (unused : start.cluster.Unused) (errands : List Errand) :
    (start.serveAll publisher errands).cluster.Filed := by
  refine (serveAll_keeps ?_ ?_ ?_ ?_ start errands unused.placed unused.filed).2
  · exact fun _ _ _ filed _ healthy _ => filed.addOrder healthy.has
  · exact fun _ _ _ _ filed healthy _ => filed.moveOrder healthy.has
  · exact fun _ inventory filed => filed.setInventory inventory
  · exact fun _ _ same filed => filed.marks same

end OrderDesk
