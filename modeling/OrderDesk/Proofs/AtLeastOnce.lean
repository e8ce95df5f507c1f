import OrderDesk.Proofs.Delivery
import OrderDesk.Proofs.Transaction
import OrderDesk.Publisher.Bus

/-!
# Delivery at least once

An event is marked as sent only after the publisher has accepted it, and the marks of a drain
reach the tables only when all of its batch has been accepted. So wherever a delivery stops, on
some shards and not on others, nothing that is marked was missed, nothing that was missed is gone,
and the publisher has accepted nothing but the messages of stored events.
-/

namespace OrderDesk

/-- Marking keeps each event, and marks only those that are named. -/
theorem Tables.of_mem_markSent {staged : List EventId} {outbox : List Event} {event : Event}
    (member : event ∈ markSent staged outbox) : ∃ old ∈ outbox, old.unmarked = event.unmarked ∧
      (event.processed = true → old.processed = true ∨ old.id ∈ staged) := by
  obtain ⟨old, stored, rfl⟩ := List.mem_map.1 member
  refine ⟨old, stored, ?_⟩
  split
  · rename_i named
    exact ⟨rfl, fun _ => .inr (List.contains_iff_mem.1 named)⟩
  · exact ⟨rfl, .inl⟩

/-- A drain under way holds the outbox of its shard as it is stored. What it is still to send
    waits there, and what it has marked was accepted. -/
structure Drain.Open (topic : String) (cluster : Cluster) (accepted : List Message)
    (drain : Drain) :
    Prop where
  sends : drain.topic = topic
  present : cluster.Has drain.transaction.shard
  outbox : drain.transaction.outbox = (cluster.tables drain.transaction.shard).outbox
  batch : ∀ event ∈ drain.rest, event ∈ drain.transaction.outbox ∧ event.processed = false
  marked : ∀ event ∈ drain.transaction.outbox, event.id ∈ drain.transaction.staged →
    .ofEvent topic event ∈ accepted

namespace Drain.Open

variable {topic : String} {cluster : Cluster} {accepted more : List Message} {drain : Drain}

theorem start {settings : RelaySettings} {transaction : Transaction}
    (sends : settings.topic = topic) (present : cluster.Has transaction.shard)
    (outbox : transaction.outbox = (cluster.tables transaction.shard).outbox)
    (unmarked : transaction.staged = []) :
    (Drain.start settings transaction).Open topic cluster accepted where
  sends := sends
  present := present
  outbox := outbox
  batch _ member := Tables.of_mem_pending member
  marked _ _ named := by
    rw [Drain.start, unmarked] at named
    cases named

/-- What was accepted stays accepted. -/
theorem accept (holds : drain.Open topic cluster accepted) (kept : accepted ⊆ more) :
    drain.Open topic cluster more :=
  { holds with marked := fun event stored named => kept (holds.marked event stored named) }

/-- An event that has been accepted may be marked. -/
theorem mark (holds : drain.Open topic cluster accepted) {event : Event} {rest : List Event}
    {clock : Nat → Timestamp} (stamped : (cluster.tables drain.transaction.shard).Stamped clock)
    (next : drain.rest = event :: rest) {transaction : Transaction}
    (mark : drain.transaction.mark event.id = .ok transaction)
    (taken : .ofEvent topic event ∈ accepted) :
    { drain with transaction := transaction, rest := rest : Drain }.Open
      topic cluster accepted := by
  obtain rfl := Transaction.eq_of_mark mark
  have batch := holds.batch
  rw [next] at batch
  refine ⟨holds.sends, holds.present, holds.outbox, (List.forall_mem_cons.1 batch).2, ?_⟩
  intro other stored named
  rcases List.mem_append.1 named with before | last
  · exact holds.marked other stored before
  · have waits := (batch event (by simp)).1
    rw [holds.outbox] at waits
    rw [holds.outbox] at stored
    rwa [stamped.eq_of_id stored waits (List.mem_singleton.1 last)]

/-- What another drain commits concerns another shard. -/
theorem commit (holds : drain.Open topic cluster accepted) {transaction : Transaction}
    (apart : transaction.shard ≠ drain.transaction.shard) :
    drain.Open topic (cluster.commit transaction) accepted := by
  refine ⟨holds.sends, Cluster.has_commit.2 holds.present, ?_, holds.batch, holds.marked⟩
  rw [Cluster.outbox_commit, if_neg apart]
  exact holds.outbox

end Drain.Open

namespace Delivery

variable {σ : Type}

/-- What has been sent at any point of a delivery, and what the drains under way hold. -/
structure Delivered (topic : String) (delivery : Delivery σ) : Prop where
  apart : (delivery.drains.map (·.transaction.shard)).Nodup
  drains : ∀ drain ∈ delivery.drains, drain.Open topic delivery.desk.cluster delivery.accepted
  /-- What is marked as sent was accepted. -/
  sent : ∀ shard, ∀ event ∈ (delivery.tables shard).outbox, event.processed = true →
    .ofEvent topic event ∈ delivery.accepted
  /-- What was accepted is stored. -/
  known : ∀ message ∈ delivery.accepted, ∃ shard, ∃ event ∈ (delivery.tables shard).outbox,
    message = .ofEvent topic event

variable {topic : String} {before after : Delivery σ}

theorem delivered_on {start : Desk σ} (unused : start.cluster.Unused) :
    (on start).Delivered topic where
  apart := List.nodup_nil
  drains _ member := nomatch member
  sent shard event member := by
    rw [tables, on, unused shard] at member
    cases member
  known _ member := nomatch member

/-- The other drains are on other shards. -/
theorem Delivered.ne_of_mem (delivered : before.Delivered topic) {early late : List Drain}
    {drain other : Drain} (there : before.drains = early ++ drain :: late)
    (member : other ∈ early ++ late) : drain.transaction.shard ≠ other.transaction.shard := by
  have apart := delivered.apart
  rw [there, List.map_append, List.map_cons, List.nodup_middle, ← List.map_append] at apart
  intro same
  exact (List.nodup_cons.1 apart).1 (same ▸ List.mem_map_of_mem member)

/-- The drain that a step puts in the place of another is the only one on its shard. -/
theorem Delivered.eq_of_mem (delivered : before.Delivered topic) {early late : List Drain}
    {drain next other : Drain} (there : before.drains = early ++ drain :: late)
    (member : other ∈ early ++ next :: late)
    (same : drain.transaction.shard = other.transaction.shard) : other = next := by
  rcases List.mem_cons.1 (List.perm_middle.mem_iff.1 member) with here | others
  · exact here
  · exact absurd same (delivered.ne_of_mem there others)

/-- An accepted offer adds the message of its event to what was accepted. -/
theorem accepted_offer {drain : Drain} (sends : drain.topic = topic) (event : Event) (outside : σ)
    (drains : List Drain) (outcomes : List ShardOutcome) :
    accepted ⟨⟨before.desk.cluster, before.offers ++ [⟨.ofEvent drain.topic event, true⟩], outside⟩,
      drains, outcomes⟩ = before.accepted ++ [.ofEvent topic event] := by
  rw [accepted_mk, Offer.taken_append, Offer.taken_accepted, sends, accepted]

/-- What a publisher accepts of an offer is stored. -/
theorem Delivered.offer (delivered : before.Delivered topic) {drain : Drain} {event : Event}
    {rest : List Event} (under : drain ∈ before.drains) (next : drain.rest = event :: rest)
    (taken : Bool) : let offers := before.offers ++ [⟨.ofEvent drain.topic event, taken⟩]
    before.accepted ⊆ Offer.taken offers ∧ ∀ message ∈ Offer.taken offers,
      ∃ shard, ∃ event ∈ (before.tables shard).outbox, message = .ofEvent topic event := by
  have this := delivered.drains drain under
  have waits := (this.batch event (by simp [next])).1
  rw [this.outbox] at waits
  intro offers
  have split : Offer.taken offers =
      before.accepted ++ Offer.taken [⟨.ofEvent topic event, taken⟩] := by
    rw [Offer.taken_append, this.sends, accepted]
  rw [split]
  refine ⟨List.subset_append_left .., ?_⟩
  intro message member
  rcases List.mem_append.1 member with old | new
  · exact delivered.known message old
  · cases taken with
    | false => cases new
    | true => exact ⟨_, event, waits, List.mem_singleton.1 new⟩

/-- Calls only add events that have not been sent. -/
theorem Delivered.acted (delivered : before.Delivered topic) {cluster : Cluster}
    (idle : before.drains = []) (grew : before.desk.cluster.Grew cluster) :
    { before with desk := { before.desk with cluster := cluster } : Delivery σ }.Delivered
      topic := by
  refine ⟨delivered.apart, by simp [idle], ?_, ?_⟩
  · intro shard event member processed
    obtain ⟨fresh, outbox, unsent⟩ := grew.outbox shard
    simp only [tables, outbox, List.mem_append] at member
    rcases member with old | new
    · exact delivered.sent shard event old processed
    · rw [unsent event new] at processed
      cases processed
  · intro message taken
    obtain ⟨shard, event, member, same⟩ := delivered.known message taken
    obtain ⟨fresh, outbox, -⟩ := grew.outbox shard
    refine ⟨shard, event, ?_, same⟩
    simp only [tables, outbox]
    exact List.mem_append_left fresh member

/-- A tick opens one transaction on each shard, without marks. -/
theorem Delivered.opened (delivered : before.Delivered topic) {settings : RelaySettings}
    {transactions : List Transaction} (sends : settings.topic = topic)
    (began : before.desk.cluster.beginAll = .ok transactions) :
    { before with drains := transactions.map (Drain.start settings) : Delivery σ }.Delivered
      topic := by
  obtain ⟨apart, opened⟩ := Cluster.beginAll_eq_ok began
  refine ⟨by simpa [Function.comp_def, Drain.start] using apart, ?_, delivered.sent,
    delivered.known⟩
  intro drain member
  obtain ⟨transaction, listed, rfl⟩ := List.mem_map.1 member
  obtain ⟨present, outbox, unmarked⟩ := opened transaction listed
  exact .start sends present outbox unmarked

section Drains

variable {early late : List Drain} {drain : Drain} {event : Event} {rest : List Event}
  {outside : σ}

/-- What a drain marks was accepted just before. -/
theorem Delivered.marked (delivered : before.Delivered topic)
    (orderly : before.desk.cluster.Orderly) {transaction : Transaction}
    (there : before.drains = early ++ drain :: late) (next : drain.rest = event :: rest)
    (mark : drain.transaction.mark event.id = .ok transaction) :
    Delivered topic
      ⟨⟨before.desk.cluster, before.offers ++ [⟨.ofEvent drain.topic event, true⟩], outside⟩,
        early ++ { drain with transaction := transaction, rest := rest } :: late,
        before.outcomes⟩ := by
  have under : drain ∈ before.drains := by simp [there]
  have fewer : (early ++ late).Sublist before.drains := by simp [there]
  have this := delivered.drains drain under
  obtain ⟨more, known⟩ := delivered.offer under next true
  refine ⟨?_, ?_, ?_, known⟩
  · have apart := delivered.apart
    rw [there] at apart
    simpa [Drain.shard_of_mark mark] using apart
  · intro other member
    rcases List.mem_cons.1 (List.perm_middle.mem_iff.1 member) with rfl | others
    · exact (this.accept more).mark (orderly.stamped _) next mark (by simp [this.sends])
    · exact (delivered.drains other (fewer.subset others)).accept more
  · exact fun shard event member processed => more (delivered.sent shard event member processed)

/-- Whether or not the last offer of a drain was accepted, nothing is marked when it fails. -/
theorem Delivered.failed (delivered : before.Delivered topic) {taken : Bool} {error : Error}
    (there : before.drains = early ++ drain :: late) (next : drain.rest = event :: rest) :
    Delivered topic
      ⟨⟨before.desk.cluster, before.offers ++ [⟨.ofEvent drain.topic event, taken⟩], outside⟩,
        early ++ late, before.outcomes ++ [⟨drain.transaction.shard, .error error⟩]⟩ := by
  have under : drain ∈ before.drains := by simp [there]
  have fewer : (early ++ late).Sublist before.drains := by simp [there]
  obtain ⟨more, known⟩ := delivered.offer under next taken
  refine ⟨delivered.apart.sublist (fewer.map _), ?_, ?_, known⟩
  · exact fun other member => (delivered.drains other (fewer.subset member)).accept more
  · exact fun shard event member processed => more (delivered.sent shard event member processed)

/-- A commit marks what its drain has marked, all of which was accepted. -/
theorem Delivered.committed (delivered : before.Delivered topic)
    (there : before.drains = early ++ drain :: late) : Delivered topic
      ⟨⟨before.desk.cluster.commit drain.transaction, before.desk.outside⟩, early ++ late,
        before.outcomes ++ [⟨drain.transaction.shard, .ok drain.size⟩]⟩ := by
  have this := delivered.drains drain (by simp [there])
  have fewer : (early ++ late).Sublist before.drains := by simp [there]
  refine ⟨delivered.apart.sublist (fewer.map _), ?_, ?_, ?_⟩
  · intro other member
    exact (delivered.drains other (fewer.subset member)).commit (delivered.ne_of_mem there member)
  · intro shard event member processed
    rw [tables_mk, Cluster.outbox_commit] at member
    split at member
    · rename_i same
      subst same
      obtain ⟨old, stored, equal, was⟩ := Tables.of_mem_markSent member
      rw [← Message.ofEvent_congr topic equal]
      rcases was processed with sent | named
      · exact delivered.sent _ old stored sent
      · exact this.marked old (this.outbox ▸ stored) named
    · exact delivered.sent shard event member processed
  · intro message taken
    obtain ⟨shard, event, member, rfl⟩ := delivered.known message taken
    obtain ⟨marked, stored, equal⟩ :=
      ((before.desk.cluster.sameButMarks_commit drain.transaction).tables shard).exists_after member
    exact ⟨shard, marked, stored, (Message.ofEvent_congr topic equal).symm⟩

end Drains

/-- Whatever a step does, what is marked as sent was accepted and what was accepted is stored. -/
theorem Delivered.change (delivered : before.Delivered topic)
    (orderly : before.desk.cluster.Orderly) (change : Change topic before after) :
    after.Delivered topic := by
  cases change with
  | waited => exact delivered
  | acted idle grew => exact delivered.acted idle grew
  | opened idle sends began => exact delivered.opened sends began
  | marked there next mark => exact delivered.marked orderly there next mark
  | failed there next why => exact delivered.failed there next
  | committed there done => exact delivered.committed there

/-! ## What a delivery keeps -/

/-- A delivery that has gone on: what was offered stays offered, and what was stored stays stored,
    but for marks. The clocks are the same. -/
structure Extends (before after : Delivery σ) : Prop where
  offers : before.offers <+: after.offers
  outbox : ∀ shard, (before.tables shard).outbox.map Event.unmarked <+:
    (after.tables shard).outbox.map Event.unmarked
  clock : ∀ shard, after.desk.cluster.clock shard = before.desk.cluster.clock shard

theorem Extends.refl (delivery : Delivery σ) : delivery.Extends delivery :=
  ⟨List.prefix_rfl, fun _ => List.prefix_rfl, fun _ => rfl⟩

theorem Extends.trans {a b c : Delivery σ} (first : a.Extends b) (second : b.Extends c) :
    a.Extends c where
  offers := first.offers.trans second.offers
  outbox shard := (first.outbox shard).trans (second.outbox shard)
  clock shard := (second.clock shard).trans (first.clock shard)

theorem Change.extends (change : Change topic before after) : before.Extends after := by
  cases change with
  | waited => exact .refl before
  | acted idle grew =>
    refine ⟨List.prefix_rfl, ?_, grew.clock⟩
    intro shard
    obtain ⟨fresh, outbox, -⟩ := grew.outbox shard
    simp only [tables, outbox, List.map_append]
    exact List.prefix_append ..
  | opened idle sends began => exact ⟨List.prefix_rfl, fun _ => List.prefix_rfl, fun _ => rfl⟩
  | marked there next mark => exact ⟨List.prefix_append .., fun _ => List.prefix_rfl, fun _ => rfl⟩
  | failed there next why => exact ⟨List.prefix_append .., fun _ => List.prefix_rfl, fun _ => rfl⟩
  | @committed early late drain there done =>
    have same := (before.desk.cluster.sameButMarks_commit drain.transaction).tables
    exact ⟨List.prefix_rfl, fun shard => (same shard).outbox ▸ List.prefix_rfl,
      fun _ => Cluster.clock_commit ..⟩

theorem Extends.accepted (extended : before.Extends after) : before.accepted ⊆ after.accepted := by
  obtain ⟨more, offers⟩ := extended.offers
  unfold Delivery.accepted
  rw [← offers, Offer.taken_append]
  exact List.subset_append_left ..

/-- An event stays where it is, but for its mark. -/
theorem Extends.exists_after (extended : before.Extends after) {shard : ShardIndex} {event : Event}
    (stored : event ∈ (before.tables shard).outbox) :
    ∃ later ∈ (after.tables shard).outbox, later.unmarked = event.unmarked := by
  have kept := (extended.outbox shard).subset (List.mem_map_of_mem stored)
  exact List.mem_map.1 kept

variable (publisher : Publisher σ)

theorem delivered_run {delivery : Delivery σ} (orderly : delivery.desk.cluster.Orderly)
    (delivered : delivery.Delivered topic) {moves : List Move}
    (sends : ∀ move ∈ moves, move.SendsTo topic) :
    (delivery.run publisher moves).desk.cluster.Orderly ∧
      (delivery.run publisher moves).Delivered topic ∧
      delivery.Extends (delivery.run publisher moves) := by
  have kept :
      ∀ before after : Delivery σ, before.desk.cluster.Orderly → after.desk.cluster.Orderly →
        Change topic before after → before.Delivered topic ∧ delivery.Extends before →
        after.Delivered topic ∧ delivery.Extends after := by
    intro before after orderly _ change holds
    exact ⟨holds.1.change orderly change, holds.2.trans change.extends⟩
  exact run_keeps publisher kept orderly ⟨delivered, .refl delivery⟩ sends

/-- No event is lost and none is invented, at any point of any delivery that starts without events,
    whatever the clocks say, whatever the publisher answers and under any faults. What is marked as
    sent was accepted, as the message with the topic of the relay, the number of the order, the
    text of the snapshot and the time of the event. What has not been accepted up to some later
    point waits there as it was stored. And all that was accepted are such messages of stored
    events. -/
theorem delivers_at_least_once {start : Desk σ} (unused : start.cluster.Unused)
    (earlier later : List Move) (sends : ∀ move ∈ earlier ++ later, move.SendsTo topic) :
    let before := (on start).run publisher earlier
    let now := before.run publisher later
    let message (event : Event) : Message :=
      ⟨topic, toString event.order.num, Utf8.encode event.payload, event.createdAt⟩
    (∀ shard, ∀ event ∈ (now.tables shard).outbox, event.processed = true →
      message event ∈ now.accepted) ∧
    (∀ shard, ∀ event ∈ (before.tables shard).outbox, message event ∉ now.accepted →
      event.processed = false ∧ event ∈ (now.tables shard).outbox) ∧
    ∀ sent ∈ now.accepted, ∃ shard, ∃ event ∈ (now.tables shard).outbox, sent = message event := by
  intro before now message
  obtain ⟨sendsEarlier, sendsLater⟩ := List.forall_mem_append.1 sends
  obtain ⟨orderly, delivered, -⟩ := delivered_run publisher
    (unused.orderly : (on start).desk.cluster.Orderly) (delivered_on unused) sendsEarlier
  obtain ⟨-, deliveredNow, extended⟩ := delivered_run publisher orderly delivered sendsLater
  refine ⟨deliveredNow.sent, ?_, deliveredNow.known⟩
  intro shard event stored missed
  have waits : event.processed = false := by
    by_contra processed
    exact missed (extended.accepted (delivered.sent shard event stored (by simpa using processed)))
  obtain ⟨now, here, same⟩ := extended.exists_after stored
  have waitsNow : now.processed = false := by
    by_contra processed
    have taken := deliveredNow.sent shard now here (by simpa using processed)
    rw [Message.ofEvent_congr topic same] at taken
    exact missed taken
  rw [Event.unmarked_of_waits waits, Event.unmarked_of_waits waitsNow] at same
  exact ⟨waits, same ▸ here⟩

/-- A bus that takes one message and rejects the next stops a drain between the two events of a
    checkout. -/
theorem delivers_at_least_once_twoShards :
    let start : Desk Bus := ⟨.twoShards, { Bus.empty with script := [true, false] }⟩
    let earlier : List Move := [.act (.checkout ⟨1, by decide, by decide⟩ [⟨⟨7⟩, 1, by decide⟩]),
      .act (.tick ⟨"orders", 10⟩)]
    let later : List Move := [.drain 1, .drain 0, .drain 1]
    let before := (on start).run Bus.publisher earlier
    let now := before.run Bus.publisher later
    (∀ event ∈ (before.tables ⟨1⟩).outbox, .ofEvent "orders" event ∉ now.accepted →
      event.processed = false ∧ event ∈ (now.tables ⟨1⟩).outbox) ∧
    ∀ message ∈ now.accepted, message.topic = "orders" := by
  intro start earlier later before now
  have unused : start.cluster.Unused := Cluster.unused_twoShards
  have sends : ∀ move ∈ earlier ++ later, move.SendsTo "orders" := by
    simp [earlier, later, Move.SendsTo]
  obtain ⟨-, waits, known⟩ := delivers_at_least_once Bus.publisher unused earlier later sends
  refine ⟨waits ⟨1⟩, ?_⟩
  intro message taken
  obtain ⟨shard, event, stored, rfl⟩ := known message taken
  rfl

end Delivery

end OrderDesk
