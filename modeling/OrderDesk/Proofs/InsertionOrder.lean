import OrderDesk.Proofs.AtLeastOnce
import OrderDesk.Proofs.Heard

/-!
# Delivery in insertion order

While the stamps of a shard never decrease, two places in its outbox say how far the delivery has
come: the events before the first are marked as sent, those before the second were accepted at
least once. A drain begins at the first place and offers event after event; when it commits, the
first place moves to where it ended. When it fails, the second place may stay ahead of the first, so
what lies between them is offered once more; that is the only way in which an event is accepted
twice.
-/

namespace OrderDesk

namespace Tables

variable {tables : Tables} {clock : Nat → Timestamp}

/-- The numbers of so many events in a row. -/
def numbers (place count : Nat) : List EventId :=
  (List.range' place count).map fun place : Nat => ⟨place + 1⟩

theorem numbers_succ (place count : Nat) :
    numbers place (count + 1) = numbers place count ++ [⟨(place + count : Nat) + 1⟩] := by
  simp [numbers, List.range'_1_concat]

@[simp] theorem length_numbers (place count : Nat) : (numbers place count).length = count := by
  simp [numbers]

theorem mem_numbers {place count other : Nat} :
    (⟨other + 1⟩ : EventId) ∈ numbers place count ↔ place ≤ other ∧ other < place + count := by
  simp only [numbers, List.mem_map, List.mem_range'_1, EventId.mk.injEq]
  constructor
  · rintro ⟨place, within, same⟩
    omega
  · exact fun within => ⟨other, within, rfl⟩

/-- Marking the events right behind the ones that were sent moves the place up to which all were. -/
theorem Stamped.holdsFirst_markSent (stamped : tables.Stamped clock) {sent count : Nat}
    (first : HoldsFirst (·.processed = true) sent tables.outbox) :
    HoldsFirst (·.processed = true) (sent + count)
      (markSent (numbers sent count) tables.outbox) := by
  intro place event found
  rw [markSent, List.getElem?_map] at found
  obtain ⟨old, there, rfl⟩ := Option.map_eq_some_iff.1 found
  have was := first place old there
  have named : old.id ∈ numbers sent count ↔ sent ≤ place ∧ place < sent + count := by
    rw [stamped.id place old there, mem_numbers]
  simp only [List.contains_iff_mem, named]
  split
  · simp only [true_iff]
    omega
  · simp only [was]
    omega

end Tables

/-- A drain that has marked so many events right behind the ones that were sent, and goes on with
    those that follow. All that it has marked was heard of. -/
structure Drain.InLine (outbox : List Event) (sent heard marked : Nat) (drain : Drain) : Prop where
  staged : drain.transaction.staged = Tables.numbers sent marked
  rest : drain.rest <+: outbox.drop (sent + marked)
  le : sent + marked ≤ heard

namespace Drain.InLine

variable {outbox : List Event} {sent heard marked : Nat} {drain : Drain}

theorem next (inLine : drain.InLine outbox sent heard marked) {event : Event} {rest : List Event}
    (next : drain.rest = event :: rest) :
    outbox[sent + marked]? = some event ∧ rest <+: outbox.drop (sent + marked + 1) := by
  obtain ⟨behind, split⟩ := inLine.rest
  rw [next, List.cons_append] at split
  refine ⟨?_, behind, ?_⟩
  · have here := congrArg (·[0]?) split
    simpa using here.symm
  · have tails := congrArg List.tail split
    simpa using tails

end Drain.InLine

namespace Delivery

variable {σ : Type} {topic : String} {shard : ShardIndex} {sent heard : Nat}
    {before after : Delivery σ}

/-- The messages of the events that a shard stores. -/
def messages (topic : String) (shard : ShardIndex) (delivery : Delivery σ) : List Message :=
  (delivery.tables shard).outbox.map (.ofEvent topic)

/-- What is committed does not change the messages. -/
theorem messages_commit (transaction : Transaction) (outside : List Offer × σ) (drains : List Drain)
    (outcomes : List ShardOutcome) :
    messages topic shard ⟨⟨before.desk.cluster.commit transaction, outside⟩, drains, outcomes⟩ =
      before.messages topic shard :=
  ((before.desk.cluster.sameButMarks_commit transaction).tables shard).messages topic

/-- No drain of the shard has ended in an error. -/
def Clean (shard : ShardIndex) (delivery : Delivery σ) : Prop :=
  ∀ outcome ∈ delivery.outcomes, outcome.shard = shard → ∃ count, outcome.result = .ok count

/-- A further outcome leaves a shard clean only if it was clean before, and if the outcome is not
    an error of that shard. -/
theorem Clean.of_append {desk : Desk (List Offer × σ)} {drains : List Drain}
    {outcome : ShardOutcome} (clean : Clean shard ⟨desk, drains, before.outcomes ++ [outcome]⟩) :
    before.Clean shard ∧ (outcome.shard = shard → ∃ count, outcome.result = .ok count) :=
  ⟨fun other member => clean other (List.mem_append_left _ member), clean outcome (by simp)⟩

/-- How far the delivery of a shard has come: the place up to which its events are marked as sent,
    and the place up to which they were heard of. -/
structure InLine (topic : String) (shard : ShardIndex) (sent heard : Nat) (delivery : Delivery σ) :
    Prop where
  le : sent ≤ heard
  marks : HoldsFirst (·.processed = true) sent (delivery.tables shard).outbox
  hears : Heard (delivery.messages topic shard) delivery.accepted heard
  drains : ∀ drain ∈ delivery.drains, drain.transaction.shard = shard →
    ∃ marked, drain.InLine (delivery.tables shard).outbox sent heard marked
  /-- Without errors no event is accepted twice. -/
  once : delivery.Clean shard → ∀ message ∈ delivery.messages topic shard,
    delivery.accepted.count message ≤ 1
  /-- Without errors nothing was heard of but what is marked, in the tables or by a drain. -/
  idle : delivery.Clean shard → (∀ drain ∈ delivery.drains, drain.transaction.shard ≠ shard) →
    heard = sent
  busy : delivery.Clean shard → ∀ drain ∈ delivery.drains, drain.transaction.shard = shard →
    heard = sent + drain.transaction.staged.length

theorem inLine_on {start : Desk σ} (unused : start.cluster.Unused) :
    (on start).InLine topic shard 0 0 where
  le := Nat.le_refl 0
  marks := by
    intro place event found
    rw [tables, on, unused shard] at found
    cases found
  hears := .nothing _
  drains _ member := nomatch member
  once _ _ _ := Nat.zero_le _
  idle _ _ := rfl
  busy _ _ member := nomatch member

namespace InLine

theorem sent_le (inLine : before.InLine topic shard sent heard) :
    sent ≤ (before.tables shard).outbox.length := by
  have within := inLine.hears.le
  rw [messages, List.length_map] at within
  exact Nat.le_trans inLine.le within

/-- Calls only add events that nothing was heard of. -/
theorem acted (inLine : before.InLine topic shard sent heard) (delivered : before.Delivered topic)
    {cluster : Cluster} (orderly : cluster.Orderly) (idle : before.drains = [])
    (grew : before.desk.cluster.Grew cluster) :
    { before with desk := { before.desk with cluster := cluster } : Delivery σ }.InLine topic shard
      sent heard := by
  obtain ⟨fresh, outbox, unsent⟩ := grew.outbox shard
  have all : (cluster.tables shard).outbox.map (Message.ofEvent topic) =
      before.messages topic shard ++ fresh.map (Message.ofEvent topic) := by
    rw [outbox, List.map_append]
    rfl
  have unheard : ∀ message ∈ fresh.map (Message.ofEvent topic), message ∉ before.accepted := by
    intro message new taken
    obtain ⟨other, old, stored, rfl⟩ := delivered.known message taken
    obtain ⟨event, added, equal⟩ := List.mem_map.1 new
    have here : event ∈ (cluster.tables shard).outbox := outbox ▸ List.mem_append_right _ added
    have there : old ∈ (cluster.tables other).outbox := by
      obtain ⟨more, whole, -⟩ := grew.outbox other
      exact whole ▸ List.mem_append_left _ stored
    obtain ⟨rfl, -⟩ := orderly.eq_of_message here there equal
    have distinct := orderly.nodup_messages topic shard
    rw [all] at distinct
    exact List.disjoint_of_nodup_append distinct (List.mem_map_of_mem stored) new
  refine ⟨inLine.le, ?_, ?_, by simp [idle], ?_, fun clean _ => inLine.idle clean (by simp [idle]),
    by simp [idle]⟩
  · show HoldsFirst _ sent (cluster.tables shard).outbox
    rw [outbox]
    exact inLine.marks.append inLine.sent_le fun event new => by simp [unsent event new]
  · show Heard ((cluster.tables shard).outbox.map _) before.accepted heard
    rw [all]
    exact inLine.hears.append unheard
  · intro clean message member
    show before.accepted.count message ≤ 1
    have listed : message ∈ (cluster.tables shard).outbox.map (.ofEvent topic) := member
    rw [all] at listed
    rcases List.mem_append.1 listed with old | new
    · exact inLine.once clean message old
    · rw [List.count_eq_zero.2 (unheard message new)]
      exact Nat.zero_le 1

/-- What waits when a tick begins are the first events behind those that were sent. -/
theorem pending_eq (inLine : before.InLine topic shard sent heard)
    (orderly : before.desk.cluster.Orderly)
    (steady : Tables.Steady (before.tables shard).outbox) {transactions : List Transaction}
    (began : before.desk.cluster.beginAll = .ok transactions) {transaction : Transaction}
    (listed : transaction ∈ transactions) (on : transaction.shard = shard) (limit : Nat) :
    transaction.pending limit = ((before.tables shard).outbox.drop sent).take limit := by
  obtain ⟨-, outbox, unmarked⟩ := (Cluster.beginAll_eq_ok began).2 transaction listed
  rw [Transaction.pending, outbox, unmarked, on]
  exact (orderly.stamped shard).pending_eq steady inLine.marks limit

/-- A tick begins on each shard with the first events behind those that were sent. -/
theorem opened (inLine : before.InLine topic shard sent heard)
    (orderly : before.desk.cluster.Orderly)
    (steady : Tables.Steady (before.tables shard).outbox) (idle : before.drains = [])
    {settings : RelaySettings} {transactions : List Transaction}
    (began : before.desk.cluster.beginAll = .ok transactions) :
    { before with drains := transactions.map (Drain.start settings) : Delivery σ }.InLine topic
      shard
      sent heard := by
  have even : before.Clean shard → heard = sent := fun clean => inLine.idle clean (by simp [idle])
  refine ⟨inLine.le, inLine.marks, inLine.hears, ?_, inLine.once, fun clean _ => even clean, ?_⟩
  · intro drain member on
    obtain ⟨transaction, listed, rfl⟩ := List.mem_map.1 member
    obtain ⟨-, -, unmarked⟩ := (Cluster.beginAll_eq_ok began).2 transaction listed
    obtain rfl : transaction.shard = shard := on
    refine ⟨0, unmarked, ?_, inLine.le⟩
    have rest : (Drain.start settings transaction).rest = _ :=
      inLine.pending_eq orderly steady began listed rfl settings.batchSize
    rw [rest]
    exact List.take_prefix ..
  · intro clean drain member on
    obtain ⟨transaction, listed, rfl⟩ := List.mem_map.1 member
    obtain ⟨-, -, unmarked⟩ := (Cluster.beginAll_eq_ok began).2 transaction listed
    rw [Drain.start, unmarked]
    exact even clean

section Offered

variable {early late : List Drain} {drain : Drain} {event : Event} {rest : List Event}
  {transaction : Transaction} {outside : σ}

/-- What holds of one drain and of the others holds of all. -/
theorem forall_drains {P : Drain → Prop} (there : before.drains = early ++ drain :: late)
    (here : P drain) (others : ∀ other ∈ early ++ late, P other) :
    ∀ other ∈ before.drains, P other := by
  obtain ⟨first, last⟩ := List.forall_mem_append.1 others
  rw [there]
  exact List.forall_mem_append.2 ⟨first, List.forall_mem_cons.2 ⟨here, last⟩⟩

/-- What a drain of another shard has marked makes no difference. -/
theorem marked_elsewhere (inLine : before.InLine topic shard sent heard)
    (delivered : before.Delivered topic) (orderly : before.desk.cluster.Orderly)
    (there : before.drains = early ++ drain :: late) (next : drain.rest = event :: rest)
    (mark : drain.transaction.mark event.id = .ok transaction)
    (elsewhere : drain.transaction.shard ≠ shard) :
    InLine topic shard sent heard
      ⟨⟨before.desk.cluster, before.offers ++ [⟨.ofEvent drain.topic event, true⟩], outside⟩,
        early ++ { drain with transaction := transaction, rest := rest } :: late,
        before.outcomes⟩ := by
  have this := delivered.drains drain (by simp [there])
  have foreign : Message.ofEvent topic event ∉ before.messages topic shard := by
    intro listed
    obtain ⟨other, stored, same⟩ := List.mem_map.1 listed
    have waits := (this.batch event (by simp [next])).1
    rw [this.outbox] at waits
    exact elsewhere (orderly.eq_of_message stored waits same).1.symm
  have fewer : (early ++ late) ⊆ before.drains := by simp [there]
  have others : ∀ other ∈ early ++ { drain with transaction := transaction, rest := rest } :: late,
      other.transaction.shard = shard → other ∈ before.drains := by
    intro other member on
    rcases List.mem_cons.1 (List.perm_middle.mem_iff.1 member) with rfl | among
    · exact absurd ((Drain.shard_of_mark mark).symm.trans on) elsewhere
    · exact fewer among
  refine ⟨inLine.le, inLine.marks, ?_, fun other member on =>
    inLine.drains other (others other member on) on, ?_, ?_, fun clean other member on =>
    inLine.busy clean other (others other member on) on⟩
  · rw [accepted_offer this.sends]
    exact inLine.hears.ignore foreign
  · intro clean message member
    rw [accepted_offer this.sends, List.count_append, List.count_singleton]
    have other : Message.ofEvent topic event ≠ message := fun same => foreign (same ▸ member)
    simpa [other] using inLine.once clean message member
  · intro clean none
    exact inLine.idle clean (forall_drains there elsewhere fun other among =>
      none other (List.perm_middle.mem_iff.2 (List.mem_cons_of_mem _ among)))

/-- A drain of the shard that has marked its next event has heard of it, and goes on behind it. -/
theorem marked_here (inLine : before.InLine topic shard sent heard)
    (delivered : before.Delivered topic) (orderly : before.desk.cluster.Orderly)
    (there : before.drains = early ++ drain :: late) (next : drain.rest = event :: rest)
    (mark : drain.transaction.mark event.id = .ok transaction)
    (here : drain.transaction.shard = shard) : ∃ heard, InLine topic shard sent heard
      ⟨⟨before.desk.cluster, before.offers ++ [⟨.ofEvent drain.topic event, true⟩], outside⟩,
        early ++ { drain with transaction := transaction, rest := rest } :: late,
        before.outcomes⟩ := by
  have under : drain ∈ before.drains := by simp [there]
  have this := delivered.drains drain under
  obtain ⟨marked, inBatch⟩ := inLine.drains drain under here
  obtain ⟨place, follows⟩ := inBatch.next next
  have staged : transaction.staged = Tables.numbers sent (marked + 1) := by
    rw [Transaction.eq_of_mark mark, Tables.numbers_succ, ← inBatch.staged,
      (orderly.stamped shard).id (sent + marked) event place]
  have listed : (before.messages topic shard)[sent + marked]? = some (.ofEvent topic event) := by
    rw [messages, List.getElem?_map]
    exact congrArg (Option.map _) place
  -- Without errors the next event is the first that was not heard of.
  have even : before.Clean shard → heard = sent + marked := by
    intro clean
    rw [inLine.busy clean drain under here, inBatch.staged, Tables.length_numbers]
  refine ⟨max heard (sent + marked + 1), ?_, inLine.marks, ?_, ?_, ?_, ?_, ?_⟩
  · have := inLine.le
    omega
  · rw [accepted_offer this.sends]
    exact inLine.hears.accept (orderly.nodup_messages topic shard) listed inBatch.le
  · intro other member on
    obtain rfl := delivered.eq_of_mem there member (here.trans on.symm)
    exact ⟨marked + 1, staged, follows, by omega⟩
  · intro clean message member
    rw [accepted_offer this.sends, List.count_append, List.count_singleton]
    have unheard : Message.ofEvent topic event ∉ before.accepted := by
      intro taken
      have below := (inLine.hears.first (sent + marked) _ listed).1 taken
      have := even clean
      omega
    by_cases same : Message.ofEvent topic event = message
    · subst same
      simp [List.count_eq_zero.2 unheard]
    · simpa [same] using inLine.once clean message member
  · intro clean none
    exact absurd ((Drain.shard_of_mark mark).trans here)
      (none { drain with transaction := transaction, rest := rest } (by simp))
  · intro clean other member on
    obtain rfl := delivered.eq_of_mem there member (here.trans on.symm)
    have := even clean
    simp only [staged, Tables.length_numbers]
    omega

/-- A drain can only fail because its next event is rejected. Nothing has changed then, but that
    an error has occurred if it was on the shard. -/
theorem failed (inLine : before.InLine topic shard sent heard) (delivered : before.Delivered topic)
    {taken : Bool} {error : Error}
    (there : before.drains = early ++ drain :: late) (next : drain.rest = event :: rest)
    (why : taken = true → drain.transaction.mark event.id = .error error) :
    InLine topic shard sent heard
      ⟨⟨before.desk.cluster, before.offers ++ [⟨.ofEvent drain.topic event, taken⟩], outside⟩,
        early ++ late, before.outcomes ++ [⟨drain.transaction.shard, .error error⟩]⟩ := by
  have this := delivered.drains drain (by simp [there])
  have fewer : (early ++ late) ⊆ before.drains := by simp [there]
  obtain ⟨stored, waits⟩ := this.batch event (by simp [next])
  have rejected : taken = false := by
    obtain ⟨transaction, mark⟩ := Transaction.mark_of_mem stored waits
    by_contra accepted
    rw [why (by simpa using accepted)] at mark
    cases mark
  subst rejected
  have same :
      accepted ⟨⟨before.desk.cluster, before.offers ++ [⟨.ofEvent drain.topic event, false⟩],
        outside⟩, early ++ late, before.outcomes ++ [⟨drain.transaction.shard, .error error⟩]⟩ =
      before.accepted := by
    rw [accepted_mk, Offer.taken_append, Offer.taken_rejected, List.append_nil, accepted]
  have elsewhere : Clean shard ⟨⟨before.desk.cluster, before.offers ++
      [⟨.ofEvent drain.topic event, false⟩], outside⟩, early ++ late,
      before.outcomes ++ [⟨drain.transaction.shard, .error error⟩]⟩ →
      drain.transaction.shard ≠ shard := by
    intro clean here
    obtain ⟨count, ended⟩ := clean.of_append.2 here
    cases ended
  refine ⟨inLine.le, inLine.marks, ?_, ?_, ?_, ?_, ?_⟩
  · rw [same]
    exact inLine.hears
  · exact fun other member => inLine.drains other (fewer member)
  · intro clean message member
    rw [same]
    exact inLine.once clean.of_append.1 message member
  · exact fun clean none =>
      inLine.idle clean.of_append.1 (forall_drains there (elsewhere clean) none)
  · exact fun clean other member => inLine.busy clean.of_append.1 other (fewer member)

/-- What a drain of another shard commits makes no difference. -/
theorem committed_elsewhere (inLine : before.InLine topic shard sent heard)
    (there : before.drains = early ++ drain :: late)
    (elsewhere : drain.transaction.shard ≠ shard) : InLine topic shard sent heard
      ⟨⟨before.desk.cluster.commit drain.transaction, before.desk.outside⟩, early ++ late,
        before.outcomes ++ [⟨drain.transaction.shard, .ok drain.size⟩]⟩ := by
  have fewer : (early ++ late) ⊆ before.drains := by simp [there]
  have outbox : ((before.desk.cluster.commit drain.transaction).tables shard).outbox =
      (before.tables shard).outbox := by
    rw [Cluster.outbox_commit, if_neg elsewhere]
    rfl
  refine ⟨inLine.le, ?_, ?_, ?_, ?_, ?_, ?_⟩
  · rw [tables_mk, outbox]
    exact inLine.marks
  · rw [messages_commit]
    exact inLine.hears
  · rw [tables_mk, outbox]
    exact fun other member => inLine.drains other (fewer member)
  · intro clean
    rw [messages_commit]
    exact inLine.once clean.of_append.1
  · exact fun clean none => inLine.idle clean.of_append.1 (forall_drains there elsewhere none)
  · exact fun clean other member => inLine.busy clean.of_append.1 other (fewer member)

/-- A drain of the shard that has gone through all of its batch moves the place up to which events
    are marked as sent to where it ended. -/
theorem committed_here (inLine : before.InLine topic shard sent heard)
    (delivered : before.Delivered topic) (orderly : before.desk.cluster.Orderly)
    (there : before.drains = early ++ drain :: late) (here : drain.transaction.shard = shard) :
    ∃ sent, InLine topic shard sent heard
      ⟨⟨before.desk.cluster.commit drain.transaction, before.desk.outside⟩, early ++ late,
        before.outcomes ++ [⟨drain.transaction.shard, .ok drain.size⟩]⟩ := by
  have under : drain ∈ before.drains := by simp [there]
  obtain ⟨marked, inBatch⟩ := inLine.drains drain under here
  have none : ∀ other ∈ early ++ late, other.transaction.shard ≠ shard := fun other member on =>
    delivered.ne_of_mem there member (here.trans on.symm)
  have outbox : ((before.desk.cluster.commit drain.transaction).tables shard).outbox =
      Tables.markSent (Tables.numbers sent marked) (before.tables shard).outbox := by
    rw [Cluster.outbox_commit, if_pos here, inBatch.staged]
    rfl
  refine ⟨sent + marked, inBatch.le, ?_, ?_, ?_, ?_, ?_, ?_⟩
  · rw [tables_mk, outbox]
    exact (orderly.stamped shard).holdsFirst_markSent inLine.marks
  · rw [messages_commit]
    exact inLine.hears
  · exact fun other member on => absurd on (none other member)
  · intro clean
    rw [messages_commit]
    exact inLine.once clean.of_append.1
  · intro clean _
    rw [inLine.busy clean.of_append.1 drain under here, inBatch.staged, Tables.length_numbers]
  · exact fun clean other member on => absurd on (none other member)

end Offered

/-- Whatever a step does, the delivery of a shard whose stamps never decrease stays in line. -/
theorem change (inLine : before.InLine topic shard sent heard) (delivered : before.Delivered topic)
    (orderly : before.desk.cluster.Orderly) (orderlyAfter : after.desk.cluster.Orderly)
    (steady : Tables.Steady (before.tables shard).outbox) (change : Change topic before after) :
    ∃ sent heard, after.InLine topic shard sent heard := by
  cases change with
  | waited => exact ⟨sent, heard, inLine⟩
  | acted idle grew => exact ⟨sent, heard, inLine.acted delivered orderlyAfter idle grew⟩
  | opened idle sends began => exact ⟨sent, heard, inLine.opened orderly steady idle began⟩
  | @marked early late drain event rest transaction outside there next mark =>
    by_cases here : drain.transaction.shard = shard
    · exact ⟨sent, inLine.marked_here delivered orderly there next mark here⟩
    · exact ⟨sent, heard, inLine.marked_elsewhere delivered orderly there next mark here⟩
  | failed there next why => exact ⟨sent, heard, inLine.failed delivered there next why⟩
  | @committed early late drain there done =>
    by_cases here : drain.transaction.shard = shard
    · obtain ⟨place, moved⟩ := inLine.committed_here delivered orderly there here
      exact ⟨place, heard, moved⟩
    · exact ⟨sent, heard, inLine.committed_elsewhere there here⟩

end InLine

theorem Extends.steady (extended : before.Extends after)
    (steady : Tables.Steady (after.tables shard).outbox) :
    Tables.Steady (before.tables shard).outbox := by
  have stamps : ∀ outbox : List Event, Tables.Steady outbox ↔
      (outbox.map Event.unmarked).Pairwise fun a b => a.createdAt.millis ≤ b.createdAt.millis := by
    intro outbox
    rw [List.pairwise_map]
    rfl
  rw [stamps] at steady ⊢
  exact steady.sublist (extended.outbox shard).sublist

variable (publisher : Publisher σ)

/-- The stamps of a shard never decrease if its clock never runs backwards. -/
theorem steady_run {start : Desk σ} (unused : start.cluster.Unused) {moves : List Move}
    (sends : ∀ move ∈ moves, move.SendsTo topic)
    (forward : ∀ i j, i ≤ j →
      (start.cluster.clock shard i).millis ≤ (start.cluster.clock shard j).millis) :
    Tables.Steady (((on start).run publisher moves).tables shard).outbox := by
  obtain ⟨orderly, -, extended⟩ := delivered_run publisher
    (unused.orderly : (on start).desk.cluster.Orderly) (delivered_on unused) sends
  have stamped := orderly.stamped shard
  rw [extended.clock shard] at stamped
  exact stamped.steady forward

theorem inLine_run {start : Desk σ} (unused : start.cluster.Unused) {moves : List Move}
    (sends : ∀ move ∈ moves, move.SendsTo topic)
    (steady : Tables.Steady (((on start).run publisher moves).tables shard).outbox) :
    ∃ sent heard, ((on start).run publisher moves).InLine topic shard sent heard := by
  have kept :
      ∀ before after : Delivery σ, before.desk.cluster.Orderly → after.desk.cluster.Orderly →
        Change topic before after →
        before.Delivered topic ∧ (Tables.Steady (before.tables shard).outbox →
          ∃ sent heard, before.InLine topic shard sent heard) →
        after.Delivered topic ∧ (Tables.Steady (after.tables shard).outbox →
          ∃ sent heard, after.InLine topic shard sent heard) := by
    rintro before after orderly orderlyAfter change ⟨delivered, holds⟩
    refine ⟨delivered.change orderly change, ?_⟩
    intro steady
    have was := change.extends.steady steady
    obtain ⟨sent, heard, inLine⟩ := holds was
    exact inLine.change delivered orderly orderlyAfter was change
  exact (run_keeps publisher kept (unused.orderly : (on start).desk.cluster.Orderly)
    ⟨delivered_on unused, fun _ => ⟨0, 0, inLine_on unused⟩⟩ sends).2.2 steady

/-! ## What a tick offers -/

/-- What has been offered of the batch of one shard since the tick began: the first so many events.
    The drain of the shard, while it is under way, goes on with the others. -/
structure Offering (topic : String) (shard : ShardIndex) (batch : List Event)
    (begun later : Delivery σ) :
    Prop where
  messages : later.messages topic shard = begun.messages topic shard
  offers : ∃ fresh count, later.offers = begun.offers ++ fresh ∧
    (fresh.map (·.message)).filter (· ∈ begun.messages topic shard) =
      (batch.take count).map (.ofEvent topic) ∧
    ∀ drain ∈ later.drains, drain.transaction.shard = shard → drain.rest = batch.drop count

namespace Offering

variable {begun : Delivery σ} {batch : List Event}

/-- An offer of the shard is that of the next event of its batch. -/
theorem offer (holds : Offering topic shard batch begun before) (delivered : before.Delivered topic)
    (orderly : before.desk.cluster.Orderly) {drain : Drain} {event : Event} {rest : List Event}
    (under : drain ∈ before.drains) (next : drain.rest = event :: rest) (taken : Bool) :
    ∃ fresh count, before.offers ++ [⟨.ofEvent drain.topic event, taken⟩] = begun.offers ++ fresh ∧
      (fresh.map (·.message)).filter (· ∈ begun.messages topic shard) =
        (batch.take count).map (.ofEvent topic) ∧
      (drain.transaction.shard = shard → rest = batch.drop count) ∧
      ∀ other ∈ before.drains, drain.transaction.shard ≠ other.transaction.shard →
        other.transaction.shard = shard → other.rest = batch.drop count := by
  obtain ⟨fresh, count, offers, those, others⟩ := holds.offers
  have this := delivered.drains drain under
  have waits := (this.batch event (by simp [next])).1
  rw [this.outbox] at waits
  have listed : Message.ofEvent topic event ∈ begun.messages topic shard ↔
      drain.transaction.shard = shard := by
    rw [← holds.messages]
    constructor
    · intro member
      obtain ⟨other, stored, same⟩ := List.mem_map.1 member
      exact (orderly.eq_of_message stored waits same).1.symm
    · rintro rfl
      exact List.mem_map_of_mem waits
  by_cases here : drain.transaction.shard = shard
  · have goes := others drain under here
    rw [next] at goes
    refine ⟨fresh ++ [⟨.ofEvent drain.topic event, taken⟩], count + 1,
      by rw [offers, List.append_assoc], ?_, fun _ => ?_,
      fun other _ apart on => absurd (here.trans on.symm) apart⟩
    · have first : batch[count]? = some event := by
        have head := congrArg (·[0]?) goes
        simpa using head.symm
      simp only [List.map_append, List.filter_append, those, List.take_add_one, first, this.sends]
      simp [listed, here]
    · have tails := congrArg List.tail goes
      simpa using tails
  · refine ⟨fresh ++ [⟨.ofEvent drain.topic event, taken⟩], count,
      by rw [offers, List.append_assoc], ?_, fun on => absurd on here,
      fun other member _ on => others other member on⟩
    simp only [List.map_append, List.filter_append, those, this.sends]
    simp [listed, here]

theorem change (holds : Offering topic shard batch begun before)
    (delivered : before.Delivered topic) (orderly : before.desk.cluster.Orderly)
    (busy : before.drains ≠ []) (change : Change topic before after) :
    Offering topic shard batch begun after := by
  cases change with
  | waited => exact holds
  | acted idle grew => exact absurd idle busy
  | opened idle sends began => exact absurd idle busy
  | @marked early late drain event rest transaction outside there next mark =>
    have under : drain ∈ before.drains := by simp [there]
    obtain ⟨fresh, count, offers, those, here, others⟩ :=
      holds.offer delivered orderly under next true
    have fewer : (early ++ late) ⊆ before.drains := by simp [there]
    refine ⟨holds.messages, fresh, count, offers, those, ?_⟩
    intro other member on
    rcases List.mem_cons.1 (List.perm_middle.mem_iff.1 member) with rfl | among
    · exact here ((Drain.shard_of_mark mark).symm.trans on)
    · exact others other (fewer among) (delivered.ne_of_mem there among) on
  | @failed early late drain event rest taken error outside there next why =>
    have under : drain ∈ before.drains := by simp [there]
    obtain ⟨fresh, count, offers, those, -, others⟩ :=
      holds.offer delivered orderly under next taken
    have fewer : (early ++ late) ⊆ before.drains := by simp [there]
    exact ⟨holds.messages, fresh, count, offers, those, fun other member on =>
      others other (fewer member) (delivered.ne_of_mem there member) on⟩
  | @committed early late drain there done =>
    obtain ⟨fresh, count, offers, those, others⟩ := holds.offers
    have fewer : (early ++ late) ⊆ before.drains := by simp [there]
    refine ⟨?_, fresh, count, offers, those, fun other member on => others other (fewer member) on⟩
    rw [messages_commit]
    exact holds.messages

/-- Whatever the drains do, they offer their batches. -/
theorem run (publisher : Publisher σ) (holds : Offering topic shard batch begun before)
    (delivered : before.Delivered topic) (orderly : before.desk.cluster.Orderly)
    (places : List Nat) :
    Offering topic shard batch begun (before.run publisher (places.map .drain)) := by
  have kept : ∀ before after : Delivery σ, before.desk.cluster.Orderly → before.drains ≠ [] →
      Change topic before after → before.Delivered topic ∧ Offering topic shard batch begun before →
      after.Delivered topic ∧ Offering topic shard batch begun after := by
    intro before after orderly busy change holds
    exact ⟨holds.1.change orderly change, holds.2.change holds.1 orderly busy change⟩
  exact (run_drains_keeps publisher kept orderly ⟨delivered, holds⟩ places).2

end Offering

/-- Since a tick began, the events of a shard that were offered are a run right behind those that
    were sent, no longer than the batch. -/
theorem offers_of_tick {now : Delivery σ} (inLine : now.InLine topic shard sent heard)
    (delivered : now.Delivered topic) (orderly : now.desk.cluster.Orderly)
    (steady : Tables.Steady (now.tables shard).outbox) {settings : RelaySettings}
    (sends : settings.topic = topic) (idle : now.drains = []) (places : List Nat) :
    ∃ fresh, ∃ count ≤ settings.batchSize,
      (now.run publisher (.act (.tick settings) :: places.map .drain)).offers =
        now.offers ++ fresh ∧
      (fresh.map (·.message)).filter (· ∈ now.messages topic shard) =
        (((now.tables shard).outbox.drop sent).take count).map (.ofEvent topic) := by
  have begins : now.step publisher (.act (.tick settings)) =
      { now with drains := openAll settings now.desk.cluster } := by simp [step, idle]
  have sendsTick : (Move.act (.tick settings)).SendsTo topic := sends
  obtain ⟨change, orderlyBegun⟩ := change_step publisher orderly sendsTick
  rw [begins] at change orderlyBegun
  have offering : Offering topic shard
      (((now.tables shard).outbox.drop sent).take settings.batchSize) now
      { now with drains := openAll settings now.desk.cluster } := by
    refine ⟨rfl, [], 0, (List.append_nil _).symm, rfl, ?_⟩
    intro drain member on
    rcases began : now.desk.cluster.beginAll with error | transactions
    · simp [openAll, began] at member
    · simp only [openAll, began] at member
      obtain ⟨transaction, listed, rfl⟩ := List.mem_map.1 member
      exact inLine.pending_eq orderly steady began listed on _
  obtain ⟨-, fresh, count, offers, those, -⟩ :=
    offering.run publisher (delivered.change orderly change) orderlyBegun places
  rw [List.take_take] at those
  rw [run_cons, begins]
  exact ⟨fresh, min count settings.batchSize, Nat.min_le_right .., offers, those⟩

/-- Delivery goes on in the order in which events were stored, at any point of any delivery that
    starts without events, as long as the stamps of the shard never decrease, whatever the publisher
    answers and under any faults. The events marked as sent are the first ones of the outbox, and
    those that were accepted at least once are the first ones too, at least as many. A tick offers,
    of this shard, a run of events right behind those that were sent. So each event was accepted for
    the first time after all those stored before it, and as long as no drain of the shard has ended
    in an error, none was accepted twice. -/
theorem delivers_in_insertion_order {start : Desk σ} (unused : start.cluster.Unused)
    {moves : List Move} (sends : ∀ move ∈ moves, move.SendsTo topic)
    (steady : Tables.Steady (((on start).run publisher moves).tables shard).outbox) :
    let now := (on start).run publisher moves
    let outbox := (now.tables shard).outbox
    let sent := outbox.filter fun event => event.processed
    let heard := outbox.filter fun event => .ofEvent topic event ∈ now.accepted
    sent <+: heard ∧ heard <+: outbox ∧
    (∀ (settings : RelaySettings) (places : List Nat), settings.topic = topic → now.drains = [] →
      ∃ fresh, ∃ count ≤ settings.batchSize,
        (now.run publisher (.act (.tick settings) :: places.map .drain)).offers =
          now.offers ++ fresh ∧
        (fresh.map (·.message)).filter (· ∈ now.messages topic shard) =
          ((outbox.drop sent.length).take count).map (.ofEvent topic)) ∧
    (outbox.Pairwise fun a b => .ofEvent topic b ∈ now.accepted →
      now.accepted.idxOf (.ofEvent topic a) < now.accepted.idxOf (.ofEvent topic b)) ∧
    (now.Clean shard → ∀ event ∈ outbox, now.accepted.count (.ofEvent topic event) ≤ 1) := by
  intro now outbox sent heard
  obtain ⟨place, further, inLine⟩ := inLine_run publisher unused sends steady
  obtain ⟨orderly, delivered, -⟩ := delivered_run publisher
    (unused.orderly : (on start).desk.cluster.Orderly) (delivered_on unused) sends
  have marked : sent = outbox.take place := by
    simpa only [Bool.decide_eq_true] using inLine.marks.filter_eq.1
  have known : heard = outbox.take further := inLine.hears.first.of_map.filter_eq.1
  have length : sent.length = place := by
    rw [marked, List.length_take, Nat.min_eq_left inLine.sent_le]
  refine ⟨?_, ?_, ?_, ?_, ?_⟩
  · rw [marked, known]
    exact List.take_prefix_take_left inLine.le
  · rw [known]
    exact List.take_prefix ..
  · intro settings places sends idle
    rw [length]
    exact offers_of_tick publisher inLine delivered orderly steady sends idle places
  · exact List.pairwise_map.1 inLine.hears.ordered
  · intro clean event stored
    exact inLine.once clean _ (List.mem_map_of_mem stored)

/-- A bus that takes one message and rejects the next stops a drain between the two events of a
    checkout, and the next tick begins with the first of them again. -/
theorem delivers_in_insertion_order_twoShards :
    let moves : List Move := [.act (.checkout ⟨1, by decide, by decide⟩ [⟨⟨7⟩, 1, by decide⟩]),
      .act (.tick ⟨"orders", 10⟩), .drain 1, .drain 1, .drain 0,
      .act (.tick ⟨"orders", 1⟩), .drain 1]
    let now := (on ⟨.twoShards, { Bus.empty with script := [true, false] }⟩).run Bus.publisher moves
    let outbox := (now.tables ⟨1⟩).outbox
    Tables.Steady outbox ∧
    (outbox.filter (·.processed)) <+: outbox.filter (.ofEvent "orders" · ∈ now.accepted) ∧
    outbox.filter (.ofEvent "orders" · ∈ now.accepted) <+: outbox := by
  intro moves now outbox
  have unused :
      (⟨.twoShards, { Bus.empty with script := [true, false] }⟩ : Desk Bus).cluster.Unused :=
    Cluster.unused_twoShards
  have sends : ∀ move ∈ moves, move.SendsTo "orders" := by simp [moves, Move.SendsTo]
  have steady : Tables.Steady outbox :=
    steady_run Bus.publisher unused sends fun _ _ _ => Int.le_refl 0
  obtain ⟨sent, heard, -⟩ := delivers_in_insertion_order Bus.publisher unused sends steady
  exact ⟨steady, sent, heard⟩

end Delivery

end OrderDesk
