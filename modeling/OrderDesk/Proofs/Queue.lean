import OrderDesk.Proofs.Filing
import OrderDesk.Proofs.Readable

/-!
# The queue of a shard

The events of a shard that wait to be sent form a queue, ordered by time and number. A batch is
taken from its front, and committing the batch takes it off: as the events of a shard are told apart
by their numbers, the queue behind it is what was left. A drain offers the messages of its batch,
one by one, up to the first that is rejected; marking what was accepted never fails.
-/

namespace OrderDesk

namespace Event

variable {a b c : Event}

theorem comesBefore_iff : a.comesBefore b = true ↔ a.createdAt.millis < b.createdAt.millis ∨
    a.createdAt.millis = b.createdAt.millis ∧ a.id.num ≤ b.id.num := by
  have times : a.createdAt = b.createdAt ↔ a.createdAt.millis = b.createdAt.millis := by
    constructor
    · exact congrArg Timestamp.millis
    · intro same
      cases left : a.createdAt
      cases right : b.createdAt
      simp_all
  unfold comesBefore
  by_cases same : a.createdAt = b.createdAt
  · have millis := times.1 same
    simp only [if_pos same, decide_eq_true_eq]
    omega
  · have millis := mt times.2 same
    simp only [if_neg same, decide_eq_true_eq]
    omega

theorem comesBefore_total (a b : Event) : (a.comesBefore b || b.comesBefore a) = true := by
  rw [Bool.or_eq_true, comesBefore_iff, comesBefore_iff]
  omega

theorem comesBefore_trans (a b c : Event) (first : a.comesBefore b = true)
    (second : b.comesBefore c = true) : a.comesBefore c = true := by
  rw [comesBefore_iff] at first second ⊢
  omega

/-- Two events that come before each other bear one number. -/
theorem id_eq_of_comesBefore (first : a.comesBefore b = true) (second : b.comesBefore a = true) :
    a.id = b.id := by
  rw [comesBefore_iff] at first second
  have numbers : a.id.num = b.id.num := by omega
  cases left : a.id
  cases right : b.id
  simp_all

/-- One event precedes another: by time, then by number. -/
def Precedes (a b : Event) : Prop :=
  a.createdAt.millis < b.createdAt.millis ∨
    a.createdAt.millis = b.createdAt.millis ∧ a.id.num < b.id.num

/-- Events with numbers of their own come in a strict order. -/
theorem precedes_of_comesBefore (first : a.comesBefore b = true) (apart : a.id ≠ b.id) :
    a.Precedes b := by
  have numbers : a.id.num ≠ b.id.num := by
    intro same
    apply apart
    cases left : a.id
    cases right : b.id
    simp_all
  rw [comesBefore_iff] at first
  unfold Precedes
  omega

/-- The first so many of some events, in their order: as many as there are up to the limit, each
    preceding the next and everything that was left out. -/
structure Batch (limit : Nat) (events batch : List Event) : Prop where
  size : batch.length = min limit events.length
  among : ∀ event ∈ batch, event ∈ events
  ordered : batch.Pairwise Precedes
  ahead : ∀ event ∈ batch, ∀ other ∈ events, other ∉ batch → event.Precedes other

/-- A beginning of the sorted events is a batch of them, if numbers tell them apart. -/
theorem batch_take {events : List Event} (distinct : (events.map (·.id)).Nodup) (limit : Nat) :
    Batch limit events ((events.mergeSort comesBefore).take limit) := by
  have perm := List.mergeSort_perm events comesBefore
  have sorted : (events.mergeSort comesBefore).Pairwise Precedes := by
    have apart := (perm.map (·.id)).nodup_iff.2 distinct
    rw [List.nodup_iff_pairwise_ne, List.pairwise_map] at apart
    have ordered := List.pairwise_mergeSort comesBefore_trans comesBefore_total events
    exact (ordered.and apart).imp fun both => precedes_of_comesBefore both.1 both.2
  refine ⟨?_, fun event member => ?_, sorted.sublist (List.take_sublist ..),
    fun event member other present absent => ?_⟩
  · rw [List.length_take, perm.length_eq]
  · exact perm.mem_iff.1 (List.mem_of_mem_take member)
  · rw [← List.take_append_drop limit (events.mergeSort comesBefore),
      List.pairwise_append] at sorted
    obtain ⟨-, -, split⟩ := sorted
    have somewhere := perm.mem_iff.2 present
    rw [← List.take_append_drop limit (events.mergeSort comesBefore), List.mem_append] at somewhere
    exact split event member other (somewhere.resolve_left absent)

end Event

namespace Tables

/-- The events that wait to be sent, as they are stored. -/
def waiting (tables : Tables) : List Event := tables.outbox.filter fun event => !event.processed

/-- The events that wait to be sent, first come first. -/
def queue (tables : Tables) : List Event := tables.waiting.mergeSort Event.comesBefore

/-- The tables after the first so many events of the queue have been marked as sent. -/
def sendFirst (count : Nat) (tables : Tables) : Tables :=
  { tables with outbox := markSent ((tables.queue.take count).map (·.id)) tables.outbox }

variable {tables : Tables} {shard : ShardIndex}

theorem unsent_nil (outbox : List Event) :
    unsent outbox [] = outbox.filter fun event => !event.processed := by
  simp [unsent]

/-- A batch is taken from the front of the queue. -/
theorem pending_nil (tables : Tables) (limit : Nat) :
    pending tables.outbox [] limit = tables.queue.take limit := by
  rw [pending, unsent_nil]
  rfl

theorem perm_queue (tables : Tables) : tables.queue.Perm tables.waiting := List.mergeSort_perm ..

theorem of_mem_queue {event : Event} (member : event ∈ tables.queue) :
    event ∈ tables.outbox ∧ event.processed = false := by
  simpa [waiting] using tables.perm_queue.mem_iff.1 member

/-- What is in a batch is stored and has not been sent. -/
theorem of_mem_take {event : Event} {limit : Nat} (member : event ∈ tables.queue.take limit) :
    event ∈ tables.outbox ∧ event.processed = false :=
  of_mem_queue (List.mem_of_mem_take member)

/-- Marking events takes them out of those that wait. -/
theorem waiting_markSent (tables : Tables) (ids : List EventId) :
    waiting { tables with outbox := markSent ids tables.outbox } =
      tables.waiting.filter fun event => !ids.contains event.id := by
  unfold waiting markSent
  simp only
  induction tables.outbox with
  | nil => rfl
  | cons event rest ih =>
    rw [List.map_cons, List.filter_cons, List.filter_cons, ih]
    by_cases marked : event.id ∈ ids
    · by_cases waits : event.processed = true
      · simp [marked, waits]
      · simp [marked, waits]
    · by_cases waits : event.processed = true
      · simp [marked, waits]
      · simp [marked, waits]

theorem Filed.nodup_ids (filed : tables.Filed shard) : (tables.outbox.map (·.id)).Nodup := by
  obtain ⟨clock, stamped⟩ := filed.stamped
  exact stamped.nodup_ids

theorem Filed.nodup_waiting (filed : tables.Filed shard) : (tables.waiting.map (·.id)).Nodup :=
  filed.nodup_ids.sublist (List.filter_sublist.map _)

theorem Filed.nodup_queue (filed : tables.Filed shard) : (tables.queue.map (·.id)).Nodup :=
  (tables.perm_queue.map _).nodup_iff.2 filed.nodup_waiting

/-- Sorting what is left of some events is leaving the same of them sorted, as long as they are
    told apart by their numbers. -/
theorem mergeSort_filter {events : List Event} (keep : Event → Bool)
    (distinct : (events.map (·.id)).Nodup) :
    (events.filter keep).mergeSort Event.comesBefore =
      (events.mergeSort Event.comesBefore).filter keep := by
  have sorted := fun events => List.pairwise_mergeSort Event.comesBefore_trans
    Event.comesBefore_total events
  have perm : ((events.filter keep).mergeSort Event.comesBefore).Perm
      ((events.mergeSort Event.comesBefore).filter keep) :=
    (List.mergeSort_perm ..).trans ((List.mergeSort_perm events _).symm.filter keep)
  refine perm.eq_of_pairwise (fun a b first second before after => ?_) (sorted _)
    ((sorted events).filter keep)
  have here : a ∈ events := List.mem_of_mem_filter (List.mem_mergeSort.1 first)
  have there : b ∈ events := List.mem_mergeSort.1 (List.mem_of_mem_filter second)
  exact List.inj_on_of_nodup_map distinct here there (Event.id_eq_of_comesBefore before after)

/-- Taking out the events in front, by their numbers, leaves those behind them. -/
theorem filter_behind (front back : List Event) (distinct : ((front ++ back).map (·.id)).Nodup) :
    ((front ++ back).filter fun event => !(front.map (·.id)).contains event.id) = back := by
  rw [List.map_append, List.nodup_append'] at distinct
  obtain ⟨-, -, apart⟩ := distinct
  rw [List.filter_append, List.filter_eq_nil_iff.2, List.filter_eq_self.2, List.nil_append]
  · intro event behind
    have absent : event.id ∉ front.map (·.id) := fun before =>
      apart before (List.mem_map_of_mem behind)
    simpa using absent
  · intro event before
    simpa using ⟨event, before, rfl⟩

@[simp] theorem sendFirst_empty (count : Nat) : empty.sendFirst count = empty := rfl

/-- What has been sent from the front of the queue is off the queue. -/
theorem Filed.queue_sendFirst (filed : tables.Filed shard) (count : Nat) :
    (tables.sendFirst count).queue = tables.queue.drop count := by
  have distinct := filed.nodup_queue
  rw [← List.take_append_drop count tables.queue] at distinct
  have left := filter_behind _ _ distinct
  rw [List.take_append_drop] at left
  rw [sendFirst, queue, waiting_markSent, mergeSort_filter _ filed.nodup_waiting]
  exact left

end Tables

/-! ## Batches -/

namespace Publisher

variable {σ : Type} (publisher : Publisher σ)

/-- Offers messages one after the other, up to the first that is rejected. -/
def offerAll : List Message → σ → Except PublishError Unit × σ
  | [], state => (.ok (), state)
  | message :: rest, state =>
    match publisher.publish message state with
    | (.error error, state) => (.error error, state)
    | (.ok (), state) => offerAll rest state

end Publisher

namespace Cluster

/-- A transaction that has just been opened on a shard. -/
def opened (cluster : Cluster) (shard : ShardIndex) : Transaction :=
  ⟨shard, (cluster.tables shard).outbox, []⟩

/-- A cluster after the first so many events of a shard's queue have been marked as sent. -/
def sendFirst (cluster : Cluster) (shard : ShardIndex) (count : Nat) : Cluster :=
  cluster.setTables shard ((cluster.tables shard).sendFirst count)

variable {cluster : Cluster} {shard : ShardIndex}

theorem pending_opened (cluster : Cluster) (shard : ShardIndex) (limit : Nat) :
    (cluster.opened shard).pending limit = (cluster.tables shard).queue.take limit :=
  Tables.pending_nil _ limit

theorem beginEach_of_healthy {shards : List ShardIndex}
    (healthy : ∀ shard ∈ shards, cluster.Healthy shard) :
    cluster.beginEach shards = .ok (shards.map cluster.opened) := by
  induction shards with
  | nil => rfl
  | cons shard rest ih =>
    obtain ⟨here, others⟩ := List.forall_mem_cons.1 healthy
    have began : cluster.begin shard = .ok (cluster.opened shard) := begin_eq_ok_iff.2 ⟨here, rfl⟩
    rw [beginEach, began, ih others]
    rfl

theorem AllHealthy.beginAll (healthy : cluster.AllHealthy) :
    cluster.beginAll = .ok (cluster.router.indices.map cluster.opened) :=
  beginEach_of_healthy fun shard member => healthy shard (mem_indices.1 member)

theorem tables_sendFirst (cluster : Cluster) (shard : ShardIndex) (count : Nat)
    (other : ShardIndex) : (cluster.sendFirst shard count).tables other =
      if shard = other then (cluster.tables other).sendFirst count else cluster.tables other := by
  refine (tables_commit cluster ⟨shard, [], _⟩ other).trans ?_
  by_cases same : shard = other
  · subst same
    simp only [if_true]
    rfl
  · simp only [same, if_false]

end Cluster

namespace Relay

variable {σ : Type} (publisher : Publisher σ)

/-- Sending events is offering their messages: what was accepted can always be marked. -/
theorem send_eq (topic : String) {events : List Event} {transaction : Transaction}
    (waits : ∀ event ∈ events, event ∈ transaction.outbox ∧ event.processed = false) (state : σ) :
    send publisher topic events transaction state =
      match publisher.offerAll (events.map (.ofEvent topic)) state with
      | (.error error, left) => (.error (.publish error), left)
      | (.ok (), left) =>
        (.ok { transaction with staged := transaction.staged ++ events.map (·.id) }, left) := by
  induction events generalizing transaction state with
  | nil => simp [send, Publisher.offerAll]
  | cons event rest ih =>
    obtain ⟨⟨stored, unsent⟩, others⟩ := List.forall_mem_cons.1 waits
    rcases offered : publisher.publish (.ofEvent topic event) state with ⟨error | _, left⟩
    · simp only [send, List.map_cons, Publisher.offerAll, offered]
    · obtain ⟨marked, done⟩ := Transaction.mark_of_mem stored unsent
      obtain rfl := Transaction.eq_of_mark done
      have later := @ih { transaction with staged := transaction.staged ++ [event.id] } others left
      simp only [List.append_assoc, List.singleton_append] at later
      simpa only [send, List.map_cons, Publisher.offerAll, offered, done] using later

/-- A drain offers the messages of its batch, and takes the batch off the queue if all of them are
    accepted. -/
theorem drain_opened (settings : RelaySettings) (cluster : Cluster) (shard : ShardIndex)
    (state : σ) :
    drain publisher settings (cluster.opened shard) cluster state =
      let batch := (cluster.tables shard).queue.take settings.batchSize
      match publisher.offerAll (batch.map (.ofEvent settings.topic)) state with
      | (.error error, left) => (⟨shard, .error (.publish error)⟩, cluster, left)
      | (.ok (), left) =>
        (⟨shard, .ok batch.length⟩, cluster.sendFirst shard settings.batchSize, left) := by
  have waits : ∀ event ∈ (cluster.tables shard).queue.take settings.batchSize,
      event ∈ (cluster.opened shard).outbox ∧ event.processed = false :=
    fun _ member => Tables.of_mem_take member
  unfold drain
  simp only [Cluster.pending_opened, send_eq publisher settings.topic waits]
  rcases publisher.offerAll _ state with ⟨error | _, left⟩
  · rfl
  · rfl

end Relay

end OrderDesk
