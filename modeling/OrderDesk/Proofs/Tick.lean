import OrderDesk.Proofs.Draining
import OrderDesk.Proofs.Stages

/-!
# One tick, exactly

A tick that cannot open all of its transactions fails, and nothing has happened. Any other tick ends
with one entry of its report for each shard, whatever the publisher answers and in whatever order
the drains take their steps: either the batch of the shard was sent and exactly its events are
marked, or an event of it was rejected, no later one was offered and nothing is marked. What the
report says in sum is said of these entries.
-/

namespace OrderDesk

/-! ## What was called and what was marked -/

namespace PublishCall

variable {topic : String}

/-- The rejection that some calls met, if they did. -/
def rejection (calls : List PublishCall) : Option PublishError :=
  calls.findSome? fun call =>
    match call.answer with
    | .error error => some error
    | .ok () => none

theorem rejection_eq_none_iff {calls : List PublishCall} :
    rejection calls = none ↔ ∀ call ∈ calls, call.answer = .ok () := by
  rw [rejection, List.findSome?_eq_none_iff]
  refine forall₂_congr fun call _ => ?_
  rcases call.answer with error | _
  · simp
  · simp

theorem rejection_accepted (events : List Event) :
    rejection (events.map (.ofEvent topic (.ok ()))) = none := by
  rw [rejection_eq_none_iff, List.forall_mem_map]
  exact fun _ _ => rfl

theorem rejection_rejected (events : List Event) (event : Event) (error : PublishError) :
    rejection (events.map (.ofEvent topic (.ok ())) ++ [.ofEvent topic (.error error) event]) =
      some error := by
  have accepted : rejection (events.map (.ofEvent topic (.ok ()))) = none :=
    rejection_accepted events
  rw [rejection] at accepted ⊢
  rw [List.findSome?_append, accepted]
  rfl

end PublishCall

namespace Tables

/-- How many events of the outbox have another mark in later tables. -/
def flips (before after : Tables) : Nat :=
  (before.outbox.zip after.outbox).countP fun pair => pair.1.processed != pair.2.processed

theorem flips_map (tables : Tables) (change : Event → Event) :
    tables.flips { tables with outbox := tables.outbox.map change } =
      tables.outbox.countP fun event => event.processed != (change event).processed := by
  have pairs : tables.outbox.zip (tables.outbox.map change) =
      tables.outbox.map fun event => (event, change event) := by
    simpa using (List.zip_map' (l := tables.outbox) (f := id) (g := change))
  rw [flips, pairs, List.countP_map]
  rfl

theorem flips_self (tables : Tables) : tables.flips tables = 0 := by
  simpa using tables.flips_map id

/-- Marking the numbers of some events marks these events, as no other bears their numbers. -/
theorem markSent_ids {outbox batch : List Event} (distinct : (outbox.map (·.id)).Nodup)
    (among : ∀ event ∈ batch, event ∈ outbox) :
    markSent (batch.map (·.id)) outbox =
      outbox.map fun event =>
        if event ∈ batch then { event with processed := true } else event := by
  refine List.map_congr_left fun event stored => ?_
  have named : (batch.map (·.id)).contains event.id = true ↔ event ∈ batch := by
    rw [List.contains_iff_mem, List.mem_map]
    constructor
    · rintro ⟨other, member, same⟩
      rwa [← List.inj_on_of_nodup_map distinct (among other member) stored same]
    · exact fun member => ⟨event, member, rfl⟩
  exact if_congr named rfl rfl

end Tables

/-! ## How a drain ends -/

/-- How the drain of a shard ends that found its tables like that and took this batch from them: its
    calls of the publisher, the tables that it leaves, and what it reports. -/
inductive Drain.Ends (topic : String) (before : Tables) (batch : List Event) :
    List PublishCall → Tables → Except Error Nat → Prop where
  /-- All of the batch was accepted, and exactly its events are marked. -/
  | sent :
      Ends topic before batch (batch.map (.ofEvent topic (.ok ())))
        { before with outbox := before.outbox.map fun event =>
            if event ∈ batch then { event with processed := true } else event }
        (.ok batch.length)
  /-- An event of the batch was rejected: none behind it was offered, and nothing is marked. -/
  | rejected {early late : List Event} {event : Event} {error : PublishError}
      (split : batch = early ++ event :: late) :
      Ends topic before batch
        (early.map (.ofEvent topic (.ok ())) ++ [.ofEvent topic (.error error) event]) before
        (.error (.publish error))

namespace Drain.Ends

variable {topic : String} {before after : Tables} {batch : List Event} {calls : List PublishCall}
  {result : Except Error Nat}

/-- What a drain reports as sent is what it has marked. -/
theorem flips_eq (ends : Ends topic before batch calls after result)
    (waits : ∀ event ∈ batch, event ∈ before.outbox ∧ event.processed = false)
    (distinct : before.outbox.Nodup) (once : batch.Nodup) :
    before.flips after = result.toOption.getD 0 := by
  cases ends with
  | rejected split => exact before.flips_self
  | sent =>
    have flipped : ∀ event : Event, (event.processed !=
        (if event ∈ batch then { event with processed := true } else event).processed) =
          decide (event ∈ batch) := by
      intro event
      by_cases member : event ∈ batch
      · simp [member, (waits event member).2]
      · simp [member]
    have marked : (before.outbox.filter (· ∈ batch)).Perm batch := by
      refine (List.perm_ext_iff_of_nodup (distinct.filter _) once).2 fun event => ?_
      rw [List.mem_filter, decide_eq_true_eq]
      exact ⟨And.right, fun member => ⟨(waits event member).1, member⟩⟩
    -- Neither list holds an event twice, so counting in the outbox is counting the batch.
    rw [Tables.flips_map]
    calc
      _ = before.outbox.countP fun event => decide (event ∈ batch) :=
        List.countP_congr fun event _ => by rw [flipped event]
      _ = (before.outbox.filter (· ∈ batch)).length := List.countP_eq_length_filter
      _ = batch.length := marked.length_eq

/-- A drain reports the rejection that its calls met, and no other failure. -/
theorem failure_eq (ends : Ends topic before batch calls after result) (shard : ShardIndex) :
    (match result with
      | .error error => some (shard, error)
      | .ok _ => none) =
      (PublishCall.rejection calls).map fun error => (shard, .publish error) := by
  cases ends with
  | sent => rw [PublishCall.rejection_accepted, Option.map_none]
  | rejected split => rw [PublishCall.rejection_rejected, Option.map_some]

end Drain.Ends

/-- A shard with no drain under way stands where a drain has ended. -/
theorem Part.Stage.ends {topic : String} {shard : ShardIndex} {tables : Tables} {batch : List Event}
    {part : Part} (stage : part.Stage topic shard tables batch) (idle : part.drains = [])
    (distinct : (tables.outbox.map (·.id)).Nodup) (among : ∀ event ∈ batch, event ∈ tables.outbox) :
    ∃ result, part.outcomes = [⟨shard, result⟩] ∧
      Drain.Ends topic tables batch part.calls part.tables result := by
  cases stage with
  | sending split => cases idle
  | sent =>
    rw [Tables.markSent_ids distinct among]
    exact ⟨_, rfl, .sent⟩
  | rejected split => exact ⟨_, rfl, .rejected split⟩

/-- Whatever the drains of a tick do, that of each shard ends in this way. -/
theorem Drained.ends {σ : Type} {publisher : Publisher σ} {settings : RelaySettings}
    {start : Cluster} {state : σ} {done : Delivery (List PublishCall × σ)} (filed : start.Filed)
    (drained : Drained publisher.transcribing settings start ([], state) done) {shard : ShardIndex}
    (present : start.Has shard) :
    ∃ result, done.outcomes.filter (·.shard = shard) = [⟨shard, result⟩] ∧
      Drain.Ends settings.topic (start.tables shard)
        ((start.tables shard).queue.take settings.batchSize)
        (done.calls.filter (·.message ∈ start.messages settings.topic shard)) (done.tables shard)
        result := by
  refine ((drained.ticking filed).stage shard present).ends ?_ (filed shard).nodup_ids
    fun _ member => (Tables.of_mem_take member).1
  rw [Delivery.part, drained.idle, List.filter_nil]

/-! ## The end of a tick -/

/-- A tick that began on a cluster has ended, its drains interleaved in some way: its report, which
    lists the shards in order whichever ended first, the cluster that it leaves, and its calls of
    the publisher. -/
def Ticked {σ : Type} (publisher : Publisher σ) (settings : RelaySettings) (start : Cluster)
    (state : σ) (report : TickReport) (after : Cluster) (calls : List PublishCall) : Prop :=
  ∃ done, Drained publisher.transcribing settings start ([], state) done ∧
    report.shards =
      (start.router.indices.flatMap fun shard => done.outcomes.filter (·.shard = shard)) ∧
    after = done.desk.cluster ∧ calls = done.calls

/-- What a tick comes to that began on a cluster, with the result of each shard. -/
structure TickReport.Exact (settings : RelaySettings) (start : Cluster) (report : TickReport)
    (after : Cluster) (calls : List PublishCall) (result : ShardIndex → Except Error Nat) :
    Prop where
  /-- There is one entry for each shard, in order. -/
  entries : report.shards = start.router.indices.map fun shard => ⟨shard, result shard⟩
  /-- A shard offers its batch up to the first rejection, and marks all of it or nothing. -/
  drained : ∀ shard, start.Has shard → ∃ batch,
    Event.Batch settings.batchSize (start.tables shard).waiting batch ∧
      Drain.Ends settings.topic (start.tables shard) batch
        (calls.filter (·.message ∈ start.messages settings.topic shard)) (after.tables shard)
        (result shard) ∧
      ∀ event ∈ batch, ∀ staged, ∃ marked,
        (⟨shard, (start.tables shard).outbox, staged⟩ : Transaction).mark event.id = .ok marked
  /-- Nothing else is offered. -/
  known : ∀ call ∈ calls, ∃ shard, start.Has shard ∧
    call.message ∈ start.messages settings.topic shard
  /-- As many events were sent as have another mark now. -/
  published : report.published =
    (start.router.indices.map fun shard => (start.tables shard).flips (after.tables shard)).sum
  /-- The report is clean if nothing was rejected, and only then. -/
  clean : report.isClean = true ↔ ∀ call ∈ calls, call.answer = .ok ()
  /-- The shards that failed are those that met a rejection, in order. -/
  failures : report.failures = start.router.indices.filterMap fun shard =>
    (PublishCall.rejection (calls.filter (·.message ∈ start.messages settings.topic shard))).map
      fun error => (shard, .publish error)

namespace Ticked

variable {σ : Type} {publisher : Publisher σ} {settings : RelaySettings} {start after : Cluster}
  {state : σ} {report : TickReport} {calls : List PublishCall}

theorem exact (filed : start.Filed)
    (ticked : Ticked publisher settings start state report after calls) :
    ∃ result, report.Exact settings start after calls result := by
  obtain ⟨done, drained, listed, rfl, rfl⟩ := ticked
  have known := (drained.ticking filed).known
  -- A shard that is not there has no result, and is given any.
  have any : Nonempty (Except Error Nat) := ⟨.ok 0⟩
  choose! result outcome ends using fun shard (present : start.Has shard) =>
    drained.ends filed present
  have present : ∀ shard ∈ start.router.indices, start.Has shard :=
    fun shard member => Cluster.mem_indices.1 member
  have entries : report.shards = start.router.indices.map fun shard => ⟨shard, result shard⟩ := by
    rw [listed, List.map_eq_flatMap]
    exact List.flatMap_congr fun shard member => outcome shard (present shard member)
  obtain rfl : report = ⟨start.router.indices.map fun shard => ⟨shard, result shard⟩⟩ := by
    cases report
    exact congrArg TickReport.mk entries
  have failures : TickReport.failures
      ⟨start.router.indices.map fun shard => ⟨shard, result shard⟩⟩ =
        start.router.indices.filterMap fun shard => (PublishCall.rejection
          (done.calls.filter (·.message ∈ start.messages settings.topic shard))).map
            fun error => (shard, .publish error) := by
    rw [TickReport.failures, List.filterMap_map]
    exact List.filterMap_congr fun shard member =>
      (ends shard (present shard member)).failure_eq shard
  refine ⟨result, rfl, fun shard here => ?_, known, ?_, ?_, failures⟩
  · refine ⟨_, Event.batch_take (filed shard).nodup_waiting _, ends shard here,
      fun event member staged => ?_⟩
    obtain ⟨stored, unsent⟩ := Tables.of_mem_take member
    exact Transaction.mark_of_mem stored unsent
  · rw [TickReport.published_map]
    refine congrArg List.sum (List.map_congr_left fun shard member => ?_)
    have once := (filed shard).nodup_queue.of_map.sublist
      (List.take_sublist settings.batchSize (start.tables shard).queue)
    exact ((ends shard (present shard member)).flips_eq (fun _ => Tables.of_mem_take)
      (filed shard).nodup_ids.of_map once).symm
  · rw [TickReport.isClean, failures, List.isEmpty_iff, List.filterMap_eq_nil_iff]
    simp only [Option.map_eq_none_iff, PublishCall.rejection_eq_none_iff, List.mem_filter,
      decide_eq_true_eq, Cluster.mem_indices]
    constructor
    · intro accepted call made
      obtain ⟨shard, here, member⟩ := known call made
      exact accepted shard here call ⟨made, member⟩
    · exact fun accepted shard _ call made => accepted call made.1

end Ticked

/-! ## The shards drained in order -/

namespace Relay

variable {σ τ : Type} {outer : Publisher σ} {inner : Publisher τ} {view : σ → τ}
  (alike : ∀ message state, inner.publish message (view state) =
    Prod.map id view (outer.publish message state))

include alike

/-- A publisher that answers like another behind it is sent the same, and leaves the other where it
    would be without it. -/
theorem send_through (topic : String) (events : List Event) (transaction : Transaction)
    (state : σ) :
    send inner topic events transaction (view state) =
      Prod.map id view (send outer topic events transaction state) := by
  induction events generalizing transaction state with
  | nil => rfl
  | cons event rest ih =>
    have same := alike (.ofEvent topic event) state
    rcases offered : outer.publish (.ofEvent topic event) state with ⟨error | _, left⟩
    · rw [offered] at same
      simp only [send, offered, same, Prod.map_apply, id]
    · rw [offered] at same
      rcases marked : transaction.mark event.id with error | next
      · simp only [send, offered, same, marked, Prod.map_apply, id]
      · simp only [send, offered, same, marked, Prod.map_apply, id]
        exact ih next left

theorem drain_through (settings : RelaySettings) (transaction : Transaction) (cluster : Cluster)
    (state : σ) : drain inner settings transaction cluster (view state) =
      Prod.map id (Prod.map id view) (drain outer settings transaction cluster state) := by
  simp only [drain, send_through alike]
  rcases send outer settings.topic (transaction.pending settings.batchSize) transaction state with
    ⟨error | marked, left⟩
  · rfl
  · rfl

theorem drainEach_through (settings : RelaySettings) (transactions : List Transaction)
    (cluster : Cluster) (state : σ) : drainEach inner settings transactions cluster (view state) =
      Prod.map id (Prod.map id view) (drainEach outer settings transactions cluster state) := by
  induction transactions generalizing cluster state with
  | nil => rfl
  | cons transaction rest ih =>
    rcases drained : drain outer settings transaction cluster state with ⟨outcome, between, left⟩
    simp only [drainEach, drain_through alike, drained, Prod.map_apply, id, ih]
    rfl

end Relay

theorem Publisher.recording_through {σ : Type} (publisher : Publisher σ) (message : Message)
    (state : List Offer × σ) : publisher.publish message state.2 =
      Prod.map id Prod.snd (publisher.recording.publish message state) := by
  rcases offered : publisher.publish message state.2 with ⟨error | _, left⟩
  · simp only [recording, offered, Prod.map_apply, id]
  · simp only [recording, offered, Prod.map_apply, id]

namespace Relay

variable {σ : Type} (publisher : Publisher σ) (settings : RelaySettings)

theorem shard_drain (transaction : Transaction) (cluster : Cluster) (state : σ) :
    (drain publisher settings transaction cluster state).1.shard = transaction.shard := by
  simp only [drain]
  split
  · rfl
  · rfl

/-- There is an outcome for each transaction, in order. -/
theorem map_shard_drainEach (transactions : List Transaction) (cluster : Cluster) (state : σ) :
    (drainEach publisher settings transactions cluster state).1.map (·.shard) =
      transactions.map (·.shard) := by
  induction transactions generalizing cluster state with
  | nil => rfl
  | cons transaction rest ih =>
    have here := shard_drain publisher settings transaction cluster state
    rcases drained : drain publisher settings transaction cluster state with
      ⟨outcome, between, left⟩
    rw [drained] at here
    simp only [drainEach, drained, List.map_cons, ih]
    rw [here]

end Relay

/-- Outcomes in the order of their shards are listed by shard. -/
theorem ShardOutcome.flatMap_filter {outcomes : List ShardOutcome}
    (apart : (outcomes.map (·.shard)).Nodup) :
    ((outcomes.map (·.shard)).flatMap fun shard => outcomes.filter (·.shard = shard)) =
      outcomes := by
  rw [List.flatMap_map]
  calc
    _ = outcomes.flatMap fun outcome => [outcome] :=
      List.flatMap_congr fun outcome member => filter_shard_eq ShardOutcome.shard apart member
    _ = outcomes := List.flatMap_singleton' outcomes

/-- The tick that drains one shard after the other, in order, is one of those that may be. -/
theorem Ticked.tick {σ : Type} {start : Cluster} (healthy : start.AllHealthy)
    (publisher : Publisher σ) (settings : RelaySettings) (state : σ) :
    ∃ report after calls left,
      Relay.tick publisher.transcribing settings start ([], state) =
        (.ok report, after, calls, left) ∧
      Ticked publisher settings start state report after calls := by
  have drained := @Drained.drainEach _ publisher.transcribing settings start ([], state) _ _
    healthy.beginAll (.refl _)
  have seen := Relay.drainEach_through publisher.transcribing.recording_through settings
    (start.router.indices.map start.opened) start ([], [], state)
  have shards := Relay.map_shard_drainEach publisher.transcribing.recording settings
    (start.router.indices.map start.opened) start ([], [], state)
  rcases went : Relay.drainEach publisher.transcribing.recording settings
    (start.router.indices.map start.opened) start ([], [], state) with
      ⟨outcomes, after, offers, calls, left⟩
  rw [went] at drained seen shards
  have inOrder : outcomes.map (·.shard) = start.router.indices :=
    shards.trans (by rw [List.map_map]; exact List.map_id _)
  refine ⟨⟨outcomes⟩, after, calls, left, ?_, _, drained, ?_, rfl, rfl⟩
  · simp only [Relay.tick, healthy.beginAll, seen, Prod.map_apply, id]
  · have apart := start.router.nodup_indices
    rw [← inOrder] at apart ⊢
    exact (ShardOutcome.flatMap_filter apart).symm

/-- A tick with a primary that is not healthy fails, offers nothing and leaves all as it was. Any
    other tick reports exactly what it did, shard by shard: when it drains the shards one after the
    other, and however else its drains are interleaved. -/
theorem Desk.ticks_exactly {σ τ : Type} (publisher : Publisher σ) {start : Desk σ}
    (unused : start.cluster.Unused) (errands : List Errand) (settings : RelaySettings)
    (receiver : Publisher τ) (state : τ) :
    let now := (start.serveAll publisher errands).cluster
    (∀ shard, now.Has shard → ¬now.Healthy shard → ∃ error,
      Relay.tick receiver.transcribing settings now ([], state) = (.error error, now, [], state)) ∧
    (now.AllHealthy →
      (∃ report after calls left, Relay.tick receiver.transcribing settings now ([], state) =
          (.ok report, after, calls, left) ∧
        Ticked receiver settings now state report after calls) ∧
      ∀ report after calls, Ticked receiver settings now state report after calls →
        ∃ result, report.Exact settings now after calls result) := by
  intro now
  refine ⟨fun shard present ill => ?_, fun healthy => ⟨Ticked.tick healthy receiver settings state,
    fun report after calls ticked => ticked.exact (filed_serveAll publisher unused errands)⟩⟩
  rcases began : now.beginAll with error | transactions
  · refine ⟨error, ?_⟩
    simp only [Relay.tick, began]
  · exact absurd ((Cluster.beginEach_eq_ok began).2 shard (Cluster.mem_indices.2 present)) ill

/-- An order is placed and every message is rejected: the tick reports both shards all the same.
    With the primary of shard 1 lost there is no report. -/
theorem Desk.ticks_exactly_twoShards :
    let now := ((⟨.twoShards, ()⟩ : Desk Unit).serveAll .log
      [.act (.checkout ⟨1, by decide, by decide⟩ [⟨⟨7⟩, 1, by decide⟩])]).cluster
    let lost := ((⟨.twoShards, ()⟩ : Desk Unit).serveAll .log
      [.act (.setPrimary ⟨1⟩ ⟨true, false⟩)]).cluster
    let rejects : Publisher Unit := ⟨fun message state => (.error (.ofMessage message "no"), state)⟩
    (∃ report after calls left,
      Relay.tick rejects.transcribing ⟨"orders", 5⟩ now ([], ()) =
        (.ok report, after, calls, left) ∧
        report.shards.map (·.shard) = [⟨0⟩, ⟨1⟩] ∧
        (report.isClean = true ↔ ∀ call ∈ calls, call.answer = .ok ())) ∧
    ∃ error, Relay.tick rejects.transcribing ⟨"orders", 5⟩ lost ([], ()) =
      (.error error, lost, [], ()) := by
  intro now lost rejects
  have unused : (⟨.twoShards, ()⟩ : Desk Unit).cluster.Unused := Cluster.unused_twoShards
  have placed := Cluster.allHealthy_twoShards.checkout Cluster.unused_twoShards.placed
    ⟨1, by decide, by decide⟩ [⟨⟨7⟩, 1, by decide⟩]
  have healthy : now.AllHealthy := placed
  obtain ⟨ticks, exact⟩ := (ticks_exactly .log unused _ ⟨"orders", 5⟩ rejects ()).2 healthy
  obtain ⟨report, after, calls, left, went, ticked⟩ := ticks
  obtain ⟨result, entries, -, -, -, clean, -⟩ := exact report after calls ticked
  have shards : now.router.indices = [⟨0⟩, ⟨1⟩] := by decide
  have ill : ¬lost.Healthy ⟨1⟩ := by
    rintro ⟨stored, found, fine⟩
    rw [← Option.some.inj found] at fine
    exact absurd fine (by decide)
  refine ⟨⟨report, after, calls, left, went, ?_, clean⟩,
    (ticks_exactly .log unused _ ⟨"orders", 5⟩ rejects ()).1 ⟨1⟩ (by decide) ill⟩
  rw [entries, shards]
  rfl

end OrderDesk
