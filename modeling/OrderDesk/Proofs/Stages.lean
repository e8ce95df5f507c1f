import OrderDesk.Proofs.Independence

/-!
# One shard while a tick is under way

The drains of a tick are under way together, in any order, and the publisher may answer each call as
it likes, by all that it was called with before. Yet at each point a shard stands where its own
calls have brought it: it has sent a beginning of its batch, or it has sent the batch and committed
it, or it has met a rejection and was left as it was. No step of another shard moves it.
-/

namespace OrderDesk

/-- A call of a publisher: the message that was offered, and the answer. -/
structure PublishCall where
  message : Message
  answer : Except PublishError Unit

/-- The call for an event that is answered in that way. -/
def PublishCall.ofEvent (topic : String) (answer : Except PublishError Unit) (event : Event) :
    PublishCall :=
  ⟨.ofEvent topic event, answer⟩

/-- A publisher that keeps its calls with their answers, the oldest first. -/
def Publisher.transcribing {σ : Type} (publisher : Publisher σ) :
    Publisher (List PublishCall × σ) where
  publish message state :=
    match publisher.publish message state.2 with
    | (answer, outside) => (answer, state.1 ++ [⟨message, answer⟩], outside)

namespace Drain

variable {σ : Type} {publisher : Publisher σ} {drain : Drain} {before after : Cluster}
  {called : List PublishCall} {result : Drain ⊕ ShardOutcome}

/-- What a step of a drain does, with the calls that it makes: it commits if nothing is left to be
    sent, and otherwise offers the next event. -/
inductive Advanced (drain : Drain) (before : Cluster) :
    List PublishCall → Drain ⊕ ShardOutcome → Cluster → Prop where
  | committed (done : drain.rest = []) :
      Advanced drain before [] (.inr ⟨drain.transaction.shard, .ok drain.size⟩)
        (before.commit drain.transaction)
  | offered {event : Event} {rest : List Event} (next : drain.rest = event :: rest)
      (answer : Except PublishError Unit) :
      Advanced drain before [.ofEvent drain.topic answer event] (drain.answered event rest answer)
        before

theorem exists_advanced {offers offered : List Offer} {calls : List PublishCall} {state : σ}
    {left : List PublishCall × σ}
    (went : drain.advance publisher.transcribing.recording before (offers, calls, state) =
      (result, after, offers ++ offered, left)) :
    ∃ called, left.1 = calls ++ called ∧ drain.Advanced before called result after := by
  cases batch : drain.rest with
  | nil =>
    rw [advance_of_nil _ batch, Prod.mk.injEq, Prod.mk.injEq, Prod.mk.injEq] at went
    obtain ⟨rfl, rfl, -, rfl⟩ := went
    exact ⟨[], (List.append_nil calls).symm, .committed batch⟩
  | cons event rest =>
    rcases published : publisher.publish (.ofEvent drain.topic event) state with ⟨answer, outside⟩
    have transcribed : publisher.transcribing.publish (.ofEvent drain.topic event) (calls, state) =
        (answer, calls ++ [.ofEvent drain.topic answer event], outside) := by
      simp only [Publisher.transcribing, published]
      rfl
    rw [advance_of_cons batch transcribed, Prod.mk.injEq, Prod.mk.injEq, Prod.mk.injEq] at went
    obtain ⟨rfl, rfl, -, rfl⟩ := went
    exact ⟨_, rfl, .offered batch answer⟩

/-- What a step calls the publisher with belongs to the shard of the drain. -/
theorem Advanced.message_mem (advanced : drain.Advanced before called result after) {topic : String}
    {start : Cluster} (begun : drain.Begun topic start) :
    ∀ call ∈ called, call.message ∈ start.messages topic drain.transaction.shard := by
  cases advanced with
  | committed done => exact List.forall_mem_nil _
  | offered next answer =>
    intro call made
    rw [List.mem_singleton.1 made]
    exact begun.message_mem (by simp [next])

end Drain

/-- What is to be seen of one shard while a tick is under way. -/
structure Part where
  drains : List Drain
  tables : Tables
  calls : List PublishCall
  outcomes : List ShardOutcome

/-- Where a shard may stand while a tick is under way that found its tables like that, and took this
    batch from them. -/
inductive Part.Stage (topic : String) (shard : ShardIndex) (tables : Tables) (batch : List Event) :
    Part → Prop where
  /-- A beginning of the batch was accepted, and is marked in the transaction only. -/
  | sending {early late : List Event} (split : batch = early ++ late) :
      Stage topic shard tables batch
        ⟨[⟨topic, ⟨shard, tables.outbox, early.map (·.id)⟩, batch.length, late⟩], tables,
          early.map (.ofEvent topic (.ok ())), []⟩
  /-- All of the batch was accepted, and is marked. -/
  | sent :
      Stage topic shard tables batch
        ⟨[], { tables with outbox := Tables.markSent (batch.map (·.id)) tables.outbox },
          batch.map (.ofEvent topic (.ok ())), [⟨shard, .ok batch.length⟩]⟩
  /-- An event of the batch was rejected, and nothing is marked. -/
  | rejected {early late : List Event} {event : Event} {error : PublishError}
      (split : batch = early ++ event :: late) :
      Stage topic shard tables batch
        ⟨[], tables, early.map (.ofEvent topic (.ok ())) ++ [.ofEvent topic (.error error) event],
          [⟨shard, .error (.publish error)⟩]⟩

/-- A step of the drain of a shard leads to where the shard may stand next: what is accepted can
    always be marked, as it waits in the tables. -/
theorem Part.Stage.advanced {topic : String} {shard : ShardIndex} {tables : Tables}
    {batch : List Event} {part : Part} {drain : Drain} {called : List PublishCall}
    {before after : Cluster} {result : Drain ⊕ ShardOutcome}
    (stage : part.Stage topic shard tables batch)
    (waits : ∀ event ∈ batch, event ∈ tables.outbox ∧ event.processed = false)
    (alone : part.drains = [drain]) (stored : before.tables shard = part.tables)
    (advanced : drain.Advanced before called result after) :
    Stage topic shard tables batch ⟨Drain.goesOn result, after.tables shard, part.calls ++ called,
      part.outcomes ++ Drain.ended result⟩ := by
  cases stage with
  | sent => cases alone
  | rejected split => cases alone
  | @sending early late split =>
    obtain rfl := List.singleton_inj.1 alone
    cases advanced with
    | committed done =>
      obtain rfl : late = [] := done
      rw [List.append_nil] at split
      rw [Cluster.tables_commit, if_pos rfl, stored, ← split]
      simp only [List.append_nil]
      exact .sent
    | @offered event rest next answer =>
      obtain rfl : late = event :: rest := next
      rw [stored]
      cases answer with
      | error error => exact .rejected split
      | ok =>
        obtain ⟨there, unsent⟩ := waits event (by simp [split])
        obtain ⟨marked, done⟩ := @Transaction.mark_of_mem
          ⟨shard, tables.outbox, early.map (·.id)⟩ event there unsent
        obtain rfl := Transaction.eq_of_mark done
        have further : batch = (early ++ [event]) ++ rest := by simp [split]
        have next := @Stage.sending topic shard tables batch _ _ further
        simp only [List.map_append, List.map_cons, List.map_nil] at next
        simp only [Drain.answered, done, Drain.goesOn, Drain.ended, List.append_nil]
        exact next

namespace Delivery

variable {σ : Type} {publisher : Publisher σ} {topic : String} {start : Cluster}
  {batch : ShardIndex → List Event} {before : Delivery (List PublishCall × σ)}

/-- All calls of the publisher, the oldest first. -/
def calls (delivery : Delivery (List PublishCall × σ)) : List PublishCall :=
  delivery.desk.outside.2.1

/-- What a delivery shows of one shard. -/
def part (topic : String) (start : Cluster) (delivery : Delivery (List PublishCall × σ))
    (shard : ShardIndex) : Part where
  drains := delivery.drains.filter (·.transaction.shard = shard)
  tables := delivery.tables shard
  calls := delivery.calls.filter (·.message ∈ start.messages topic shard)
  outcomes := delivery.outcomes.filter (·.shard = shard)

/-- A tick is under way that began on a cluster with these batches: each shard stands where its own
    calls have brought it, and there are no other calls. -/
structure Ticking (topic : String) (start : Cluster) (batch : ShardIndex → List Event)
    (delivery : Delivery (List PublishCall × σ)) : Prop where
  underWay : delivery.UnderWay topic start
  stage : ∀ shard, start.Has shard →
    (delivery.part topic start shard).Stage topic shard (start.tables shard) (batch shard)
  known : ∀ call ∈ delivery.calls, ∃ shard, start.Has shard ∧
    call.message ∈ start.messages topic shard

section Step

variable {early late : List Drain} {drain : Drain} {after : Cluster} {offers offered : List Offer}
  {called : List PublishCall} {left : List PublishCall × σ} {result : Drain ⊕ ShardOutcome}
  {shard : ShardIndex}
  (there : before.drains = early ++ drain :: late)
  (fine : drain.Stepped before.desk.cluster after offered result)
  (told : left.1 = before.calls ++ called)
  (own : ∀ call ∈ called, call.message ∈ start.messages topic drain.transaction.shard)

include there fine told own

/-- What a step of the drain of a shard shows of that shard. -/
theorem part_here (apart : (before.drains.map fun drain => drain.transaction.shard).Nodup) :
    (⟨⟨after, offers, left⟩, early ++ (Drain.goesOn result ++ late),
        before.outcomes ++ Drain.ended result⟩ : Delivery (List PublishCall × σ)).part topic start
        drain.transaction.shard =
      ⟨Drain.goesOn result, after.tables drain.transaction.shard,
        (before.part topic start drain.transaction.shard).calls ++ called,
        (before.part topic start drain.transaction.shard).outcomes ++ Drain.ended result⟩ := by
  rw [there] at apart
  obtain ⟨ahead, behind⟩ := filter_shard (fun drain : Drain => drain.transaction.shard) apart
  have goesOn := (fine.filter_goesOn drain.transaction.shard).trans (if_pos rfl)
  have ended := (fine.filter_ended drain.transaction.shard).trans (if_pos rfl)
  have calls : called.filter (·.message ∈ start.messages topic drain.transaction.shard) = called :=
    List.filter_eq_self.2 fun call made => decide_eq_true (own call made)
  simp only [part, Delivery.calls, told, List.filter_append, ahead, behind, goesOn, ended, calls,
    List.nil_append, List.append_nil, tables_mk]

/-- A step of the drain of one shard shows nothing of another. -/
theorem part_elsewhere (filed : start.Filed) (elsewhere : ¬drain.transaction.shard = shard) :
    (⟨⟨after, offers, left⟩, early ++ (Drain.goesOn result ++ late),
        before.outcomes ++ Drain.ended result⟩ : Delivery (List PublishCall × σ)).part topic start
        shard =
      before.part topic start shard := by
  have goesOn := (fine.filter_goesOn shard).trans (if_neg elsewhere)
  have ended := (fine.filter_ended shard).trans (if_neg elsewhere)
  have calls : called.filter (·.message ∈ start.messages topic shard) = [] := by
    refine List.filter_eq_nil_iff.2 fun call made => ?_
    rw [decide_eq_true_eq]
    exact fun here => elsewhere (filed.shard_eq_of_mem (own call made) here)
  have tables : after.tables shard = before.tables shard := fine.tables shard elsewhere
  simp only [part, Delivery.calls, told, there, List.filter_append, List.filter_cons, goesOn, ended,
    calls, tables, elsewhere, decide_false, Bool.false_eq_true, if_false, List.nil_append,
    List.append_nil, tables_mk]

end Step

/-- A step of a drain moves its own shard on, and no other. -/
theorem Ticking.step (filed : start.Filed)
    (waits : ∀ shard, ∀ event ∈ batch shard,
      event ∈ (start.tables shard).outbox ∧ event.processed = false)
    (ticking : before.Ticking topic start batch) (place : Nat) :
    (before.step publisher.transcribing (.drain place)).Ticking topic start batch := by
  cases found : before.drains[place]? with
  | none => simpa only [Delivery.step, found] using ticking
  | some drain =>
    have underWay : (before.step publisher.transcribing (.drain place)).UnderWay topic start :=
      ticking.underWay.step place
    obtain ⟨early, late, result, after, offered, left, there, went, stepped, fine⟩ :=
      @exists_stepped _ publisher.transcribing _ _ _ found
    have begun := ticking.underWay.begun drain (by simp [there])
    obtain ⟨called, told, advanced⟩ : ∃ called, left.1 = before.calls ++ called ∧
        drain.Advanced before.desk.cluster called result after := Drain.exists_advanced went
    have own := advanced.message_mem begun
    rw [stepped] at underWay ⊢
    refine ⟨underWay, fun shard present => ?_, fun call made => ?_⟩
    · by_cases here : drain.transaction.shard = shard
      · subst here
        have apart := ticking.underWay.apart
        have alone : (before.part topic start drain.transaction.shard).drains = [drain] :=
          filter_shard_eq (fun drain : Drain => drain.transaction.shard) apart (by simp [there])
        rw [part_here there fine told own apart]
        exact (ticking.stage _ begun.present).advanced (waits _) alone rfl advanced
      · rw [part_elsewhere there fine told own filed here]
        exact ticking.stage shard present
    · rw [Delivery.calls, told] at made
      rcases List.mem_append.1 made with old | new
      · exact ticking.known call old
      · exact ⟨_, begun.present, own call new⟩

theorem Ticking.run (filed : start.Filed)
    (waits : ∀ shard, ∀ event ∈ batch shard,
      event ∈ (start.tables shard).outbox ∧ event.processed = false)
    (ticking : before.Ticking topic start batch) (places : List Nat) :
    (before.run publisher.transcribing (places.map .drain)).Ticking topic start batch := by
  induction places generalizing before with
  | nil => exact ticking
  | cons place rest ih => exact ih (ticking.step filed waits place)

end Delivery

namespace Drained

variable {σ : Type} {publisher : Publisher σ} {settings : RelaySettings}
    {start : Cluster} {state : σ}
  {done : Delivery (List PublishCall × σ)}

/-- A tick that begins takes its batches from the queues. -/
theorem ticking_opening {transactions order : List Transaction}
    (began : start.beginAll = .ok transactions) (perm : order.Perm transactions) :
    (⟨⟨start, [], [], state⟩, order.map (Drain.start settings), []⟩ :
        Delivery (List PublishCall × σ)).Ticking settings.topic start
      fun shard => (start.tables shard).queue.take settings.batchSize := by
  refine ⟨opening began perm, fun shard present => ?_, List.forall_mem_nil _⟩
  have shown :=
    (@shows _ settings start (([] : List PublishCall), state) _ _ began perm _ present).drains
  rw [Drain.start, Cluster.pending_opened] at shown
  rw [Delivery.part, shown]
  exact .sending (List.nil_append _).symm

theorem ticking (filed : start.Filed)
    (drained : Drained publisher.transcribing settings start ([], state) done) :
    done.Ticking settings.topic start
      fun shard => (start.tables shard).queue.take settings.batchSize := by
  obtain ⟨transactions, order, places, began, perm, rfl, -⟩ := drained
  exact (ticking_opening began perm).run filed
    (fun _ _ member => Tables.of_mem_take member) places

end Drained

end OrderDesk
