import OrderDesk.Proofs.Delivery
import OrderDesk.Proofs.Queue

/-!
# Shards drain independently

The drains of a tick are under way together. A drain commits to its own shard and offers the
messages of its own shard, so if the answers to these depend on the messages alone, what becomes of
a shard is what would become of it if nothing else were drained: its outcome, its tables and what is
accepted of its messages, whatever the steps of other drains are and whatever the others are
answered.
-/

namespace OrderDesk

namespace Publisher

variable {σ : Type}

/-- The publisher that answers by a verdict on the message. -/
def judge (verdict : Message → Except PublishError Unit) : Publisher Unit where
  publish message state := (verdict message, state)

/-- To these messages a publisher answers by a verdict on the message alone, whatever it was offered
    before. -/
def Judges (publisher : Publisher σ) (verdict : Message → Except PublishError Unit)
    (messages : List Message) : Prop :=
  ∀ message ∈ messages, ∀ state, (publisher.publish message state).1 = verdict message

end Publisher

/-- The messages of the events that a shard stores. -/
def Cluster.messages (topic : String) (shard : ShardIndex) (cluster : Cluster) : List Message :=
  (cluster.tables shard).outbox.map (.ofEvent topic)

theorem Cluster.Filed.shard_eq_of_mem {cluster : Cluster} (filed : cluster.Filed) {topic : String}
    {i j : ShardIndex} {message : Message} (first : message ∈ cluster.messages topic i)
    (second : message ∈ cluster.messages topic j) : i = j := by
  obtain ⟨a, here, rfl⟩ := List.mem_map.1 first
  obtain ⟨b, there, same⟩ := List.mem_map.1 second
  exact filed.shard_eq_of_message here there same.symm

/-! ## One step of a drain -/

namespace Drain

variable {σ : Type} (publisher : Publisher σ) {drain : Drain} {event : Event} {rest : List Event}

/-- What becomes of a drain when its next event is answered. -/
def answered (drain : Drain) (event : Event) (rest : List Event) :
    Except PublishError Unit → Drain ⊕ ShardOutcome
  | .error error => .inr ⟨drain.transaction.shard, .error (.publish error)⟩
  | .ok () =>
    match drain.transaction.mark event.id with
    | .error error => .inr ⟨drain.transaction.shard, .error error⟩
    | .ok marked => .inl { drain with transaction := marked, rest := rest }

theorem advance_of_nil (done : drain.rest = []) (cluster : Cluster) (state : σ) :
    drain.advance publisher cluster state =
      (.inr ⟨drain.transaction.shard, .ok drain.size⟩, cluster.commit drain.transaction,
        state) := by
  simp only [advance, done]

/-- A step that offers an event depends on nothing but the answer. -/
theorem advance_of_cons {publisher : Publisher σ} {answer : Except PublishError Unit}
    {state left : σ} (next : drain.rest = event :: rest)
    (published : publisher.publish (.ofEvent drain.topic event) state = (answer, left))
    (cluster : Cluster) (offers : List Offer) :
    drain.advance publisher.recording cluster (offers, state) = (drain.answered event rest answer,
      cluster, offers ++ [⟨.ofEvent drain.topic event, answer.isOk⟩], left) := by
  rcases answer with error | _
  · simp only [advance, next, Publisher.recording, published]
    rfl
  · simp only [advance, next, Publisher.recording, published, answered]
    cases drain.transaction.mark event.id <;> rfl

/-- A drain that goes on is that of the same shard, with what is left of the batch. -/
theorem eq_of_goesOn_answered {answer : Except PublishError Unit} {next : Drain}
    (under : next ∈ goesOn (drain.answered event rest answer)) :
    next.topic = drain.topic ∧ next.transaction.shard = drain.transaction.shard ∧
    next.rest = rest := by
  rcases answer with error | _
  · simp [answered, goesOn] at under
  · rcases mark : drain.transaction.mark event.id with error | marked
    · simp [answered, mark, goesOn] at under
    · simp only [answered, mark, goesOn, List.mem_singleton] at under
      rw [under]
      exact ⟨rfl, shard_of_mark mark, rfl⟩

theorem shard_of_ended_answered {answer : Except PublishError Unit} {outcome : ShardOutcome}
    (ends : outcome ∈ ended (drain.answered event rest answer)) :
    outcome.shard = drain.transaction.shard := by
  rcases answer with error | _
  · rw [List.mem_singleton.1 ends]
  · rcases mark : drain.transaction.mark event.id with error | marked
    · simp only [answered, mark, ended, List.mem_singleton] at ends
      rw [ends]
    · simp [answered, mark, ended] at ends

/-- What a step of a drain may come to: tables of other shards stay, what is offered is of the
    batch, and what goes on or has ended is the drain of this shard. -/
structure Stepped (drain : Drain) (before after : Cluster) (offered : List Offer)
    (result : Drain ⊕ ShardOutcome) : Prop where
  tables : ∀ shard, drain.transaction.shard ≠ shard → after.tables shard = before.tables shard
  batch : ∀ offer ∈ offered, ∃ event ∈ drain.rest, offer.message = .ofEvent drain.topic event
  under : ∀ next ∈ goesOn result, next.topic = drain.topic ∧
    next.transaction.shard = drain.transaction.shard ∧ ∀ event ∈ next.rest, event ∈ drain.rest
  last : ∀ outcome ∈ ended result, outcome.shard = drain.transaction.shard

theorem Stepped.shards {before after : Cluster} {offered : List Offer}
    {result : Drain ⊕ ShardOutcome} (stepped : drain.Stepped before after offered result) :
    ((goesOn result).map fun drain => drain.transaction.shard).Sublist
      [drain.transaction.shard] := by
  cases result with
  | inl next =>
    have same := (stepped.under next (by simp [goesOn])).2.1
    simp [goesOn, same]
  | inr outcome => simp [goesOn]

/-- What goes on after a step is on the shard of the drain. -/
theorem Stepped.filter_goesOn {before after : Cluster} {offered : List Offer}
    {result : Drain ⊕ ShardOutcome} (stepped : drain.Stepped before after offered result)
    (shard : ShardIndex) : (goesOn result).filter (·.transaction.shard = shard) =
      if drain.transaction.shard = shard then goesOn result else [] := by
  by_cases here : drain.transaction.shard = shard
  · rw [if_pos here, List.filter_eq_self]
    intro next under
    simpa using (stepped.under next under).2.1.trans here
  · rw [if_neg here, List.filter_eq_nil_iff]
    intro next under
    rw [(stepped.under next under).2.1]
    simpa using here

/-- What has ended with a step has ended on the shard of the drain. -/
theorem Stepped.filter_ended {before after : Cluster} {offered : List Offer}
    {result : Drain ⊕ ShardOutcome} (stepped : drain.Stepped before after offered result)
    (shard : ShardIndex) : (ended result).filter (·.shard = shard) =
      if drain.transaction.shard = shard then ended result else [] := by
  by_cases here : drain.transaction.shard = shard
  · rw [if_pos here, List.filter_eq_self]
    intro outcome ends
    simpa using (stepped.last outcome ends).trans here
  · rw [if_neg here, List.filter_eq_nil_iff]
    intro outcome ends
    rw [stepped.last outcome ends]
    simpa using here

theorem stepped (drain : Drain) (before : Cluster) (offers : List Offer) (state : σ) :
    ∃ result after offered left, drain.advance publisher.recording before (offers, state) =
      (result, after, offers ++ offered, left) ∧ drain.Stepped before after offered result := by
  cases batch : drain.rest with
  | nil =>
    refine ⟨.inr ⟨drain.transaction.shard, .ok drain.size⟩, before.commit drain.transaction, [],
      state, ?_, fun shard apart => ?_, by simp, by simp [goesOn], by simp [ended]⟩
    · rw [advance_of_nil _ batch, List.append_nil]
    · rw [Cluster.tables_commit, if_neg apart]
  | cons event rest =>
    rcases published : publisher.publish (.ofEvent drain.topic event) state with ⟨answer, left⟩
    refine ⟨_, _, _, _, advance_of_cons batch published before offers, fun _ _ => rfl,
      by simp [batch], fun next under => ?_, fun _ => shard_of_ended_answered⟩
    obtain ⟨topic, shard, others⟩ := eq_of_goesOn_answered under
    refine ⟨topic, shard, fun other member => ?_⟩
    rw [others] at member
    rw [batch]
    exact List.mem_cons_of_mem _ member

variable {publisher} {before after : Cluster} {offers offered : List Offer}
  {result : Drain ⊕ ShardOutcome} {state left : σ}

/-- Where the answers depend on the messages alone, a step does the same on any cluster that has the
    tables of the shard. -/
theorem advance_judge {verdict : Message → Except PublishError Unit}
    (judges : publisher.Judges verdict (drain.rest.map (.ofEvent drain.topic)))
    (went : drain.advance publisher.recording before (offers, state) =
      (result, after, offers ++ offered, left)) {alone : Cluster}
    (same : before.tables drain.transaction.shard = alone.tables drain.transaction.shard)
    (others : List Offer) :
    ∃ later, drain.advance (Publisher.judge verdict).recording alone (others, ()) =
        (result, later, others ++ offered, ()) ∧
      after.tables drain.transaction.shard = later.tables drain.transaction.shard := by
  cases batch : drain.rest with
  | nil =>
    rw [advance_of_nil _ batch, Prod.mk.injEq, Prod.mk.injEq, Prod.mk.injEq,
      List.self_eq_append_right] at went
    obtain ⟨rfl, rfl, rfl, rfl⟩ := went
    refine ⟨alone.commit drain.transaction, ?_, ?_⟩
    · rw [advance_of_nil _ batch, List.append_nil]
    · rw [Cluster.tables_commit, Cluster.tables_commit, same]
  | cons event rest =>
    rcases published : publisher.publish (.ofEvent drain.topic event) state with ⟨answer, outside⟩
    have judged := judges (.ofEvent drain.topic event) (by simp [batch]) state
    rw [published] at judged
    rw [advance_of_cons batch published, Prod.mk.injEq, Prod.mk.injEq, Prod.mk.injEq,
      List.append_cancel_left_eq] at went
    obtain ⟨rfl, rfl, rfl, rfl⟩ := went
    have alike : (Publisher.judge verdict).publish (.ofEvent drain.topic event) () = (answer, ()) :=
      congrArg (·, ()) judged.symm
    exact ⟨alone, advance_of_cons batch alike alone others, same⟩

/-- A drain of a tick that began on a cluster: what is left of its batch was stored on its shard. -/
structure Begun (topic : String) (start : Cluster) (drain : Drain) : Prop where
  sends : drain.topic = topic
  present : start.Has drain.transaction.shard
  stored : ∀ event ∈ drain.rest, event ∈ (start.tables drain.transaction.shard).outbox

theorem Begun.message_mem {topic : String} {start : Cluster} (begun : drain.Begun topic start)
    {event : Event} (member : event ∈ drain.rest) :
    .ofEvent drain.topic event ∈ start.messages topic drain.transaction.shard := by
  rw [begun.sends]
  exact List.mem_map_of_mem (begun.stored event member)

/-- What a step has offered and was accepted belongs to the shard of the drain. -/
theorem Stepped.message_mem {before after : Cluster} {offered : List Offer}
    {result : Drain ⊕ ShardOutcome} (stepped : drain.Stepped before after offered result)
    {topic : String} {start : Cluster} (begun : drain.Begun topic start) {message : Message}
    (taken : message ∈ Offer.taken offered) :
    message ∈ start.messages topic drain.transaction.shard := by
  obtain ⟨offer, made, rfl⟩ := List.mem_map.1 taken
  obtain ⟨event, member, told⟩ := stepped.batch offer (List.mem_of_mem_filter made)
  rw [told]
  exact begun.message_mem member

end Drain

/-- Of things on different shards only one is on its shard. -/
theorem filter_shard {α : Type} (shard : α → ShardIndex) {early late : List α} {one : α}
    (apart : ((early ++ one :: late).map shard).Nodup) :
    early.filter (shard · = shard one) = [] ∧ late.filter (shard · = shard one) = [] := by
  rw [List.map_append, List.map_cons, List.nodup_middle, List.nodup_cons,
    ← List.map_append] at apart
  have elsewhere : ∀ other ∈ early ++ late, ¬shard other = shard one :=
    fun other member same => apart.1 (same ▸ List.mem_map_of_mem member)
  simpa [List.filter_eq_nil_iff, or_imp, forall_and] using elsewhere

/-- What is on the shard of one of them is that one. -/
theorem filter_shard_eq {α : Type} (shard : α → ShardIndex) {all : List α} {one : α}
    (apart : (all.map shard).Nodup) (member : one ∈ all) :
    all.filter (shard · = shard one) = [one] := by
  obtain ⟨early, late, rfl⟩ := List.append_of_mem member
  obtain ⟨ahead, behind⟩ := filter_shard shard apart
  rw [List.filter_append, List.filter_cons_of_pos (by simp), ahead, behind, List.nil_append]

/-! ## One shard of a delivery -/

namespace Delivery

variable {σ : Type} {publisher : Publisher σ} {topic : String} {start : Cluster}
  {shard : ShardIndex} {before : Delivery σ} {alone : Delivery Unit}

/-- The drains of a tick that began on a cluster, wherever they stand: they are on different shards,
    and all that was accepted or has ended belongs to a shard. -/
structure UnderWay (topic : String) (start : Cluster) (delivery : Delivery σ) : Prop where
  apart : (delivery.drains.map fun drain => drain.transaction.shard).Nodup
  begun : ∀ drain ∈ delivery.drains, drain.Begun topic start
  known : ∀ message ∈ delivery.accepted, ∃ shard, start.Has shard ∧
    message ∈ start.messages topic shard
  reported : ∀ outcome ∈ delivery.outcomes, start.Has outcome.shard

/-- What a delivery shows of one shard is what a delivery shows that has nothing else to drain. -/
structure Shows (topic : String) (start : Cluster) (shard : ShardIndex) (delivery : Delivery σ)
    (alone : Delivery Unit) : Prop where
  drains : delivery.drains.filter (·.transaction.shard = shard) = alone.drains
  tables : delivery.tables shard = alone.tables shard
  accepted : delivery.accepted.filter (· ∈ start.messages topic shard) = alone.accepted
  outcomes : delivery.outcomes.filter (·.shard = shard) = alone.outcomes

/-- A step of a drain, taken apart: what it offered, and what became of the drain. -/
theorem exists_stepped {place : Nat} {drain : Drain} (found : before.drains[place]? = some drain) :
    ∃ early late result after offered left, before.drains = early ++ drain :: late ∧
      drain.advance publisher.recording before.desk.cluster before.desk.outside =
        (result, after, before.offers ++ offered, left) ∧
      before.step publisher (.drain place) = ⟨⟨after, before.offers ++ offered, left⟩,
        early ++ (Drain.goesOn result ++ late), before.outcomes ++ Drain.ended result⟩ ∧
      drain.Stepped before.desk.cluster after offered result := by
  obtain ⟨early, late, there, rfl⟩ := exists_of_place found
  obtain ⟨result, after, offered, left, went, stepped⟩ :=
    drain.stepped publisher before.desk.cluster before.offers before.desk.outside.2
  have advanced : drain.advance publisher.recording before.desk.cluster before.desk.outside =
      (result, after, before.offers ++ offered, left) := went
  refine ⟨early, late, result, after, offered, left, there, advanced, ?_, stepped⟩
  rw [step_drain publisher there, advanced]

theorem UnderWay.step (underWay : before.UnderWay topic start) (place : Nat) :
    (before.step publisher (.drain place)).UnderWay topic start := by
  cases found : before.drains[place]? with
  | none => simpa only [Delivery.step, found] using underWay
  | some drain =>
    obtain ⟨early, late, result, after, offered, left, there, -, stepped, fine⟩ :=
      @exists_stepped _ publisher _ _ _ found
    have begun := underWay.begun drain (by simp [there])
    rw [stepped]
    refine ⟨?_, fun other member => ?_, fun message taken => ?_, fun outcome member => ?_⟩
    · have apart := underWay.apart
      rw [there, List.map_append, List.map_cons] at apart
      simp only [List.map_append]
      exact apart.sublist ((List.Sublist.refl _).append (fine.shards.append (.refl _)))
    · rcases List.mem_append.1 member with old | member
      · exact underWay.begun other (by simp [there, old])
      · rcases List.mem_append.1 member with next | old
        · obtain ⟨sends, on, batch⟩ := fine.under other next
          refine ⟨sends.trans begun.sends, ?_, ?_⟩
          · rw [on]
            exact begun.present
          · rw [on]
            exact fun event left => begun.stored event (batch event left)
        · exact underWay.begun other (by simp [there, old])
    · rw [accepted_mk, Offer.taken_append] at taken
      rcases List.mem_append.1 taken with old | new
      · exact underWay.known message old
      · exact ⟨_, begun.present, fine.message_mem begun new⟩
    · rcases List.mem_append.1 member with old | new
      · exact underWay.reported outcome old
      · rw [fine.last outcome new]
        exact begun.present

section Step

variable {place : Nat} {drain : Drain} (underWay : before.UnderWay topic start)
  (found : before.drains[place]? = some drain)

include underWay found

/-- A step of the drain of another shard makes no difference. -/
theorem Shows.elsewhere (filed : start.Filed) (shows : before.Shows topic start shard alone)
    (elsewhere : ¬drain.transaction.shard = shard) :
    (before.step publisher (.drain place)).Shows topic start shard alone := by
  obtain ⟨early, late, result, after, offered, left, there, -, stepped, fine⟩ :=
    @exists_stepped _ publisher _ _ _ found
  have begun := underWay.begun drain (by simp [there])
  have others := (fine.filter_goesOn shard).trans (if_neg elsewhere)
  have foreign : (Offer.taken offered).filter (· ∈ start.messages topic shard) = [] := by
    refine List.filter_eq_nil_iff.2 fun message taken => ?_
    rw [decide_eq_true_eq]
    exact fun here => elsewhere (filed.shard_eq_of_mem (fine.message_mem begun taken) here)
  have silent := (fine.filter_ended shard).trans (if_neg elsewhere)
  rw [stepped]
  refine ⟨?_, ?_, ?_, ?_⟩
  · rw [← shows.drains, there]
    simp only [List.filter_append, List.filter_cons, others, elsewhere, decide_false,
      Bool.false_eq_true, if_false, List.nil_append]
  · rw [← shows.tables]
    exact fine.tables shard elsewhere
  · rw [← shows.accepted, accepted_mk, Offer.taken_append, List.filter_append, foreign,
      List.append_nil]
    rfl
  · rw [← shows.outcomes, List.filter_append, silent, List.append_nil]

/-- A step of the drain of the shard is the step that this drain takes alone. -/
theorem Shows.here {verdict : Message → Except PublishError Unit}
    (judges : publisher.Judges verdict (start.messages topic drain.transaction.shard))
    (shows : before.Shows topic start drain.transaction.shard alone) :
    (before.step publisher (.drain place)).Shows topic start drain.transaction.shard
      (alone.step (.judge verdict) (.drain 0)) := by
  obtain ⟨early, late, result, after, offered, left, there, went, stepped, fine⟩ :=
    @exists_stepped _ publisher _ _ _ found
  have begun := underWay.begun drain (by simp [there])
  have apart := underWay.apart
  rw [there] at apart
  obtain ⟨ahead, behind⟩ := filter_shard (fun drain : Drain => drain.transaction.shard) apart
  have only : alone.drains = [] ++ drain :: [] := by
    rw [← shows.drains, there]
    exact filter_shard_eq (fun drain : Drain => drain.transaction.shard) apart (by simp)
  have judged : publisher.Judges verdict (drain.rest.map (.ofEvent drain.topic)) := by
    rintro _ member
    obtain ⟨event, left, rfl⟩ := List.mem_map.1 member
    exact judges _ (begun.message_mem left)
  obtain ⟨later, alike, same⟩ := Drain.advance_judge judged went shows.tables alone.offers
  have stepsAlone : alone.step (.judge verdict) (.drain 0) =
      ⟨⟨later, alone.offers ++ offered, ()⟩, Drain.goesOn result,
        alone.outcomes ++ Drain.ended result⟩ := by
    have advanced : drain.advance (Publisher.judge verdict).recording alone.desk.cluster
        alone.desk.outside = (result, later, alone.offers ++ offered, ()) := alike
    refine (step_drain (.judge verdict) only).trans ?_
    simp only [advanced, List.nil_append, List.append_nil]
  have under := (fine.filter_goesOn drain.transaction.shard).trans (if_pos rfl)
  have own : (Offer.taken offered).filter
      (· ∈ start.messages topic drain.transaction.shard) = Offer.taken offered := by
    refine List.filter_eq_self.2 fun message taken => ?_
    rw [decide_eq_true_eq]
    exact fine.message_mem begun taken
  have told := (fine.filter_ended drain.transaction.shard).trans (if_pos rfl)
  rw [stepped, stepsAlone]
  refine ⟨?_, same, ?_, ?_⟩
  · simp only [List.filter_append, ahead, behind, under, List.nil_append, List.append_nil]
  · rw [accepted_mk, accepted_mk, Offer.taken_append, Offer.taken_append, List.filter_append, own]
    exact congrArg (· ++ Offer.taken offered) shows.accepted
  · rw [List.filter_append, shows.outcomes, told]

end Step

/-- Whatever the drains do, a shard shows what its drain does alone in so many steps. -/
theorem Shows.run {verdict : Message → Except PublishError Unit} (filed : start.Filed)
    (judges : publisher.Judges verdict (start.messages topic shard))
    (underWay : before.UnderWay topic start) (shows : before.Shows topic start shard alone)
    (places : List Nat) :
    ∃ count, (before.run publisher (places.map .drain)).Shows topic start shard
      (alone.run (.judge verdict) (List.replicate count (.drain 0))) := by
  induction places generalizing before alone with
  | nil => exact ⟨0, shows⟩
  | cons place rest ih =>
    cases found : before.drains[place]? with
    | none =>
      have idle : before.step publisher (.drain place) = before := by simp only [step, found]
      rw [List.map_cons, run_cons, idle]
      exact ih underWay shows
    | some drain =>
      by_cases here : drain.transaction.shard = shard
      · subst here
        obtain ⟨count, later⟩ := ih (underWay.step place) (shows.here underWay found judges)
        exact ⟨count + 1, later⟩
      · exact ih (underWay.step place) (shows.elsewhere underWay found filed here)

theorem UnderWay.run (underWay : before.UnderWay topic start) (places : List Nat) :
    (before.run publisher (places.map .drain)).UnderWay topic start := by
  induction places generalizing before with
  | nil => exact underWay
  | cons place rest ih => exact ih (underWay.step place)

/-- Where nothing is left to drain nothing happens. -/
theorem run_idle {delivery : Delivery σ} (idle : delivery.drains = []) (count : Nat) :
    delivery.run publisher (List.replicate count (.drain 0)) = delivery := by
  induction count with
  | zero => rfl
  | succ count ih =>
    have stays : delivery.step publisher (.drain 0) = delivery := by simp [step, idle]
    rw [List.replicate_succ, run_cons, stays, ih]

/-- However many steps it took, there is one delivery in which nothing is left to drain. -/
theorem run_eq_of_idle {delivery : Delivery σ} {i j : Nat}
    (first : (delivery.run publisher (List.replicate i (.drain 0))).drains = [])
    (second : (delivery.run publisher (List.replicate j (.drain 0))).drains = []) :
    delivery.run publisher (List.replicate i (.drain 0)) =
      delivery.run publisher (List.replicate j (.drain 0)) := by
  calc
    _ = delivery.run publisher (List.replicate (i + j) (.drain 0)) := by
      rw [List.replicate_add, run_append, run_idle first]
    _ = delivery.run publisher (List.replicate (j + i) (.drain 0)) := by rw [Nat.add_comm]
    _ = _ := by rw [List.replicate_add, run_append, run_idle second]

end Delivery

/-! ## One tick -/

/-- Where a tick leads that begins on a cluster: the drains of its transactions are under way
    together, and take their steps in any order until the last of them has ended. -/
def Drained {σ : Type} (publisher : Publisher σ) (settings : RelaySettings) (start : Cluster)
    (state : σ) (done : Delivery σ) : Prop :=
  ∃ (transactions order : List Transaction) (places : List Nat),
    start.beginAll = .ok transactions ∧ order.Perm transactions ∧
    done = (⟨⟨start, [], state⟩, order.map (Drain.start settings), []⟩ : Delivery σ).run publisher
      (places.map .drain) ∧ done.drains = []

namespace Drained

variable {σ : Type} {publisher : Publisher σ} {settings : RelaySettings}
    {start : Cluster} {state : σ}
  {done : Delivery σ}

/-- In particular the shards may be drained one after the other, in any order. -/
theorem drainEach {transactions order : List Transaction}
    (began : start.beginAll = .ok transactions) (perm : order.Perm transactions) :
    match Relay.drainEach publisher.recording settings order start ([], state) with
    | (outcomes, after, left) => Drained publisher settings start state
        ⟨⟨after, left⟩, [], outcomes⟩ := by
  obtain ⟨count, done⟩ := Delivery.run_drainEach publisher settings order [] start ([], state)
  rcases drained : Relay.drainEach publisher.recording settings order start ([], state)
    with ⟨outcomes, after, left⟩
  rw [drained] at done
  refine ⟨transactions, order, List.replicate count 0, began, perm, ?_, rfl⟩
  rw [List.map_replicate, done]
  rfl

theorem idle (drained : Drained publisher settings start state done) : done.drains = [] := by
  obtain ⟨-, -, -, -, -, -, idle⟩ := drained
  exact idle

theorem opening {transactions order : List Transaction} (began : start.beginAll = .ok transactions)
    (perm : order.Perm transactions) :
    (⟨⟨start, [], state⟩, order.map (Drain.start settings), []⟩ : Delivery σ).UnderWay
      settings.topic start := by
  obtain ⟨apart, opened⟩ := Cluster.beginAll_eq_ok began
  refine ⟨?_, ?_, List.forall_mem_nil _, List.forall_mem_nil _⟩
  · rw [List.map_map]
    exact (perm.map Transaction.shard).nodup_iff.2 apart
  · intro drain member
    obtain ⟨transaction, listed, rfl⟩ := List.mem_map.1 member
    obtain ⟨present, outbox, staged⟩ := opened transaction (perm.mem_iff.1 listed)
    refine ⟨rfl, present, fun event waits => ?_⟩
    have stored := (Tables.of_mem_pending waits).1
    rwa [outbox] at stored

theorem underWay (drained : Drained publisher settings start state done) :
    done.UnderWay settings.topic start := by
  obtain ⟨transactions, order, places, began, perm, rfl, -⟩ := drained
  exact (opening began perm).run places

/-- A tick that begins shows of each shard the drain of that shard. -/
theorem shows {transactions order : List Transaction} (began : start.beginAll = .ok transactions)
    (perm : order.Perm transactions) {shard : ShardIndex} (present : start.Has shard) :
    (⟨⟨start, [], state⟩, order.map (Drain.start settings), []⟩ : Delivery σ).Shows settings.topic
      start shard ⟨⟨start, [], ()⟩, [Drain.start settings (start.opened shard)], []⟩ := by
  obtain ⟨apart, -⟩ := Cluster.beginAll_eq_ok began
  have listed : start.opened shard ∈ order := by
    rw [perm.mem_iff, (Cluster.beginEach_eq_ok began).1]
    exact List.mem_map_of_mem (Cluster.mem_indices.2 present)
  have only : order.filter (·.shard = shard) = [start.opened shard] := by
    rw [← (perm.map Transaction.shard).nodup_iff] at apart
    exact filter_shard_eq Transaction.shard apart listed
  refine ⟨?_, rfl, rfl, rfl⟩
  rw [List.filter_map]
  exact congrArg (List.map (Drain.start settings)) only

/-- What becomes of a shard is what becomes of it alone, if the answers to its messages depend on
    the messages alone. -/
theorem alone (filed : start.Filed) (drained : Drained publisher settings start state done)
    {shard : ShardIndex} (present : start.Has shard) {verdict : Message → Except PublishError Unit}
    (judges : publisher.Judges verdict (start.messages settings.topic shard)) :
    match Relay.drain (Publisher.judge verdict).recording settings (start.opened shard) start
      ([], ()) with
    | (outcome, after, offers, _) => done.outcomes.filter (·.shard = shard) = [outcome] ∧
      done.tables shard = after.tables shard ∧
      done.accepted.filter (· ∈ start.messages settings.topic shard) = Offer.taken offers := by
  obtain ⟨transactions, order, places, began, perm, rfl, idle⟩ := drained
  obtain ⟨steps, shown⟩ := (shows began perm present).run filed judges (opening began perm) places
  obtain ⟨count, ends⟩ := Delivery.run_drainEach (.judge verdict) settings [start.opened shard] []
    start ([], ())
  rcases drained : Relay.drain (Publisher.judge verdict).recording settings (start.opened shard)
    start ([], ()) with ⟨outcome, after, offers, left⟩
  simp only [Relay.drainEach, drained, List.map_cons, List.map_nil, List.nil_append] at ends
  have idleAlone := shown.drains
  rw [idle] at idleAlone
  have same := Delivery.run_eq_of_idle idleAlone.symm (congrArg Delivery.drains ends)
  rw [same, ends] at shown
  exact ⟨shown.outcomes, shown.tables, shown.accepted⟩

end Drained

/-- While every primary is healthy a tick may drain its shards in any order, one after the other or
    together. All that is accepted and all outcomes belong to shards, and of each shard there is one
    outcome. That outcome, the tables it leaves and what is accepted of the messages of the shard,
    in this order, depend on nothing but the answers to these messages: not on the order in which
    shards are drained, nor on what becomes of other shards. -/
theorem Desk.shards_drain_independently {σ τ υ : Type} (publisher : Publisher σ) {start : Desk σ}
    (unused : start.cluster.Unused) (errands : List Errand)
    (healthy : (start.serveAll publisher errands).cluster.AllHealthy) (settings : RelaySettings)
    (first : Publisher τ) (second : Publisher υ) (here : τ) (there : υ) :
    let now := (start.serveAll publisher errands).cluster
    let messages := fun shard => now.messages settings.topic shard
    (∃ transactions, now.beginAll = .ok transactions ∧
      ∀ order : List Transaction, order.Perm transactions →
        match Relay.drainEach first.recording settings order now ([], here) with
        | (outcomes, after, left) =>
          Drained first settings now here ⟨⟨after, left⟩, [], outcomes⟩) ∧
    (∀ a, Drained first settings now here a → (∀ outcome ∈ a.outcomes, now.Has outcome.shard) ∧
      ∀ message ∈ a.accepted, ∃ shard, now.Has shard ∧ message ∈ messages shard) ∧
    ∀ a b, Drained first settings now here a → Drained second settings now there b →
      ∀ shard verdict, now.Has shard → first.Judges verdict (messages shard) →
        second.Judges verdict (messages shard) →
        (∃ outcome, a.outcomes.filter (·.shard = shard) = [outcome] ∧
          b.outcomes.filter (·.shard = shard) = [outcome]) ∧
        a.tables shard = b.tables shard ∧
        a.accepted.filter (· ∈ messages shard) = b.accepted.filter (· ∈ messages shard) := by
  intro now messages
  have filed : now.Filed := filed_serveAll publisher unused errands
  have began : now.beginAll = .ok (now.router.indices.map now.opened) :=
    Cluster.beginEach_of_healthy fun shard member => healthy shard (Cluster.mem_indices.1 member)
  refine ⟨⟨_, began, fun order perm => Drained.drainEach began perm⟩,
    fun a drained => ⟨drained.underWay.reported, drained.underWay.known⟩,
    fun a b drained other shard verdict present judges judgesToo => ?_⟩
  obtain ⟨outcome, tables, accepted⟩ := drained.alone filed present judges
  obtain ⟨outcome', tables', accepted'⟩ := other.alone filed present judgesToo
  exact ⟨⟨_, outcome, outcome'⟩, tables.trans tables'.symm, accepted.trans accepted'.symm⟩

/-- One publisher accepts everything and drains shard 0 first, the other rejects the order that lies
    on shard 0 and drains it last. Shard 1 does not notice. -/
theorem Desk.shards_drain_independently_twoShards :
    let now := ((⟨.twoShards, ()⟩ : Desk Unit).serveAll .log
      [.act (.checkout ⟨1, by decide, by decide⟩ [⟨⟨7⟩, 1, by decide⟩]),
        .act (.checkout ⟨3, by decide, by decide⟩ [⟨⟨7⟩, 1, by decide⟩])]).cluster
    let accepts : Publisher Unit := ⟨fun _ state => (.ok (), state)⟩
    let rejects : Publisher Unit := ⟨fun message state =>
      (if message.key = toString (⟨1000, by decide, by decide⟩ : OrderId) then
        .error (.ofMessage message "no") else .ok (), state)⟩
    let a := Relay.drainEach accepts.recording ⟨"orders", 5⟩ [now.opened ⟨0⟩, now.opened ⟨1⟩] now
      ([], ())
    let b := Relay.drainEach rejects.recording ⟨"orders", 5⟩ [now.opened ⟨1⟩, now.opened ⟨0⟩] now
      ([], ())
    a.1.filter (·.shard = ⟨1⟩) = b.1.filter (·.shard = ⟨1⟩) ∧
      a.2.1.tables ⟨1⟩ = b.2.1.tables ⟨1⟩ := by
  intro now accepts rejects a b
  have unused : (⟨.twoShards, ()⟩ : Desk Unit).cluster.Unused := Cluster.unused_twoShards
  have one := Cluster.allHealthy_twoShards.checkout Cluster.unused_twoShards.placed
    ⟨1, by decide, by decide⟩ [⟨⟨7⟩, 1, by decide⟩]
  have placed := placed_serveAll .log ⟨.twoShards, ()⟩
    [.act (.checkout ⟨1, by decide, by decide⟩ [⟨⟨7⟩, 1, by decide⟩])]
      Cluster.unused_twoShards.placed
  have two := one.checkout placed ⟨3, by decide, by decide⟩ [⟨⟨7⟩, 1, by decide⟩]
  have healthy : now.AllHealthy := two
  obtain ⟨⟨transactions, began, drained⟩, -, agree⟩ :=
    shards_drain_independently .log unused _ healthy
    ⟨"orders", 5⟩ accepts rejects () ()
  obtain ⟨rfl, -⟩ := Cluster.beginEach_eq_ok began
  have first := drained [now.opened ⟨0⟩, now.opened ⟨1⟩] (.refl _)
  have second : Drained rejects ⟨"orders", 5⟩ now () ⟨⟨b.2.1, b.2.2⟩, [], b.1⟩ :=
    Drained.drainEach began (.swap ..)
  have judges : accepts.Judges (fun _ => .ok ()) (now.messages "orders" ⟨1⟩) := fun _ _ _ => rfl
  have judgesToo : rejects.Judges (fun _ => .ok ()) (now.messages "orders" ⟨1⟩) := by
    intro message member state
    obtain ⟨event, stored, rfl⟩ := List.mem_map.1 member
    refine if_neg fun same => ?_
    have lies := (filed_serveAll .log unused _ ⟨1⟩).about event stored
    rw [OrderId.toString_injective same] at lies
    exact absurd lies (by decide)
  obtain ⟨⟨outcome, ours, theirs⟩, tables, -⟩ :=
    agree _ _ first second ⟨1⟩ (fun _ => .ok ()) (by decide) judges judgesToo
  exact ⟨ours.trans theirs.symm, tables⟩

end OrderDesk
