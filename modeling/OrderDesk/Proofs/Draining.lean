import Mathlib.Algebra.Order.Floor.Div
import Mathlib.Data.List.Perm.Basic
import OrderDesk.Proofs.Delivery
import OrderDesk.Proofs.Queue

/-!
# How long the outboxes take to drain

While every primary is healthy and the publisher accepts whatever it is offered, a tick takes a
batch off the front of every queue. After so many ticks each queue has lost so many batches, or all
that it had, and all that was lost has been offered and accepted once. So the longest queue says how
many ticks it takes until nothing waits, and from then on a tick offers nothing.
-/

namespace OrderDesk

namespace Publisher

variable {σ : Type}

/-- Whatever is offered is accepted. -/
def Accepting (publisher : Publisher σ) : Prop :=
  ∀ message state, (publisher.publish message state).1 = .ok ()

theorem Accepting.offerAll {publisher : Publisher σ} (accepting : publisher.Accepting)
    (messages : List Message) (offers : List Offer) (state : σ) :
    ∃ left, publisher.recording.offerAll messages (offers, state) =
      (.ok (), offers ++ messages.map fun message => ⟨message, true⟩, left) := by
  induction messages generalizing offers state with
  | nil => exact ⟨state, by simp [Publisher.offerAll]⟩
  | cons message rest ih =>
    rcases offered : publisher.publish message state with ⟨error | _, left⟩
    · have accepted := accepting message state
      rw [offered] at accepted
      cases accepted
    · obtain ⟨last, later⟩ := ih (offers ++ [⟨message, true⟩]) left
      refine ⟨last, ?_⟩
      simp only [Publisher.offerAll, recording, offered]
      rw [List.append_assoc] at later
      exact later

end Publisher

/-- The offer of an event's message, which was accepted. -/
def Offer.ofEvent (topic : String) (event : Event) : Offer := ⟨.ofEvent topic event, true⟩

namespace TickReport

theorem published_map (shards : List ShardIndex) (result : ShardIndex → Except Error Nat) :
    published ⟨shards.map fun shard => ⟨shard, result shard⟩⟩ =
      (shards.map fun shard => (result shard).toOption.getD 0).sum := by
  unfold published
  induction shards with
  | nil => rfl
  | cons shard rest ih =>
    rw [List.map_cons, List.map_cons, List.sum_cons, ← ih]
    rcases here : result shard with error | count
    · exact (Nat.zero_add _).symm
    · rfl

theorem published_of_ok (shards : List ShardIndex) (count : ShardIndex → Nat) :
    published ⟨shards.map fun shard => ⟨shard, .ok (count shard)⟩⟩ = (shards.map count).sum :=
  published_map shards fun shard => .ok (count shard)

theorem isClean_of_ok (shards : List ShardIndex) (count : ShardIndex → Nat) :
    isClean ⟨shards.map fun shard => ⟨shard, .ok (count shard)⟩⟩ = true := by
  simp [isClean, failures]

end TickReport

theorem Cluster.AllHealthy.tick {σ : Type} {cluster : Cluster} (healthy : cluster.AllHealthy)
    (publisher : Publisher σ) (settings : RelaySettings) (state : σ) :
    (Relay.tick publisher settings cluster state).2.1.AllHealthy :=
  @Relay.related_tick σ publisher settings
    (fun before after => before.AllHealthy → after.AllHealthy)
    (fun _ fine => fine) (fun first second fine => second (first fine))
    (fun _ _ fine => fine.setTables _ _) cluster state healthy

namespace Relay

variable {σ : Type} {publisher : Publisher σ} (accepting : publisher.Accepting)
  (settings : RelaySettings)

include accepting

theorem drain_accepting (cluster : Cluster) (shard : ShardIndex) (offers : List Offer) (state : σ) :
    ∃ left, drain publisher.recording settings (cluster.opened shard) cluster (offers, state) =
      let batch := (cluster.tables shard).queue.take settings.batchSize
      (⟨shard, .ok batch.length⟩, cluster.sendFirst shard settings.batchSize,
        offers ++ batch.map (.ofEvent settings.topic), left) := by
  obtain ⟨left, offered⟩ := accepting.offerAll (((cluster.tables shard).queue.take
    settings.batchSize).map (.ofEvent settings.topic)) offers state
  refine ⟨left, ?_⟩
  rw [drain_opened]
  simp only [offered, List.map_map]
  rfl

/-- Drains take a batch off the front of each queue, shard by shard. Between the opening of a
    transaction and its drain nobody touches the tables of its shard. -/
theorem drainEach_accepting {start : Cluster} {shards : List ShardIndex} (distinct : shards.Nodup)
    {cluster : Cluster} (untouched : ∀ shard ∈ shards, cluster.tables shard = start.tables shard)
    (offers : List Offer) (state : σ) :
    let batch := fun shard => (start.tables shard).queue.take settings.batchSize
    ∃ after left, drainEach publisher.recording settings (shards.map start.opened) cluster
        (offers, state) =
      (shards.map fun shard => ⟨shard, .ok (batch shard).length⟩, after,
        offers ++ shards.flatMap fun shard => (batch shard).map (.ofEvent settings.topic), left) ∧
      ∀ shard, after.tables shard = if shard ∈ shards then
        (start.tables shard).sendFirst settings.batchSize else cluster.tables shard := by
  induction shards generalizing cluster offers state with
  | nil => exact ⟨cluster, state, by simp [drainEach], by simp⟩
  | cons shard rest ih =>
    obtain ⟨fresh, others⟩ := List.nodup_cons.1 distinct
    obtain ⟨here, later⟩ := List.forall_mem_cons.1 untouched
    have opened : start.opened shard = cluster.opened shard := by
      rw [Cluster.opened, Cluster.opened, here]
    obtain ⟨between, drained⟩ := drain_accepting accepting settings cluster shard offers state
    rw [here] at drained
    have elsewhere : ∀ other ∈ rest,
        (cluster.sendFirst shard settings.batchSize).tables other = start.tables other := by
      intro other member
      have apart : ¬shard = other := by
        rintro rfl
        exact fresh member
      rw [Cluster.tables_sendFirst, if_neg apart, later other member]
    obtain ⟨after, left, went, tables⟩ := ih others elsewhere
      (offers ++ ((start.tables shard).queue.take settings.batchSize).map (.ofEvent settings.topic))
      between
    refine ⟨after, left, ?_, fun other => ?_⟩
    · rw [List.map_cons, drainEach, opened, drained]
      simp only [went, List.map_cons, List.flatMap_cons, List.append_assoc]
    · rw [tables, Cluster.tables_sendFirst]
      by_cases same : shard = other
      · subst same
        rw [if_neg fresh, if_pos rfl, if_pos (by simp), here]
      · simp [same, Ne.symm same]

/-- A tick takes a batch off the front of every queue. -/
theorem tick_accepting {cluster : Cluster} (healthy : cluster.AllHealthy) (offers : List Offer)
    (state : σ) :
    let batch := fun shard => (cluster.tables shard).queue.take settings.batchSize
    let shards := cluster.router.indices
    ∃ after left, tick publisher.recording settings cluster (offers, state) =
      (.ok ⟨shards.map fun shard => ⟨shard, .ok (batch shard).length⟩⟩, after,
        offers ++ shards.flatMap fun shard => (batch shard).map (.ofEvent settings.topic), left) ∧
      ∀ shard, after.tables shard = (cluster.tables shard).sendFirst settings.batchSize := by
  have untouched : ∀ shard ∈ cluster.router.indices, cluster.tables shard = cluster.tables shard :=
    fun _ _ => rfl
  obtain ⟨after, left, drained, tables⟩ := drainEach_accepting accepting settings
    cluster.router.nodup_indices untouched offers state
  refine ⟨after, left, ?_, fun shard => ?_⟩
  · simp only [tick, healthy.beginAll, drained]
  · rw [tables]
    split
    · rfl
    · rename_i absent
      rw [Cluster.tables_of_not_has (mt Cluster.mem_indices.2 absent), Tables.sendFirst_empty]

/-! ## Tick after tick -/

omit accepting in
theorem ticks_succ (publisher : Publisher σ) (count : Nat) (cluster : Cluster) (state : σ) :
    ticks publisher settings (count + 1) cluster state =
      (tick publisher settings (ticks publisher settings count cluster state).1
        (ticks publisher settings count cluster state).2).2 := by
  induction count generalizing cluster state with
  | zero => rfl
  | succ count ih => exact ih _ _

end Relay

/-- What so many ticks have come to: as many batches are off each queue, and what has been offered
    are their messages, once each. -/
structure Progress (settings : RelaySettings) (start : Cluster) (count : Nat) (after : Cluster)
    (offers : List Offer) : Prop where
  indices : after.router.indices = start.router.indices
  filed : after.Filed
  healthy : after.AllHealthy
  queue : ∀ shard, (after.tables shard).queue =
    (start.tables shard).queue.drop (count * settings.batchSize)
  offers : offers.Perm (start.router.indices.flatMap fun shard =>
    ((start.tables shard).queue.take (count * settings.batchSize)).map (.ofEvent settings.topic))

namespace Progress

variable {settings : RelaySettings} {start cluster : Cluster} {count : Nat} {offers : List Offer}

theorem nothing (filed : start.Filed) (healthy : start.AllHealthy) :
    Progress settings start 0 start [] where
  indices := rfl
  filed := filed
  healthy := healthy
  queue := by simp
  offers := by simp

/-- What has been offered by now, together with what the next batches offer, is what the queues hold
    up to there. -/
theorem offers_succ (progress : Progress settings start count cluster offers) :
    (offers ++ start.router.indices.flatMap fun shard =>
      ((cluster.tables shard).queue.take settings.batchSize).map
        (Offer.ofEvent settings.topic)).Perm
    (start.router.indices.flatMap fun shard =>
      ((start.tables shard).queue.take ((count + 1) * settings.batchSize)).map
        (.ofEvent settings.topic)) := by
  refine (progress.offers.append_right _).trans ((List.flatMap_append_perm _ _ _).trans ?_)
  refine .of_eq (congrArg (List.flatMap · _) (funext fun shard => ?_))
  rw [← List.map_append, progress.queue, Nat.succ_mul, List.take_add]

/-- Another tick sends another batch of each queue. -/
theorem tick {σ : Type} {publisher : Publisher σ} (accepting : publisher.Accepting)
    (progress : Progress settings start count cluster offers) (state : σ) :
    ∃ report after offered left, Relay.tick publisher.recording settings cluster (offers, state) =
        (.ok report, after, offers ++ offered, left) ∧
      Progress settings start (count + 1) after (offers ++ offered) ∧
      report.isClean = true ∧ report.published = (start.router.indices.map fun shard =>
        min settings.batchSize (cluster.tables shard).waiting.length).sum ∧
      report.published = offered.length := by
  obtain ⟨after, left, went, tables⟩ :=
    Relay.tick_accepting accepting settings progress.healthy offers state
  have marked := Relay.sameButMarks_tick publisher.recording settings cluster (offers, state)
  have healthy := progress.healthy.tick publisher.recording settings (offers, state)
  rw [went] at marked healthy
  rw [progress.indices] at went
  refine ⟨_, after, _, left, went, ⟨?_, progress.filed.marks marked, healthy, ?_,
    progress.offers_succ⟩, TickReport.isClean_of_ok _ _, ?_, ?_⟩
  · rw [← progress.indices, Router.indices, Router.indices, Cluster.size_router,
      Cluster.size_router, marked.size]
  · intro shard
    rw [tables, (progress.filed shard).queue_sendFirst, progress.queue, List.drop_drop,
      Nat.succ_mul]
  · rw [TickReport.published_of_ok]
    simp only [List.length_take, (Tables.perm_queue _).length_eq]
  · rw [TickReport.published_of_ok]
    simp only [List.length_flatMap, List.length_map]

/-- What so many ticks come to. -/
theorem ticks {σ : Type} {publisher : Publisher σ} (accepting : publisher.Accepting)
    (filed : start.Filed) (healthy : start.AllHealthy) (state : σ) (count : Nat) :
    Progress settings start count
      (Relay.ticks publisher.recording settings count start ([], state)).1
      (Relay.ticks publisher.recording settings count start ([], state)).2.1 := by
  induction count with
  | zero => exact nothing filed healthy
  | succ count ih =>
    rw [Relay.ticks_succ]
    obtain ⟨report, after, offered, left, went, progress, -⟩ :=
      ih.tick accepting (Relay.ticks publisher.recording settings count start ([], state)).2.2
    rw [Prod.mk.eta] at went
    rw [went]
    exact progress

/-- What a queue holds after so many ticks. -/
theorem length_waiting (progress : Progress settings start count cluster offers)
    (shard : ShardIndex) : (cluster.tables shard).waiting.length =
      (start.tables shard).waiting.length - count * settings.batchSize := by
  rw [← (Tables.perm_queue _).length_eq, ← (Tables.perm_queue _).length_eq, progress.queue,
    List.length_drop]

end Progress

namespace Cluster

/-- How many events wait where the most of them wait. -/
def longest (cluster : Cluster) : Nat :=
  (cluster.router.indices.map fun shard => (cluster.tables shard).waiting.length).foldr max 0

theorem longest_le_iff {cluster : Cluster} {bound : Nat} :
    cluster.longest ≤ bound ↔ ∀ shard, (cluster.tables shard).waiting.length ≤ bound := by
  have listed : ∀ lengths : List Nat, lengths.foldr max 0 ≤ bound ↔ ∀ n ∈ lengths, n ≤ bound := by
    intro lengths
    induction lengths with
    | nil => simp
    | cons n rest ih => rw [List.foldr_cons, max_le_iff, ih, List.forall_mem_cons]
  rw [longest, listed, List.forall_mem_map]
  constructor
  · intro fits shard
    by_cases present : cluster.Has shard
    · exact fits shard (mem_indices.2 present)
    · rw [tables_of_not_has present]
      exact Nat.zero_le _
  · exact fun fits shard _ => fits shard

end Cluster

/-- While every primary is healthy and the publisher accepts whatever it is offered, each tick takes
    a batch off every queue and reports so. The longest queue says after how many ticks nothing
    waits any more: by then all that waited has been offered and accepted, once each, and from then
    on ticks offer nothing. -/
theorem Desk.outbox_drains {σ τ : Type} (publisher : Publisher σ) {start : Desk σ}
    (unused : start.cluster.Unused) (errands : List Errand)
    (healthy : (start.serveAll publisher errands).cluster.AllHealthy) {settings : RelaySettings}
    (batch : 0 < settings.batchSize) {receiver : Publisher τ} (accepting : receiver.Accepting)
    (state : τ) :
    let now := (start.serveAll publisher errands).cluster
    let after := fun count => Relay.ticks receiver.recording settings count now ([], state)
    let left := fun count shard => ((after count).1.tables shard).waiting.length
    let enough := now.longest ⌈/⌉ settings.batchSize
    (∀ count shard, left count shard =
      (now.tables shard).waiting.length - count * settings.batchSize) ∧
    (∀ count, ∃ report,
      (Relay.tick receiver.recording settings (after count).1 (after count).2).1 = .ok report ∧
        report.isClean = true ∧ report.published =
          (now.router.indices.map fun shard => min settings.batchSize (left count shard)).sum ∧
        (enough ≤ count → report.published = 0)) ∧
    (∀ count, (∀ shard, left count shard = 0) ↔ enough ≤ count) ∧
    (after enough).2.1.Perm (now.router.indices.flatMap fun shard =>
      (now.tables shard).waiting.map (.ofEvent settings.topic)) ∧
    ∀ count, enough ≤ count → (after count).2.1 = (after enough).2.1 := by
  intro now after left enough
  have progress : ∀ count, Progress settings now count (after count).1 (after count).2.1 :=
    Progress.ticks accepting (filed_serveAll publisher unused errands) healthy state
  have lengths : ∀ count shard, left count shard =
      (now.tables shard).waiting.length - count * settings.batchSize :=
    fun count => (progress count).length_waiting
  have nothing : ∀ count, (∀ shard, left count shard = 0) ↔ enough ≤ count := by
    intro count
    rw [ceilDiv_le_iff_le_mul batch, Cluster.longest_le_iff, Nat.mul_comm]
    simp only [lengths, Nat.sub_eq_zero_iff_le]
  have ticked : ∀ count, ∃ report offered,
      (Relay.tick receiver.recording settings (after count).1 (after count).2).1 = .ok report ∧
        report.isClean = true ∧ report.published =
          (now.router.indices.map fun shard => min settings.batchSize (left count shard)).sum ∧
        report.published = offered.length ∧
        (after (count + 1)).2.1 = (after count).2.1 ++ offered := by
    intro count
    obtain ⟨report, last, offered, outside, went, -, clean, published, length⟩ :=
      (progress count).tick accepting (after count).2.2
    refine ⟨report, offered, congrArg Prod.fst went, clean, published, length, ?_⟩
    have next : after (count + 1) = (last, (after count).2.1 ++ offered, outside) :=
      (Relay.ticks_succ settings receiver.recording count now ([], state)).trans
        (congrArg Prod.snd went)
    rw [next]
  have quiet : ∀ count, enough ≤ count →
      (now.router.indices.map fun shard => min settings.batchSize (left count shard)).sum = 0 := by
    intro count ended
    simp [(nothing count).2 ended]
  refine ⟨lengths, fun count => ?_, nothing, ?_, fun count ended => ?_⟩
  · obtain ⟨report, offered, told, clean, published, -⟩ := ticked count
    exact ⟨report, told, clean, published, fun ended => published.trans (quiet count ended)⟩
  · refine (progress enough).offers.trans (List.Perm.flatMap_left _ fun shard _ => ?_)
    have fits : (now.tables shard).queue.length ≤ enough * settings.batchSize := by
      have ended := (nothing enough).2 (Nat.le_refl _) shard
      rw [(Tables.perm_queue _).length_eq]
      rwa [lengths, Nat.sub_eq_zero_iff_le] at ended
    rw [List.take_of_length_le fits]
    exact (Tables.perm_queue _).map _
  · induction count, ended using Nat.le_induction with
    | base => rfl
    | succ count ended ih =>
      obtain ⟨report, offered, -, -, published, length, grew⟩ := ticked count
      have empty : offered = [] :=
        List.length_eq_zero_iff.1 (by rw [← length, published, quiet _ ended])
      rw [grew, empty, List.append_nil, ih]

/-- An order is placed, so two events wait on its shard, and ticks send one of them at a time. -/
theorem Desk.outbox_drains_twoShards :
    let now := ((⟨.twoShards, ()⟩ : Desk Unit).serveAll .log
      [.act (.checkout ⟨1, by decide, by decide⟩ [⟨⟨7⟩, 1, by decide⟩])]).cluster
    let receiver : Publisher Unit := ⟨fun _ state => (.ok (), state)⟩
    let after := fun count => Relay.ticks receiver.recording ⟨"orders", 1⟩ count now ([], ())
    now.longest = 2 ∧ (¬∀ shard, ((after 1).1.tables shard).waiting.length = 0) ∧
      ∀ shard, ((after 2).1.tables shard).waiting.length = 0 := by
  intro now receiver after
  have unused : (⟨.twoShards, ()⟩ : Desk Unit).cluster.Unused := Cluster.unused_twoShards
  have placed := Cluster.allHealthy_twoShards.checkout Cluster.unused_twoShards.placed
    ⟨1, by decide, by decide⟩ [⟨⟨7⟩, 1, by decide⟩]
  have healthy : now.AllHealthy := placed
  have batch : 0 < (⟨"orders", 1⟩ : RelaySettings).batchSize := by decide
  have accepting : receiver.Accepting := fun _ _ => rfl
  have ends : ∀ count, (∀ shard, ((after count).1.tables shard).waiting.length = 0) ↔
      now.longest ⌈/⌉ 1 ≤ count :=
    (outbox_drains .log unused _ healthy batch accepting ()).2.2.1
  have longest : now.longest = 2 := by decide
  rw [longest] at ends
  exact ⟨longest, mt (ends 1).1 (by decide), (ends 2).2 (by decide)⟩

end OrderDesk
