import OrderDesk.Relay

/-!
# Drains in flight

The drain of one shard, stopped between two offers. The drains of a tick may be under way
together, their steps interleaved in any order, as each holds a transaction on a shard of its own.
A drain that is advanced to its end without others in between does what it does in one go.
-/

namespace OrderDesk

/-- A drain under way: what is left of its batch, and how large the batch was. -/
structure Drain where
  topic : String
  transaction : Transaction
  size : Nat
  rest : List Event

namespace Drain

variable {σ : Type}

/-- The drain of an open transaction before its first offer. -/
def start (settings : RelaySettings) (transaction : Transaction) : Drain :=
  let batch := transaction.pending settings.batchSize
  ⟨settings.topic, transaction, batch.length, batch⟩

/-- Offers the next event of the batch and marks it if it is accepted; commits if none is left. The
    drain goes on, or it has ended with an outcome. -/
def advance (publisher : Publisher σ) (drain : Drain) (cluster : Cluster) (state : σ) :
    (Drain ⊕ ShardOutcome) × Cluster × σ :=
  let shard := drain.transaction.shard
  match drain.rest with
  | [] => (.inr ⟨shard, .ok drain.size⟩, cluster.commit drain.transaction, state)
  | event :: rest =>
    match publisher.publish (.ofEvent drain.topic event) state with
    | (.error error, state) => (.inr ⟨shard, .error (.publish error)⟩, cluster, state)
    | (.ok (), state) =>
      match drain.transaction.mark event.id with
      | .error error => (.inr ⟨shard, .error error⟩, cluster, state)
      | .ok marked => (.inl { drain with transaction := marked, rest := rest }, cluster, state)

/-- Takes so many steps of a drain, or fewer if it ends before. -/
def advanceBy (publisher : Publisher σ) :
    Nat → Drain → Cluster → σ → (Drain ⊕ ShardOutcome) × Cluster × σ
  | 0, drain, cluster, state => (.inl drain, cluster, state)
  | steps + 1, drain, cluster, state =>
    match drain.advance publisher cluster state with
    | (.inl drain, cluster, state) => advanceBy publisher steps drain cluster state
    | (.inr outcome, cluster, state) => (.inr outcome, cluster, state)

theorem shard_of_mark {transaction marked : Transaction} {event : EventId}
    (h : transaction.mark event = .ok marked) : marked.shard = transaction.shard := by
  unfold Transaction.mark at h
  split at h
  · cases h
    rfl
  · cases h

/-- A step for each event that is left and one to commit lead a drain to its end. -/
theorem advanceBy_rest (publisher : Publisher σ) (rest : List Event) (topic : String)
    (transaction : Transaction) (size : Nat) (cluster : Cluster) (state : σ) :
    advanceBy publisher (rest.length + 1) ⟨topic, transaction, size, rest⟩ cluster state =
      match Relay.send publisher topic rest transaction state with
      | (.error error, state) => (.inr ⟨transaction.shard, .error error⟩, cluster, state)
      | (.ok marked, state) =>
          (.inr ⟨transaction.shard, .ok size⟩, cluster.commit marked, state) := by
  induction rest generalizing transaction state with
  | nil => rfl
  | cons event rest ih =>
    rcases offered : publisher.publish (.ofEvent topic event) state with ⟨_ | _, outside⟩
    · simp only [advanceBy, advance, Relay.send, offered]
    · rcases marked : transaction.mark event.id with _ | after
      · simp only [advanceBy, advance, Relay.send, offered, marked]
      · have here := ih after outside
        rw [shard_of_mark marked] at here
        simp only [List.length_cons, advanceBy, advance, Relay.send, offered, marked] at here ⊢
        exact here

/-- A drain that is advanced to its end has the outcome of a drain in one go, and leaves behind
    what that does. -/
theorem advanceBy_start (publisher : Publisher σ) (settings : RelaySettings)
    (transaction : Transaction) (cluster : Cluster) (state : σ) :
    advanceBy publisher ((transaction.pending settings.batchSize).length + 1)
        (start settings transaction) cluster state =
      (.inr (Relay.drain publisher settings transaction cluster state).1,
        (Relay.drain publisher settings transaction cluster state).2) := by
  rcases sent : Relay.send publisher settings.topic (transaction.pending settings.batchSize)
    transaction state with ⟨_ | _, outside⟩ <;>
    simp only [start, advanceBy_rest, Relay.drain, sent]

end Drain

end OrderDesk
