import OrderDesk.Store.Cluster

/-!
# Outbox transactions

A transaction holds the outbox of one shard. Events are marked as sent in the transaction only;
committing it marks them in the tables, and dropping it leaves the tables as they were.
-/

namespace OrderDesk

/-- A unit of work on the outbox of one shard. -/
structure Transaction where
  shard : ShardIndex
  /-- The events of the shard when the transaction began; nobody else changes them. -/
  outbox : List Event
  /-- The events marked so far, in that order. -/
  staged : List EventId
  deriving DecidableEq, Repr

namespace Transaction

/-- The first events that wait to be sent and have not been marked, by time and number. -/
def pending (transaction : Transaction) (limit : Nat) : List Event :=
  Tables.pending transaction.outbox transaction.staged limit

/-- Marks an event as sent; it has to be one that waits in the tables. -/
def mark (transaction : Transaction) (event : EventId) : Except Error Transaction :=
  if transaction.outbox.any fun stored => stored.id = event && !stored.processed then
    .ok { transaction with staged := transaction.staged ++ [event] }
  else .error (.storage (.failure .markProcessed (.notPending event)))

end Transaction

namespace Cluster

/-- Opens a transaction on a shard. -/
def begin (cluster : Cluster) (shard : ShardIndex) : Except Error Transaction :=
  match cluster.permitWrite shard .beginTransaction with
  | .error error => .error (.storage error)
  | .ok () => .ok ⟨shard, (cluster.tables shard).outbox, []⟩

/-- Opens a transaction on each of the given shards, up to the first that fails. -/
def beginEach (cluster : Cluster) : List ShardIndex → Except Error (List Transaction)
  | [] => .ok []
  | shard :: rest =>
    match cluster.begin shard with
    | .error error => .error error
    | .ok transaction =>
      match cluster.beginEach rest with
      | .error error => .error error
      | .ok transactions => .ok (transaction :: transactions)

/-- Opens a transaction on every shard. -/
def beginAll (cluster : Cluster) : Except Error (List Transaction) :=
  cluster.beginEach cluster.router.indices

/-- Marks the events of a transaction in the tables. -/
def commit (cluster : Cluster) (transaction : Transaction) : Cluster :=
  let tables := cluster.tables transaction.shard
  cluster.setTables transaction.shard
    { tables with outbox := Tables.markSent transaction.staged tables.outbox }

end Cluster

end OrderDesk
