import OrderDesk.Publisher
import OrderDesk.Store.Transaction

/-!
# The relay

The relay moves events from the outboxes to a publisher. On a tick it opens a transaction on
every shard and sends the first events that wait on each, up to a batch. A shard whose batch goes
through commits; one whose batch meets a rejection is left as it was, so its events are sent
again on a later tick. Delivery is therefore at least once. A running relay ticks at once and then
in even steps until it is stopped.
-/

namespace OrderDesk

/-- How the relay works: where it sends to and how much at once. -/
structure RelaySettings where
  topic : String
  batchSize : Nat
  deriving DecidableEq, Repr

/-- What a tick did on one shard: how many events it sent, or why it left all as they were. -/
structure ShardOutcome where
  shard : ShardIndex
  result : Except Error Nat

/-- What a tick did, shard by shard. -/
structure TickReport where
  shards : List ShardOutcome

namespace TickReport

/-- The number of events sent. -/
def published (report : TickReport) : Nat :=
  (report.shards.filterMap fun outcome => outcome.result.toOption).foldr (· + ·) 0

/-- The shards that were left as they were, and why. -/
def failures (report : TickReport) : List (ShardIndex × Error) :=
  report.shards.filterMap fun outcome =>
    match outcome.result with
    | .error error => some (outcome.shard, error)
    | .ok _ => none

/-- Whether every shard committed. -/
def isClean (report : TickReport) : Bool := report.failures.isEmpty

end TickReport

namespace Relay

variable {σ : Type}

/-- Sends events one after the other and marks each one sent, up to the first that is
    rejected. -/
def send (publisher : Publisher σ) (topic : String) :
    List Event → Transaction → σ → Except Error Transaction × σ
  | [], transaction, state => (.ok transaction, state)
  | event :: rest, transaction, state =>
    match publisher.publish (.ofEvent topic event) state with
    | (.error error, state) => (.error (.publish error), state)
    | (.ok (), state) =>
      match transaction.mark event.id with
      | .error error => (.error error, state)
      | .ok transaction => send publisher topic rest transaction state

/-- Sends the batch of one shard and commits it if all of it went through. -/
def drain (publisher : Publisher σ) (settings : RelaySettings) (transaction : Transaction)
    (cluster : Cluster) (state : σ) : ShardOutcome × Cluster × σ :=
  let batch := transaction.pending settings.batchSize
  match send publisher settings.topic batch transaction state with
  | (.error error, state) => (⟨transaction.shard, .error error⟩, cluster, state)
  | (.ok marked, state) => (⟨transaction.shard, .ok batch.length⟩, cluster.commit marked, state)

/-- Drains the shards of open transactions, in order. -/
def drainEach (publisher : Publisher σ) (settings : RelaySettings) :
    List Transaction → Cluster → σ → List ShardOutcome × Cluster × σ
  | [], cluster, state => ([], cluster, state)
  | transaction :: rest, cluster, state =>
    match drain publisher settings transaction cluster state with
    | (outcome, cluster, state) =>
      match drainEach publisher settings rest cluster state with
      | (outcomes, cluster, state) => (outcome :: outcomes, cluster, state)

/-- Drains every shard once. It fails only if a transaction cannot be opened. -/
def tick (publisher : Publisher σ) (settings : RelaySettings) (cluster : Cluster) (state : σ) :
    Except Error TickReport × Cluster × σ :=
  match cluster.beginAll with
  | .error error => (.error error, cluster, state)
  | .ok transactions =>
    match drainEach publisher settings transactions cluster state with
    | (outcomes, cluster, state) => (.ok ⟨outcomes⟩, cluster, state)

/-- The longest pause that can be timed, in milliseconds: thirty years of 365 days. -/
def longestPause : Nat := 30 * 365 * 24 * 60 * 60 * 1000

/-- The pause between two ticks, in milliseconds: the interval asked for, but at least one and no
    more than can be timed. -/
def pause (interval : Nat) : Nat := min (max interval 1) longestPause

/-- So many ticks, one after the other, whatever each of them reports. -/
def ticks (publisher : Publisher σ) (settings : RelaySettings) : Nat → Cluster → σ → Cluster × σ
  | 0, cluster, state => (cluster, state)
  | count + 1, cluster, state =>
    match tick publisher settings cluster state with
    | (_, cluster, state) => ticks publisher settings count cluster state

/-- The time that so many ticks take, in milliseconds: the first comes at once and each further
    one a pause later. -/
def elapsed (interval count : Nat) : Nat := (count - 1) * pause interval

/-- What a relay does that is stopped while the tick of that number starts: the time it takes, in
    milliseconds, and what it leaves behind. The first tick comes at once and a tick that has
    started is completed, so there is always one. -/
def run (publisher : Publisher σ) (settings : RelaySettings) (interval last : Nat)
    (cluster : Cluster) (state : σ) : Nat × Cluster × σ :=
  let count := max last 1
  (elapsed interval count, ticks publisher settings count cluster state)

end Relay

end OrderDesk
