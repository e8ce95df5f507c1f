import OrderDesk.Json.Wire
import OrderDesk.Settings

/-!
# Settings as documents
-/

namespace OrderDesk

/-- A duration with a member of another name is refused, and so is one whose seconds overflow. -/
instance : Wire Duration where
  shape := .record true [("secs", Wire.shape UInt64), ("nanos", Wire.shape UInt32)]
  toJson duration := .object [("secs", Wire.toJson duration.seconds),
    ("nanos", Wire.toJson duration.nanos)]
  ofJson? document := do
    let seconds ← Wire.field? document "secs"
    let nanos ← Wire.field? document "nanos"
    Duration.ofParts? seconds nanos

instance : Wire ConnectionLimit where
  shape := .integer 1 (UInt32.size - 1)
  toJson limit := Wire.toJson limit.num
  ofJson? document := (Wire.ofJson? document).bind ConnectionLimit.ofWord?

instance : Wire PoolSettings where
  shape := .record false [("max_connections", Wire.shape ConnectionLimit),
    ("acquire_timeout", Wire.shape Duration), ("idle_timeout", Wire.shape Duration)]
  toJson pool := .object [("max_connections", Wire.toJson pool.maxConnections),
    ("acquire_timeout", Wire.toJson pool.acquireTimeout),
    ("idle_timeout", Wire.toJson pool.idleTimeout)]
  ofJson? document := do
    let maxConnections ← Wire.field? document "max_connections"
    let acquireTimeout ← Wire.field? document "acquire_timeout"
    let idleTimeout ← Wire.field? document "idle_timeout"
    some ⟨maxConnections, acquireTimeout, idleTimeout⟩

instance : Wire DatabaseSettings where
  shape := .record false [("url", Wire.shape String)]
  toJson database := .object [("url", Wire.toJson database.url)]
  ofJson? document := (Wire.field? document "url").map DatabaseSettings.mk

instance : Wire ShardSettings where
  shape := .record false [("primary", Wire.shape DatabaseSettings),
    ("replica", Wire.shape (Option DatabaseSettings))]
  toJson shard := .object [("primary", Wire.toJson shard.primary),
    ("replica", Wire.toJson shard.replica)]
  ofJson? document := do
    let primary ← Wire.field? document "primary"
    let replica ← Wire.field? document "replica"
    some ⟨primary, replica⟩

instance : Wire OutboxSettings where
  shape := .record false [("interval", Wire.shape Duration), ("batch_size", Wire.shape UInt64),
    ("topic", Wire.shape String)]
  toJson outbox := .object [("interval", Wire.toJson outbox.interval),
    ("batch_size", Wire.toJson outbox.batchSize), ("topic", Wire.toJson outbox.topic)]
  ofJson? document := do
    let interval ← Wire.field? document "interval"
    let batchSize ← Wire.field? document "batch_size"
    let topic ← Wire.field? document "topic"
    some ⟨interval, batchSize, topic⟩

instance : Wire BusKind where
  shape := .choice (BusKind.all.map BusKind.name)
  toJson kind := .text kind.name
  ofJson?
    | .text name => BusKind.ofName? name
    | _ => none

instance : Wire BusSettings where
  shape := .record false [("kind", Wire.shape BusKind), ("brokers", Wire.shape (List String)),
    ("retry_max", Wire.shape UInt32)]
  toJson bus := .object [("kind", Wire.toJson bus.kind), ("brokers", Wire.toJson bus.brokers),
    ("retry_max", Wire.toJson bus.retryMax)]
  ofJson? document := do
    let kind ← Wire.field? document "kind"
    let brokers ← Wire.field? document "brokers"
    let retryMax ← Wire.field? document "retry_max"
    some ⟨kind, brokers, retryMax⟩

instance : Wire Settings where
  shape := .record false [("shards", Wire.shape (List ShardSettings)),
    ("pool", Wire.shape PoolSettings), ("outbox", Wire.shape OutboxSettings),
    ("bus", Wire.shape BusSettings), ("stock_seed_path", Wire.shape (Option String)),
    ("http_addr", Wire.shape String)]
  toJson settings := .object [("shards", Wire.toJson settings.shards),
    ("pool", Wire.toJson settings.pool), ("outbox", Wire.toJson settings.outbox),
    ("bus", Wire.toJson settings.bus), ("stock_seed_path", Wire.toJson settings.stockSeedPath),
    ("http_addr", Wire.toJson settings.httpAddress)]
  ofJson? document := do
    let shards ← Wire.field? document "shards"
    let pool ← Wire.field? document "pool"
    let outbox ← Wire.field? document "outbox"
    let bus ← Wire.field? document "bus"
    let stockSeedPath ← Wire.field? document "stock_seed_path"
    let httpAddress ← Wire.field? document "http_addr"
    some ⟨shards, pool, outbox, bus, stockSeedPath, httpAddress⟩

end OrderDesk
