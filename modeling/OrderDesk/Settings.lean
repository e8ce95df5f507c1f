import OrderDesk.Duration
import OrderDesk.Identifier
import OrderDesk.Text.Blank

/-!
# Settings

What an operator decides about a desk: where its shards are, how connections are pooled, how the
relay works and where it sends to. Settings are checked as a whole before the desk opens.
-/

namespace OrderDesk

/-- The most connections that a pool opens, at least one. -/
@[ext] structure ConnectionLimit where
  num : UInt32
  pos : 0 < num
  deriving Repr

instance : DecidableEq ConnectionLimit := fun _ _ => decidable_of_iff' _ ConnectionLimit.ext_iff

/-- The limit of a word, if it is one. -/
def ConnectionLimit.ofWord? (limit : UInt32) : Option ConnectionLimit :=
  if pos : 0 < limit then some ⟨limit, pos⟩ else none

/-- How connections to one database are pooled. -/
structure PoolSettings where
  maxConnections : ConnectionLimit := ⟨10, by decide⟩
  /-- How long a caller waits for a connection. -/
  acquireTimeout : Duration := .ofSeconds 30
  /-- How long a connection stays open without work. -/
  idleTimeout : Duration := .ofSeconds 600
  deriving DecidableEq, Repr

/-- Where a database is. -/
structure DatabaseSettings where
  url : String
  deriving DecidableEq, Repr

/-- The databases of one shard. -/
structure ShardSettings where
  primary : DatabaseSettings
  replica : Option DatabaseSettings
  deriving DecidableEq, Repr

/-- How the relay empties the outboxes. -/
structure OutboxSettings where
  /-- The time between two ticks. -/
  interval : Duration := .ofSeconds 1
  /-- How many events of a shard are sent in one tick. -/
  batchSize : UInt64 := 10
  topic : String := "loms.order-events"
  deriving DecidableEq, Repr

/-- Where messages go. -/
inductive BusKind where
  /-- To the brokers of a partitioned topic. -/
  | kafka
  /-- To the log. -/
  | log
  deriving DecidableEq, Repr

namespace BusKind

/-- Every kind of bus. -/
def all : List BusKind := [kafka, log]

/-- The name of a kind of bus. -/
def name : BusKind → String
  | kafka => "kafka"
  | log => "log"

/-- The kind of bus of a name. -/
def ofName? (name : String) : Option BusKind := all.find? (·.name = name)

end BusKind

/-- How messages are sent. -/
structure BusSettings where
  kind : BusKind := .kafka
  brokers : List String := ["localhost:9092"]
  /-- How often a rejected message is offered again. -/
  retryMax : UInt32 := 3
  deriving DecidableEq, Repr

/-- Everything that an operator decides about a desk. -/
structure Settings where
  shards : List ShardSettings
  pool : PoolSettings
  outbox : OutboxSettings
  bus : BusSettings
  /-- The file with the first stock. -/
  stockSeedPath : Option String
  httpAddress : String
  deriving DecidableEq, Repr

/-- Why a desk cannot open with its settings. -/
inductive SettingsError where
  | noShards
  | tooManyShards (count : Nat)
  /-- Nothing says where the primary of a shard is. -/
  | missingPrimary (shard : Nat)
  | zeroInterval
  | zeroBatchSize
  | emptyTopic
  | noBrokers
  deriving DecidableEq, Repr

namespace Settings

/-- The variable of the environment that says where the primary of a shard is. -/
def primaryVariable (shard : Nat) : String := s!"DATABASE_MASTER_URL_{shard}"

/-- The variable of the environment that says where the replica of a shard is. -/
def replicaVariable (shard : Nat) : String := s!"DATABASE_REPLICA_URL_{shard}"

end Settings

/-- The wording of a settings error. -/
def SettingsError.message : SettingsError → String
  | noShards => "at least one shard must be configured"
  | tooManyShards count =>
    s!"{count} shards configured, at most {ShardIndex.maxShards} supported"
  | missingPrimary shard => s!"missing {Settings.primaryVariable shard}"
  | zeroInterval => "outbox interval must be positive"
  | zeroBatchSize => "outbox batch size must be positive"
  | emptyTopic => "outbox topic must not be empty"
  | noBrokers => "at least one kafka broker must be configured"

namespace ShardSettings

/-- A variable of the environment, unless it is blank. -/
def setVariable? (environment : String → Option String) (name : String) : Option String :=
  (environment name).filter fun value => !Text.isBlank value

/-- The settings of one shard from the environment. -/
def ofEnvironment (environment : String → Option String) (shard : Nat) :
    Except SettingsError ShardSettings :=
  match setVariable? environment (Settings.primaryVariable shard) with
  | none => .error (.missingPrimary shard)
  | some primary =>
    .ok ⟨⟨primary⟩,
      (setVariable? environment (Settings.replicaVariable shard)).map DatabaseSettings.mk⟩

/-- The settings of so many shards from the given one on, up to the first that has no primary. -/
def allFrom (environment : String → Option String) (first : Nat) :
    Nat → Except SettingsError (List ShardSettings)
  | 0 => .ok []
  | count + 1 =>
    match ofEnvironment environment first with
    | .error error => .error error
    | .ok shard =>
      match allFrom environment (first + 1) count with
      | .error error => .error error
      | .ok shards => .ok (shard :: shards)

/-- The settings of so many shards from the environment. -/
def allOfEnvironment (environment : String → Option String) (count : Nat) :
    Except SettingsError (List ShardSettings) :=
  allFrom environment 0 count

/-- A shard that is kept in memory. -/
def inMemory (shard : Nat) : ShardSettings := ⟨⟨s!"memory://shard-{shard}"⟩, none⟩

end ShardSettings

namespace Settings

/-- The first reason for which a desk cannot open, if there is one. Brokers matter only if
    messages go to brokers. -/
def check (settings : Settings) : Except SettingsError Unit :=
  if settings.shards.isEmpty then .error .noShards
  else if ShardIndex.maxShards < settings.shards.length then
    .error (.tooManyShards settings.shards.length)
  else if settings.outbox.interval.isZero then .error .zeroInterval
  else if settings.outbox.batchSize = 0 then .error .zeroBatchSize
  else if Text.isBlank settings.outbox.topic then .error .emptyTopic
  else if settings.bus.kind = .kafka ∧ settings.bus.brokers.all Text.isBlank then
    .error .noBrokers
  else .ok ()

end Settings

end OrderDesk
