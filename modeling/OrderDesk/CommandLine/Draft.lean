import OrderDesk.CommandLine.Key
import OrderDesk.Settings
import OrderDesk.Text.Decimal

/-!
# Drafts of settings

What is known of the settings while the arguments and the environment are read: a value for each
option that has been given. A value is checked when it is given, and an option is given once,
except for the one that collects a list.
-/

namespace OrderDesk

/-- Where orders and stock are kept. -/
inductive Backend where
  /-- In one database per shard. -/
  | postgres
  /-- In the memory of the desk, for as long as it runs. -/
  | memory
  deriving DecidableEq, Repr

/-- How log lines are written. -/
inductive LogFormat where
  | text
  | json
  deriving DecidableEq, Repr

/-- Why arguments and environment give no settings. -/
inductive UsageError where
  /-- Not an error, but an end: help was asked for. -/
  | helpRequested
  /-- Not an error, but an end: the version was asked for. -/
  | versionRequested
  | unknownArgument
  /-- An option that takes one value is given twice. -/
  | repeatedOption
  /-- A value is missing, empty or none of those to choose from. -/
  | invalidValue
  /-- A value is no number, or one that is out of range. -/
  | invalidNumber
  /-- A value stands where none is taken. -/
  | unexpectedValue
  deriving DecidableEq, Repr

namespace Backend

/-- Every backend. -/
def all : List Backend := [postgres, memory]

/-- The name of a backend. -/
def name : Backend → String
  | postgres => "postgres"
  | memory => "memory"

end Backend

namespace LogFormat

/-- Every format of log lines. -/
def all : List LogFormat := [text, json]

/-- The name of a format of log lines. -/
def name : LogFormat → String
  | text => "text"
  | json => "json"

end LogFormat

/-- A value for each option that has been given. -/
structure Draft where
  backend : Option Backend
  shardCount : Option UInt64
  httpAddress : Option String
  outboxInterval : Option UInt64
  outboxBatchSize : Option UInt64
  topic : Option String
  bus : Option BusKind
  brokers : Option (List String)
  retryMax : Option UInt32
  maxConnections : Option ConnectionLimit
  stockSeedPath : Option String
  logFormat : Option LogFormat
  deriving DecidableEq, Repr

namespace Draft

/-- Nothing has been given. -/
def empty : Draft := ⟨none, none, none, none, none, none, none, none, none, none, none, none⟩

/-- The choice of a name, which has to be written as it is listed. -/
def choice {α : Type} (all : List α) (name : α → String) (text : String) : Except UsageError α :=
  match all.find? (name · = text) with
  | none => .error .invalidValue
  | some value => .ok value

/-- A 64-bit count. -/
def count (text : String) : Except UsageError UInt64 :=
  match Text.natural? text with
  | none => .error .invalidNumber
  | some n => if n < UInt64.size then .ok (UInt64.ofNat n) else .error .invalidNumber

/-- A number of retries. It is read with a sign of either kind, so minus zero is zero. -/
def retries (text : String) : Except UsageError UInt32 :=
  match Text.integer? text with
  | none => .error .invalidNumber
  | some n =>
    if 0 ≤ n ∧ n < UInt32.size then .ok (UInt32.ofNat n.toNat) else .error .invalidNumber

/-- A limit of connections. -/
def limit (text : String) : Except UsageError ConnectionLimit :=
  match Text.natural? text with
  | none => .error .invalidNumber
  | some n =>
    if n < UInt32.size then
      match ConnectionLimit.ofWord? (UInt32.ofNat n) with
      | none => .error .invalidNumber
      | some limit => .ok limit
    else .error .invalidNumber

/-- A path of a file. -/
def path (text : String) : Except UsageError String :=
  if text.isEmpty then .error .invalidValue else .ok text

/-- The parts of a list between commas, empty ones included. -/
def parts (text : String) : List String := text.splitOn ","

/-- A value for an option that is given once. -/
def once {α : Type} (held : Option α) (value : Except UsageError α) :
    Except UsageError (Option α) :=
  match held with
  | some _ => .error .repeatedOption
  | none => value.map some

/-- Whether an option has been given. -/
def has (draft : Draft) : Key → Bool
  | .backend => draft.backend.isSome
  | .shardCount => draft.shardCount.isSome
  | .httpAddress => draft.httpAddress.isSome
  | .outboxInterval => draft.outboxInterval.isSome
  | .outboxBatchSize => draft.outboxBatchSize.isSome
  | .topic => draft.topic.isSome
  | .bus => draft.bus.isSome
  | .brokers => draft.brokers.isSome
  | .retryMax => draft.retryMax.isSome
  | .maxConnections => draft.maxConnections.isSome
  | .stockSeedPath => draft.stockSeedPath.isSome
  | .logFormat => draft.logFormat.isSome

/-- Gives a value to an option. Brokers may be given again and add up. -/
def give (draft : Draft) (key : Key) (text : String) : Except UsageError Draft :=
  match key with
  | .backend => (once draft.backend (choice Backend.all Backend.name text)).map
      fun value => { draft with backend := value }
  | .shardCount => (once draft.shardCount (count text)).map
      fun value => { draft with shardCount := value }
  | .httpAddress => (once draft.httpAddress (.ok text)).map
      fun value => { draft with httpAddress := value }
  | .outboxInterval => (once draft.outboxInterval (count text)).map
      fun value => { draft with outboxInterval := value }
  | .outboxBatchSize => (once draft.outboxBatchSize (count text)).map
      fun value => { draft with outboxBatchSize := value }
  | .topic => (once draft.topic (.ok text)).map
      fun value => { draft with topic := value }
  | .bus => (once draft.bus (choice BusKind.all BusKind.name text)).map
      fun value => { draft with bus := value }
  | .brokers => .ok { draft with brokers := some (draft.brokers.getD [] ++ parts text) }
  | .retryMax => (once draft.retryMax (retries text)).map
      fun value => { draft with retryMax := value }
  | .maxConnections => (once draft.maxConnections (limit text)).map
      fun value => { draft with maxConnections := value }
  | .stockSeedPath => (once draft.stockSeedPath (path text)).map
      fun value => { draft with stockSeedPath := value }
  | .logFormat => (once draft.logFormat (choice LogFormat.all LogFormat.name text)).map
      fun value => { draft with logFormat := value }

/-- Gives the options that have none the values of their variables, in order. An empty variable
    counts as a value. -/
def fill (environment : String → Option String) : List Key → Draft → Except UsageError Draft
  | [], draft => .ok draft
  | key :: rest, draft =>
    match if draft.has key then none else environment key.environmentName with
    | none => fill environment rest draft
    | some text =>
      match draft.give key text with
      | .error error => .error error
      | .ok draft => fill environment rest draft

/-- The settings of a draft over the given shards. What has not been given takes its default. -/
def onShards (draft : Draft) (shards : List ShardSettings) : Settings :=
  let pool : PoolSettings := {}
  let outbox : OutboxSettings := {}
  let bus : BusSettings := {}
  { shards := shards
    pool := { pool with maxConnections := draft.maxConnections.getD pool.maxConnections }
    outbox :=
      { interval := (draft.outboxInterval.map Duration.ofMillis).getD outbox.interval
        batchSize := draft.outboxBatchSize.getD outbox.batchSize
        topic := draft.topic.getD outbox.topic }
    bus :=
      { kind := draft.bus.getD bus.kind
        brokers := draft.brokers.getD bus.brokers
        retryMax := draft.retryMax.getD bus.retryMax }
    stockSeedPath := draft.stockSeedPath
    httpAddress := draft.httpAddress.getD "0.0.0.0:8081" }

end Draft

end OrderDesk
