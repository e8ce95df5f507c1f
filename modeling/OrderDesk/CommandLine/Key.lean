/-!
# Options

The options of the command line, with the names under which arguments and environment give them.
-/

namespace OrderDesk

/-- The options of the command line. -/
inductive Key where
  | backend
  | shardCount
  | httpAddress
  | outboxInterval
  | outboxBatchSize
  | topic
  | bus
  | brokers
  | retryMax
  | maxConnections
  | stockSeedPath
  | logFormat
  deriving DecidableEq, Repr

namespace Key

/-- Every option, in the order in which the environment is asked for it. -/
def all : List Key :=
  [backend, shardCount, httpAddress, outboxInterval, outboxBatchSize, topic, bus, brokers,
    retryMax, maxConnections, stockSeedPath, logFormat]

/-- The name of an option among the arguments, without its dashes. -/
def name : Key → String
  | backend => "backend"
  | shardCount => "shard-count"
  | httpAddress => "http-addr"
  | outboxInterval => "outbox-interval-ms"
  | outboxBatchSize => "outbox-batch-size"
  | topic => "topic"
  | bus => "bus"
  | brokers => "kafka-brokers"
  | retryMax => "retry-max"
  | maxConnections => "max-connections"
  | stockSeedPath => "stock-seed-path"
  | logFormat => "log-format"

/-- The variable of the environment that gives an option. -/
def environmentName : Key → String
  | backend => "LOMS_BACKEND"
  | shardCount => "SHARD_COUNT"
  | httpAddress => "HTTP_ADDR"
  | outboxInterval => "INTERVAL_OUTBOX_MS"
  | outboxBatchSize => "OUTBOX_BATCH_SIZE"
  | topic => "KAFKA_TOPIC"
  | bus => "LOMS_BUS"
  | brokers => "KAFKA_BROKERS"
  | retryMax => "KAFKA_RETRY_MAX"
  | maxConnections => "DB_MAX_CONNECTIONS"
  | stockSeedPath => "STOCK_SEED_PATH"
  | logFormat => "LOG_FORMAT"

/-- What an option decides, for readers of the help. -/
def help : Key → String
  | backend => "Storage backend: postgres or memory"
  | shardCount => "Number of shards"
  | httpAddress => "HTTP listen address"
  | outboxInterval => "Milliseconds between outbox ticks"
  | outboxBatchSize => "Events drained per shard per tick"
  | topic => "Topic order events are published to"
  | bus => "Message bus for outbox events: kafka or log"
  | brokers => "Kafka bootstrap brokers, comma separated"
  | retryMax => "Retries after a failed publish"
  | maxConnections => "Connections per database pool"
  | stockSeedPath => "JSON stock seed loaded at startup"
  | logFormat => "Log line format: text or json"

/-- The option of a name. -/
def ofName? (name : String) : Option Key := all.find? (·.name = name)

end Key

end OrderDesk
