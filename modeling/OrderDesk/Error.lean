import OrderDesk.Order.State

/-!
# Errors

What can go wrong, by cause, with the wording of each and the coarse class on which callers
decide. Failures of the storage say which operation was running.
-/

namespace OrderDesk

/-- What the storage was asked to do. -/
inductive Operation where
  | acquire
  | beginTransaction
  | commitTransaction
  | readStocks
  | writeStocks
  | insertOrder
  | updateOrderState
  | readOrder
  | listOrders
  | insertOutboxEvent
  | readOutbox
  | markProcessed
  | migrate
  deriving DecidableEq, Repr

namespace Operation

/-- Every operation. -/
def all : List Operation :=
  [acquire, beginTransaction, commitTransaction, readStocks, writeStocks, insertOrder,
    updateOrderState, readOrder, listOrders, insertOutboxEvent, readOutbox, markProcessed, migrate]

/-- The name of an operation in error texts. -/
def name : Operation → String
  | acquire => "acquire"
  | beginTransaction => "begin_transaction"
  | commitTransaction => "commit_transaction"
  | readStocks => "read_stocks"
  | writeStocks => "write_stocks"
  | insertOrder => "insert_order"
  | updateOrderState => "update_order_state"
  | readOrder => "read_order"
  | listOrders => "list_orders"
  | insertOutboxEvent => "insert_outbox_event"
  | readOutbox => "read_outbox"
  | markProcessed => "mark_processed"
  | migrate => "migrate"

/-- The operation of a name. -/
def ofName? (name : String) : Option Operation := all.find? (·.name = name)

end Operation

/-- Why a list of shards is no topology. -/
inductive TopologyFault where
  | noShards
  | tooManyShards (count : Nat)
  | stated (reason : String)
  deriving DecidableEq, Repr

/-- The wording of a fault of the topology. -/
def TopologyFault.message : TopologyFault → String
  | noShards => "at least one shard is required"
  | tooManyShards count =>
    s!"{count} shards configured, at most {ShardIndex.maxShards} supported"
  | stated reason => reason

/-- Why an operation of the storage failed. -/
inductive FailureCause where
  /-- The database hands out no connection. -/
  | unavailable
  /-- The database refuses the work on an open connection. -/
  | refused
  /-- No unprocessed event has the number. -/
  | notPending (event : EventId)
  | stated (reason : String)
  deriving DecidableEq, Repr

/-- The wording of a failure's cause. -/
def FailureCause.message : FailureCause → String
  | unavailable => "database unavailable"
  | refused => "injected failure"
  | notPending event => s!"no pending outbox event {event}"
  | stated reason => reason

/-- Why a stored row stands for no value. -/
inductive RowFault where
  /-- A column does not fit its 32 bits. -/
  | outOfRange (column : String) (value : Int)
  /-- A column that has to be positive is not. -/
  | notPositive (kind : Positive)
  /-- The state column names no state. -/
  | unknownState (name : String)
  | stated (reason : String)
  deriving DecidableEq, Repr

/-- The wording of a fault of a row. -/
def RowFault.message : RowFault → String
  | outOfRange column value => s!"{column} value {value} out of range"
  | notPositive kind => kind.rule
  | unknownState name => s!"invalid input: {(InvalidInput.unknownState name).message}"
  | stated reason => reason

/-- A failure of the storage. -/
inductive StorageError where
  /-- The topology has no such shard. -/
  | unknownShard (shard : ShardIndex) (count : Nat)
  /-- The shards form no topology. -/
  | invalidTopology (fault : TopologyFault)
  /-- An operation failed. -/
  | failure (operation : Operation) (cause : FailureCause)
  /-- An operation met a row that stands for no value. -/
  | corrupt (operation : Operation) (fault : RowFault)
  deriving DecidableEq, Repr

/-- The wording of a failure of the storage. -/
def StorageError.message : StorageError → String
  | unknownShard shard count => s!"unknown shard {shard}; router holds {count} shards"
  | invalidTopology fault => s!"invalid shard topology: {fault.message}"
  | failure operation cause => s!"storage operation {operation.name} failed: {cause.message}"
  | corrupt operation fault => s!"corrupt row during {operation.name}: {fault.message}"

/-- A message that its destination did not accept. -/
structure PublishError where
  topic : String
  key : String
  detail : String
  deriving DecidableEq, Repr

/-- The wording of a refused message. -/
def PublishError.message (error : PublishError) : String :=
  s!"failed to publish message with key {error.key} to {error.topic}: {error.detail}"

/-- Why a call did not do what it was asked for. -/
inductive Error where
  | orderNotFound (id : OrderId)
  | stockNotFound (sku : Sku)
  /-- Fewer units are there than were asked for. -/
  | insufficientStock (sku : Sku) (requested available : UInt32)
  /-- More units were to be released than are reserved. -/
  | negativeReserved (sku : Sku) (reserved requested : UInt32)
  /-- More units are reserved than there are. -/
  | negativeAvailable (sku : Sku) (total reserved : UInt32)
  /-- The order may not move from the one state to the other. -/
  | invalidOrderState (id : OrderId) (source target : OrderState)
  | invalidInput (reason : InvalidInput)
  | storage (error : StorageError)
  /-- A stored snapshot of an order cannot be read. -/
  | serialization
  | publish (error : PublishError)
  deriving DecidableEq, Repr

/-- The coarse class of an error. -/
inductive ErrorKind where
  | insufficientStock
  | notFound
  | invalidOrderState
  | negativeCount
  | invalidInput
  /-- The caller can do nothing about it. -/
  | internal
  deriving DecidableEq, Repr

namespace Error

/-- The wording of an error. -/
def message : Error → String
  | orderNotFound id => s!"order {id} not found"
  | stockNotFound sku => s!"stock for sku {sku} not found"
  | insufficientStock sku requested available =>
    s!"insufficient stock for sku {sku}: requested {requested}, available {available}"
  | negativeReserved sku reserved requested =>
    s!"reserved count for sku {sku} would become negative: " ++
      s!"reserved {reserved}, requested {requested}"
  | negativeAvailable sku total reserved =>
    s!"available count for sku {sku} is negative: total {total}, reserved {reserved}"
  | invalidOrderState id source target => s!"order {id} cannot move from {source} to {target}"
  | invalidInput reason => s!"invalid input: {reason.message}"
  | storage error => error.message
  | serialization => "order snapshot serialization failed"
  | publish error => error.message

/-- The class of an error. -/
def kind : Error → ErrorKind
  | insufficientStock .. => .insufficientStock
  | orderNotFound _ | stockNotFound _ => .notFound
  | invalidOrderState .. => .invalidOrderState
  | negativeReserved .. | negativeAvailable .. => .negativeCount
  | invalidInput _ => .invalidInput
  | storage _ | serialization | publish _ => .internal

end Error

end OrderDesk
