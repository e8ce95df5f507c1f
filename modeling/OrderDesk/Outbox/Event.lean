import OrderDesk.Outbox.Snapshot

/-!
# Outbox events

Every change of an order leaves an event behind, in the same step as the change. An event waits
in the outbox of its shard until it has been sent as a message.
-/

namespace OrderDesk

/-- An event in the outbox of a shard. -/
structure Event where
  id : EventId
  order : OrderId
  /-- The text of the snapshot of the order. -/
  payload : String
  /-- When the event was stored; events are sent in this order. -/
  createdAt : Timestamp
  /-- Whether the event has been sent. -/
  processed : Bool
  deriving DecidableEq, Repr

/-- What is sent for an event. -/
structure Message where
  topic : String
  /-- Messages with the same key stay in order. -/
  key : String
  value : List UInt8
  timestamp : Timestamp
  deriving DecidableEq, Repr

namespace Event

/-- The snapshot that an event holds. -/
def snapshot (event : Event) : Except Error Snapshot := Snapshot.ofPayload event.payload

/-- Whether one event comes no later than the other: by time, then by number. -/
def comesBefore (a b : Event) : Bool :=
  if a.createdAt = b.createdAt then a.id.num ≤ b.id.num
  else a.createdAt.millis ≤ b.createdAt.millis

end Event

namespace Message

/-- The message of an event: keyed by its order, so that all events of one order go the same
    way. -/
def ofEvent (topic : String) (event : Event) : Message where
  topic := topic
  key := toString event.order
  value := Utf8.encode event.payload
  timestamp := event.createdAt

end Message

end OrderDesk
