import OrderDesk.Outbox.Event
import OrderDesk.Stock.Inventory

/-!
# Tables of a shard

What one shard stores: its orders, its stock and its outbox, with the counters from which orders
and events get their numbers. Each change of an order appends its event in the same step.
-/

namespace OrderDesk

/-- Everything that one shard stores. -/
structure Tables where
  /-- The orders, oldest first. -/
  orders : List Order
  /-- How many orders the shard has numbered. -/
  orderSequence : Nat
  stock : Inventory
  /-- The events, oldest first. -/
  outbox : List Event
  /-- How many events the shard has numbered. -/
  outboxSequence : Nat
  deriving DecidableEq, Repr

namespace Tables

/-- The tables of a shard that stores nothing. -/
def empty : Tables := ⟨[], 0, ⟨[]⟩, [], 0⟩

/-- The order of a number. -/
def order? (tables : Tables) (id : OrderId) : Option Order := tables.orders.find? (·.id = id)

/-- Appends an unprocessed event about an order as it is now. -/
def pushEvent (tables : Tables) (order : Order) (now : Timestamp) : Tables :=
  let event : Event :=
    { id := ⟨tables.outboxSequence + 1⟩, order := order.id,
      payload := (Snapshot.ofOrder order).payload, createdAt := now, processed := false }
  { tables with
    outbox := tables.outbox ++ [event]
    outboxSequence := tables.outboxSequence + 1 }

/-- Stores a new order under the number of the next place in the sequence. -/
def insertOrder (tables : Tables) (order : Order) (now : Timestamp) : Tables :=
  { tables with
    orders := tables.orders ++ [order]
    orderSequence := tables.orderSequence + 1 }.pushEvent order now

/-- Orders with the state of one of them replaced. -/
def setState (id : OrderId) (state : OrderState) (orders : List Order) : List Order :=
  orders.map fun order => if order.id = id then { order with state := state } else order

/-- Replaces the state of a stored order. -/
def updateState (tables : Tables) (stored : Order) (state : OrderState) (now : Timestamp) :
    Tables :=
  { tables with orders := setState stored.id state tables.orders }.pushEvent
    { stored with state := state } now

/-- The events that wait to be sent and are not among the given ones. -/
def unsent (outbox : List Event) (staged : List EventId) : List Event :=
  outbox.filter fun event => !event.processed && !staged.contains event.id

/-- The first events that wait to be sent, by time and number. -/
def pending (outbox : List Event) (staged : List EventId) (limit : Nat) : List Event :=
  ((unsent outbox staged).mergeSort Event.comesBefore).take limit

/-- Marks the given events as sent. -/
def markSent (staged : List EventId) (outbox : List Event) : List Event :=
  outbox.map fun event =>
    if staged.contains event.id then { event with processed := true } else event

end Tables

end OrderDesk
