import OrderDesk.Digest.Fnv1a
import OrderDesk.Publisher
import OrderDesk.Text.Quoted

/-!
# Publishing to a partitioned topic

A producer is bound to one topic and holds one client for each of its partitions. The key of a
message decides the partition, so all messages with one key stay in order.
-/

namespace OrderDesk

/-- What a partition stores of a message. -/
structure Record where
  key : List UInt8
  value : List UInt8
  headers : List (String × List UInt8)
  timestamp : Timestamp
  deriving DecidableEq, Repr

/-- The record of a message; it has no headers. -/
def Record.ofMessage (message : Message) : Record where
  key := Utf8.encode message.key
  value := message.value
  headers := []
  timestamp := message.timestamp

/-- A producer for one topic, with a client of type `κ` for each partition. -/
structure Producer (κ : Type) where
  topic : String
  clients : List κ

namespace Producer

variable {κ σ : Type}

/-- The client that takes a message, or why there is none. -/
def clientFor (producer : Producer κ) (message : Message) : Except PublishError κ :=
  if message.topic = producer.topic then
    let partition := Fnv1a.partitionFor (Utf8.encode message.key) producer.clients.length
    match producer.clients[partition]? with
    | none => .error (.ofMessage message s!"no client for partition {partition}")
    | some client => .ok client
  else .error (.ofMessage message s!"producer is bound to topic {producer.topic}")

/-- The publisher that hands the record of a message to its client; `produce` says what a client
    does with it. -/
def publisher (producer : Producer κ) (produce : κ → Record → σ → Except String Unit × σ) :
    Publisher σ where
  publish message state :=
    match producer.clientFor message with
    | .error error => (.error error, state)
    | .ok client =>
      match produce client (.ofMessage message) state with
      | (.ok (), state) => (.ok (), state)
      | (.error detail, state) => (.error (.ofMessage message detail), state)

/-- How a producer is shown to operators. -/
def describe (producer : Producer κ) : String :=
  "KafkaPublisher \x7b topic: " ++ Text.quote producer.topic ++ ", partitions: " ++
    toString producer.clients.length ++ " \x7d"

end Producer

end OrderDesk
