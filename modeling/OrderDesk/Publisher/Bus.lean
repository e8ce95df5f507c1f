import OrderDesk.Publisher

/-!
# A bus in memory

A bus that keeps the messages it accepts. It can be switched to reject every message, and it can
be told in advance how to answer the next calls.
-/

namespace OrderDesk

/-- A bus in memory. -/
structure Bus where
  /-- The messages accepted so far, the latest first. -/
  accepted : List Message
  /-- Whether every message is rejected. -/
  failing : Bool
  /-- Which of the next calls are rejected before the bus itself is asked; a call that the
      script lets pass, or that it does not reach, is answered by the bus. -/
  script : List Bool
  /-- How many calls have been made. -/
  calls : Nat
  deriving DecidableEq, Repr

namespace Bus

/-- A bus that accepts messages and has none. -/
def empty : Bus := ⟨[], false, [], 0⟩

/-- The messages that the bus has, the oldest first. -/
def messages (bus : Bus) : List Message := bus.accepted.reverse

/-- The bus without its messages. -/
def drain (bus : Bus) : Bus := { bus with accepted := [] }

/-- The answer of the bus itself. -/
def accept (bus : Bus) (message : Message) : Except PublishError Unit × Bus :=
  if bus.failing then (.error (.ofMessage message "bus unavailable"), bus)
  else (.ok (), { bus with accepted := message :: bus.accepted })

/-- Offers a message: the script is asked first. -/
def offer (bus : Bus) (message : Message) : Except PublishError Unit × Bus :=
  let bus := { bus with calls := bus.calls + 1 }
  match bus.script with
  | false :: rest =>
    (.error (.ofMessage message "scripted rejection"), { bus with script := rest })
  | true :: rest => { bus with script := rest }.accept message
  | [] => bus.accept message

/-- The bus as a publisher. -/
def publisher : Publisher Bus where
  publish message bus := bus.offer message

end Bus

end OrderDesk
