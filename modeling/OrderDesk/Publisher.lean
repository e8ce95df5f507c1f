import OrderDesk.Outbox.Event

/-!
# Publishers

A publisher takes messages, one at a time, and accepts or rejects each. It keeps a state of its
own, so its answers may depend on all that it was offered before.
-/

namespace OrderDesk

/-- The rejection of a message. -/
def PublishError.ofMessage (message : Message) (detail : String) : PublishError :=
  ⟨message.topic, message.key, detail⟩

/-- A destination for messages, with a state of type `σ`. -/
structure Publisher (σ : Type) where
  /-- Offers one message. -/
  publish : Message → σ → Except PublishError Unit × σ

namespace Publisher

variable {σ : Type}

/-- A count below a limit does not wrap when it is raised. -/
theorem toNat_succ_of_lt {count limit : UInt32} (below : count < limit) :
    (count + 1).toNat = count.toNat + 1 := by
  have less : count.toNat < limit.toNat := UInt32.lt_iff_toNat_lt.1 below
  have bound := limit.toNat_lt
  have one : (1 : UInt32).toNat = 1 := rfl
  rw [UInt32.toNat_add, one, Nat.mod_eq_of_lt (by omega)]

/-- Offers a message; as long as it is rejected it is offered once more, at most `retries` times, of
    which `retried` have been used up. The answer is the last one. The count is raised only while it
    is below its limit, so it never wraps and the retries come to an end. -/
def publishAgain (publisher : Publisher σ) (retries : UInt32) (message : Message)
    (retried : UInt32) (state : σ) : Except PublishError Unit × σ :=
  match publisher.publish message state with
  | (.ok (), state) => (.ok (), state)
  | (.error error, state) =>
    if more : retried < retries then publisher.publishAgain retries message (retried + 1) state
    else (.error error, state)
termination_by retries.toNat - retried.toNat
decreasing_by
  have below : retried.toNat < retries.toNat := UInt32.lt_iff_toNat_lt.1 more
  rw [toNat_succ_of_lt more]
  omega

/-- A publisher that offers each message again when it is rejected, at most so many times. -/
def retrying (publisher : Publisher σ) (retries : UInt32) : Publisher σ where
  publish message := publisher.publishAgain retries message 0

end Publisher

end OrderDesk
