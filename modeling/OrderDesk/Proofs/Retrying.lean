import OrderDesk.Publisher

/-!
# What retrying a message comes to

A publisher is known by the answers that it gives to its calls, one after the other. A message that
is retried uses up a stretch of them: rejections, and then the first acceptance, or one rejection
more than there are retries. What is published next goes on where the stretch ends.
-/

namespace OrderDesk

namespace Publisher

variable {σ : Type} {answers : Nat → Except PublishError Unit} {retries start retried : Nat}
  {result : Except PublishError Unit}

/-- The publisher that gives these answers, one to each call. It keeps the messages that it was
    called with, the oldest first. -/
def ofAnswers (answers : Nat → Except PublishError Unit) : Publisher (List Message) where
  publish message calls := (answers calls.length, calls ++ [message])

/-- Publishes messages one after the other, whatever comes of each. -/
def publishAll (publisher : Publisher σ) :
    List Message → σ → List (Except PublishError Unit) × σ
  | [], state => ([], state)
  | message :: rest, state =>
    let (result, state) := publisher.publish message state
    let (results, state) := publisher.publishAll rest state
    (result :: results, state)

/-- A message was tried from the call `start` on and then `retried` times more. Every call before
    the last was rejected; the last was accepted, or no retry was left. The result is its answer. -/
structure Tried (answers : Nat → Except PublishError Unit) (retries start retried : Nat)
    (result : Except PublishError Unit) : Prop where
  within : retried ≤ retries
  rejected : ∀ call, start ≤ call → call < start + retried → answers call ≠ .ok ()
  ended : answers (start + retried) = .ok () ∨ retried = retries
  result : result = answers (start + retried)

namespace Tried

/-- Of the calls for a message only the last can have been accepted. -/
theorem eq_last (tried : Tried answers retries start retried result) {call : Nat}
    (after : start ≤ call) (before : call < start + retried + 1)
    (accepted : answers call = .ok ()) :
    call = start + retried := by
  rcases Nat.lt_or_ge call (start + retried) with early | last
  · exact absurd accepted (tried.rejected call after early)
  · omega

/-- A message is published if and only if one of the calls for it was accepted. -/
theorem ok_iff (tried : Tried answers retries start retried result) :
    result = .ok () ↔
      ∃ call, start ≤ call ∧ call < start + retried + 1 ∧ answers call = .ok () := by
  rw [tried.result]
  constructor
  · intro accepted
    exact ⟨start + retried, by omega, by omega, accepted⟩
  · rintro ⟨call, after, before, accepted⟩
    rwa [← tried.eq_last after before accepted]

/-- A rejection that leaves a retry over goes in front of the calls that follow it. -/
theorem cons (rejected : answers start ≠ .ok ())
    (later : Tried answers retries (start + 1) retried result) :
    Tried answers (retries + 1) start (retried + 1) result := by
  have last : start + (retried + 1) = start + 1 + retried := by omega
  refine ⟨Nat.succ_le_succ later.within, ?_, ?_, ?_⟩
  · intro call after before
    rcases Nat.eq_or_lt_of_le after with rfl | behind
    · exact rejected
    · exact later.rejected call behind (last ▸ before)
  · rw [last]
    exact later.ended.imp_right (congrArg (· + 1))
  · rw [last]
    exact later.result

end Tried

theorem publish_ofAnswers {message : Message} {calls left : List Message}
    {answer : Except PublishError Unit}
    (offered : (ofAnswers answers).publish message calls = (answer, left)) :
    answer = answers calls.length ∧ left = calls ++ [message] := by
  obtain ⟨rfl, rfl⟩ := Prod.mk.inj offered
  exact ⟨rfl, rfl⟩

/-- With some retries used up, a message is tried with those that remain. -/
theorem exists_tried_publishAgain (retries used : UInt32) (message : Message)
    (within : used.toNat ≤ retries.toNat) (calls : List Message) :
    ∃ retried result,
      (ofAnswers answers).publishAgain retries message used calls =
        (result, calls ++ List.replicate (retried + 1) message) ∧
      Tried answers (retries.toNat - used.toNat) calls.length retried result := by
  -- Along the calls: a rejection that is followed by a retry goes in front of what the retries come
  -- to.
  fun_induction publishAgain (ofAnswers answers) retries message used calls with
  | case1 used calls left offered =>
    obtain ⟨accepted, rfl⟩ := publish_ofAnswers offered
    exact ⟨0, .ok (), rfl, Nat.zero_le _, fun call after before => by omega, .inl accepted.symm,
      accepted⟩
  | case2 used calls error left offered more ih =>
    obtain ⟨rejected, rfl⟩ := publish_ofAnswers offered
    have below : used.toNat < retries.toNat := UInt32.lt_iff_toNat_lt.1 more
    have raised : (used + 1).toNat = used.toNat + 1 := toNat_succ_of_lt more
    obtain ⟨retried, result, same, later⟩ := ih (by omega)
    have remain : retries.toNat - used.toNat = retries.toNat - (used + 1).toNat + 1 := by omega
    rw [List.length_append, List.length_singleton] at later
    refine ⟨retried + 1, result, ?_, ?_⟩
    · rw [same, List.append_assoc, List.singleton_append, ← List.replicate_succ]
    · rw [remain]
      exact later.cons fun accepted => nomatch rejected.trans accepted
  | case3 used calls error left offered spent =>
    obtain ⟨rejected, rfl⟩ := publish_ofAnswers offered
    have none : retries.toNat - used.toNat = 0 := by
      have := mt UInt32.lt_iff_toNat_lt.2 spent
      omega
    rw [none]
    exact ⟨0, .error error, rfl, Nat.le_refl 0, fun call after before => by omega, .inr rfl,
      rejected⟩

/-- A message is tried until it is accepted, or until it has been retried as often as it may be. -/
theorem exists_tried (answers : Nat → Except PublishError Unit) (retries : UInt32)
    (message : Message) (calls : List Message) :
    ∃ retried result,
      ((ofAnswers answers).retrying retries).publish message calls =
        (result, calls ++ List.replicate (retried + 1) message) ∧
      Tried answers retries.toNat calls.length retried result :=
  exists_tried_publishAgain retries 0 message (Nat.zero_le _) calls

/-- A list of messages was tried in turn from the call `start` on, of all the calls that were made.
    The stretch of calls for each place in the list begins at `first`, where the one before it
    ends. -/
structure TriedInTurn (answers : Nat → Except PublishError Unit) (retries start : Nat)
    (messages : List Message) (results : List (Except PublishError Unit)) (made : List Message)
    (first : Nat → Nat) : Prop where
  answered : results.length = messages.length
  begins : first 0 = start
  ends : first messages.length = made.length
  each : ∀ place message, messages[place]? = some message → ∃ retried result,
    results[place]? = some result ∧ first (place + 1) = first place + retried + 1 ∧
      Tried answers retries (first place) retried result ∧
      ∀ call, first place ≤ call → call < first (place + 1) → made[call]? = some message

/-- The calls for one message come in front of those for the messages after it. -/
theorem TriedInTurn.cons {message : Message} {messages made : List Message}
    {results : List (Except PublishError Unit)} {first : Nat → Nat}
    (tried : Tried answers retries start retried result)
    (called : ∀ call, start ≤ call → call < start + retried + 1 → made[call]? = some message)
    (later : TriedInTurn answers retries (start + retried + 1) messages results made first) :
    TriedInTurn answers retries start (message :: messages) (result :: results) made
      fun | 0 => start | place + 1 => first place where
  answered := congrArg (· + 1) later.answered
  begins := rfl
  ends := later.ends
  each place other there := by
    cases place with
    | zero =>
      obtain rfl := Option.some.inj there
      refine ⟨retried, result, rfl, later.begins, tried, fun call after before => ?_⟩
      exact called call after (later.begins ▸ before)
    | succ place => exact later.each place other there

/-- The messages of a list are tried in turn, each on the calls after those for the one before
    it. -/
theorem exists_triedInTurn (retries : UInt32) (messages calls : List Message) :
    ∃ results made first,
      ((ofAnswers answers).retrying retries).publishAll messages calls = (results, made) ∧
      calls <+: made ∧
      TriedInTurn answers retries.toNat calls.length messages results made first := by
  induction messages generalizing calls with
  | nil => exact ⟨[], calls, fun _ => calls.length, rfl, List.prefix_refl calls, rfl,
      rfl, rfl, nofun⟩
  | cons message rest ih =>
    obtain ⟨retried, result, published, tried⟩ := exists_tried answers retries message calls
    obtain ⟨results, made, first, same, ⟨more, rfl⟩, later⟩ :=
      ih (calls ++ List.replicate (retried + 1) message)
    have next :
        (calls ++ List.replicate (retried + 1) message).length = calls.length + retried + 1 := by
      rw [List.length_append, List.length_replicate, Nat.add_assoc]
    rw [next] at later
    refine ⟨result :: results, _, _, ?_, ?_, later.cons tried fun call after before => ?_⟩
    · simp only [publishAll, published, same]
    · exact ⟨_, (List.append_assoc ..).symm⟩
    · rw [List.getElem?_append_left (by omega), List.getElem?_append_right after,
        List.getElem?_replicate_of_lt (by omega)]

/-- A publisher that retries, in front of one that answers its calls by any sequence, calls it again
    and again with one message until it is accepted, and `retries` times more than once at the most,
    however many retries a count of 32 bits holds. The message is published exactly if one of these
    calls was accepted; else the result is what the last of them was answered. The messages of a
    list are tried on stretches of calls that follow one another, so that of the calls for one of
    them no two are accepted. -/
theorem retries_until_accepted (answers : Nat → Except PublishError Unit) (retries : UInt32) :
    (∀ message calls, ∃ retried result,
      ((ofAnswers answers).retrying retries).publish message calls =
        (result, calls ++ List.replicate (retried + 1) message) ∧
      Tried answers retries.toNat calls.length retried result ∧
      (result = .ok () ↔ ∃ call, calls.length ≤ call ∧ call < calls.length + retried + 1 ∧
        answers call = .ok ())) ∧
    ∀ messages calls, ∃ results made first,
      ((ofAnswers answers).retrying retries).publishAll messages calls = (results, made) ∧
      calls <+: made ∧
      TriedInTurn answers retries.toNat calls.length messages results made first ∧
      ∀ place < messages.length, ∀ call other, first place ≤ call → call < first (place + 1) →
        first place ≤ other → other < first (place + 1) →
        answers call = .ok () → answers other = .ok () → call = other := by
  constructor
  · intro message calls
    obtain ⟨retried, result, published, tried⟩ := exists_tried answers retries message calls
    exact ⟨retried, result, published, tried, tried.ok_iff⟩
  · intro messages calls
    obtain ⟨results, made, first, published, kept, inTurn⟩ :=
      exists_triedInTurn retries messages calls
    refine ⟨results, made, first, published, kept, inTurn, ?_⟩
    intro place inside call other after before otherAfter otherBefore accepted otherAccepted
    obtain ⟨retried, result, -, next, tried, -⟩ :=
      inTurn.each place _ (List.getElem?_eq_getElem inside)
    rw [next] at before otherBefore
    rw [tried.eq_last after before accepted, tried.eq_last otherAfter otherBefore otherAccepted]

/-- With all the retries that 32 bits can count, a message that the third call accepts is offered
    three times. -/
theorem retries_until_accepted_thirdCall :
    let message : Message := ⟨"orders", "1001", [], ⟨0⟩⟩
    let answers : Nat → Except PublishError Unit := fun call =>
      if call = 2 then .ok () else .error (.ofMessage message "unavailable")
    ((ofAnswers answers).retrying 4294967295).publish message [] =
      (.ok (), [message, message, message]) := by
  intro message answers
  have third : answers 2 = .ok () := rfl
  have others : ∀ call, call ≠ 2 → answers call ≠ .ok () := by
    intro call other
    simp [answers, other]
  obtain ⟨retried, result, published, tried, -⟩ :=
    (retries_until_accepted answers 4294967295).1 message []
  obtain rfl : retried = 2 := by
    rcases Nat.lt_trichotomy retried 2 with less | same | more
    · rcases tried.ended with accepted | last
      · exact absurd accepted (others _ (by simpa using Nat.ne_of_lt less))
      · rw [last] at less
        exact absurd less (by decide)
    · exact same
    · exact absurd third (tried.rejected 2 (Nat.zero_le 2) (by simpa using more))
  rw [published, tried.result]
  rfl

end Publisher

end OrderDesk
