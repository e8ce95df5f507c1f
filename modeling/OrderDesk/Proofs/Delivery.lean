import OrderDesk.Proofs.Outbox
import OrderDesk.Relay.InFlight

/-!
# Delivery

A session whose ticks are taken apart. The drains of a tick are under way together and take their
steps in any order; the next call waits until the last of them has ended. The publisher behind the
relay answers as it likes, and all that it is offered is kept. Here stands what one step may make
of a delivery, and that what every step keeps, a whole delivery keeps.
-/

namespace OrderDesk

/-- A message that was offered to a publisher, and whether it was accepted. -/
structure Offer where
  message : Message
  accepted : Bool
  deriving DecidableEq, Repr

/-- The messages that were accepted, in the order in which they were offered. -/
def Offer.taken (offers : List Offer) : List Message := (offers.filter (·.accepted)).map (·.message)

@[simp] theorem Offer.taken_append (a b : List Offer) : taken (a ++ b) = taken a ++ taken b := by
  simp [taken]

@[simp] theorem Offer.taken_accepted (message : Message) : taken [⟨message, true⟩] = [message] :=
  rfl

@[simp] theorem Offer.taken_rejected (message : Message) : taken [⟨message, false⟩] = [] := rfl

/-- A publisher that keeps what it is offered, the oldest first, and answers like the one behind
    it. -/
def Publisher.recording {σ : Type} (publisher : Publisher σ) : Publisher (List Offer × σ) where
  publish message state :=
    match publisher.publish message state.2 with
    | (.error error, outside) => (.error error, state.1 ++ [⟨message, false⟩], outside)
    | (.ok (), outside) => (.ok (), state.1 ++ [⟨message, true⟩], outside)

namespace Drain

/-- The drain that goes on after a step, if it does. -/
def goesOn : Drain ⊕ ShardOutcome → List Drain
  | .inl drain => [drain]
  | .inr _ => []

/-- The outcome of a drain that a step has ended. -/
def ended : Drain ⊕ ShardOutcome → List ShardOutcome
  | .inl _ => []
  | .inr outcome => [outcome]

end Drain

/-- A desk with the drains of a tick that are under way, and the outcomes of all that ended. -/
structure Delivery (σ : Type) where
  desk : Desk (List Offer × σ)
  drains : List Drain
  outcomes : List ShardOutcome

/-- What may happen next. -/
inductive Move where
  /-- An action begins. A tick opens its transactions; everything else is done in one go. -/
  | act (action : Action)
  /-- The drain of that place takes its next step. -/
  | drain (place : Nat)

/-- Whether a tick that a move begins sends to a topic. -/
def Move.SendsTo (topic : String) : Move → Prop
  | act (.tick settings) => settings.topic = topic
  | _ => True

namespace Delivery

variable {σ : Type}

/-- A desk before its first call. Nothing was offered yet. -/
def on (desk : Desk σ) : Delivery σ := ⟨⟨desk.cluster, [], desk.outside⟩, [], []⟩

/-- The tables of a shard. -/
def tables (delivery : Delivery σ) (shard : ShardIndex) : Tables :=
  delivery.desk.cluster.tables shard

/-- All that was offered to the publisher, the oldest first. -/
def offers (delivery : Delivery σ) : List Offer := delivery.desk.outside.1

/-- The messages that the publisher accepted, the oldest first. -/
def accepted (delivery : Delivery σ) : List Message := Offer.taken delivery.offers

@[simp] theorem tables_mk (cluster : Cluster) (outside : List Offer × σ) (drains : List Drain)
    (outcomes : List ShardOutcome) (shard : ShardIndex) :
    tables ⟨⟨cluster, outside⟩, drains, outcomes⟩ shard = cluster.tables shard := rfl

@[simp] theorem accepted_mk (cluster : Cluster) (offers : List Offer) (outside : σ)
    (drains : List Drain) (outcomes : List ShardOutcome) :
    accepted ⟨⟨cluster, offers, outside⟩, drains, outcomes⟩ = Offer.taken offers := rfl

/-- The drains with which a tick begins: none if a transaction cannot be opened. -/
def openAll (settings : RelaySettings) (cluster : Cluster) : List Drain :=
  match cluster.beginAll with
  | .error _ => []
  | .ok transactions => transactions.map (Drain.start settings)

/-- Makes a move. An action that would begin while drains are under way waits. -/
def step (publisher : Publisher σ) (delivery : Delivery σ) : Move → Delivery σ
  | .act action =>
    if delivery.drains.isEmpty then
      match action with
      | .tick settings => { delivery with drains := openAll settings delivery.desk.cluster }
      | action => { delivery with desk := (delivery.desk.perform publisher.recording action).2 }
    else delivery
  | .drain place =>
    match delivery.drains[place]? with
    | none => delivery
    | some drain =>
      match drain.advance publisher.recording delivery.desk.cluster delivery.desk.outside with
      | (.inl drain, cluster, outside) =>
        ⟨⟨cluster, outside⟩, delivery.drains.set place drain, delivery.outcomes⟩
      | (.inr outcome, cluster, outside) =>
        ⟨⟨cluster, outside⟩, delivery.drains.eraseIdx place, delivery.outcomes ++ [outcome]⟩

/-- Makes moves, one after the other. -/
def run (publisher : Publisher σ) (delivery : Delivery σ) (moves : List Move) : Delivery σ :=
  moves.foldl (step publisher) delivery

variable (publisher : Publisher σ)

@[simp] theorem run_nil (delivery : Delivery σ) : delivery.run publisher [] = delivery := rfl

@[simp] theorem run_cons (delivery : Delivery σ) (move : Move) (moves : List Move) :
    delivery.run publisher (move :: moves) = (delivery.step publisher move).run publisher moves :=
  rfl

theorem run_append (delivery : Delivery σ) (early late : List Move) :
    delivery.run publisher (early ++ late) = (delivery.run publisher early).run publisher late :=
  List.foldl_append

/-! ## Sessions are deliveries -/

/-- The first drain comes to its end by steps of its own. -/
theorem run_first (steps : Nat) (drain : Drain) (late : List Drain) (outcomes : List ShardOutcome)
    (cluster after : Cluster) (state left : List Offer × σ) (outcome : ShardOutcome)
    (ends : drain.advanceBy publisher.recording steps cluster state = (.inr outcome, after, left)) :
    ∃ count, (⟨⟨cluster, state⟩, drain :: late, outcomes⟩ : Delivery σ).run publisher
      (List.replicate count (.drain 0)) = ⟨⟨after, left⟩, late, outcomes ++ [outcome]⟩ := by
  induction steps generalizing drain cluster state with
  | zero => cases ends
  | succ steps ih =>
    unfold Drain.advanceBy at ends
    rcases advanced : drain.advance publisher.recording cluster state with
      ⟨next | result, changed, outside⟩
    · rw [advanced] at ends
      obtain ⟨count, done⟩ := ih next changed outside ends
      refine ⟨count + 1, ?_⟩
      rw [List.replicate_succ, run_cons]
      simpa only [step, List.getElem?_cons_zero, advanced, List.set_cons_zero] using done
    · rw [advanced] at ends
      cases ends
      refine ⟨1, ?_⟩
      simp only [List.replicate_one, run_cons, run_nil, step, List.getElem?_cons_zero, advanced,
        List.eraseIdx_cons_zero]

/-- Drains that take their steps one shard after the other do what a tick does in one go. -/
theorem run_drainEach (settings : RelaySettings) (transactions : List Transaction)
    (outcomes : List ShardOutcome) (cluster : Cluster) (state : List Offer × σ) :
    ∃ count, (⟨⟨cluster, state⟩, transactions.map (Drain.start settings), outcomes⟩ :
        Delivery σ).run publisher (List.replicate count (.drain 0)) =
      match Relay.drainEach publisher.recording settings transactions cluster state with
      | (results, after, left) => ⟨⟨after, left⟩, [], outcomes ++ results⟩ := by
  induction transactions generalizing outcomes cluster state with
  | nil => exact ⟨0, by simp [Relay.drainEach]⟩
  | cons transaction rest ih =>
    rcases drained : Relay.drain publisher.recording settings transaction cluster state with
      ⟨outcome, changed, outside⟩
    have ends := Drain.advanceBy_start publisher.recording settings transaction cluster state
    rw [drained] at ends
    obtain ⟨first, went⟩ := run_first publisher _ _ (rest.map (Drain.start settings)) outcomes
      cluster changed state outside outcome ends
    obtain ⟨more, done⟩ := ih (outcomes ++ [outcome]) changed outside
    refine ⟨first + more, ?_⟩
    rw [List.replicate_add, run_append, List.map_cons, went, done]
    simp only [Relay.drainEach, drained, List.append_assoc, List.singleton_append]

/-- A session is a delivery: there are moves that lead to where the session leads, and the ticks
    that they begin are those of the session. -/
theorem exists_moves (desk : Desk (List Offer × σ)) (actions : List Action)
    (outcomes : List ShardOutcome) :
    ∃ moves results, (∀ action, .act action ∈ moves ↔ action ∈ actions) ∧
      (⟨desk, [], outcomes⟩ : Delivery σ).run publisher moves =
        ⟨(desk.run publisher.recording actions).2, [], outcomes ++ results⟩ := by
  induction actions generalizing desk outcomes with
  | nil => exact ⟨[], [], by simp, by simp [Desk.run]⟩
  | cons action rest ih =>
    -- A tick is opened and then drained; every other action is a single move.
    have begins : ∃ count results, (⟨desk, [], outcomes⟩ : Delivery σ).run publisher
        (.act action :: List.replicate count (.drain 0)) =
          ⟨(desk.perform publisher.recording action).2, [], outcomes ++ results⟩ := by
      cases action with
      | tick settings =>
        rcases began : desk.cluster.beginAll with error | transactions
        · refine ⟨0, [], ?_⟩
          simp [step, openAll, Desk.perform, Relay.tick, began]
        · obtain ⟨count, done⟩ :=
            run_drainEach publisher settings transactions outcomes desk.cluster
            desk.outside
          refine ⟨count, (Relay.drainEach publisher.recording settings transactions desk.cluster
            desk.outside).1, ?_⟩
          rw [run_cons]
          simpa only [step, List.isEmpty_nil, if_true, openAll, began, Desk.perform, Relay.tick]
            using done
      | checkout user items => exact ⟨0, [], by simp [step]⟩
      | settle settlement id => exact ⟨0, [], by simp [step]⟩
      | lookUp id => exact ⟨0, [], by simp [step]⟩
      | list => exact ⟨0, [], by simp [step]⟩
      | setPrimary shard faults => exact ⟨0, [], by simp [step]⟩
      | setReplica shard faults => exact ⟨0, [], by simp [step]⟩
    obtain ⟨count, results, went⟩ := begins
    obtain ⟨moves, others, begun, done⟩ :=
      ih (desk.perform publisher.recording action).2 (outcomes ++ results)
    refine ⟨(.act action :: List.replicate count (.drain 0)) ++ moves, results ++ others, ?_, ?_⟩
    · intro other
      simp [begun]
    · rw [run_append, went, done, List.append_assoc]
      rfl

/-! ## What one step may do -/

/-- What one step may make of a delivery that sends to one topic. -/
inductive Change (topic : String) (before : Delivery σ) : Delivery σ → Prop where
  | waited : Change topic before before
  /-- A call or a change of the switches was done in one go. -/
  | acted {cluster : Cluster} (idle : before.drains = [])
      (grew : before.desk.cluster.Grew cluster) :
      Change topic before { before with desk := { before.desk with cluster := cluster } }
  /-- A tick has opened a transaction on every shard. -/
  | opened {settings : RelaySettings} {transactions : List Transaction} (idle : before.drains = [])
      (sends : settings.topic = topic) (began : before.desk.cluster.beginAll = .ok transactions) :
      Change topic before { before with drains := transactions.map (Drain.start settings) }
  /-- A drain has offered its next event, which was accepted and marked. -/
  | marked {early late : List Drain} {drain : Drain} {event : Event} {rest : List Event}
      {transaction : Transaction} {outside : σ} (there : before.drains = early ++ drain :: late)
      (next : drain.rest = event :: rest)
      (mark : drain.transaction.mark event.id = .ok transaction) :
      Change topic before
        ⟨⟨before.desk.cluster, before.offers ++ [⟨.ofEvent drain.topic event, true⟩], outside⟩,
          early ++ { drain with transaction := transaction, rest := rest } :: late, before.outcomes⟩
  /-- A drain has offered its next event and failed: the event was rejected, or it was accepted and
      could not be marked. -/
  | failed {early late : List Drain} {drain : Drain} {event : Event} {rest : List Event}
      {taken : Bool} {error : Error} {outside : σ} (there : before.drains = early ++ drain :: late)
      (next : drain.rest = event :: rest)
      (why : taken = true → drain.transaction.mark event.id = .error error) :
      Change topic before
        ⟨⟨before.desk.cluster, before.offers ++ [⟨.ofEvent drain.topic event, taken⟩], outside⟩,
          early ++ late, before.outcomes ++ [⟨drain.transaction.shard, .error error⟩]⟩
  /-- A drain has committed, as all of its batch went through. -/
  | committed {early late : List Drain} {drain : Drain}
      (there : before.drains = early ++ drain :: late) (done : drain.rest = []) :
      Change topic before
        ⟨⟨before.desk.cluster.commit drain.transaction, before.desk.outside⟩, early ++ late,
          before.outcomes ++ [⟨drain.transaction.shard, .ok drain.size⟩]⟩

/-- What every action but a tick does: the outboxes grow, and what is stored stays in order. -/
theorem perform_of_ne_tick {τ : Type} (publisher : Publisher τ) {desk : Desk τ} {action : Action}
    (orderly : desk.cluster.Orderly) (calm : ∀ settings, action ≠ .tick settings) :
    ∃ cluster, (desk.perform publisher action).2 = { desk with cluster := cluster } ∧
      desk.cluster.Grew cluster ∧ cluster.Orderly := by
  have kept : (desk.perform publisher action).2.cluster.Placed ∧
      (desk.perform publisher action).2.cluster.Agreed := Desk.perform_keeps
    (fun _ user items placed agreed => agreed.checkout placed user items)
    (fun _ settlement id _ agreed => agreed.settle settlement id)
    (fun _ _ same agreed => agreed.marks same) desk action orderly.placed orderly.agreed
  have whole : ∀ cluster, (desk.perform publisher action).2 = { desk with cluster := cluster } →
      desk.cluster.Grew cluster → ∃ cluster, (desk.perform publisher action).2 =
        { desk with cluster := cluster } ∧ desk.cluster.Grew cluster ∧ cluster.Orderly := by
    intro cluster same grew
    rw [same] at kept
    exact ⟨cluster, same, grew, kept.1, kept.2, grew.stamped orderly.stamped⟩
  cases action with
  | checkout user items => exact whole _ rfl (orderly.placed.grew_checkout user items)
  | settle settlement id => exact whole _ rfl (desk.cluster.grew_settle settlement id)
  | lookUp id => exact whole _ rfl (.refl _)
  | list => exact whole _ rfl (.refl _)
  | tick settings => exact absurd rfl (calm settings)
  | setPrimary shard faults => exact whole _ rfl (Cluster.grew_setPrimary shard faults)
  | setReplica shard faults => exact whole _ rfl (Cluster.grew_setReplica shard faults)

/-- A step of a drain leaves the others where they are. -/
theorem step_drain {before : Delivery σ} {early late : List Drain} {drain : Drain}
    (there : before.drains = early ++ drain :: late) :
    before.step publisher (.drain early.length) =
      match drain.advance publisher.recording before.desk.cluster before.desk.outside with
      | (result, cluster, outside) =>
        ⟨⟨cluster, outside⟩, early ++ (Drain.goesOn result ++ late),
          before.outcomes ++ Drain.ended result⟩ := by
  have found : before.drains[early.length]? = some drain := by simp [there]
  simp only [step, found]
  rcases drain.advance publisher.recording before.desk.cluster before.desk.outside
    with ⟨next | outcome, cluster, outside⟩
  · simp [there, Drain.goesOn, Drain.ended]
  · simp [there, Drain.goesOn, Drain.ended, List.eraseIdx_append_of_length_le]

theorem exists_of_place {drains : List Drain} {place : Nat} {drain : Drain}
    (found : drains[place]? = some drain) :
    ∃ early late, drains = early ++ drain :: late ∧ place = early.length := by
  obtain ⟨below, rfl⟩ := List.getElem?_eq_some_iff.1 found
  refine ⟨drains.take place, drains.drop (place + 1), ?_, ?_⟩
  · rw [List.getElem_cons_drop, List.take_append_drop]
  · rw [List.length_take, Nat.min_eq_left (Nat.le_of_lt below)]

/-- A step of a drain offers its next event or commits. -/
theorem change_drain {topic : String} {before : Delivery σ} {place : Nat} {drain : Drain}
    (found : before.drains[place]? = some drain) :
    Change topic before (before.step publisher (.drain place)) := by
  obtain ⟨early, late, there, rfl⟩ := exists_of_place found
  rw [step_drain publisher there]
  unfold Drain.advance
  cases next : drain.rest with
  | nil => exact .committed there next
  | cons event rest =>
    simp only [Publisher.recording]
    rcases publisher.publish (.ofEvent drain.topic event) before.desk.outside.2
      with ⟨error | _, outside⟩
    · exact .failed there next (by simp)
    · simp only
      rcases mark : drain.transaction.mark event.id with error | transaction
      · exact .failed there next fun _ => mark
      · simp only [Drain.goesOn, Drain.ended, List.singleton_append, List.append_nil]
        exact .marked there next mark

/-- An action that begins is done in one go, opens the transactions of a tick, or waits. -/
theorem change_act {topic : String} {before : Delivery σ} (orderly : before.desk.cluster.Orderly)
    {action : Action} (sends : (Move.act action).SendsTo topic) :
    Change topic before (before.step publisher (.act action)) ∧
      (before.step publisher (.act action)).desk.cluster.Orderly := by
  by_cases idle : before.drains = []
  · by_cases calm : ∀ settings, action ≠ .tick settings
    · obtain ⟨cluster, same, grew, after⟩ := perform_of_ne_tick publisher.recording orderly calm
      have stepped : before.step publisher (.act action) =
          { before with desk := { before.desk with cluster := cluster } } := by
        cases action with
        | tick settings => exact absurd rfl (calm settings)
        | _ => simp only [step, idle, List.isEmpty_nil, if_true, same]
      rw [stepped]
      exact ⟨.acted idle grew, after⟩
    · obtain ⟨settings, rfl⟩ := not_forall_not.1 calm
      simp only [step, idle, List.isEmpty_nil, if_true, openAll]
      refine ⟨?_, orderly⟩
      rcases began : before.desk.cluster.beginAll with error | transactions
      · simp only [← idle]
        exact .waited
      · exact .opened idle sends began
  · have busy : before.step publisher (.act action) = before := by
      have waits : before.drains.isEmpty = false := by simpa using idle
      simp [step, waits]
    rw [busy]
    exact ⟨.waited, orderly⟩

/-- What is stored stays in order while drains are under way: all that they write is marks. -/
theorem Change.orderly {topic : String} {before after : Delivery σ}
    (change : Change topic before after) (busy : before.drains ≠ [])
    (orderly : before.desk.cluster.Orderly) : after.desk.cluster.Orderly := by
  cases change with
  | waited => exact orderly
  | acted idle grew => exact absurd idle busy
  | opened idle sends began => exact orderly
  | marked there next mark => exact orderly
  | failed there next why => exact orderly
  | committed there done => exact orderly.commit _

/-- A step changes a delivery as it may, and what is stored stays in order. -/
theorem change_step {topic : String} {before : Delivery σ} (orderly : before.desk.cluster.Orderly)
    {move : Move} (sends : move.SendsTo topic) :
    Change topic before (before.step publisher move) ∧
      (before.step publisher move).desk.cluster.Orderly := by
  cases move with
  | act action => exact change_act publisher orderly sends
  | drain place =>
    cases found : before.drains[place]? with
    | none =>
      have same : before.step publisher (.drain place) = before := by simp only [step, found]
      rw [same]
      exact ⟨.waited, orderly⟩
    | some drain =>
      have change : Change topic before _ := change_drain publisher found
      have busy : before.drains ≠ [] := fun idle => by simp [idle] at found
      exact ⟨change, change.orderly busy orderly⟩

/-- What every change keeps, a delivery that sends to one topic keeps. -/
theorem run_keeps {topic : String} {Keeps : Delivery σ → Prop}
    (change : ∀ before after : Delivery σ, before.desk.cluster.Orderly →
      after.desk.cluster.Orderly →
      Change topic before after → Keeps before → Keeps after)
    {delivery : Delivery σ} (orderly : delivery.desk.cluster.Orderly) (holds : Keeps delivery)
    {moves : List Move} (sends : ∀ move ∈ moves, move.SendsTo topic) :
    (delivery.run publisher moves).desk.cluster.Orderly ∧ Keeps (delivery.run publisher moves) := by
  induction moves generalizing delivery with
  | nil => exact ⟨orderly, holds⟩
  | cons move rest ih =>
    obtain ⟨changed, after⟩ := change_step publisher orderly (sends move (by simp))
    exact ih after (change _ _ orderly after changed holds) fun other member =>
      sends other (by simp [member])

/-- What the steps of drains keep, all that drains do without a call in between keeps. -/
theorem run_drains_keeps {topic : String} {Keeps : Delivery σ → Prop}
    (change : ∀ before after : Delivery σ, before.desk.cluster.Orderly → before.drains ≠ [] →
      Change topic before after → Keeps before → Keeps after)
    {delivery : Delivery σ} (orderly : delivery.desk.cluster.Orderly) (holds : Keeps delivery)
    (places : List Nat) : Keeps (delivery.run publisher (places.map .drain)) := by
  induction places generalizing delivery with
  | nil => exact holds
  | cons place rest ih =>
    have sends : (Move.drain place).SendsTo topic := trivial
    obtain ⟨changed, after⟩ := change_step publisher orderly sends
    refine ih after ?_
    by_cases idle : delivery.drains = []
    · have none : delivery.step publisher (.drain place) = delivery := by simp [step, idle]
      rwa [none]
    · exact change _ _ orderly idle changed holds

end Delivery

end OrderDesk
