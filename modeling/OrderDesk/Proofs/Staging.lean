import OrderDesk.Proofs.Frame
import OrderDesk.Proofs.Outcome
import OrderDesk.Proofs.Queue

/-!
# Transactions are staged

What is marked in a transaction shows in that transaction at once and nowhere else. Its batches are
taken from the events that wait in the tables and have not been marked in it, whatever it was asked
before; to drop it leaves the tables as they were, and to commit it marks exactly the events that it
has marked, which no later transaction sees again.
-/

namespace OrderDesk

namespace Transaction

/-- What a transaction may be asked. -/
inductive Request where
  | pending (limit : Nat)
  | mark (event : EventId)
  deriving DecidableEq, Repr

/-- What a transaction was asked, and what it answered. -/
inductive Exchange where
  | pending (limit : Nat) (batch : List Event)
  | mark (event : EventId) (answer : Except Error Unit)

/-- How a transaction ends. -/
inductive Ending where
  | commit
  | drop
  deriving DecidableEq, Repr

namespace Exchange

/-- What was asked. -/
def request : Exchange → Request
  | pending limit _ => .pending limit
  | mark event _ => .mark event

/-- The event that was marked, if one was. -/
def marked? : Exchange → Option EventId
  | mark event (.ok ()) => some event
  | _ => none

end Exchange

/-- The events that were marked, in that order. -/
def marks (exchanges : List Exchange) : List EventId := exchanges.filterMap Exchange.marked?

/-- Asks a transaction. A mark that fails leaves it as it was. -/
def ask (transaction : Transaction) : Request → Exchange × Transaction
  | .pending limit => (.pending limit (transaction.pending limit), transaction)
  | .mark event =>
    match transaction.mark event with
    | .error error => (.mark event (.error error), transaction)
    | .ok marked => (.mark event (.ok ()), marked)

/-- Asks a transaction one thing after the other. -/
def askAll (transaction : Transaction) : List Request → List Exchange × Transaction
  | [] => ([], transaction)
  | request :: rest =>
    match transaction.ask request with
    | (exchange, transaction) =>
      match transaction.askAll rest with
      | (exchanges, transaction) => (exchange :: exchanges, transaction)

end Transaction

/-- An event of that number waits to be sent. -/
def Tables.Waits (outbox : List Event) (id : EventId) : Prop :=
  ∃ event ∈ outbox, event.id = id ∧ event.processed = false

/-- A cluster after a transaction has ended. -/
def Cluster.conclude (cluster : Cluster) (transaction : Transaction) : Transaction.Ending → Cluster
  | .commit => cluster.commit transaction
  | .drop => cluster

/-- Opens a transaction on a shard, asks it one thing after the other, and ends it. -/
def Cluster.transact (cluster : Cluster) (shard : ShardIndex) (requests : List Transaction.Request)
    (ending : Transaction.Ending) : Except Error (List Transaction.Exchange) × Cluster :=
  match cluster.begin shard with
  | .error error => (.error error, cluster)
  | .ok transaction =>
    match transaction.askAll requests with
    | (exchanges, transaction) => (.ok exchanges, cluster.conclude transaction ending)

namespace Transaction

/-- What is answered right, given the outbox in the tables and what has been marked before: a batch
    is one of the events that wait and have not been marked, and a mark goes through exactly for an
    event that waits in the tables, marked before or not. -/
def Exchange.Right (outbox : List Event) (marked : List EventId) : Exchange → Prop
  | pending limit batch =>
    Event.Batch limit (outbox.filter fun event => event.processed = false ∧ event.id ∉ marked) batch
  | mark event answer => (answer = .ok () ↔ Tables.Waits outbox event) ∧
    (answer = .ok () ∨ answer = .error (.storage (.failure .markProcessed (.notPending event))))

/-- What adds nothing to what has been marked before: a batch that was read, a mark that failed, an
    event that was marked once more. -/
def Exchange.Idle (marked : List EventId) (exchange : Exchange) : Prop :=
  ∀ event ∈ exchange.marked?, event ∈ marked

/-- A transaction with more events marked. -/
def stage (transaction : Transaction) (events : List EventId) : Transaction :=
  { transaction with staged := transaction.staged ++ events }

variable {transaction a b : Transaction} {event : EventId} {requests : List Request}

@[simp] theorem outbox_stage (events : List EventId) :
    (transaction.stage events).outbox = transaction.outbox := rfl

@[simp] theorem staged_stage (events : List EventId) :
    (transaction.stage events).staged = transaction.staged ++ events := rfl

theorem stage_nil (transaction : Transaction) : transaction.stage [] = transaction := by
  simp [stage]

theorem stage_stage (first second : List EventId) :
    (transaction.stage first).stage second = transaction.stage (first ++ second) := by
  simp [stage]

/-! ## One request -/

theorem ask_mark_of_waits (waits : Tables.Waits transaction.outbox event) :
    transaction.ask (.mark event) = (.mark event (.ok ()), transaction.stage [event]) := by
  obtain ⟨stored, member, rfl, unsent⟩ := waits
  obtain ⟨marked, done⟩ := mark_of_mem member unsent
  obtain rfl := eq_of_mark done
  simp only [ask, done]
  rfl

theorem ask_mark_of_not_waits (absent : ¬Tables.Waits transaction.outbox event) :
    transaction.ask (.mark event) =
      (.mark event (.error (.storage (.failure .markProcessed (.notPending event)))),
        transaction) := by
  have none :
      ¬(transaction.outbox.any fun stored => stored.id = event && !stored.processed) = true := by
    intro found
    obtain ⟨stored, member, same⟩ := List.any_eq_true.1 found
    exact absent ⟨stored, member, by simpa using same⟩
  simp only [ask, mark, if_neg none]

theorem request_ask (transaction : Transaction) (request : Request) :
    (transaction.ask request).1.request = request := by
  cases request with
  | pending limit => rfl
  | mark event =>
    by_cases waits : Tables.Waits transaction.outbox event
    · rw [ask_mark_of_waits waits]
      rfl
    · rw [ask_mark_of_not_waits waits]
      rfl

/-- A transaction changes by what is marked alone. -/
theorem ask_eq (transaction : Transaction) (request : Request) :
    (transaction.ask request).2 = transaction.stage (marks [(transaction.ask request).1]) := by
  cases request with
  | pending limit => exact transaction.stage_nil.symm
  | mark event =>
    by_cases waits : Tables.Waits transaction.outbox event
    · rw [ask_mark_of_waits waits]
      rfl
    · rw [ask_mark_of_not_waits waits]
      exact transaction.stage_nil.symm

theorem right_ask (distinct : (transaction.outbox.map (·.id)).Nodup) (request : Request) :
    (transaction.ask request).1.Right transaction.outbox transaction.staged := by
  cases request with
  | pending limit =>
    have same : (transaction.outbox.filter fun event =>
        event.processed = false ∧ event.id ∉ transaction.staged) =
        Tables.unsent transaction.outbox transaction.staged :=
      List.filter_congr fun event _ => by simp
    simp only [ask, Exchange.Right, same]
    exact Event.batch_take (distinct.sublist (List.filter_sublist.map _)) limit
  | mark event =>
    by_cases waits : Tables.Waits transaction.outbox event
    · rw [ask_mark_of_waits waits]
      exact ⟨iff_of_true rfl waits, .inl rfl⟩
    · rw [ask_mark_of_not_waits waits]
      exact ⟨iff_of_false nofun waits, .inr rfl⟩

/-- Only an event that waits is marked. -/
theorem waits_of_marked {request : Request}
    (marked : (transaction.ask request).1.marked? = some event) :
    Tables.Waits transaction.outbox event := by
  cases request with
  | pending limit => cases marked
  | mark id =>
    by_cases waits : Tables.Waits transaction.outbox id
    · rw [ask_mark_of_waits waits] at marked
      cases marked
      exact waits
    · rw [ask_mark_of_not_waits waits] at marked
      cases marked

/-! ## Many requests -/

theorem marks_append (early late : List Exchange) :
    marks (early ++ late) = marks early ++ marks late :=
  List.filterMap_append

theorem marks_cons (exchange : Exchange) (rest : List Exchange) :
    marks (exchange :: rest) = marks [exchange] ++ marks rest := marks_append [exchange] rest

theorem askAll_cons (transaction : Transaction) (request : Request) (rest : List Request) :
    transaction.askAll (request :: rest) =
      ((transaction.ask request).1 :: ((transaction.ask request).2.askAll rest).1,
        ((transaction.ask request).2.askAll rest).2) := rfl

theorem request_askAll (transaction : Transaction) (requests : List Request) :
    (transaction.askAll requests).1.map Exchange.request = requests := by
  induction requests generalizing transaction with
  | nil => rfl
  | cons request rest ih => rw [askAll_cons, List.map_cons, request_ask, ih]

theorem askAll_eq (transaction : Transaction) (requests : List Request) :
    (transaction.askAll requests).2 = transaction.stage
      (marks (transaction.askAll requests).1) := by
  induction requests generalizing transaction with
  | nil => exact transaction.stage_nil.symm
  | cons request rest ih =>
    have first := transaction.ask_eq request
    rw [askAll_cons, marks_cons, ← stage_stage, ← first]
    exact ih _

theorem waits_of_mem_marks (marked : event ∈ marks (transaction.askAll requests).1) :
    Tables.Waits transaction.outbox event := by
  induction requests generalizing transaction with
  | nil => cases marked
  | cons request rest ih =>
    rw [askAll_cons] at marked
    obtain ⟨exchange, member, told⟩ := List.mem_filterMap.1 marked
    rcases List.mem_cons.1 member with rfl | later
    · exact waits_of_marked told
    · have waits := ih (List.mem_filterMap.2 ⟨exchange, later, told⟩)
      rwa [ask_eq] at waits

theorem askAll_append (transaction : Transaction) (early late : List Request) :
    transaction.askAll (early ++ late) =
      ((transaction.askAll early).1 ++ ((transaction.askAll early).2.askAll late).1,
        ((transaction.askAll early).2.askAll late).2) := by
  induction early generalizing transaction with
  | nil => rfl
  | cons request rest ih => rw [List.cons_append, askAll_cons, askAll_cons, ih, List.cons_append]

/-- What was answered first was answered alone, and the rest of it by the transaction that this led
    to. -/
theorem askAll_split {early late : List Exchange}
    (told : (transaction.askAll requests).1 = early ++ late) :
    transaction.askAll (early.map Exchange.request) = (early, transaction.stage (marks early)) ∧
      (transaction.stage (marks early)).askAll (late.map Exchange.request) =
        (late, (transaction.askAll requests).2) := by
  induction early generalizing transaction requests with
  | nil =>
    have asked := transaction.request_askAll requests
    rw [told, List.nil_append] at asked
    have idle : transaction.stage (marks []) = transaction := transaction.stage_nil
    rw [idle, asked]
    exact ⟨rfl, Prod.ext told rfl⟩
  | cons exchange rest ih =>
    cases requests with
    | nil => cases told
    | cons request others =>
      rw [askAll_cons, List.cons_append, List.cons.injEq] at told
      obtain ⟨rfl, told⟩ := told
      obtain ⟨first, second⟩ := ih told
      rw [marks_cons, ← stage_stage, ← ask_eq, List.map_cons, request_ask, askAll_cons, first]
      exact ⟨rfl, second⟩

/-! ## Marking once more -/

/-- Two transactions that have marked the same events, in whatever order and however often. -/
structure Alike (a b : Transaction) : Prop where
  shard : a.shard = b.shard
  outbox : a.outbox = b.outbox
  staged : ∀ event, event ∈ a.staged ↔ event ∈ b.staged

theorem Alike.contains (alike : a.Alike b) (event : EventId) :
    a.staged.contains event = b.staged.contains event := by
  rw [Bool.eq_iff_iff, List.contains_iff_mem, List.contains_iff_mem]
  exact alike.staged event

/-- Transactions that have marked the same events answer the same. -/
theorem Alike.ask (alike : a.Alike b) (request : Request) :
    (a.ask request).1 = (b.ask request).1 ∧ (a.ask request).2.Alike (b.ask request).2 := by
  cases request with
  | pending limit =>
    have same : a.pending limit = b.pending limit := by
      unfold Transaction.pending Tables.pending Tables.unsent
      simp only [alike.outbox, alike.contains]
    exact ⟨congrArg (Exchange.pending limit) same, alike⟩
  | mark event =>
    by_cases waits : Tables.Waits a.outbox event
    · rw [ask_mark_of_waits waits, ask_mark_of_waits (alike.outbox ▸ waits)]
      refine ⟨rfl, alike.shard, alike.outbox, fun other => ?_⟩
      simp only [staged_stage, List.mem_append, alike.staged other]
    · rw [ask_mark_of_not_waits waits, ask_mark_of_not_waits (alike.outbox ▸ waits)]
      exact ⟨rfl, alike⟩

theorem Alike.askAll (alike : a.Alike b) (requests : List Request) :
    (a.askAll requests).1 = (b.askAll requests).1 ∧
      (a.askAll requests).2.Alike (b.askAll requests).2 := by
  induction requests generalizing a b with
  | nil => exact ⟨rfl, alike⟩
  | cons request rest ih =>
    obtain ⟨answer, next⟩ := alike.ask request
    obtain ⟨answers, last⟩ := ih next
    rw [askAll_cons, askAll_cons]
    exact ⟨by rw [answer, answers], last⟩

theorem Alike.conclude (alike : a.Alike b) (cluster : Cluster) (ending : Ending) :
    cluster.conclude a ending = cluster.conclude b ending := by
  cases ending with
  | commit =>
    unfold Cluster.conclude Cluster.commit Tables.markSent
    simp only [alike.shard, alike.contains]
  | drop => rfl

/-- An exchange that adds nothing leaves the same events marked. -/
theorem Exchange.Idle.alike {exchange : Exchange} (idle : exchange.Idle transaction.staged) :
    transaction.Alike (transaction.stage (marks [exchange])) := by
  refine ⟨rfl, rfl, fun event => ?_⟩
  have known : event ∈ marks [exchange] → event ∈ transaction.staged := by
    intro marked
    obtain ⟨one, member, told⟩ := List.mem_filterMap.1 marked
    obtain rfl := List.mem_singleton.1 member
    exact idle event told
  rw [staged_stage, List.mem_append, or_iff_left_of_imp known]

end Transaction

namespace Cluster

open Transaction

variable {cluster : Cluster} {shard : ShardIndex} {requests : List Request}

theorem transact_eq (healthy : cluster.Healthy shard) (requests : List Request) (ending : Ending) :
    cluster.transact shard requests ending = (.ok ((cluster.opened shard).askAll requests).1,
      cluster.conclude ((cluster.opened shard).askAll requests).2 ending) := by
  have began : cluster.begin shard = .ok (cluster.opened shard) := begin_eq_ok_iff.2 ⟨healthy, rfl⟩
  simp only [transact, began]

/-- Nothing is answered unless the primary is healthy. -/
theorem healthy_of_transact {ending : Ending} {exchanges : List Exchange}
    (answered : (cluster.transact shard requests ending).1 = .ok exchanges) :
    cluster.Healthy shard := by
  unfold transact at answered
  cases began : cluster.begin shard with
  | error error =>
    rw [began] at answered
    cases answered
  | ok transaction => exact (begin_eq_ok_iff.1 began).1

section Place

variable {early late : List Exchange} {exchange : Exchange}
  (told : ((cluster.opened shard).askAll requests).1 = early ++ exchange :: late)

include told

/-- What was answered in a transaction is right at every place. -/
theorem right_of_askAll (distinct : ((cluster.tables shard).outbox.map (·.id)).Nodup) :
    exchange.Right (cluster.tables shard).outbox (marks early) := by
  obtain ⟨-, rest⟩ := askAll_split told
  rw [List.map_cons, askAll_cons, Prod.mk.injEq, List.cons.injEq] at rest
  obtain ⟨⟨answer, -⟩, -⟩ := rest
  rw [← answer]
  exact right_ask distinct exchange.request

/-- What added nothing to a transaction leaves no trace: without it all else is answered the same,
    and the transaction ends the same. -/
theorem transact_of_idle (healthy : cluster.Healthy shard) (idle : exchange.Idle (marks early))
    (ending : Ending) : cluster.transact shard ((early ++ late).map Exchange.request) ending =
      (.ok (early ++ late), (cluster.transact shard requests ending).2) := by
  have split : early ++ exchange :: late = (early ++ [exchange]) ++ late := by simp
  obtain ⟨first, -⟩ := askAll_split told
  obtain ⟨-, second⟩ := askAll_split (told.trans split)
  rw [marks_append, ← stage_stage] at second
  have alike : ((cluster.opened shard).stage (marks early)).Alike
      (((cluster.opened shard).stage (marks early)).stage (marks [exchange])) :=
    Exchange.Idle.alike idle
  obtain ⟨answers, ends⟩ := alike.askAll (late.map Exchange.request)
  rw [second] at answers ends
  rw [transact_eq healthy, transact_eq healthy, List.map_append, askAll_append, first]
  simp only [answers, ends.conclude cluster ending]

end Place

/-- To commit a transaction marks what was marked in it, and changes nothing else. -/
theorem transact_commit (healthy : cluster.Healthy shard) (requests : List Request) :
    (cluster.transact shard requests .commit).2 = cluster.setTables shard
      { cluster.tables shard with
        outbox := (cluster.tables shard).outbox.map fun event =>
          if event.id ∈ marks ((cluster.opened shard).askAll requests).1 then
            { event with processed := true }
          else event } := by
  have sent : ∀ ids, Tables.markSent ids (cluster.tables shard).outbox =
      (cluster.tables shard).outbox.map fun event =>
        if event.id ∈ ids then { event with processed := true } else event :=
    fun ids => List.map_congr_left fun event _ => if_congr List.contains_iff_mem rfl rfl
  rw [transact_eq healthy, askAll_eq, ← sent]
  rfl

/-- What was marked in a transaction that has committed waits in no later transaction, as long as
    the events of the shard are told apart by their numbers. -/
theorem not_mem_marks_of_later (healthy : cluster.Healthy shard) {later : Cluster}
    (lasts : (cluster.transact shard requests .commit).2.Lasts later)
    (distinct : ((later.tables shard).outbox.map (·.id)).Nodup) {event : Event}
    (stored : event ∈ (later.tables shard).outbox) (unsent : event.processed = false) :
    event.id ∉ marks ((cluster.opened shard).askAll requests).1 := by
  intro marked
  obtain ⟨old, member, same, -⟩ := waits_of_mem_marks marked
  obtain ⟨place, found⟩ := List.mem_iff_getElem?.1 member
  have sent : ((cluster.transact shard requests .commit).2.tables shard).outbox[place]? =
      some { old with processed := true } := by
    have there : (cluster.tables shard).outbox[place]? = some old := found
    rw [transact_commit healthy, tables_setTables healthy.has, if_pos rfl]
    simp only [List.getElem?_map, there, Option.map_some, same, if_pos marked]
  obtain ⟨now, still, ages⟩ := lasts shard place _ sent
  have one : now = event := List.inj_on_of_nodup_map distinct (List.mem_of_getElem? still) stored
    (ages.id.trans same)
  rw [← one, ages.processed rfl] at unsent
  cases unsent

/-- A transaction on a healthy shard, on which the events are told apart by their numbers, is asked
    anything in any order. Each answer is right: a batch is made of the first events, up to its
    limit, that wait in the tables and have not been marked before; and an event is marked exactly
    if it waits in the tables, for the first time or once more. A request that added nothing leaves
    no trace, neither in later answers nor in what the transaction ends with: that is a batch that
    was read, a mark that failed or one that was repeated. To drop the transaction changes nothing.
    To commit it marks the events that it marked, all of which waited, and changes nothing else; and
    as long as events keep their places and their marks, as they do whatever is asked of a desk, no
    batch of a later transaction holds any of them. -/
theorem transactions_are_staged (healthy : cluster.Healthy shard)
    (distinct : ((cluster.tables shard).outbox.map (·.id)).Nodup) (requests : List Request) :
    let tables := cluster.tables shard
    ∃ exchanges, exchanges.map Exchange.request = requests ∧
      (∀ early exchange late, exchanges = early ++ exchange :: late →
        exchange.Right tables.outbox (marks early) ∧
        (exchange.Idle (marks early) → ∀ ending,
          cluster.transact shard ((early ++ late).map Exchange.request) ending =
            (.ok (early ++ late), (cluster.transact shard requests ending).2))) ∧
      cluster.transact shard requests .drop = (.ok exchanges, cluster) ∧
      cluster.transact shard requests .commit = (.ok exchanges, cluster.setTables shard
        { tables with outbox := tables.outbox.map fun event =>
            if event.id ∈ marks exchanges then { event with processed := true } else event }) ∧
      (∀ event ∈ tables.outbox, event.id ∈ marks exchanges → event.processed = false) ∧
      ∀ later, (cluster.transact shard requests .commit).2.Lasts later →
        ((later.tables shard).outbox.map (·.id)).Nodup → ∀ others ending answers,
          (later.transact shard others ending).1 = .ok answers →
          ∀ limit batch, .pending limit batch ∈ answers → ∀ event ∈ batch,
            event.id ∉ marks exchanges := by
  intro tables
  refine ⟨((cluster.opened shard).askAll requests).1, request_askAll _ requests,
    fun early exchange late told => ⟨right_of_askAll told distinct, transact_of_idle told healthy⟩,
    transact_eq healthy requests .drop, ?_, fun event stored marked => ?_,
    fun later lasts apart others ending answers answered limit batch read event member => ?_⟩
  · have answered := congrArg Prod.fst (transact_eq healthy requests .commit)
    exact Prod.ext answered (transact_commit healthy requests)
  · obtain ⟨waiting, there, same, unsent⟩ := waits_of_mem_marks marked
    rwa [← List.inj_on_of_nodup_map distinct there stored same]
  · rw [transact_eq (healthy_of_transact answered)] at answered
    obtain ⟨early, late, split⟩ := List.append_of_mem read
    have right := right_of_askAll ((Except.ok.inj answered).trans split) apart
    have waits := right.among event member
    simp only [List.mem_filter, decide_eq_true_eq] at waits
    exact not_mem_marks_of_later healthy lasts apart waits.1 waits.2.1

/-- Of three events the third has been sent. The second is marked twice, and the third cannot be. -/
theorem transactions_are_staged_oneShard :
    let id : OrderId := ⟨1000, by decide, by decide⟩
    let outbox : List Event := [⟨⟨1⟩, id, "created", ⟨5⟩, false⟩, ⟨⟨2⟩, id, "paid", ⟨5⟩, false⟩,
      ⟨⟨3⟩, id, "shipped", ⟨6⟩, true⟩]
    let cluster := oneShard.setTables ⟨0⟩ { Tables.empty with outbox := outbox }
    cluster.Healthy ⟨0⟩ ∧ ((cluster.tables ⟨0⟩).outbox.map (·.id)).Nodup ∧
      ∃ exchanges, marks exchanges = [⟨2⟩, ⟨2⟩] ∧
        cluster.transact ⟨0⟩ [.mark ⟨2⟩, .mark ⟨3⟩, .mark ⟨2⟩] .drop =
          (.ok exchanges, cluster) := by
  intro id outbox cluster
  have healthy : cluster.Healthy ⟨0⟩ :=
    (healthy_setTables ..).2 (allHealthy_oneShard ⟨0⟩ oneShard.has_inventory)
  have distinct : ((cluster.tables ⟨0⟩).outbox.map (·.id)).Nodup := by decide
  obtain ⟨exchanges, -, -, dropped, -⟩ :=
    transactions_are_staged healthy distinct [.mark ⟨2⟩, .mark ⟨3⟩, .mark ⟨2⟩]
  have answers : exchanges = [.mark ⟨2⟩ (.ok ()),
      .mark ⟨3⟩ (.error (.storage (.failure .markProcessed (.notPending ⟨3⟩)))),
      .mark ⟨2⟩ (.ok ())] :=
    Except.ok.inj (congrArg Prod.fst dropped).symm
  exact ⟨healthy, distinct, exchanges, by rw [answers]; rfl, dropped⟩

end Cluster

end OrderDesk
