import OrderDesk.Checkout.InFlight
import OrderDesk.Proofs.Checkout
import OrderDesk.Proofs.Relay
import OrderDesk.Proofs.Write

/-!
# Traffic

Any number of calls in flight on one cluster. At every step one call arrives, one call that is
under way takes its next step, or a database fails or comes back; the steps come in any order.
Each call keeps the writes of its own that went through, and the traffic keeps those of all calls
in the order in which they happened.
-/

namespace OrderDesk

/-- What a caller asks for. -/
inductive Request where
  | checkout (user : UserId) (items : List Item)
  | settle (settlement : Settlement) (id : OrderId)
  deriving DecidableEq, Repr

/-- The call of a request before its first step. -/
def Request.call : Request → Call
  | checkout user items => .checkout user items
  | settle settlement id => .settle settlement id

/-- The write that the next step of a call makes, if it makes one. -/
def Call.write? : Call → Option Write
  | storing user items => some (.create user items)
  | reserving order => some (.adjust .reserve order.items)
  | confirming order => some (.move order .awaitingPayment)
  | failing order _ => some (.move order .failed)
  | loading _ _ => none
  | adjusting settlement order => some (.adjust settlement.adjustment order.items)
  | closing settlement order => some (.move order settlement.target)
  | done _ => none

/-- A call under way, with the writes of its own that went through, oldest first. -/
structure Flight where
  request : Request
  call : Call
  deeds : List Write

namespace Flight

/-- The call of a request that has just arrived. -/
def ofRequest (request : Request) : Flight := ⟨request, request.call, []⟩

/-- The write of the next step, if it makes one that goes through. -/
def deed? (cluster : Cluster) (flight : Flight) : Option Write :=
  flight.call.write?.filter (·.succeeds cluster)

/-- Takes the next step of the call. -/
def advance (cluster : Cluster) (flight : Flight) : Flight × Cluster :=
  match flight.call.advance cluster with
  | (call, after) => (⟨flight.request, call, flight.deeds ++ (flight.deed? cluster).toList⟩, after)

/-- Whether the call moved its order to a state. -/
def moved (next : OrderState) (flight : Flight) : Bool :=
  flight.deeds.any fun
    | .move _ state => state = next
    | _ => false

end Flight

/-- A cluster and all calls that were ever made on it, with every write that went through. -/
structure Traffic where
  cluster : Cluster
  flights : List Flight
  journal : List Write

/-- What may happen next. -/
inductive Step where
  | arrive (request : Request)
  /-- The call of that place takes its next step. -/
  | advance (place : Nat)
  | setPrimary (shard : ShardIndex) (faults : Faults)
  | setReplica (shard : ShardIndex) (faults : Faults)

namespace Traffic

/-- A cluster on which no call was made yet. -/
def on (cluster : Cluster) : Traffic := ⟨cluster, [], []⟩

def step (traffic : Traffic) : Step → Traffic
  | .arrive request => { traffic with flights := traffic.flights ++ [.ofRequest request] }
  | .advance place =>
    match traffic.flights[place]? with
    | none => traffic
    | some flight =>
      match flight.advance traffic.cluster with
      | (advanced, after) => ⟨after, traffic.flights.set place advanced,
          traffic.journal ++ (flight.deed? traffic.cluster).toList⟩
  | .setPrimary shard faults => { traffic with cluster := traffic.cluster.setPrimary shard faults }
  | .setReplica shard faults => { traffic with cluster := traffic.cluster.setReplica shard faults }

def run (traffic : Traffic) (steps : List Step) : Traffic := steps.foldl step traffic

end Traffic

theorem Cluster.SameButMarks.knows {before after : Cluster} (same : SameButMarks before after)
    {order : Order} (known : before.Knows order) : after.Knows order := by
  obtain ⟨state, found⟩ := known
  exact ⟨state, (same.stored? order.id).trans found⟩

/-! ## Where a call stands -/

/-- What a call has done so far and what it knows, for each place where it may stand. The order
    that it carries is stored, with the user and the lines that the call has seen; the state may
    be another one by now. -/
inductive Flight.Sits (cluster : Cluster) : Flight → Prop where
  | storing (user : UserId) (items : List Item) :
      Sits cluster ⟨.checkout user items, .storing user items, []⟩
  | reserving (order : Order) (new : order.state = .new) (known : cluster.Knows order) :
      Sits cluster ⟨.checkout order.user order.items, .reserving order,
        [.create order.user order.items]⟩
  | confirming (order : Order) (new : order.state = .new) (known : cluster.Knows order) :
      Sits cluster ⟨.checkout order.user order.items, .confirming order,
        [.create order.user order.items, .adjust .reserve order.items]⟩
  | failing (order : Order) (reason : Error) (new : order.state = .new)
      (known : cluster.Knows order) :
      Sits cluster ⟨.checkout order.user order.items, .failing order reason,
        [.create order.user order.items]⟩
  | ended (user : UserId) (items : List Item) (answer : Except Error OrderId) (deeds : List Write) :
      Sits cluster ⟨.checkout user items, .done answer, deeds⟩
  | loading (settlement : Settlement) (id : OrderId) :
      Sits cluster ⟨.settle settlement id, .loading settlement id, []⟩
  | adjusting (settlement : Settlement) (order : Order) (waiting : order.state = .awaitingPayment)
      (known : cluster.Knows order) :
      Sits cluster ⟨.settle settlement order.id, .adjusting settlement order, []⟩
  | closing (settlement : Settlement) (order : Order) (waiting : order.state = .awaitingPayment)
      (known : cluster.Knows order) :
      Sits cluster ⟨.settle settlement order.id, .closing settlement order,
        [.adjust settlement.adjustment order.items]⟩
  | refused (settlement : Settlement) (id : OrderId) (error : Error) (deeds : List Write)
      (unmoved : ∀ seen next, .move seen next ∉ deeds) :
      Sits cluster ⟨.settle settlement id, .done (.error error), deeds⟩
  | settled (settlement : Settlement) (order : Order) :
      Sits cluster ⟨.settle settlement order.id, .done (.ok order.id),
        [.adjust settlement.adjustment order.items, .move order settlement.target]⟩

namespace Flight

variable {before after : Cluster} {flight : Flight}

theorem sits_ofRequest (cluster : Cluster) (request : Request) :
    Sits cluster (ofRequest request) := by
  cases request with
  | checkout user items =>
    show Sits cluster ⟨.checkout user items, Call.checkout user items, []⟩
    unfold Call.checkout
    split
    · exact .ended user items _ []
    · exact .storing user items
  | settle settlement id => exact .loading settlement id

/-- A call stands where it stood as long as no order loses its facts. -/
theorem Sits.mono (sits : flight.Sits before)
    (keeps : ∀ order, before.Knows order → after.Knows order) : flight.Sits after := by
  cases sits with
  | storing user items => exact .storing user items
  | reserving order new known => exact .reserving order new (keeps order known)
  | confirming order new known => exact .confirming order new (keeps order known)
  | failing order reason new known => exact .failing order reason new (keeps order known)
  | ended user items answer deeds => exact .ended user items answer deeds
  | loading settlement id => exact .loading settlement id
  | adjusting settlement order waiting known =>
    exact .adjusting settlement order waiting (keeps order known)
  | closing settlement order waiting known =>
    exact .closing settlement order waiting (keeps order known)
  | refused settlement id error deeds unmoved => exact .refused settlement id error deeds unmoved
  | settled settlement order => exact .settled settlement order

/-- A step makes the write that it is about to make, and no other. -/
theorem Sits.cluster_advance (sits : flight.Sits before) :
    (flight.call.advance before).2 =
      match flight.call.write? with
      | none => before
      | some write => (write.perform before).2 := by
  cases sits with
  | storing user items =>
    rcases created : before.createOrder user items with ⟨_ | order, after⟩ <;>
      simp only [Call.advance, Call.write?, Write.perform, created]
  | reserving order new known =>
    rcases reserved : before.adjustStock .reserve order.items with ⟨_ | _, after⟩ <;>
      simp only [Call.advance, Call.write?, Write.perform, Cluster.reserve, reserved]
  | confirming order new known =>
    rcases moved : before.updateState { order with state := .awaitingPayment } .new
      with ⟨_ | _, after⟩ <;>
      simp only [Call.advance, Call.write?, Write.perform, Cluster.confirm, Order.transition, new,
        OrderState.allows, if_true, moved]
  | failing order reason new known =>
    rcases moved : before.updateState { order with state := .failed } .new with ⟨_ | _, after⟩ <;>
      simp only [Call.advance, Call.write?, Write.perform, Cluster.giveUp, Order.transition, new,
        OrderState.allows, if_true, moved]
  | ended user items answer deeds => rfl
  | loading settlement id =>
    simp only [Call.advance, Call.write?]
    split
    · rfl
    · split <;> rfl
  | adjusting settlement order waiting known =>
    rcases adjusted : before.adjustStock settlement.adjustment order.items with ⟨_ | _, after⟩ <;>
      simp only [Call.advance, Call.write?, Write.perform, adjusted]
  | closing settlement order waiting known =>
    rcases moved : before.updateState { order with state := settlement.target } order.state
      with ⟨_ | _, after⟩ <;>
      simp only [Call.advance, Call.write?, Write.perform, moved]
  | refused settlement id error deeds unmoved => rfl
  | settled settlement order => rfl

/-- A step of a call makes no write that goes through, and the cluster stays, or it makes one. -/
theorem Sits.advance_cases (sits : flight.Sits before) :
    flight.deed? before = none ∧ (flight.advance before).2 = before ∨
      ∃ write, flight.call.write? = some write ∧ flight.deed? before = some write ∧
        Wrote before write (flight.advance before).2 := by
  have changed : (flight.advance before).2 = _ := sits.cluster_advance
  cases planned : flight.call.write? with
  | none =>
    rw [planned] at changed
    exact .inl ⟨by rw [deed?, planned]; rfl, changed⟩
  | some write =>
    rw [planned] at changed
    rw [deed?, planned, changed]
    rcases write.succeeds_cases before with ⟨fails, same⟩ | ⟨succeeds, wrote⟩
    · exact .inl ⟨by rw [Option.filter_some, fails]; rfl, same⟩
    · exact .inr ⟨write, rfl, by rw [Option.filter_some, succeeds]; rfl, wrote⟩

theorem deed?_of_error {write : Write} {error : Error} (planned : flight.call.write? = some write)
    (failed : write.perform before = (.error error, after)) : flight.deed? before = none := by
  rw [deed?, planned, Option.filter_some, Write.succeeds, failed]
  rfl

theorem deed?_of_ok {write : Write} (planned : flight.call.write? = some write)
    (done : write.perform before = (.ok (), after)) : flight.deed? before = some write := by
  rw [deed?, planned, Option.filter_some, Write.succeeds, done]
  rfl

theorem Sits.placed_advance (sits : flight.Sits before) (placed : before.Placed) :
    (flight.advance before).2.Placed := by
  rcases sits.advance_cases with ⟨-, same⟩ | ⟨write, -, -, wrote⟩
  · rwa [same]
  · exact wrote.placed placed

theorem Sits.knows_advance (sits : flight.Sits before) (placed : before.Placed) (order : Order)
    (known : before.Knows order) : (flight.advance before).2.Knows order := by
  rcases sits.advance_cases with ⟨-, same⟩ | ⟨write, -, -, wrote⟩
  · rwa [same]
  · exact wrote.knows placed known

/-- A call that sits right sits right after its next step. -/
theorem Sits.advance (sits : flight.Sits before) (placed : before.Placed) :
    (flight.advance before).1.Sits (flight.advance before).2 := by
  have keeps := sits.knows_advance placed
  -- Where a call goes next depends on whether its own write went through, so each case that
  -- writes asks for the outcome of the write before it opens the step.
  cases sits with
  | storing user items =>
    rcases before.createOrder_cases user items with ⟨error, failed⟩ |
      ⟨id, -, healthy, next, created⟩
    · simp only [Flight.advance, Call.advance, failed]
      exact .ended user items _ _
    · have known : (before.addOrder ⟨id, user, .new, items⟩).Knows ⟨id, user, .new, items⟩ := by
        apply Cluster.knows_of_stored?
        rw [Cluster.stored?_addOrder healthy.has (placed.stored?_next next), if_pos rfl]
      have deed : deed? before ⟨.checkout user items, .storing user items, []⟩ =
          some (.create user items) := by
        apply deed?_of_ok rfl
        rw [Write.perform, created]
      simp only [Flight.advance, Call.advance, created, deed]
      exact .reserving _ rfl known
  | reserving order new known =>
    have stays := keeps order known
    unfold Flight.advance at stays ⊢
    rcases Write.perform_cases before (.adjust .reserve order.items) with
      ⟨reason, refused⟩ | ⟨after, reserved, -⟩
    · rw [deed?_of_error rfl refused]
      rw [Write.perform] at refused
      simp only [Call.advance, Cluster.reserve, refused] at stays ⊢
      exact .failing order reason new stays
    · rw [deed?_of_ok rfl reserved]
      rw [Write.perform] at reserved
      simp only [Call.advance, Cluster.reserve, reserved] at stays ⊢
      exact .confirming order new stays
  | confirming order new known => exact .ended _ _ _ _
  | failing order reason new known => exact .ended _ _ _ _
  | ended user items answer deeds => exact .ended _ _ _ _
  | loading settlement id =>
    simp only [Flight.advance, Call.advance, deed?, Call.write?]
    cases loaded : before.order id .write with
    | error error => exact .refused settlement id error [] (by simp)
    | ok order =>
      obtain ⟨-, found⟩ := Cluster.order_write_eq_ok_iff.1 loaded
      obtain rfl : order.id = id := Tables.id_of_order? found
      unfold Order.transition
      by_cases allowed : order.state.allows settlement.target = true
      · simp only [allowed, if_true]
        exact .adjusting settlement order (Settlement.awaitingPayment_of_allows allowed)
          (Cluster.knows_of_stored? found)
      · simp only [allowed]
        exact .refused settlement order.id _ [] (by simp)
  | adjusting settlement order waiting known =>
    have stays := keeps order known
    unfold Flight.advance at stays ⊢
    rcases Write.perform_cases before (.adjust settlement.adjustment order.items) with
      ⟨error, refused⟩ | ⟨after, adjusted, -⟩
    · rw [deed?_of_error rfl refused]
      rw [Write.perform] at refused
      simp only [Call.advance, refused] at stays ⊢
      exact .refused settlement order.id error [] (by simp)
    · rw [deed?_of_ok rfl adjusted]
      rw [Write.perform] at adjusted
      simp only [Call.advance, adjusted] at stays ⊢
      exact .closing settlement order waiting stays
  | closing settlement order waiting known =>
    unfold Flight.advance
    rcases Write.perform_cases before (.move order settlement.target) with
      ⟨error, failed⟩ | ⟨after, done, -⟩
    · rw [deed?_of_error rfl failed]
      rw [Write.perform] at failed
      simp only [Call.advance, failed]
      exact .refused settlement order.id error _ (by simp)
    · rw [deed?_of_ok rfl done]
      rw [Write.perform] at done
      simp only [Call.advance, done]
      exact .settled settlement order
  | refused settlement id error deeds unmoved =>
    simp only [Flight.advance, Call.advance, deed?, Call.write?]
    refine .refused settlement id error _ ?_
    simpa using unmoved
  | settled settlement order => exact .settled settlement order

end Flight

namespace Traffic

/-- Numbers of orders are in place, and every call sits right. -/
structure Orderly (traffic : Traffic) : Prop where
  placed : traffic.cluster.Placed
  sits : ∀ flight ∈ traffic.flights, flight.Sits traffic.cluster

theorem orderly_on {cluster : Cluster} (unused : cluster.Unused) : (on cluster).Orderly where
  placed := unused.placed
  sits _ member := nomatch member

/-- What one step may make of the traffic. -/
inductive Change (before : Traffic) : Traffic → Prop where
  | switched {cluster : Cluster} (same : before.cluster.SameButMarks cluster) :
      Change before { before with cluster := cluster }
  | arrived (request : Request) :
      Change before { before with flights := before.flights ++ [.ofRequest request] }
  /-- A call went on without a write. -/
  | turned {early late : List Flight} {flight : Flight} {call : Call}
      (there : before.flights = early ++ flight :: late) :
      Change before { before with flights := early ++ { flight with call := call } :: late }
  /-- A call went on by a write that went through. -/
  | wrote {early late : List Flight} {flight : Flight} {call : Call} {write : Write}
      {cluster : Cluster} (there : before.flights = early ++ flight :: late)
      (planned : flight.call.write? = some write) (wrote : Wrote before.cluster write cluster) :
      Change before ⟨cluster,
        early ++ { flight with call := call, deeds := flight.deeds ++ [write] } :: late,
        before.journal ++ [write]⟩

variable {traffic : Traffic}

theorem advance_eq {place : Nat} {flight : Flight} (found : traffic.flights[place]? = some flight) :
    ∃ early late, traffic.flights = early ++ flight :: late ∧
      traffic.step (.advance place) = ⟨(flight.advance traffic.cluster).2,
        early ++ (flight.advance traffic.cluster).1 :: late,
        traffic.journal ++ (flight.deed? traffic.cluster).toList⟩ := by
  obtain ⟨below, rfl⟩ := List.getElem?_eq_some_iff.1 found
  refine ⟨traffic.flights.take place, traffic.flights.drop (place + 1), ?_, ?_⟩
  · rw [List.getElem_cons_drop, List.take_append_drop]
  · simp only [step, found]
    rw [List.set_eq_take_append_cons_drop, if_pos below]

theorem Orderly.change (orderly : traffic.Orderly) (step : Step) :
    Change traffic (traffic.step step) := by
  cases step with
  | arrive request => exact .arrived request
  | setPrimary shard faults => exact .switched (Cluster.sameButMarks_setPrimary ..)
  | setReplica shard faults => exact .switched (Cluster.sameButMarks_setReplica ..)
  | advance place =>
    cases found : traffic.flights[place]? with
    | none =>
      have same : traffic.step (.advance place) = traffic := by simp only [Traffic.step, found]
      rw [same]
      exact .switched (.refl traffic.cluster)
    | some flight =>
      obtain ⟨early, late, there, advanced⟩ := advance_eq found
      have sits := orderly.sits flight (by simp [there])
      have call : (flight.advance traffic.cluster).1 = ⟨flight.request,
          (flight.call.advance traffic.cluster).1,
          flight.deeds ++ (flight.deed? traffic.cluster).toList⟩ := rfl
      rw [advanced, call]
      rcases sits.advance_cases with ⟨idle, same⟩ | ⟨write, planned, did, wrote⟩
      · rw [idle, same, Option.toList_none, List.append_nil, List.append_nil]
        exact .turned there
      · rw [did, Option.toList_some]
        exact .wrote there planned wrote

theorem Orderly.step (orderly : traffic.Orderly) (step : Step) : (traffic.step step).Orderly := by
  cases step with
  | arrive request =>
    refine ⟨orderly.placed, ?_⟩
    intro flight member
    rcases List.mem_append.1 member with old | new
    · exact orderly.sits flight old
    · rw [List.mem_singleton.1 new]
      exact Flight.sits_ofRequest traffic.cluster request
  | setPrimary shard faults =>
    have same := traffic.cluster.sameButMarks_setPrimary shard faults
    refine ⟨same.placed orderly.placed, ?_⟩
    intro flight member
    exact (orderly.sits flight member).mono fun order => same.knows
  | setReplica shard faults =>
    have same := traffic.cluster.sameButMarks_setReplica shard faults
    refine ⟨same.placed orderly.placed, ?_⟩
    intro flight member
    exact (orderly.sits flight member).mono fun order => same.knows
  | advance place =>
    cases found : traffic.flights[place]? with
    | none =>
      have same : traffic.step (.advance place) = traffic := by simp only [Traffic.step, found]
      rwa [same]
    | some flight =>
      obtain ⟨early, late, there, advanced⟩ := advance_eq found
      have sits := orderly.sits flight (by simp [there])
      rw [advanced]
      refine ⟨sits.placed_advance orderly.placed, ?_⟩
      intro other member
      rcases List.mem_append.1 member with old | member
      · exact (orderly.sits other (by simp [there, old])).mono (sits.knows_advance orderly.placed)
      · rcases List.mem_cons.1 member with rfl | old
        · exact sits.advance orderly.placed
        · exact (orderly.sits other (by simp [there, old])).mono (sits.knows_advance orderly.placed)

theorem Orderly.run (orderly : traffic.Orderly) (steps : List Step) :
    (traffic.run steps).Orderly := by
  unfold Traffic.run
  induction steps generalizing traffic with
  | nil => exact orderly
  | cons step rest ih => exact ih (orderly.step step)

/-- What each change of orderly traffic keeps, a run keeps. -/
theorem Orderly.run_keeps (orderly : traffic.Orderly) (Keeps : Traffic → Prop)
    (change : ∀ before after, before.Orderly → Change before after → Keeps before → Keeps after)
    (holds : Keeps traffic) (steps : List Step) : Keeps (traffic.run steps) := by
  unfold Traffic.run
  induction steps generalizing traffic with
  | nil => exact holds
  | cons step rest ih =>
    exact ih (orderly.step step) (change _ _ orderly (orderly.change step) holds)

end Traffic

end OrderDesk
