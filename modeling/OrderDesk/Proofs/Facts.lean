import OrderDesk.Proofs.Outcome
import OrderDesk.Proofs.Requests
import OrderDesk.Publisher.Log

/-!
# The facts of an order

Once an order is created, its number, its user and its lines stay what they are; all that happens
to it is that it is settled, once. The relation of this module says so of an order at two points of
time. It holds from any point to any later one, whatever the desk does in between, as every write
either leaves a stored order alone or settles it.
-/

namespace OrderDesk

/-- What may have become of an order at a later point: nothing, or it was settled. -/
structure Order.Leads (order later : Order) : Prop where
  id : later.id = order.id
  user : later.user = order.user
  items : later.items = order.items
  state : later.state = order.state ∨
    order.state = .awaitingPayment ∧ (later.state = .payed ∨ later.state = .cancelled)

namespace Order.Leads

variable {a b c : Order}

theorem refl (order : Order) : order.Leads order := ⟨rfl, rfl, rfl, .inl rfl⟩

theorem settled (waits : a.state = .awaitingPayment) (settlement : Settlement) :
    a.Leads { a with state := settlement.target } := by
  refine ⟨rfl, rfl, rfl, .inr ⟨waits, ?_⟩⟩
  cases settlement with
  | pay => exact .inl rfl
  | cancel => exact .inr rfl

theorem trans (first : a.Leads b) (second : b.Leads c) : a.Leads c where
  id := second.id.trans first.id
  user := second.user.trans first.user
  items := second.items.trans first.items
  state := by
    rcases second.state with same | ⟨waits, settled⟩
    · rw [same]
      exact first.state
    · rcases first.state with same | ⟨-, payed | cancelled⟩
      · exact .inr ⟨same.symm.trans waits, settled⟩
      · rw [payed] at waits
        cases waits
      · rw [cancelled] at waits
        cases waits

/-- An order that does not wait for payment stays in its state for good. -/
theorem state_eq (leads : a.Leads b) (settled : a.state ≠ .awaitingPayment) :
    b.state = a.state := by
  rcases leads.state with same | ⟨waits, -⟩
  · exact same
  · exact absurd waits settled

end Order.Leads

namespace Cluster

/-- Every stored order is still stored later, and is the same but for its settlement. -/
def Remembers (before after : Cluster) : Prop :=
  ∀ id order, before.stored? id = some order →
    ∃ later, after.stored? id = some later ∧ order.Leads later

variable {cluster before after : Cluster}

theorem Remembers.refl (cluster : Cluster) : cluster.Remembers cluster :=
  fun _ order found => ⟨order, found, .refl order⟩

theorem Remembers.trans {a b c : Cluster} (first : a.Remembers b) (second : b.Remembers c) :
    a.Remembers c := by
  intro id order found
  obtain ⟨middle, there, early⟩ := first id order found
  obtain ⟨later, still, late⟩ := second id middle there
  exact ⟨later, still, early.trans late⟩

theorem remembers_of_stored? (same : ∀ id, after.stored? id = before.stored? id) :
    before.Remembers after :=
  fun id order found => ⟨order, (same id).trans found, .refl order⟩

theorem Placed.remembers_checkout (placed : cluster.Placed) (user : UserId) (items : List Item) :
    cluster.Remembers (cluster.checkout user items).2 :=
  fun _ order found => ⟨order, placed.stored?_checkout user items found, .refl order⟩

theorem remembers_settle (cluster : Cluster) (settlement : Settlement) (id : OrderId) :
    cluster.Remembers (cluster.settle settlement id).2 := by
  intro other order found
  by_cases same : id = other
  · subst same
    rcases cluster.settle_cases settlement id with
      ⟨error, failed⟩ | ⟨stored, inventory, healthy, listed, waits, -, done⟩
    · rw [failed]
      exact ⟨order, found, .refl order⟩
    · rw [found] at listed
      cases listed
      obtain rfl : order.id = id := Tables.id_of_order? found
      rw [done, stored?_settled order inventory settlement.target healthy found]
      exact ⟨_, if_pos rfl, .settled waits settlement⟩
  · exact ⟨order, (stored?_settle same settlement).trans found, .refl order⟩

/-- The order of a checkout that goes through waits for payment. -/
theorem Placed.stored?_of_checkout (placed : cluster.Placed) {user : UserId} {items : List Item}
    {id : OrderId} (done : (cluster.checkout user items).1 = .ok id) :
    (cluster.checkout user items).2.stored? id = some ⟨id, user, .awaitingPayment, items⟩ := by
  rcases checkout_cases placed user items with
    ⟨error, failed⟩ | ⟨number, inventory, state, answer, -, -, healthy, next, outcome, ended⟩
  · rw [failed] at done
    cases done
  · rw [ended] at done ⊢
    rcases outcome with ⟨rfl, rfl, -⟩ | ⟨-, ⟨error, rfl⟩, -⟩
    · cases done
      exact (stored?_ended _ inventory _ placed healthy next id).trans (if_pos rfl)
    · cases done

end Cluster

/-- What is told about an order is what is stored under its number. -/
theorem Facade.orderInfo_of_stored {cluster : Cluster} {id : OrderId} {order : Order}
    {info : InfoResponse} (found : cluster.stored? id = some order)
    (told : orderInfo cluster ⟨Int64.ofInt id.num⟩ = .ok info) : info = describe order := by
  unfold orderInfo at told
  simp only [OrderId.ofRaw_word] at told
  cases looked : cluster.lookUp id with
  | error error =>
    rw [looked] at told
    cases told
  | ok other =>
    rw [looked] at told
    cases told
    rw [Option.some.inj (found.symm.trans (Cluster.stored?_of_lookUp looked))]

namespace Desk

variable {σ : Type} (publisher : Publisher σ)

/-- Whatever a desk does in turn, no order is lost or changed but by its settlement. -/
theorem remembers_pass (desk : Desk σ) (turns : List Turn) (placed : desk.cluster.Placed) :
    desk.cluster.Remembers (desk.pass publisher turns).cluster := by
  refine (pass_keeps ?_ ?_ ?_ ?_ desk turns placed (.refl desk.cluster)).2
  · intro cluster user items placed remembers
    exact remembers.trans (placed.remembers_checkout user items)
  · intro cluster settlement id _ remembers
    exact remembers.trans (cluster.remembers_settle settlement id)
  · intro before after same remembers
    exact remembers.trans (Cluster.remembers_of_stored? same.stored?)
  · intro cluster inventory remembers
    exact remembers.trans (Cluster.remembers_of_stored? Cluster.stored?_setInventory)

/-- The order of a request that was answered by its number is stored from then on: with the user
    and the lines of the request, waiting for payment or settled. -/
theorem exists_created {start : Desk σ} (placed : start.cluster.Placed) {request : CreateRequest}
    {response : CreateResponse}
    (created : (Facade.createOrder start.cluster request).1 = .ok response) (turns : List Turn) :
    ∃ id order, response = ⟨Int64.ofInt id.num⟩ ∧
      (start.pass publisher (.request (.create request) :: turns)).cluster.stored? id = some order ∧
      (Facade.describe order).user = request.user ∧ (Facade.describe order).items = request.items ∧
      (order.state = .awaitingPayment ∨ order.state = .payed ∨ order.state = .cancelled) := by
  obtain ⟨user, items, id, known, narrowed, done, word, same⟩ :=
    Facade.checkout_of_createOrder created
  have stores := placed.stored?_of_checkout done
  rw [← same] at stores
  have next : (start.attend publisher (.request (.create request))).cluster.Placed :=
    placed_pass publisher start [.request (.create request)] placed
  obtain ⟨order, found, leads⟩ := remembers_pass publisher _ turns next id _ stores
  refine ⟨id, order, word, found, ?_, ?_, ?_⟩
  · show Int64.ofInt order.user.num = request.user
    rw [leads.user, UserId.word_of_ofRaw known]
  · show order.items.map WireItem.ofItem = request.items
    rw [leads.items, WireItem.map_ofItem_of_toItems narrowed]
  · rcases leads.state with waits | ⟨-, settled⟩
    · exact .inl waits
    · exact .inr settled

/-- The facts of an order never change. Let a desk that began without orders answer a request to
    create an order by a number `x`, at any point, and do whatever it does after that: other calls,
    ticks, rows put into the stock, databases that fail and come back. Whoever is told about `x` is
    told the user and the lines of the request, line by line and word by word, and a status that is
    one of three. From one point to a later one the status told is the same, or it has gone from
    waiting for payment to one of the other two. Once the order has left waiting for payment, no
    payment and no cancellation of `x` changes anything at any later point, and each that finds the
    primary of the order healthy is answered that there is nothing to settle. -/
theorem order_facts_never_change {start : Desk σ} (unused : start.cluster.Unused)
    (before : List Turn) {request : CreateRequest} {response : CreateResponse}
    (created : (Facade.createOrder (start.pass publisher before).cluster request).1 = .ok response)
    (between later : List Turn) :
    let first := start.pass publisher (before ++ .request (.create request) :: between)
    let second := first.pass publisher later
    let x : OrderRequest := ⟨response.order⟩
    (∀ info, Facade.orderInfo first.cluster x = .ok info →
      info.user = request.user ∧ info.items = request.items ∧
        info.status ∈ ["AWAITING_PAYMENT", "PAYED", "CANCELLED"]) ∧
    (∀ info next, Facade.orderInfo first.cluster x = .ok info →
      Facade.orderInfo second.cluster x = .ok next →
        next.status = info.status ∨
          info.status = "AWAITING_PAYMENT" ∧ (next.status = "PAYED" ∨ next.status = "CANCELLED")) ∧
    ∃ id order, OrderId.ofRaw response.order = .ok id ∧ first.cluster.stored? id = some order ∧
      (∀ info, Facade.orderInfo first.cluster x = .ok info → info = Facade.describe order) ∧
      (order.state ≠ .awaitingPayment → ∀ settlement,
        let settled := Facade.settleOrder settlement second.cluster x
        settled.2 = second.cluster ∧
          (second.cluster.Healthy id.shard →
            ∃ message, settled.1 = .error ⟨.notFound, message⟩)) := by
  intro first second x
  have placed : (start.pass publisher before).cluster.Placed :=
    placed_pass publisher start before unused.placed
  obtain ⟨id, order, rfl, found, user, items, standing⟩ :=
    exists_created publisher placed created between
  rw [← pass_append] at found
  have placedFirst : first.cluster.Placed := placed_pass publisher start _ unused.placed
  obtain ⟨now, still, leads⟩ := remembers_pass publisher first later placedFirst id order found
  refine ⟨?_, ?_, id, order, OrderId.ofRaw_word id, found, ?_, ?_⟩
  · intro info told
    rw [Facade.orderInfo_of_stored found told]
    refine ⟨user, items, ?_⟩
    show order.state.name ∈ _
    rcases standing with waits | payed | cancelled
    · rw [waits]; decide
    · rw [payed]; decide
    · rw [cancelled]; decide
  · intro info next told toldNext
    rw [Facade.orderInfo_of_stored found told, Facade.orderInfo_of_stored still toldNext]
    show now.state.name = order.state.name ∨ order.state.name = OrderState.awaitingPayment.name ∧
      (now.state.name = OrderState.payed.name ∨ now.state.name = OrderState.cancelled.name)
    rcases leads.state with same | ⟨waits, payed | cancelled⟩
    · exact .inl (congrArg OrderState.name same)
    · exact .inr ⟨congrArg OrderState.name waits, .inl (congrArg OrderState.name payed)⟩
    · exact .inr ⟨congrArg OrderState.name waits, .inr (congrArg OrderState.name cancelled)⟩
  · exact fun info => Facade.orderInfo_of_stored found
  · intro settled settlement
    have settledNow : now.state ≠ .awaitingPayment := by
      rw [leads.state_eq settled]
      exact settled
    obtain ⟨unchanged, refused⟩ := Cluster.settle_of_not_waiting still settledNow settlement
    simp only [x, Facade.settleOrder_word]
    refine ⟨(Facade.answer_snd _ _).trans unchanged, fun healthy => ?_⟩
    have failed : second.cluster.settle settlement id =
        (.error (.invalidOrderState id now.state settlement.target), second.cluster) :=
      Prod.ext (refused healthy) unchanged
    rw [failed]
    exact ⟨_, rfl⟩

/-- An order is created and paid, and rows are put into the stock before it is asked for. -/
theorem order_facts_never_change_oneShard :
    let turns : List Turn := [.request (.create ⟨1, [⟨7, 1⟩]⟩), .request (.settle .pay ⟨1000⟩),
      .task (.upsert [⟨⟨7⟩, 1, 9⟩])]
    ∀ info, Facade.orderInfo ((⟨.oneShard, ()⟩ : Desk Unit).pass .log turns).cluster ⟨1000⟩ =
      .ok info →
      info.user = 1 ∧ info.items = [⟨7, 1⟩] ∧
        info.status ∈ ["AWAITING_PAYMENT", "PAYED", "CANCELLED"] := by
  have unused : (⟨.oneShard, ()⟩ : Desk Unit).cluster.Unused := Cluster.unused_oneShard
  let user : UserId := ⟨1, by decide, by decide⟩
  let item : Item := ⟨⟨7⟩, 1, by decide⟩
  let id : OrderId := ⟨1000, by decide, by decide⟩
  have known : UserId.ofRaw 1 = .ok user := by decide
  have narrowed : WireItem.toItems [⟨7, 1⟩] = .ok [item] := by decide
  have home : id.shard = .inventory := by decide
  have belongs : Cluster.oneShard.router.shardForUser user = id.shard := by
    rw [home]
    exact Cluster.shardForUser_of_one rfl user
  have present : Cluster.oneShard.Has id.shard := by
    rw [home]
    exact Cluster.oneShard.has_inventory
  have composed : OrderId.compose ((Cluster.oneShard.tables id.shard).orderSequence + 1) id.shard =
      .ok id := by
    have first : (Cluster.oneShard.tables .inventory).orderSequence = 0 := rfl
    rw [home, first]
    decide
  have ended := Cluster.checkout_eq Cluster.unused_oneShard.placed Cluster.allHealthy_oneShard
    (List.cons_ne_nil item []) belongs present composed
  have created : (Facade.createOrder Cluster.oneShard ⟨1, [⟨7, 1⟩]⟩).1 = .ok ⟨1000⟩ := by
    rw [Facade.createOrder_of_narrowed known narrowed, ended, Cluster.inventory_oneShard]
    rfl
  exact (order_facts_never_change .log unused [] created
    [.request (.settle .pay ⟨1000⟩), .task (.upsert [⟨⟨7⟩, 1, 9⟩])] []).1

end Desk

end OrderDesk
