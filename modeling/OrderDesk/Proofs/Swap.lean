import OrderDesk.Proofs.Creation
import OrderDesk.Proofs.Facts

/-!
# The state of an order is compared and swapped

To move an order by hand is to name it, to say in which state it should stand, and to give the state
that it should have next. The order that is stored decides: if it stands in the state expected, that
state alone is replaced, and the one event of the change tells the stored order and not the one that
was given. Otherwise nothing changes. So of all that try to move an order out of one state, at most
one succeeds.
-/

namespace OrderDesk

namespace Cluster

/-- The state of one stored order was replaced, and nothing else: the order keeps its place, its
    user and its lines, and one event more at the end of the outbox of its shard tells the order as
    it is stored now. -/
def Swapped (stored : Order) (state : OrderState) (before after : Cluster) : Prop :=
  let tables := before.tables stored.id.shard
  let changed := { stored with state := state }
  ∃ early late event,
    tables.orders = early ++ stored :: late ∧
    after = before.setTables stored.id.shard { tables with
      orders := early ++ changed :: late
      outbox := tables.outbox ++ [event]
      outboxSequence := tables.outboxSequence + 1 } ∧
    after.stored? stored.id = some changed ∧
    event.id = ⟨tables.outboxSequence + 1⟩ ∧
    event.createdAt = before.now stored.id.shard ∧
    event.payload = (Snapshot.ofOrder changed).payload ∧
    event.TellsOf changed

variable {cluster : Cluster} {stored : Order}

theorem Placed.swapped_moveOrder (placed : cluster.Placed) (present : cluster.Has stored.id.shard)
    (found : cluster.stored? stored.id = some stored) (state : OrderState) :
    Swapped stored state cluster (cluster.moveOrder stored state) := by
  obtain ⟨early, late, split, changed⟩ := Tables.exists_setState (placed stored.id.shard).nodup
    (Tables.mem_of_order? found) state
  refine ⟨early, late, (cluster.tables stored.id.shard).eventOf { stored with state := state }
    (cluster.now stored.id.shard), split, ?_, ?_, ?_, ?_, ?_, ?_⟩
  · rw [← changed]
    rfl
  · exact (stored?_moveOrder present found stored.id).trans (if_pos rfl)
  · rfl
  · rfl
  · rw [Tables.eventOf]
  · exact Tables.tellsOf_eventOf _ _ _

/-- A conditional move goes through exactly on a healthy shard that stores the order in the state
    expected. -/
theorem updateState_eq_ok_iff {order : Order} {expected : OrderState} :
    (cluster.updateState order expected).1 = .ok () ↔ cluster.Healthy order.id.shard ∧
      ∃ stored, cluster.stored? order.id = some stored ∧ stored.state = expected := by
  constructor
  · intro moved
    rcases cluster.updateState_cases order expected with
      ⟨error, failed⟩ | ⟨stored, healthy, found, stands, -⟩
    · rw [failed] at moved
      cases moved
    · exact ⟨healthy, stored, found, stands⟩
  · rintro ⟨healthy, stored, found, stands⟩
    rw [updateState_of_stored healthy found stands]

/-- An order is stored in another state than that. -/
def Passed (cluster : Cluster) (id : OrderId) (state : OrderState) : Prop :=
  ∃ stored, cluster.stored? id = some stored ∧ stored.state ≠ state

end Cluster

/-! ## Many moves -/

namespace Errand

/-- An errand that is to move an order out of a state. -/
def MovesOut (id : OrderId) (state : OrderState) : Errand → Prop
  | .move order expected => order.id = id ∧ expected = state ∧ order.state ≠ state
  | _ => False

/-- An errand that is not to move an order: neither by hand nor by settling it. -/
def Spares (id : OrderId) : Errand → Prop
  | .act (.settle _ other) => other ≠ id
  | .move order _ => order.id ≠ id
  | _ => True

/-- An order was moved by hand. -/
def moved (id : OrderId) : Errand × Reply → Bool
  | (.move order _, .moved (.ok ())) => order.id = id
  | _ => false

end Errand

namespace Desk

variable {σ : Type} (publisher : Publisher σ)

/-- What a desk is asked, each with its reply. -/
def replies (desk : Desk σ) : List Errand → List (Errand × Reply)
  | [] => []
  | errand :: rest =>
    match desk.serve publisher errand with
    | (reply, desk) => (errand, reply) :: desk.replies rest

variable {publisher} {desk : Desk σ} {id : OrderId} {state : OrderState} {errand : Errand}

/-- An errand that spares a stored order leaves it as it is. -/
theorem stored?_serve (placed : desk.cluster.Placed) (spares : errand.Spares id) {stored : Order}
    (found : desk.cluster.stored? id = some stored) :
    (desk.serve publisher errand).2.cluster.stored? id = some stored := by
  cases errand with
  | act action =>
    cases action with
    | checkout user items => exact placed.stored?_checkout user items found
    | settle settlement other => exact (Cluster.stored?_settle spares settlement).trans found
    | lookUp other => exact found
    | list => exact found
    | tick settings =>
      exact ((Relay.sameButMarks_tick publisher settings _ _).stored? id).trans found
    | setPrimary shard faults =>
      exact ((Cluster.sameButMarks_setPrimary ..).stored? id).trans found
    | setReplica shard faults =>
      exact ((Cluster.sameButMarks_setReplica ..).stored? id).trans found
  | upsert stocks =>
    simp only [serve]
    rcases desk.cluster.upsertStock_cases stocks with ⟨error, failed⟩ | ⟨inventory, done⟩
    · rwa [failed]
    · rw [done]
      exact (Cluster.stored?_setInventory id).trans found
  | modify demand adjustment =>
    simp only [serve]
    rcases desk.cluster.modifyStock_cases demand adjustment with
      ⟨error, failed⟩ | ⟨rows, inventory, done⟩
    · rwa [failed]
    · rw [done]
      exact (Cluster.stored?_setInventory id).trans found
  | create user items =>
    simp only [serve]
    rcases desk.cluster.createOrder_cases user items with
      ⟨error, failed⟩ | ⟨fresh, -, healthy, next, done⟩
    · rwa [failed]
    · have apart : fresh ≠ id := placed.ne_of_next next found
      rw [done, Cluster.stored?_addOrder healthy.has (placed.stored?_next next), if_neg apart]
      exact found
  | move order expected =>
    simp only [serve]
    rcases desk.cluster.updateState_cases order expected with
      ⟨error, failed⟩ | ⟨other, healthy, present, -, done⟩
    · rwa [failed]
    · have named : other.id = order.id := Tables.id_of_order? present
      rw [← named] at healthy present
      have apart : other.id ≠ id := fun same => spares (named.symm.trans same)
      rw [done, Cluster.stored?_moveOrder healthy.has present, if_neg apart]
      exact found
  | available sku => exact found

theorem moved_of_spares (spares : errand.Spares id) (reply : Reply) :
    Errand.moved id (errand, reply) = false := by
  cases errand with
  | move order expected =>
    have apart : order.id ≠ id := spares
    unfold Errand.moved
    split
    · rename_i same
      cases same
      exact decide_eq_false apart
    · rfl
  | act | upsert | modify | create | available => rfl

/-- An errand that is to move an order out of a state, or that spares it, moves it at most if it
    stands in that state, and if it does so, leaves it in another one. -/
theorem serve_of_fair (placed : desk.cluster.Placed)
    (fair : errand.MovesOut id state ∨ errand.Spares id) :
    (Errand.moved id (errand, (desk.serve publisher errand).1) = false ∧
        (desk.cluster.Passed id state →
          (desk.serve publisher errand).2.cluster.Passed id state)) ∨
      (Errand.moved id (errand, (desk.serve publisher errand).1) = true ∧
        ¬desk.cluster.Passed id state ∧
        (desk.serve publisher errand).2.cluster.Passed id state) := by
  rcases fair with leaves | spares
  · cases errand with
    | move order expected =>
      obtain ⟨rfl, rfl, differs⟩ := leaves
      simp only [serve]
      rcases desk.cluster.updateState_cases order expected with
        ⟨error, failed⟩ | ⟨stored, healthy, found, stands, done⟩
      · rw [failed]
        exact .inl ⟨rfl, id⟩
      · have named : stored.id = order.id := Tables.id_of_order? found
        rw [done]
        refine .inr ⟨decide_eq_true rfl, ?_, { stored with state := order.state }, ?_, differs⟩
        · rintro ⟨other, listed, apart⟩
          rw [found] at listed
          cases listed
          exact apart stands
        · rw [← named] at healthy found ⊢
          exact (Cluster.stored?_moveOrder healthy.has found stored.id).trans (if_pos rfl)
    | act | upsert | modify | create | available => exact leaves.elim
  · refine .inl ⟨moved_of_spares spares _, ?_⟩
    rintro ⟨stored, found, differs⟩
    exact ⟨stored, stored?_serve placed spares found, differs⟩

/-- Of any errands that are to move an order out of a state or that spare it, at most one moves it,
    and none once it has left the state. -/
theorem countP_moved (placed : desk.cluster.Placed) {errands : List Errand}
    (fair : ∀ errand ∈ errands, errand.MovesOut id state ∨ errand.Spares id) :
    (desk.replies publisher errands).countP (Errand.moved id) ≤ 1 ∧
      (desk.cluster.Passed id state →
        (desk.replies publisher errands).countP (Errand.moved id) = 0) := by
  induction errands generalizing desk with
  | nil => exact ⟨Nat.zero_le 1, fun _ => rfl⟩
  | cons errand rest ih =>
    obtain ⟨first, others⟩ := List.forall_mem_cons.1 fair
    have after : (desk.serve publisher errand).2.cluster.Placed :=
      placed_serveAll publisher desk [errand] placed
    have split : desk.replies publisher (errand :: rest) =
        (errand, (desk.serve publisher errand).1) ::
          (desk.serve publisher errand).2.replies publisher rest := rfl
    obtain ⟨atMostOne, none⟩ := ih after others
    rw [split]
    rcases @serve_of_fair _ publisher _ _ _ _ placed first with
      ⟨stayed, stays⟩ | ⟨moved, before, left⟩
    · rw [List.countP_cons_of_neg (Bool.eq_false_iff.1 stayed)]
      exact ⟨atMostOne, none ∘ stays⟩
    · rw [List.countP_cons_of_pos moved, none left]
      exact ⟨Nat.le_refl 1, fun passed => absurd passed before⟩

/-- A conditional move is a compare-and-swap on the order that is stored. In any state that a desk
    can reach from a store without orders, however the switches stand, and whatever user and lines
    the order that is given has: the move goes through exactly if its number is stored on the shard
    that it encodes, the primary of that shard is healthy and the stored order stands in the state
    expected. Then the state of that order alone is replaced, and the one event of it tells the
    stored order as it is now. Otherwise nothing changes, and the answer says why. Let a desk then
    be asked anything, in any order, except that whatever is to move or settle one order is to move
    it out of one state to another: at most one of these moves goes through. -/
theorem moves_compare_and_swap (publisher : Publisher σ) {start : Desk σ}
    (unused : start.cluster.Unused) (errands : List Errand) :
    let desk := start.serveAll publisher errands
    let now := desk.cluster
    (∀ order expected,
      ((now.updateState order expected).1 = .ok () ↔ now.Healthy order.id.shard ∧
        ∃ stored, now.stored? order.id = some stored ∧ stored.state = expected) ∧
      match now.updateState order expected with
      | (.ok (), after) => ∃ stored, stored.id = order.id ∧ now.stored? order.id = some stored ∧
          Cluster.Swapped stored order.state now after
      | (.error error, after) => after = now ∧ now.Refusal order expected error) ∧
    ∀ id state attempts,
      (∀ attempt ∈ attempts, Errand.MovesOut id state attempt ∨ Errand.Spares id attempt) →
      (desk.replies publisher attempts).countP (Errand.moved id) ≤ 1 := by
  intro desk now
  have placed : now.Placed := placed_serveAll publisher start errands unused.placed
  refine ⟨fun order expected => ⟨Cluster.updateState_eq_ok_iff, ?_⟩,
    fun id state attempts fair => (countP_moved placed fair).1⟩
  rcases now.updateState_outcome order expected with
    ⟨error, refusal, failed⟩ | ⟨stored, healthy, found, -, done⟩
  · rw [failed]
    exact ⟨rfl, refusal⟩
  · have named : stored.id = order.id := Tables.id_of_order? found
    rw [done]
    refine ⟨stored, named, found, ?_⟩
    rw [← named] at healthy found
    exact placed.swapped_moveOrder healthy.has found order.state

/-- An order that was checked out is moved by somebody who has its user and its lines wrong; the
    next move comes late, and meets a primary that is down as well. -/
theorem moves_compare_and_swap_oneShard :
    let id : OrderId := ⟨1000, by decide, by decide⟩
    let stale : Order := ⟨id, ⟨2, by decide, by decide⟩, .payed, []⟩
    let desk := (⟨.oneShard, ()⟩ : Desk Unit).serveAll .log
      [.act (.checkout ⟨1, by decide, by decide⟩ [⟨⟨7⟩, 1, by decide⟩])]
    (desk.cluster.updateState stale .awaitingPayment).1 = .ok () ∧
      (desk.replies .log [.move stale .awaitingPayment, .act (.setPrimary ⟨0⟩ ⟨true, false⟩),
        .move { stale with state := .cancelled } .awaitingPayment]).countP (Errand.moved id) ≤
          1 := by
  intro id stale desk
  have unused : (⟨.oneShard, ()⟩ : Desk Unit).cluster.Unused := Cluster.unused_oneShard
  have ended := Cluster.checkout_of_one ⟨id, ⟨1, by decide, by decide⟩, .awaitingPayment,
    [⟨⟨7⟩, 1, by decide⟩]⟩ ⟨[⟨⟨7⟩, 5, 3⟩]⟩ unused.placed Cluster.allHealthy_oneShard rfl
    (List.cons_ne_nil _ _) (by decide) (by rfl) (by rw [Cluster.inventory_oneShard]; rfl)
  -- For any cluster, as a shard is a hash of its user, which must not be computed.
  have reached : ∀ cluster : Cluster, ((⟨cluster, ()⟩ : Desk Unit).serveAll .log
      [.act (.checkout ⟨1, by decide, by decide⟩ [⟨⟨7⟩, 1, by decide⟩])]).cluster =
        (cluster.checkout ⟨1, by decide, by decide⟩ [⟨⟨7⟩, 1, by decide⟩]).2 := fun _ => rfl
  have done := reached Cluster.oneShard
  have found : desk.cluster.stored? id =
      some ⟨id, ⟨1, by decide, by decide⟩, .awaitingPayment, [⟨⟨7⟩, 1, by decide⟩]⟩ := by
    rw [done.trans ended]
    decide
  have healthy : desk.cluster.AllHealthy := by
    rw [done]
    exact Cluster.allHealthy_oneShard.checkout unused.placed _ _
  obtain ⟨swaps, atMostOne⟩ := moves_compare_and_swap .log unused
    [.act (.checkout ⟨1, by decide, by decide⟩ [⟨⟨7⟩, 1, by decide⟩])]
  refine ⟨(swaps stale .awaitingPayment).1.2
    ⟨healthy _ (Cluster.has_of_stored? found), _, found, rfl⟩, atMostOne id .awaitingPayment _ ?_⟩
  simp only [List.forall_mem_cons]
  exact ⟨.inl ⟨rfl, rfl, by decide⟩, .inr trivial, .inl ⟨rfl, rfl, by decide⟩,
    List.forall_mem_nil _⟩

end Desk

end OrderDesk
