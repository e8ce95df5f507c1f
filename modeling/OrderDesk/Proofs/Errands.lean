import OrderDesk.Proofs.NoTrace

/-!
# Everything that may be asked of a desk

Besides the calls of a session a desk takes calls that go straight to the store: rows are put into
the stock or adjusted, an order is stored or moved by hand, available units are asked for. Whatever
is asked, a cluster changes only by orders that are added, orders that are moved, stock that is
replaced and marks. So what these four keep, every sequence of errands keeps.
-/

namespace OrderDesk

/-- A call of a session, or one that goes straight to the store. -/
inductive Errand where
  | act (action : Action)
  | upsert (stocks : List Stock)
  | modify (demand : Demand) (adjustment : Adjustment)
  | create (user : UserId) (items : List Item)
  /-- Gives a stored order the state of this one, if it stands in the state expected. -/
  | move (order : Order) (expected : OrderState)
  | available (sku : Sku)

/-- What an errand is answered. -/
inductive Reply where
  | acted (answer : Answer)
  | upserted (answer : Except Error Unit)
  | modified (answer : Except Error (List Stock))
  | created (answer : Except Error Order)
  | moved (answer : Except Error Unit)
  | counted (answer : Except Error UInt32)

namespace Desk

variable {σ : Type} (publisher : Publisher σ)

/-- Does one errand. -/
def serve (desk : Desk σ) : Errand → Reply × Desk σ
  | .act action =>
    match desk.perform publisher action with
    | (answer, desk) => (.acted answer, desk)
  | .upsert stocks =>
    match desk.cluster.upsertStock stocks with
    | (answer, cluster) => (.upserted answer, { desk with cluster := cluster })
  | .modify demand adjustment =>
    match desk.cluster.modifyStock demand adjustment with
    | (answer, cluster) => (.modified answer, { desk with cluster := cluster })
  | .create user items =>
    match desk.cluster.createOrder user items with
    | (answer, cluster) => (.created answer, { desk with cluster := cluster })
  | .move order expected =>
    match desk.cluster.updateState order expected with
    | (answer, cluster) => (.moved answer, { desk with cluster := cluster })
  | .available sku => (.counted (desk.cluster.available sku), desk)

/-- Does errands, one after the other. -/
def serveAll (desk : Desk σ) (errands : List Errand) : Desk σ :=
  errands.foldl (fun desk errand => (desk.serve publisher errand).2) desk

@[simp] theorem serveAll_cons (desk : Desk σ) (errand : Errand) (rest : List Errand) :
    desk.serveAll publisher (errand :: rest) =
      (desk.serve publisher errand).2.serveAll publisher rest := rfl

section Keeps

variable {publisher} {Keeps : Cluster → Prop}
  (add : ∀ (cluster : Cluster) (order : Order), cluster.Placed → Keeps cluster →
    cluster.router.shardForUser order.user = order.id.shard → cluster.Healthy order.id.shard →
    cluster.IsNext order.id → Keeps (cluster.addOrder order))
  (move : ∀ (cluster : Cluster) (stored : Order) (state : OrderState), cluster.Placed →
    Keeps cluster → cluster.Healthy stored.id.shard → cluster.stored? stored.id = some stored →
    Keeps (cluster.moveOrder stored state))
  (stock : ∀ (cluster : Cluster) (inventory : Inventory), Keeps cluster →
    Keeps (cluster.setInventory inventory))
  (marks : ∀ before after, Cluster.SameButMarks before after → Keeps before → Keeps after)

include add move stock

theorem checkout_keeps (cluster : Cluster) (user : UserId) (items : List Item)
    (placed : cluster.Placed) (holds : Keeps cluster) : Keeps (cluster.checkout user items).2 := by
  rcases Cluster.checkout_cases placed user items with
    ⟨error, failed⟩ | ⟨id, inventory, state, answer, -, belongs, healthy, next, -, done⟩
  · rw [failed]
    exact holds
  · rw [done]
    have added := add cluster ⟨id, user, .new, items⟩ placed holds belongs healthy next
    apply move _ _ _ (placed.addOrder healthy.has next).setInventory (stock _ inventory added)
    · exact healthy.added ⟨id, user, .new, items⟩ inventory
    · exact (Cluster.stored?_added ⟨id, user, .new, items⟩ inventory placed healthy next id).trans
        (if_pos rfl)

omit add in
theorem settle_keeps (cluster : Cluster) (settlement : Settlement) (id : OrderId)
    (placed : cluster.Placed) (holds : Keeps cluster) : Keeps (cluster.settle settlement id).2 := by
  rcases cluster.settle_cases settlement id with
    ⟨error, failed⟩ | ⟨order, inventory, healthy, found, -, -, done⟩
  · rw [failed]
    exact holds
  · rw [done]
    obtain rfl : order.id = id := Tables.id_of_order? found
    apply move _ _ _ placed.setInventory (stock _ inventory holds)
    · exact Cluster.healthy_setInventory.2 healthy
    · exact (Cluster.stored?_setInventory order.id).trans found

include marks

/-- What the three writes and changes of marks keep, every errand keeps. -/
theorem serve_keeps (desk : Desk σ) (errand : Errand) (placed : desk.cluster.Placed)
    (holds : Keeps desk.cluster) :
    (desk.serve publisher errand).2.cluster.Placed ∧
      Keeps (desk.serve publisher errand).2.cluster := by
  cases errand with
  | act action =>
    exact perform_keeps (checkout_keeps add move stock) (settle_keeps move stock) marks desk action
      placed holds
  | upsert stocks =>
    simp only [serve]
    rcases desk.cluster.upsertStock_cases stocks with ⟨error, failed⟩ | ⟨inventory, done⟩
    · rw [failed]
      exact ⟨placed, holds⟩
    · rw [done]
      exact ⟨placed.setInventory, stock _ inventory holds⟩
  | modify demand adjustment =>
    simp only [serve]
    rcases desk.cluster.modifyStock_cases demand adjustment with
      ⟨error, failed⟩ | ⟨rows, inventory, done⟩
    · rw [failed]
      exact ⟨placed, holds⟩
    · rw [done]
      exact ⟨placed.setInventory, stock _ inventory holds⟩
  | create user items =>
    simp only [serve]
    rcases desk.cluster.createOrder_cases user items with
      ⟨error, failed⟩ | ⟨id, belongs, healthy, next, done⟩
    · rw [failed]
      exact ⟨placed, holds⟩
    · rw [done]
      exact ⟨placed.addOrder healthy.has next, add _ _ placed holds belongs healthy next⟩
  | move order expected =>
    simp only [serve]
    rcases desk.cluster.updateState_cases order expected with
      ⟨error, failed⟩ | ⟨stored, healthy, found, -, done⟩
    · rw [failed]
      exact ⟨placed, holds⟩
    · rw [done]
      have named : stored.id = order.id := Tables.id_of_order? found
      rw [← named] at healthy found
      exact ⟨placed.moveOrder healthy.has, move _ _ _ placed holds healthy found⟩
  | available sku => exact ⟨placed, holds⟩

/-- What the three writes and changes of marks keep, every sequence of errands keeps. -/
theorem serveAll_keeps (desk : Desk σ) (errands : List Errand) (placed : desk.cluster.Placed)
    (holds : Keeps desk.cluster) :
    (desk.serveAll publisher errands).cluster.Placed ∧
      Keeps (desk.serveAll publisher errands).cluster := by
  induction errands generalizing desk with
  | nil => exact ⟨placed, holds⟩
  | cons errand rest ih =>
    obtain ⟨placed, holds⟩ := serve_keeps add move stock marks desk errand placed holds
    exact ih _ placed holds

end Keeps

theorem placed_serveAll (desk : Desk σ) (errands : List Errand) (placed : desk.cluster.Placed) :
    (desk.serveAll publisher errands).cluster.Placed := by
  have kept := @serveAll_keeps σ publisher (fun _ => True) (fun _ _ _ _ _ _ _ => trivial)
    (fun _ _ _ _ _ _ _ => trivial) (fun _ _ _ => trivial) (fun _ _ _ _ => trivial)
    desk errands placed trivial
  exact kept.1

end Desk

end OrderDesk
