import OrderDesk.Proofs.Checkout
import OrderDesk.Proofs.Relay

/-!
# Sessions

A session is what a desk lives through when its calls come one after another: checkouts,
settlements, queries and ticks of the relay, and between them databases that fail or come back.
What every action keeps, a session keeps, and the numbers of its orders stay in place besides.
-/

namespace OrderDesk

/-- One call, one tick, or a change of the switches of a database. -/
inductive Action where
  | checkout (user : UserId) (items : List Item)
  | settle (settlement : Settlement) (id : OrderId)
  | lookUp (id : OrderId)
  | list
  | tick (settings : RelaySettings)
  | setPrimary (shard : ShardIndex) (faults : Faults)
  | setReplica (shard : ShardIndex) (faults : Faults)

/-- What an action answers. -/
inductive Answer where
  | created (answer : Except Error OrderId)
  | settled (answer : Except Error Unit)
  | found (answer : Except Error Order)
  | listed (answer : Except Error (List Order))
  | ticked (answer : Except Error TickReport)
  | switched

/-- A cluster, and the state of the publisher that its relay sends to. -/
structure Desk (σ : Type) where
  cluster : Cluster
  outside : σ

namespace Desk

variable {σ : Type} (publisher : Publisher σ)

/-- Does one action. -/
def perform (desk : Desk σ) : Action → Answer × Desk σ
  | .checkout user items =>
    match desk.cluster.checkout user items with
    | (answer, cluster) => (.created answer, { desk with cluster := cluster })
  | .settle settlement id =>
    match desk.cluster.settle settlement id with
    | (answer, cluster) => (.settled answer, { desk with cluster := cluster })
  | .lookUp id => (.found (desk.cluster.lookUp id), desk)
  | .list => (.listed desk.cluster.orders, desk)
  | .tick settings =>
    match Relay.tick publisher settings desk.cluster desk.outside with
    | (answer, cluster, outside) => (.ticked answer, ⟨cluster, outside⟩)
  | .setPrimary shard faults =>
      (.switched, { desk with cluster := desk.cluster.setPrimary shard faults })
  | .setReplica shard faults =>
      (.switched, { desk with cluster := desk.cluster.setReplica shard faults })

/-- Does actions, one after the other. The answers come in the order of the actions. -/
def run (desk : Desk σ) : List Action → List Answer × Desk σ
  | [] => ([], desk)
  | action :: rest =>
    match desk.perform publisher action with
    | (answer, desk) =>
      match desk.run rest with
      | (answers, desk) => (answer :: answers, desk)

theorem run_nil (desk : Desk σ) : (desk.run publisher []).2 = desk := rfl

theorem run_cons (desk : Desk σ) (action : Action) (rest : List Action) :
    (desk.run publisher (action :: rest)).2 =
      ((desk.perform publisher action).2.run publisher rest).2 :=
  rfl

theorem perform_checkout (desk : Desk σ) (user : UserId) (items : List Item) :
    (desk.perform publisher (.checkout user items)).2 =
      { desk with cluster := (desk.cluster.checkout user items).2 } := rfl

theorem perform_setPrimary (desk : Desk σ) (shard : ShardIndex) (faults : Faults) :
    (desk.perform publisher (.setPrimary shard faults)).2 =
      { desk with cluster := desk.cluster.setPrimary shard faults } := rfl

section Keeps

variable {publisher} {Keeps : Cluster → Prop}
  (checkout : ∀ cluster user items, cluster.Placed → Keeps cluster →
    Keeps (Cluster.checkout cluster user items).2)
  (settle : ∀ cluster settlement id, cluster.Placed → Keeps cluster →
    Keeps (Cluster.settle cluster settlement id).2)
  (marks : ∀ before after, Cluster.SameButMarks before after → Keeps before → Keeps after)

include checkout settle marks

/-- Whatever checkouts, settlements and changes of marks keep, every action keeps. -/
theorem perform_keeps (desk : Desk σ) (action : Action) (placed : desk.cluster.Placed)
    (holds : Keeps desk.cluster) :
    (desk.perform publisher action).2.cluster.Placed ∧
      Keeps (desk.perform publisher action).2.cluster := by
  have marked : ∀ after, Cluster.SameButMarks desk.cluster after → after.Placed ∧ Keeps after := by
    intro after same
    exact ⟨same.placed placed, marks _ _ same holds⟩
  cases action with
  | checkout user items => exact ⟨placed.checkout user items, checkout _ _ _ placed holds⟩
  | settle settlement id => exact ⟨placed.settle settlement id, settle _ _ _ placed holds⟩
  | lookUp id => exact ⟨placed, holds⟩
  | list => exact ⟨placed, holds⟩
  | tick settings => exact marked _ (Relay.sameButMarks_tick publisher settings _ _)
  | setPrimary shard faults => exact marked _ (Cluster.sameButMarks_setPrimary ..)
  | setReplica shard faults => exact marked _ (Cluster.sameButMarks_setReplica ..)

/-- What every action keeps, every session keeps: a session needs no induction but this one. -/
theorem run_keeps (desk : Desk σ) (actions : List Action) (placed : desk.cluster.Placed)
    (holds : Keeps desk.cluster) :
    (desk.run publisher actions).2.cluster.Placed ∧
      Keeps (desk.run publisher actions).2.cluster := by
  induction actions generalizing desk with
  | nil => exact ⟨placed, holds⟩
  | cons action rest ih =>
    obtain ⟨placed, holds⟩ := perform_keeps checkout settle marks desk action placed holds
    exact ih _ placed holds

end Keeps

/-- A session leaves the numbers of its orders in place. -/
theorem placed_run (desk : Desk σ) (actions : List Action) (placed : desk.cluster.Placed) :
    (desk.run publisher actions).2.cluster.Placed := by
  have kept := @run_keeps σ publisher (fun _ => True) (fun _ _ _ _ _ => trivial)
    (fun _ _ _ _ _ => trivial) (fun _ _ _ _ => trivial) desk actions placed trivial
  exact kept.1

end Desk

end OrderDesk
