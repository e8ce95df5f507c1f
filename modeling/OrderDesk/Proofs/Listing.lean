import OrderDesk.Proofs.Placement
import OrderDesk.Proofs.Readable

/-!
# What a listing lists

A listing reads the shards one after the other and puts together what it read. As a number belongs
to one order in the whole cluster, the numbers of a listing fall strictly, and nothing is listed
twice; as every shard is read, nothing is left out. So there is one listing that can be answered,
and its length is told by the counters of the shards alone.
-/

namespace OrderDesk

namespace Cluster

variable {cluster : Cluster} {listed : List Order} {order : Order}

theorem orders_eq_ok_iff : cluster.orders = .ok listed ↔
    (∀ shard, cluster.Has shard → cluster.serves .read shard = true) ∧
      listed = cluster.everyOrder.mergeSort newestFirst := by
  constructor
  · intro answered
    have serves : ∀ shard, cluster.Has shard → cluster.serves .read shard = true := by
      by_contra fails
      obtain ⟨error, failed⟩ := outage_orders_iff.2 fails
      rw [answered] at failed
      cases failed
    rw [orders_of_serves serves] at answered
    exact ⟨serves, (Except.ok.inj answered).symm⟩
  · rintro ⟨serves, rfl⟩
    exact orders_of_serves serves

/-- The orders of all shards together are those of some shard. -/
theorem mem_everyOrder_iff : order ∈ cluster.everyOrder ↔
    ∃ shard, cluster.Has shard ∧ order ∈ (cluster.tables shard).orders := by
  rw [← flatMap_indices, List.mem_flatMap]
  simp only [mem_indices]

/-- There are as many orders as the shards have given out numbers. -/
theorem Placed.length_everyOrder (placed : cluster.Placed) : cluster.everyOrder.length =
    (cluster.router.indices.map fun shard => (cluster.tables shard).orderSequence).sum := by
  rw [← flatMap_indices, List.length_flatMap]
  apply congrArg List.sum
  apply List.map_congr_left
  intro shard _
  exact (placed shard).length_orders

/-- The numbers of a listing fall strictly. -/
theorem Placed.pairwise_newestFirst (placed : cluster.Placed) :
    (cluster.everyOrder.mergeSort newestFirst).Pairwise fun a b => b.id.num < a.id.num := by
  have same : (cluster.everyOrder.mergeSort newestFirst).Perm cluster.everyOrder :=
    List.mergeSort_perm _ _
  have distinct := (same.map (·.id)).nodup_iff.2 placed.nodup_everyOrder
  have apart := List.pairwise_map.1 distinct
  apply (List.Pairwise.and (Cluster.pairwise_newestFirst cluster.everyOrder) apart).imp
  rintro a b ⟨newer, differs⟩
  exact Nat.lt_of_le_of_ne newer fun equal => differs (OrderId.eq_of_num equal.symm)

/-- Orders are listed once where their numbers fall strictly. -/
theorem nodup_of_newestFirst {orders : List Order}
    (descends : orders.Pairwise fun a b => b.id.num < a.id.num) : orders.Nodup := by
  apply descends.imp
  rintro a _ newer rfl
  exact Nat.lt_irrefl _ newer

/-- Of the same orders there is one list whose numbers fall strictly. -/
theorem eq_of_newestFirst {first second : List Order}
    (descends : first.Pairwise fun a b => b.id.num < a.id.num)
    (also : second.Pairwise fun a b => b.id.num < a.id.num)
    (same : ∀ order, order ∈ first ↔ order ∈ second) : first = second := by
  have perm : first.Perm second :=
    (List.perm_ext_iff_of_nodup (nodup_of_newestFirst descends) (nodup_of_newestFirst also)).2 same
  apply perm.eq_of_pairwise _ descends also
  intro a b _ _ newer older
  exact absurd newer (Nat.lt_asymm older)

/-- A healthy primary serves every intent. -/
theorem Healthy.serves {shard : ShardIndex} (healthy : cluster.Healthy shard) (intent : Intent) :
    cluster.serves intent shard = true := by
  obtain ⟨stored, there, fine⟩ := healthy
  unfold Cluster.serves
  rw [there, Option.any_some]
  cases intent with
  | read => simp [Shard.serves, fine, Faults.none]
  | write => simp [Shard.serves, fine, Faults.none, Faults.works]

end Cluster

namespace Desk

variable {σ : Type} (publisher : Publisher σ)

/-- A listing lists every order once. After any errands on a store that began without orders, under
    any faults and whatever the publisher answers, a listing is answered exactly if every shard
    serves reading. It is then the one list whose numbers fall strictly and whose members are the
    orders that some shard stores, as they are stored. No number is listed twice, each order listed
    is the one that is found under its number, and the length is the sum of the counters of all
    shards. -/
theorem lists_every_order_once {start : Desk σ} (unused : start.cluster.Unused)
    (errands : List Errand) :
    let now := (start.serveAll publisher errands).cluster
    (∀ listed, now.orders = .ok listed ↔
      (∀ shard, now.Has shard → now.serves .read shard = true) ∧
        (listed.Pairwise fun a b => b.id.num < a.id.num) ∧
        ∀ order, order ∈ listed ↔ ∃ shard, now.Has shard ∧ order ∈ (now.tables shard).orders) ∧
    ∀ listed, now.orders = .ok listed →
      (listed.map (·.id)).Nodup ∧
        (∀ order ∈ listed, now.stored? order.id = some order) ∧
        listed.length =
          (now.router.indices.map fun shard => (now.tables shard).orderSequence).sum := by
  intro now
  have placed : now.Placed := placed_serveAll publisher start errands unused.placed
  have perm : (now.everyOrder.mergeSort Cluster.newestFirst).Perm now.everyOrder :=
    List.mergeSort_perm _ _
  have members : ∀ order, order ∈ now.everyOrder.mergeSort Cluster.newestFirst ↔
      ∃ shard, now.Has shard ∧ order ∈ (now.tables shard).orders :=
    fun order => perm.mem_iff.trans Cluster.mem_everyOrder_iff
  constructor
  · intro listed
    rw [Cluster.orders_eq_ok_iff]
    apply and_congr_right
    intro _
    constructor
    · rintro rfl
      exact ⟨placed.pairwise_newestFirst, members⟩
    · rintro ⟨descends, holds⟩
      exact Cluster.eq_of_newestFirst descends placed.pairwise_newestFirst fun order =>
        (holds order).trans (members order).symm
  · intro listed answered
    obtain ⟨-, rfl⟩ := Cluster.orders_eq_ok_iff.1 answered
    refine ⟨(perm.map (·.id)).nodup_iff.2 placed.nodup_everyOrder, ?_, ?_⟩
    · intro order member
      obtain ⟨shard, -, stored⟩ := (members order).1 member
      exact (placed.stored?_of_mem stored).2
    · rw [perm.length_eq]
      exact placed.length_everyOrder

/-- Two orders are placed, and then all shards are read. -/
theorem lists_every_order_once_twoShards :
    let errands : List Errand := [
      .act (.checkout ⟨1, by decide, by decide⟩ [⟨⟨7⟩, 1, by decide⟩]),
      .act (.checkout ⟨2, by decide, by decide⟩ [⟨⟨8⟩, 1, by decide⟩])]
    let now := ((⟨.twoShards, ()⟩ : Desk Unit).serveAll .log errands).cluster
    ∃ listed, now.orders = .ok listed ∧ (listed.Pairwise fun a b => b.id.num < a.id.num) ∧
      (listed.map (·.id)).Nodup ∧ listed.length =
        (now.router.indices.map fun shard => (now.tables shard).orderSequence).sum := by
  intro errands now
  have unused : (⟨.twoShards, ()⟩ : Desk Unit).cluster.Unused := Cluster.unused_twoShards
  have healthy : now.AllHealthy := by
    have first := Cluster.allHealthy_twoShards.checkout unused.placed ⟨1, by decide, by decide⟩
      [⟨⟨7⟩, 1, by decide⟩]
    exact first.checkout (unused.placed.checkout _ _) ⟨2, by decide, by decide⟩
      [⟨⟨8⟩, 1, by decide⟩]
  obtain ⟨answers, lists⟩ := lists_every_order_once .log unused errands
  have told : now.orders = .ok (now.everyOrder.mergeSort Cluster.newestFirst) :=
    Cluster.orders_of_serves fun shard present => (healthy shard present).serves .read
  obtain ⟨distinct, -, length⟩ := lists _ told
  exact ⟨_, told, ((answers _).1 told).2.1, distinct, length⟩

end Desk

end OrderDesk
