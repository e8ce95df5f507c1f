import OrderDesk.Proofs.Errands
import OrderDesk.Publisher.Log

/-!
# Where orders lie

An order is stored on the shard that its user's number hashes to, and it is looked for on the shard
that its own number encodes. Two rules that know nothing of each other agree on every order, as an
order gets its number on the shard where it is stored. Each shard numbers its orders without a gap
and never twice, whatever fails in between, so a number belongs to one order in the whole cluster.
-/

namespace OrderDesk

/-- The numbers on a shard are those of all places from the first to the one given out last. -/
theorem Tables.Numbered.exists_num_iff {shard : ShardIndex} {tables : Tables}
    (numbered : tables.Numbered shard) {n : Nat} :
    (∃ order ∈ tables.orders, order.id.num = n) ↔
      ∃ place, 1 ≤ place ∧ place ≤ tables.orderSequence ∧
        n = OrderId.stride * place + shard.num := by
  rw [← List.mem_map (f := fun order : Order => order.id.num), numbered, List.mem_map]
  constructor
  · rintro ⟨k, below, rfl⟩
    exact ⟨k + 1, by omega, List.mem_range.1 below, rfl⟩
  · rintro ⟨place, first, last, rfl⟩
    refine ⟨place - 1, List.mem_range.2 (by omega), ?_⟩
    rw [Nat.sub_add_cancel first]

/-- Orders bear consecutive places, in the order in which they were stored. -/
theorem Tables.Numbered.sequences {shard : ShardIndex} {tables : Tables}
    (numbered : tables.Numbered shard) (small : shard.num < OrderId.stride) :
    tables.orders.map (·.id.sequence) = List.range' 1 tables.orderSequence := by
  have places := congrArg (List.map (· / OrderId.stride)) numbered
  rw [List.map_map, List.map_map] at places
  refine places.trans ?_
  rw [List.range'_eq_map_range]
  apply List.map_congr_left
  intro k _
  show (OrderId.stride * (k + 1) + shard.num) / OrderId.stride = 1 + k
  rw [Nat.mul_add_div (by decide), Nat.div_eq_of_lt small]
  omega

namespace Cluster

/-- Every order lies on the shard of its user. -/
def Homed (cluster : Cluster) : Prop :=
  ∀ shard, ∀ order ∈ (cluster.tables shard).orders, cluster.router.shardForUser order.user = shard

variable {cluster before after : Cluster} {order stored : Order} {state : OrderState}
  {inventory : Inventory}

theorem Unused.homed (unused : cluster.Unused) : cluster.Homed := by
  intro shard order member
  rw [unused shard] at member
  cases member

theorem Homed.addOrder (homed : cluster.Homed) (present : cluster.Has order.id.shard)
    (belongs : cluster.router.shardForUser order.user = order.id.shard) :
    (cluster.addOrder order).Homed := by
  intro shard other member
  have size : (cluster.addOrder order).shards.length = cluster.shards.length :=
    length_modifyShard ..
  rw [shardForUser_congr size]
  rw [tables_addOrder present] at member
  split at member
  · rename_i same
    rw [Tables.orders_insertOrder, List.mem_append, List.mem_singleton] at member
    rcases member with old | rfl
    · exact homed shard other old
    · exact belongs.trans same
  · exact homed shard other member

theorem Homed.moveOrder (homed : cluster.Homed) (present : cluster.Has stored.id.shard) :
    (cluster.moveOrder stored state).Homed := by
  intro shard other member
  have size : (cluster.moveOrder stored state).shards.length = cluster.shards.length :=
    length_modifyShard ..
  rw [shardForUser_congr size]
  rw [tables_moveOrder present] at member
  split at member
  · rw [Tables.orders_updateState] at member
    obtain ⟨old, listed, rfl⟩ := List.mem_map.1 member
    rw [← homed shard old listed]
    split <;> rfl
  · exact homed shard other member

theorem Homed.setInventory (homed : cluster.Homed) : (cluster.setInventory inventory).Homed := by
  intro shard other member
  have size : (cluster.setInventory inventory).shards.length = cluster.shards.length :=
    length_modifyShard ..
  rw [shardForUser_congr size]
  rw [orders_setInventory] at member
  exact homed shard other member

theorem Homed.marks (homed : before.Homed) (same : SameButMarks before after) : after.Homed := by
  intro shard other member
  rw [shardForUser_congr same.size]
  rw [(same.tables shard).orders] at member
  exact homed shard other member

/-- No two orders of a cluster bear the same number. -/
theorem Placed.nodup_everyOrder (placed : cluster.Placed) :
    (cluster.everyOrder.map (·.id)).Nodup := by
  have here : ∀ i (below : i < cluster.shards.length),
      cluster.tables ⟨i⟩ = cluster.shards[i].tables := by
    intro i below
    unfold tables
    rw [List.getElem?_eq_getElem below]
  unfold everyOrder
  rw [List.map_flatMap, List.nodup_flatMap]
  constructor
  · intro shard member
    obtain ⟨i, below, rfl⟩ := List.getElem_of_mem member
    rw [← here i below]
    exact (placed ⟨i⟩).nodup
  · refine List.pairwise_iff_getElem.2 fun i j below above less => ?_
    change List.Disjoint (cluster.shards[i].tables.orders.map (·.id))
      (cluster.shards[j].tables.orders.map (·.id))
    rw [List.disjoint_left, ← here i below, ← here j above]
    intro id first second
    obtain ⟨a, left, rfl⟩ := List.mem_map.1 first
    obtain ⟨b, right, same⟩ := List.mem_map.1 second
    have apart := (placed.stored?_of_mem left).1
    rw [← same, (placed.stored?_of_mem right).1] at apart
    cases apart
    omega

theorem Placed.sequences (placed : cluster.Placed) (shard : ShardIndex) :
    (cluster.tables shard).orders.map (·.id.sequence) =
      List.range' 1 (cluster.tables shard).orderSequence := by
  by_cases present : cluster.Has shard
  · exact (placed shard).sequences (Nat.lt_of_lt_of_le present cluster.le_max)
  · rw [tables_of_not_has present]
    rfl

/-! ## Places that are given out -/

/-- No shard has given out a place. -/
def SamePlaces (before after : Cluster) : Prop :=
  ∀ shard, (after.tables shard).orderSequence = (before.tables shard).orderSequence

/-- An order of a user was stored: it has the next place on the user's shard, and no other place was
    given out. -/
structure TookPlace (user : UserId) (items : List Item) (id : OrderId) (before after : Cluster) :
    Prop where
  shard : id.shard = before.router.shardForUser user
  place : id.sequence = (before.tables id.shard).orderSequence + 1
  fresh : before.stored? id = none
  stored : ∃ state, after.stored? id = some ⟨id, user, state, items⟩
  places : ∀ shard, (after.tables shard).orderSequence =
    (before.tables shard).orderSequence + if id.shard = shard then 1 else 0

theorem samePlaces_moveOrder (present : cluster.Has stored.id.shard) :
    SamePlaces cluster (cluster.moveOrder stored state) := by
  intro shard
  rw [tables_moveOrder present]
  split <;> rfl

theorem SamePlaces.trans {a b c : Cluster} (first : SamePlaces a b) (second : SamePlaces b c) :
    SamePlaces a c :=
  fun shard => (second shard).trans (first shard)

theorem SameButMarks.samePlaces (same : SameButMarks before after) : SamePlaces before after :=
  fun shard => (same.tables shard).orderSequence

theorem Placed.tookPlace_addOrder (placed : cluster.Placed) {id : OrderId} {user : UserId}
    {items : List Item} (belongs : cluster.router.shardForUser user = id.shard)
    (healthy : cluster.Healthy id.shard) (next : cluster.IsNext id) :
    TookPlace user items id cluster (cluster.addOrder ⟨id, user, .new, items⟩) where
  shard := belongs.symm
  place := by
    have small : id.shard.num < OrderId.stride := Nat.lt_of_lt_of_le healthy.has cluster.le_max
    rw [OrderId.sequence, next, Nat.mul_add_div (by decide), Nat.div_eq_of_lt small, Nat.add_zero]
  fresh := placed.stored?_next next
  stored := ⟨.new, (stored?_addOrder healthy.has (placed.stored?_next next) id).trans (if_pos rfl)⟩
  places shard := by
    have written : ∀ shard, (cluster.addOrder ⟨id, user, .new, items⟩).tables shard = _ :=
      tables_addOrder healthy.has
    rw [written]
    split <;> rfl

/-- The place stays taken while the order is moved on and its units are reserved. -/
theorem TookPlace.trans {user : UserId} {items : List Item} {id : OrderId}
    {a b c : Cluster} (took : TookPlace user items id a b) (same : SamePlaces b c)
    (stored : ∃ state, c.stored? id = some ⟨id, user, state, items⟩) :
    TookPlace user items id a c where
  shard := took.shard
  place := took.place
  fresh := took.fresh
  stored := stored
  places shard := (same shard).trans (took.places shard)

/-- Storing an order fails and changes nothing, or the order takes the next place. -/
theorem Placed.createOrder (placed : cluster.Placed) (user : UserId) (items : List Item) :
    (∃ error, cluster.createOrder user items = (.error error, cluster)) ∨
      ∃ order after, cluster.createOrder user items = (.ok order, after) ∧
        TookPlace user items order.id cluster after := by
  rcases cluster.createOrder_cases user items with failed | ⟨id, belongs, healthy, next, done⟩
  · exact .inl failed
  · exact .inr ⟨_, _, done, placed.tookPlace_addOrder belongs healthy next⟩

/-- A checkout that stores no order changes nothing; otherwise its order takes the next place, also
    if the checkout fails later. -/
theorem Placed.places_checkout (placed : cluster.Placed) (user : UserId) (items : List Item) :
    (∃ error, cluster.checkout user items = (.error error, cluster)) ∨
      ∃ id answer after, cluster.checkout user items = (answer, after) ∧
        (∀ other, answer = .ok other → other = id) ∧ TookPlace user items id cluster after := by
  rcases checkout_cases placed user items with
    failed | ⟨id, inventory, state, answer, -, belongs, healthy, next, outcome, done⟩
  · exact .inl failed
  · refine .inr ⟨id, answer, _, done, ?_, ?_⟩
    · rintro other rfl
      rcases outcome with ⟨-, equal, -⟩ | ⟨-, ⟨error, equal⟩, -⟩
      · exact Except.ok.inj equal
      · cases equal
    · have present := (healthy.added ⟨id, user, .new, items⟩ inventory).has
      apply (placed.tookPlace_addOrder belongs healthy next).trans
      · exact SamePlaces.trans orderSequence_setInventory (samePlaces_moveOrder present)
      · exact ⟨state, (stored?_ended _ inventory state placed healthy next id).trans (if_pos rfl)⟩

theorem samePlaces_settle (cluster : Cluster) (settlement : Settlement) (id : OrderId) :
    SamePlaces cluster (cluster.settle settlement id).2 := by
  rcases cluster.settle_cases settlement id with
    ⟨error, failed⟩ | ⟨order, inventory, healthy, found, -, -, done⟩
  · rw [failed]
    exact fun _ => rfl
  · rw [done]
    obtain rfl : order.id = id := Tables.id_of_order? found
    exact SamePlaces.trans orderSequence_setInventory
      (samePlaces_moveOrder (healthy_setInventory.2 healthy).has)

theorem samePlaces_updateState (cluster : Cluster) (order : Order) (expected : OrderState) :
    SamePlaces cluster (cluster.updateState order expected).2 := by
  rcases cluster.updateState_cases order expected with
    ⟨error, failed⟩ | ⟨stored, healthy, found, -, done⟩
  · rw [failed]
    exact fun _ => rfl
  · rw [done]
    rw [← Tables.id_of_order? found] at healthy
    exact samePlaces_moveOrder healthy.has

end Cluster

/-- An errand that is to store an order. -/
inductive Errand.Creates (user : UserId) (items : List Item) : Errand → Prop where
  | create : Creates user items (.create user items)
  | checkout : Creates user items (.act (.checkout user items))

namespace Desk

variable {σ : Type} (publisher : Publisher σ)

theorem homed_serveAll (desk : Desk σ) (errands : List Errand) (placed : desk.cluster.Placed)
    (homed : desk.cluster.Homed) : (desk.serveAll publisher errands).cluster.Placed ∧
      (desk.serveAll publisher errands).cluster.Homed := by
  refine serveAll_keeps ?_ ?_ ?_ ?_ desk errands placed homed
  · intro cluster order _ homed belongs healthy _
    exact homed.addOrder healthy.has belongs
  · intro cluster stored state _ homed healthy _
    exact homed.moveOrder healthy.has
  · intro cluster inventory homed
    exact homed.setInventory
  · intro before after same homed
    exact homed.marks same

/-- An errand gives out no place, unless it is to store an order and stores it. -/
theorem places_serve (desk : Desk σ) (errand : Errand) (placed : desk.cluster.Placed) :
    desk.cluster.SamePlaces (desk.serve publisher errand).2.cluster ∨
      ∃ user items id, errand.Creates user items ∧
        Cluster.TookPlace user items id desk.cluster (desk.serve publisher errand).2.cluster := by
  cases errand with
  | act action =>
    cases action with
    | checkout user items =>
      rcases placed.places_checkout user items with ⟨error, failed⟩ |
        ⟨id, answer, after, done, -, took⟩
      · refine .inl fun shard => ?_
        simp only [serve, perform, failed]
      · refine .inr ⟨user, items, id, .checkout, ?_⟩
        simpa only [serve, perform, done] using took
    | settle settlement id => exact .inl (Cluster.samePlaces_settle _ settlement id)
    | lookUp id => exact .inl fun _ => rfl
    | list => exact .inl fun _ => rfl
    | tick settings => exact .inl (Relay.sameButMarks_tick publisher settings _ _).samePlaces
    | setPrimary shard faults => exact .inl (Cluster.sameButMarks_setPrimary ..).samePlaces
    | setReplica shard faults => exact .inl (Cluster.sameButMarks_setReplica ..).samePlaces
  | upsert stocks =>
    refine .inl fun shard => ?_
    rcases desk.cluster.upsertStock_cases stocks with ⟨error, failed⟩ | ⟨inventory, done⟩
    · simp only [serve, failed]
    · simp only [serve, done, Cluster.orderSequence_setInventory]
  | modify demand adjustment =>
    refine .inl fun shard => ?_
    rcases desk.cluster.modifyStock_cases demand adjustment with
      ⟨error, failed⟩ | ⟨rows, inventory, done⟩
    · simp only [serve, failed]
    · simp only [serve, done, Cluster.orderSequence_setInventory]
  | create user items =>
    rcases placed.createOrder user items with ⟨error, failed⟩ | ⟨order, after, done, took⟩
    · refine .inl fun shard => ?_
      simp only [serve, failed]
    · refine .inr ⟨user, items, order.id, .create, ?_⟩
      simpa only [serve, done] using took
  | move order expected => exact .inl (Cluster.samePlaces_updateState _ order expected)
  | available sku => exact .inl fun _ => rfl

/-- Orders lie where they are looked for. After any errands on a store that began without orders,
    under any faults and whatever the publisher answers: the numbers of the orders on a shard are
    those of the places from one to the last one given out, with the shard in the lower digits, and
    the orders bear these places one after the other, in the order in which they were stored. Each
    order is found under its own number, on the shard that the number encodes, which is the shard of
    its user; and no two orders of the cluster share a number. The next errand gives out one place,
    the next on the shard of its user, if it stores an order, and no place otherwise. Storing an
    order fails and changes nothing, or it answers the order that took the place; and likewise for a
    checkout, which may have taken the place also when it fails. -/
theorem orders_lie_by_user {start : Desk σ} (unused : start.cluster.Unused)
    (errands : List Errand) :
    let desk := start.serveAll publisher errands
    let now := desk.cluster
    (∀ shard n, (∃ order ∈ (now.tables shard).orders, order.id.num = n) ↔
      ∃ place, 1 ≤ place ∧ place ≤ (now.tables shard).orderSequence ∧
        n = 1000 * place + shard.num) ∧
    (∀ shard, (now.tables shard).orders.map (·.id.sequence) =
      List.range' 1 (now.tables shard).orderSequence) ∧
    (∀ shard, ∀ order ∈ (now.tables shard).orders,
      (now.tables shard).order? order.id = some order ∧ order.id.shard = shard ∧
        now.router.shardForUser order.user = shard) ∧
    (now.everyOrder.map (·.id)).Nodup ∧
    (∀ errand, now.SamePlaces (desk.serve publisher errand).2.cluster ∨
      ∃ user items id, errand.Creates user items ∧
        Cluster.TookPlace user items id now (desk.serve publisher errand).2.cluster) ∧
    ∀ user items,
      ((∃ error, now.createOrder user items = (.error error, now)) ∨
        ∃ order after, now.createOrder user items = (.ok order, after) ∧
          Cluster.TookPlace user items order.id now after) ∧
      ((∃ error, now.checkout user items = (.error error, now)) ∨
        ∃ id answer after, now.checkout user items = (answer, after) ∧
          (∀ other, answer = .ok other → other = id) ∧
          Cluster.TookPlace user items id now after) := by
  intro desk now
  obtain ⟨placed, homed⟩ := homed_serveAll publisher start errands unused.placed unused.homed
  refine ⟨?_, placed.sequences, ?_, placed.nodup_everyOrder, ?_, ?_⟩
  · intro shard n
    exact (placed shard).exists_num_iff
  · intro shard order member
    obtain ⟨here, found⟩ := placed.stored?_of_mem member
    rw [Cluster.stored?, here] at found
    exact ⟨found, here, homed shard order member⟩
  · intro errand
    exact places_serve publisher desk errand placed
  · intro user items
    exact ⟨placed.createOrder user items, placed.places_checkout user items⟩

/-- An order is stored by hand, and the primary of a shard fails before the next checkout. -/
theorem orders_lie_by_user_twoShards :
    let errands : List Errand := [.create ⟨1, by decide, by decide⟩ [⟨⟨7⟩, 1, by decide⟩],
      .act (.setPrimary ⟨1⟩ ⟨false, true⟩),
      .act (.checkout ⟨2, by decide, by decide⟩ [⟨⟨7⟩, 1, by decide⟩])]
    let now := ((⟨.twoShards, ()⟩ : Desk Unit).serveAll .log errands).cluster
    (now.everyOrder.map (·.id)).Nodup := by
  intro errands now
  have unused : (⟨.twoShards, ()⟩ : Desk Unit).cluster.Unused := Cluster.unused_twoShards
  exact (orders_lie_by_user .log unused errands).2.2.2.1

end Desk

end OrderDesk
