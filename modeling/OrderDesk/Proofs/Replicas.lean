import OrderDesk.Proofs.Errands
import OrderDesk.Proofs.Reads
import OrderDesk.Publisher.Log

/-!
# Replicas have no say in writes

A replica is asked for reading only, and what it fails to do the primary does in its place. So a
cluster with replicas, however these fail, and the same cluster without them write the same, answer
every write alike, and answer every read alike while the primaries that it is bound to do their
work. Taking the replicas away commutes with every operation.
-/

namespace OrderDesk

/-- A shard without its replica. -/
def Shard.withoutReplica (shard : Shard) : Shard := { shard with replica := none }

namespace Cluster

/-- A cluster without its replicas. -/
def withoutReplicas (cluster : Cluster) : Cluster where
  shards := cluster.shards.map Shard.withoutReplica
  pos := by simpa using cluster.pos
  le_max := by simpa using cluster.le_max

variable (cluster : Cluster) (shard : ShardIndex)

/-- Creating a cluster with replicas and taking them away is creating it without. -/
theorem create_withoutReplicas (count : Nat) (clock : ShardIndex → Nat → Timestamp) :
    (create count true clock).map withoutReplicas = create count false clock := by
  unfold create
  split
  · rfl
  · split
    · refine congrArg Except.ok (eq_of_shards ?_)
      simp only [withoutReplicas, List.map_map]
      rfl
    · rfl

/-! ## What stays without replicas -/

theorem getElem?_withoutReplicas (i : Nat) :
    cluster.withoutReplicas.shards[i]? = (cluster.shards[i]?).map Shard.withoutReplica :=
  List.getElem?_map

@[simp] theorem length_withoutReplicas :
    cluster.withoutReplicas.shards.length = cluster.shards.length :=
  List.length_map _

@[simp] theorem tables_withoutReplicas :
    cluster.withoutReplicas.tables shard = cluster.tables shard := by
  unfold tables
  rw [getElem?_withoutReplicas]
  cases cluster.shards[shard.num]? <;> rfl

@[simp] theorem now_withoutReplicas : cluster.withoutReplicas.now shard = cluster.now shard := by
  unfold now
  rw [getElem?_withoutReplicas]
  cases cluster.shards[shard.num]? <;> rfl

@[simp] theorem inventory_withoutReplicas :
    cluster.withoutReplicas.inventory = cluster.inventory := by
  rw [inventory, tables_withoutReplicas, inventory]

@[simp] theorem shardForUser_withoutReplicas (user : UserId) :
    cluster.withoutReplicas.router.shardForUser user = cluster.router.shardForUser user :=
  shardForUser_congr (length_withoutReplicas cluster) user

@[simp] theorem shardForOrder_withoutReplicas (id : OrderId) :
    cluster.withoutReplicas.router.shardForOrder id = cluster.router.shardForOrder id := by
  unfold Router.shardForOrder Router.site
  rw [getElem?_sites, getElem?_sites, getElem?_withoutReplicas, size_router, size_router,
    length_withoutReplicas]
  cases cluster.shards[id.shard.num]? <;> rfl

@[simp] theorem bind_write_withoutReplicas :
    cluster.withoutReplicas.bind shard .write = cluster.bind shard .write := by
  rw [bind_write, bind_write, getElem?_withoutReplicas, length_withoutReplicas]
  cases cluster.shards[shard.num]? <;> rfl

@[simp] theorem permitWrite_withoutReplicas (operation : Operation) :
    cluster.withoutReplicas.permitWrite shard operation = cluster.permitWrite shard operation := by
  rw [permitWrite, permitWrite, bind_write_withoutReplicas]

/-- A change that does not look at the replica can be made without it. -/
theorem modifyShard_withoutReplicas {change : Shard → Shard}
    (blind : ∀ stored, (change stored).withoutReplica = change stored.withoutReplica) :
    cluster.withoutReplicas.modifyShard shard change =
      (cluster.modifyShard shard change).withoutReplicas := by
  apply eq_of_shards
  apply List.ext_getElem?
  intro i
  rw [getElem?_modifyShard, getElem?_withoutReplicas, getElem?_withoutReplicas,
    getElem?_modifyShard, Option.map_map, Option.map_map]
  congr 1
  funext stored
  simp only [Function.comp_apply]
  split
  · exact (blind stored).symm
  · rfl

@[simp] theorem setTables_withoutReplicas (tables : Tables) :
    cluster.withoutReplicas.setTables shard tables =
      (cluster.setTables shard tables).withoutReplicas :=
  modifyShard_withoutReplicas _ _ fun _ => rfl

@[simp] theorem setInventory_withoutReplicas (inventory : Inventory) :
    cluster.withoutReplicas.setInventory inventory =
      (cluster.setInventory inventory).withoutReplicas := by
  rw [setInventory, tables_withoutReplicas, setTables_withoutReplicas, setInventory]

theorem setPrimary_withoutReplicas (faults : Faults) :
    cluster.withoutReplicas.setPrimary shard faults =
      (cluster.setPrimary shard faults).withoutReplicas :=
  modifyShard_withoutReplicas _ _ fun _ => rfl

/-- Where there are no replicas, their switches change nothing. -/
theorem setReplica_withoutReplicas (faults : Faults) :
    cluster.withoutReplicas.setReplica shard faults =
      (cluster.setReplica shard faults).withoutReplicas :=
  modifyShard_withoutReplicas _ _ fun _ => rfl

/-! ## Writes -/

theorem createOrder_withoutReplicas (user : UserId) (items : List Item) :
    cluster.withoutReplicas.createOrder user items =
      ((cluster.createOrder user items).1, (cluster.createOrder user items).2.withoutReplicas) := by
  obtain ⟨shard, belongs⟩ : ∃ shard, cluster.router.shardForUser user = shard := ⟨_, rfl⟩
  have same := (shardForUser_withoutReplicas cluster user).trans belongs
  rw [createOrder_eq belongs, createOrder_eq same, permitWrite_withoutReplicas]
  split
  · rfl
  · rw [tables_withoutReplicas]
    split
    · rfl
    · rw [now_withoutReplicas, setTables_withoutReplicas]

theorem updateState_withoutReplicas (order : Order) (expected : OrderState) :
    cluster.withoutReplicas.updateState order expected =
      ((cluster.updateState order expected).1,
        (cluster.updateState order expected).2.withoutReplicas) := by
  unfold updateState
  rw [shardForOrder_withoutReplicas]
  split
  · rfl
  · rw [permitWrite_withoutReplicas]
    split
    · rfl
    · simp only [tables_withoutReplicas, now_withoutReplicas, setTables_withoutReplicas]
      split
      · rfl
      · split <;> rfl

theorem modifyStock_withoutReplicas (demand : Demand) (adjustment : Adjustment) :
    cluster.withoutReplicas.modifyStock demand adjustment =
      ((cluster.modifyStock demand adjustment).1,
        (cluster.modifyStock demand adjustment).2.withoutReplicas) := by
  unfold modifyStock
  rw [permitWrite_withoutReplicas, inventory_withoutReplicas]
  split
  · rfl
  · split
    · rfl
    · rw [setInventory_withoutReplicas]

theorem upsertStock_withoutReplicas (stocks : List Stock) :
    cluster.withoutReplicas.upsertStock stocks =
      ((cluster.upsertStock stocks).1, (cluster.upsertStock stocks).2.withoutReplicas) := by
  unfold upsertStock
  rw [permitWrite_withoutReplicas, inventory_withoutReplicas]
  split
  · rfl
  · rw [setInventory_withoutReplicas]

theorem adjustStock_withoutReplicas (adjustment : Adjustment) (items : List Item) :
    cluster.withoutReplicas.adjustStock adjustment items =
      ((cluster.adjustStock adjustment items).1,
        (cluster.adjustStock adjustment items).2.withoutReplicas) := by
  unfold adjustStock
  split
  · rfl
  · split
    · rfl
    · rw [modifyStock_withoutReplicas]
      rcases cluster.modifyStock _ adjustment with ⟨_ | _, after⟩ <;> rfl

theorem confirm_withoutReplicas (order : Order) :
    cluster.withoutReplicas.confirm order =
      ((cluster.confirm order).1, (cluster.confirm order).2.withoutReplicas) := by
  unfold confirm
  split
  · rfl
  · rw [updateState_withoutReplicas]
    rcases cluster.updateState _ _ with ⟨_ | _, after⟩ <;> rfl

theorem giveUp_withoutReplicas (order : Order) (reason : Error) :
    cluster.withoutReplicas.giveUp order reason =
      ((cluster.giveUp order reason).1, (cluster.giveUp order reason).2.withoutReplicas) := by
  unfold giveUp
  split
  · rfl
  · rw [updateState_withoutReplicas]
    rcases cluster.updateState _ _ with ⟨_ | _, after⟩ <;> rfl

theorem checkout_withoutReplicas (user : UserId) (items : List Item) :
    cluster.withoutReplicas.checkout user items =
      ((cluster.checkout user items).1, (cluster.checkout user items).2.withoutReplicas) := by
  unfold checkout
  split
  · rfl
  · rw [createOrder_withoutReplicas]
    rcases cluster.createOrder user items with ⟨_ | order, stored⟩
    · rfl
    · simp only [reserve, adjustStock_withoutReplicas]
      rcases stored.adjustStock .reserve order.items with ⟨reason | _, changed⟩
      · exact giveUp_withoutReplicas changed order reason
      · exact confirm_withoutReplicas changed order

/-- The read at the head of a settlement is one for writing, so it is bound to the primary. -/
theorem order_write_withoutReplicas (id : OrderId) :
    cluster.withoutReplicas.order id .write = cluster.order id .write := by
  have looked : ∀ binding, cluster.withoutReplicas.read .readOrder (fun tables => tables.order? id)
      binding = cluster.read .readOrder (fun tables => tables.order? id) binding := by
    intro binding
    simp only [read, tables_withoutReplicas]
  unfold order
  simp only [shardForOrder_withoutReplicas, bind_write_withoutReplicas, looked]

theorem settle_withoutReplicas (settlement : Settlement) (id : OrderId) :
    cluster.withoutReplicas.settle settlement id =
      ((cluster.settle settlement id).1, (cluster.settle settlement id).2.withoutReplicas) := by
  unfold settle
  rw [order_write_withoutReplicas]
  split
  · rfl
  · split
    · rfl
    · rw [adjustStock_withoutReplicas]
      rcases cluster.adjustStock settlement.adjustment _ with ⟨_ | _, changed⟩
      · rfl
      · exact updateState_withoutReplicas changed _ _

/-! ## Transactions -/

theorem begin_withoutReplicas : cluster.withoutReplicas.begin shard = cluster.begin shard := by
  unfold begin
  rw [permitWrite_withoutReplicas, tables_withoutReplicas]

theorem beginEach_withoutReplicas (shards : List ShardIndex) :
    cluster.withoutReplicas.beginEach shards = cluster.beginEach shards := by
  induction shards with
  | nil => rfl
  | cons shard rest ih => simp only [beginEach, begin_withoutReplicas, ih]

@[simp] theorem indices_withoutReplicas :
    cluster.withoutReplicas.router.indices = cluster.router.indices := by
  rw [Router.indices, Router.indices, size_router, size_router, length_withoutReplicas]

theorem beginAll_withoutReplicas : cluster.withoutReplicas.beginAll = cluster.beginAll := by
  rw [beginAll, beginAll, indices_withoutReplicas, beginEach_withoutReplicas]

theorem commit_withoutReplicas (transaction : Transaction) :
    cluster.withoutReplicas.commit transaction = (cluster.commit transaction).withoutReplicas := by
  unfold commit
  rw [tables_withoutReplicas, setTables_withoutReplicas]

/-! ## Reads -/

@[simp] theorem failing_withoutReplicas :
    cluster.withoutReplicas.Failing shard ↔ cluster.Failing shard := by
  unfold Failing
  rw [getElem?_withoutReplicas]
  cases cluster.shards[shard.num]? with
  | none => simp
  | some stored => simp [Shard.withoutReplica]

section Reads

variable {cluster shard}

theorem fetch_withoutReplicas (steady : ¬ cluster.Failing shard) {α : Type} (operation : Operation)
    (look : Tables → α) :
    cluster.withoutReplicas.fetch shard operation look = cluster.fetch shard operation look := by
  have alone : ¬ cluster.withoutReplicas.Failing shard :=
    fun failing => steady ((failing_withoutReplicas cluster shard).1 failing)
  rw [fetch_of_not_failing operation look steady, fetch_of_not_failing operation look alone,
    bind_write_withoutReplicas, tables_withoutReplicas]

theorem lookUp_withoutReplicas {id : OrderId} (steady : ¬ cluster.Failing id.shard) :
    cluster.withoutReplicas.lookUp id = cluster.lookUp id := by
  rw [lookUp_eq_fetch, lookUp_eq_fetch, shardForOrder_withoutReplicas]
  cases located : cluster.router.shardForOrder id with
  | error error => rfl
  | ok shard =>
    obtain ⟨-, rfl⟩ := shardForOrder_eq_ok.1 located
    simp only [fetch_withoutReplicas steady]

theorem available_withoutReplicas (steady : ¬ cluster.Failing .inventory) (sku : Sku) :
    cluster.withoutReplicas.available sku = cluster.available sku := by
  simp only [available, stocks_eq_fetch, fetch_withoutReplicas steady]

/-- Orders are gathered alike if no primary fails that is bound: none up to the first that hands out
    no connection. -/
theorem gather_withoutReplicas {shards : List ShardIndex}
    (steady : ∀ early late shard, shards = early ++ shard :: late →
      (∀ earlier ∈ early, cluster.Available earlier) → ¬ cluster.Failing shard) :
    cluster.withoutReplicas.gather shards = cluster.gather shards := by
  induction shards with
  | nil => rfl
  | cons shard rest ih =>
    have here : ¬ cluster.Failing shard := steady [] rest shard rfl (fun _ none => nomatch none)
    have alone : ¬ cluster.withoutReplicas.Failing shard :=
      fun failing => here ((failing_withoutReplicas cluster shard).1 failing)
    rw [gather_cons_of_not_failing here, gather_cons_of_not_failing alone,
      bind_write_withoutReplicas, tables_withoutReplicas]
    cases bound : cluster.bind shard .write with
    | error error => rfl
    | ok binding =>
      have available : cluster.Available shard := exists_bind_write_iff.1 ⟨binding, bound⟩
      simp only
      rw [ih]
      intro early late other split before
      refine steady (shard :: early) late other (by rw [split]; rfl) ?_
      exact List.forall_mem_cons.2 ⟨available, before⟩

/-- Before a shard in the order of the indices stands every shard of a smaller index. -/
theorem mem_of_indices_split {early late : List ShardIndex} {earlier : ShardIndex}
    (split : cluster.router.indices = early ++ shard :: late) (less : earlier.num < shard.num) :
    earlier ∈ early := by
  have numbered : ∀ (i : Nat) (there : ShardIndex), cluster.router.indices[i]? = some there →
      there = ⟨i⟩ := by
    intro i there found
    rw [Router.indices, List.getElem?_map, Option.map_eq_some_iff] at found
    obtain ⟨j, ranged, rfl⟩ := found
    rw [(List.getElem?_eq_some_iff.1 ranged).choose_spec.symm, List.getElem_range]
  have last : shard = ⟨early.length⟩ := numbered early.length shard (by rw [split]; simp)
  have inside : earlier.num < early.length := by rw [last] at less; exact less
  have found : cluster.router.indices[earlier.num]? = some early[earlier.num] := by
    rw [split, List.getElem?_append_left inside, List.getElem?_eq_getElem inside]
  have same : early[earlier.num] = earlier := numbered _ _ found
  rw [← same]
  exact List.getElem_mem inside

theorem orders_withoutReplicas
    (steady : ∀ shard : ShardIndex,
      (∀ earlier : ShardIndex, earlier.num < shard.num → cluster.Available earlier) →
        ¬ cluster.Failing shard) :
    cluster.withoutReplicas.orders = cluster.orders := by
  rw [orders_eq_gather, orders_eq_gather, indices_withoutReplicas, gather_withoutReplicas]
  intro early late shard split before
  apply steady
  intro earlier less
  exact before earlier (mem_of_indices_split split less)

end Reads

end Cluster

/-! ## Ticks -/

namespace Relay

variable {σ : Type} (publisher : Publisher σ) (settings : RelaySettings)

theorem drain_withoutReplicas (transaction : Transaction) (cluster : Cluster) (state : σ) :
    drain publisher settings transaction cluster.withoutReplicas state =
      ((drain publisher settings transaction cluster state).1,
        (drain publisher settings transaction cluster state).2.1.withoutReplicas,
        (drain publisher settings transaction cluster state).2.2) := by
  rcases sent : send publisher settings.topic (transaction.pending settings.batchSize) transaction
    state with ⟨_ | marked, outside⟩
  · simp only [drain, sent]
  · simp only [drain, sent, Cluster.commit_withoutReplicas]

theorem drainEach_withoutReplicas (transactions : List Transaction) (cluster : Cluster)
    (state : σ) :
    drainEach publisher settings transactions cluster.withoutReplicas state =
      ((drainEach publisher settings transactions cluster state).1,
        (drainEach publisher settings transactions cluster state).2.1.withoutReplicas,
        (drainEach publisher settings transactions cluster state).2.2) := by
  induction transactions generalizing cluster state with
  | nil => rfl
  | cons transaction rest ih => simp only [drainEach, drain_withoutReplicas, ih]

theorem tick_withoutReplicas (cluster : Cluster) (state : σ) :
    tick publisher settings cluster.withoutReplicas state =
      ((tick publisher settings cluster state).1,
        (tick publisher settings cluster state).2.1.withoutReplicas,
        (tick publisher settings cluster state).2.2) := by
  unfold tick
  rw [Cluster.beginAll_withoutReplicas]
  cases cluster.beginAll with
  | error error => rfl
  | ok transactions => simp only [drainEach_withoutReplicas]

end Relay

/-! ## Errands -/

/-- The shards that an errand binds for reading. Listing binds one after the other, up to the first
    that hands out no connection. -/
def Errand.ReadsFrom (cluster : Cluster) : Errand → ShardIndex → Prop
  | .act (.lookUp id), shard => shard = id.shard
  | .act .list, shard =>
    ∀ earlier : ShardIndex, earlier.num < shard.num → cluster.Available earlier
  | .available _, shard => shard = .inventory
  | _, _ => False

namespace Desk

variable {σ : Type} (publisher : Publisher σ)

/-- A desk whose cluster has no replicas. -/
def withoutReplicas (desk : Desk σ) : Desk σ :=
  { desk with cluster := desk.cluster.withoutReplicas }

/-- Taking the replicas away commutes with every errand. -/
theorem serve_withoutReplicas (desk : Desk σ) (errand : Errand) :
    (desk.withoutReplicas.serve publisher errand).2 =
      (desk.serve publisher errand).2.withoutReplicas := by
  cases errand with
  | act action =>
    cases action with
    | checkout user items =>
      simp only [serve, perform, withoutReplicas, Cluster.checkout_withoutReplicas]
    | settle settlement id =>
      simp only [serve, perform, withoutReplicas, Cluster.settle_withoutReplicas]
    | lookUp id => rfl
    | list => rfl
    | tick settings => simp only [serve, perform, withoutReplicas, Relay.tick_withoutReplicas]
    | setPrimary shard faults =>
      simp only [serve, perform, withoutReplicas, Cluster.setPrimary_withoutReplicas]
    | setReplica shard faults =>
      simp only [serve, perform, withoutReplicas, Cluster.setReplica_withoutReplicas]
  | upsert stocks => simp only [serve, withoutReplicas, Cluster.upsertStock_withoutReplicas]
  | modify demand adjustment =>
    simp only [serve, withoutReplicas, Cluster.modifyStock_withoutReplicas]
  | create user items => simp only [serve, withoutReplicas, Cluster.createOrder_withoutReplicas]
  | move order expected => simp only [serve, withoutReplicas, Cluster.updateState_withoutReplicas]
  | available sku => rfl

/-- Without replicas an errand is answered alike if no primary fails that it reads from; what writes
    reads from none. -/
theorem reply_withoutReplicas (desk : Desk σ) {errand : Errand}
    (steady : ∀ shard, errand.ReadsFrom desk.cluster shard → ¬ desk.cluster.Failing shard) :
    (desk.withoutReplicas.serve publisher errand).1 = (desk.serve publisher errand).1 := by
  cases errand with
  | act action =>
    cases action with
    | checkout user items =>
      simp only [serve, perform, withoutReplicas, Cluster.checkout_withoutReplicas]
    | settle settlement id =>
      simp only [serve, perform, withoutReplicas, Cluster.settle_withoutReplicas]
    | lookUp id =>
      simp only [serve, perform, withoutReplicas, Cluster.lookUp_withoutReplicas (steady _ rfl)]
    | list => simp only [serve, perform, withoutReplicas, Cluster.orders_withoutReplicas steady]
    | tick settings => simp only [serve, perform, withoutReplicas, Relay.tick_withoutReplicas]
    | setPrimary shard faults => rfl
    | setReplica shard faults => rfl
  | upsert stocks => simp only [serve, withoutReplicas, Cluster.upsertStock_withoutReplicas]
  | modify demand adjustment =>
    simp only [serve, withoutReplicas, Cluster.modifyStock_withoutReplicas]
  | create user items => simp only [serve, withoutReplicas, Cluster.createOrder_withoutReplicas]
  | move order expected => simp only [serve, withoutReplicas, Cluster.updateState_withoutReplicas]
  | available sku =>
    simp only [serve, withoutReplicas, Cluster.available_withoutReplicas (steady _ rfl)]

/-- Taking the replicas away commutes with all errands. -/
theorem serveAll_withoutReplicas (desk : Desk σ) (errands : List Errand) :
    desk.withoutReplicas.serveAll publisher errands =
      (desk.serveAll publisher errands).withoutReplicas := by
  induction errands generalizing desk with
  | nil => rfl
  | cons errand rest ih => rw [serveAll_cons, serveAll_cons, serve_withoutReplicas, ih]

/-- Replicas have no say in writes. Let a desk do any errands, and let it do the same errands
    without its replicas, with the same clocks, the same primaries and the same publisher. At every
    point the tables of every shard are the same in both runs, and so is the state of the
    publisher, with all that a bus has accepted. The next errand, whatever it is, is answered alike
    in both, provided that no primary fails that it reads from. A write, a settlement and a tick
    read from none, so they are answered alike in any case. -/
theorem replicas_never_matter (desk : Desk σ) (errands : List Errand) (next : Errand) :
    let both := desk.serveAll publisher errands
    let alone := desk.withoutReplicas.serveAll publisher errands
    (∀ shard, alone.cluster.tables shard = both.cluster.tables shard) ∧
      alone.outside = both.outside ∧
      ((∀ shard, next.ReadsFrom both.cluster shard → ¬ both.cluster.Failing shard) →
        (alone.serve publisher next).1 = (both.serve publisher next).1) := by
  intro both alone
  have same : alone = both.withoutReplicas := serveAll_withoutReplicas publisher desk errands
  rw [same]
  refine ⟨fun shard => ?_, rfl, ?_⟩
  · exact Cluster.tables_withoutReplicas both.cluster shard
  · intro steady
    exact reply_withoutReplicas publisher both steady

/-- The replica that stock is read from fails, and available units are asked for. -/
theorem replicas_never_matter_twoShards :
    let desk : Desk Unit := ⟨.twoShards, ()⟩
    let errands : List Errand :=
      [.act (.setReplica .inventory ⟨false, true⟩), .upsert [⟨⟨8⟩, 3, 1⟩]]
    ((desk.withoutReplicas.serveAll .log errands).serve .log (.available ⟨8⟩)).1 =
      ((desk.serveAll .log errands).serve .log (.available ⟨8⟩)).1 := by
  intro desk errands
  have fine : ∀ stored, (desk.serveAll .log errands).cluster.shards[0]? = some stored →
      stored.primary = .none := by
    intro stored found
    obtain rfl := Option.some.inj found
    rfl
  refine (replicas_never_matter .log desk errands (.available ⟨8⟩)).2.2 ?_
  rintro shard rfl ⟨stored, found, failing⟩
  rw [fine stored found] at failing
  cases failing

end Desk

end OrderDesk
