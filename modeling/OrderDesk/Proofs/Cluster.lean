import OrderDesk.Store.Orders
import OrderDesk.Store.Stocks

/-!
# Views of a cluster

A cluster is seen through the tables of its shards and through the health of its primaries. Here
stands what each way of changing a cluster does to both, and that a write is permitted exactly on
a healthy primary. Nothing behind this module opens the router or the list of shards.
-/

namespace OrderDesk.Cluster

/-- A shard is part of the topology. -/
def Has (cluster : Cluster) (shard : ShardIndex) : Prop := shard.num < cluster.shards.length

instance (cluster : Cluster) (shard : ShardIndex) : Decidable (cluster.Has shard) :=
  inferInstanceAs (Decidable (shard.num < cluster.shards.length))

/-- The primary of a shard is there and without faults. -/
def Healthy (cluster : Cluster) (shard : ShardIndex) : Prop :=
  ∃ stored, cluster.shards[shard.num]? = some stored ∧ stored.primary = .none

/-- The order of a number on the shard that the number encodes. -/
def stored? (cluster : Cluster) (id : OrderId) : Option Order := (cluster.tables id.shard).order? id

theorem Healthy.has {cluster : Cluster} {shard : ShardIndex} (healthy : cluster.Healthy shard) :
    cluster.Has shard := by
  obtain ⟨stored, found, -⟩ := healthy
  exact (List.getElem?_eq_some_iff.1 found).1

theorem has_inventory (cluster : Cluster) : cluster.Has .inventory := cluster.pos

theorem eq_of_shards {a b : Cluster} (same : a.shards = b.shards) : a = b := by
  cases a
  cases b
  cases same
  rfl

@[simp] theorem length_modifyShard (cluster : Cluster) (shard : ShardIndex)
    (change : Shard → Shard) :
    (cluster.modifyShard shard change).shards.length = cluster.shards.length := by
  simp [modifyShard]

theorem getElem?_modifyShard (cluster : Cluster) (shard : ShardIndex) (change : Shard → Shard)
    (i : Nat) : (cluster.modifyShard shard change).shards[i]? =
      (cluster.shards[i]?).map fun stored => if shard.num = i then change stored else stored := by
  simp only [modifyShard, List.getElem?_modify]
  cases cluster.shards[i]? <;> rfl

/-! ## Tables -/

/-- A change that keeps the tables of a shard keeps all tables. -/
theorem tables_modifyShard {change : Shard → Shard}
    (keeps : ∀ stored, (change stored).tables = stored.tables) (cluster : Cluster)
    (shard other : ShardIndex) :
    (cluster.modifyShard shard change).tables other = cluster.tables other := by
  unfold tables
  rw [getElem?_modifyShard]
  cases cluster.shards[other.num]? with
  | none => rfl
  | some stored =>
    simp only [Option.map_some]
    split
    · exact keeps stored
    · rfl

@[simp] theorem tables_setPrimary (cluster : Cluster) (shard other : ShardIndex) (faults : Faults) :
    (cluster.setPrimary shard faults).tables other = cluster.tables other := by
  rw [setPrimary, tables_modifyShard]
  exact fun _ => rfl

@[simp] theorem tables_setReplica (cluster : Cluster) (shard other : ShardIndex) (faults : Faults) :
    (cluster.setReplica shard faults).tables other = cluster.tables other := by
  rw [setReplica, tables_modifyShard]
  exact fun _ => rfl

theorem tables_setTables {cluster : Cluster} {shard : ShardIndex} (present : cluster.Has shard)
    (tables : Tables) (other : ShardIndex) :
    (cluster.setTables shard tables).tables other =
      if shard = other then tables else cluster.tables other := by
  unfold Cluster.tables setTables
  rw [getElem?_modifyShard]
  by_cases same : shard = other
  · subst same
    rw [List.getElem?_eq_getElem present]
    simp
  · have apart : shard.num ≠ other.num := fun equal => same (by cases shard; cases other; simp_all)
    cases cluster.shards[other.num]? <;> simp [same, apart]

/-- Writing to a shard that is not part of the topology changes nothing. -/
theorem tables_setTables_of_not_has {cluster : Cluster} {shard : ShardIndex}
    (absent : ¬ cluster.Has shard) (tables : Tables) (other : ShardIndex) :
    (cluster.setTables shard tables).tables other = cluster.tables other := by
  unfold Cluster.tables setTables
  rw [getElem?_modifyShard]
  by_cases same : shard.num = other.num
  · rw [← same, List.getElem?_eq_none (Nat.le_of_not_lt absent)]
    rfl
  · cases cluster.shards[other.num]? <;> simp [same]

/-- A shard that is not part of the topology stores nothing. -/
theorem tables_of_not_has {cluster : Cluster} {shard : ShardIndex} (absent : ¬ cluster.Has shard) :
    cluster.tables shard = .empty := by
  unfold tables
  rw [List.getElem?_eq_none (Nat.le_of_not_lt absent)]

theorem stored?_of_not_has {cluster : Cluster} {id : OrderId} (absent : ¬ cluster.Has id.shard) :
    cluster.stored? id = none := by
  rw [stored?, tables_of_not_has absent]
  rfl

theorem has_of_stored? {cluster : Cluster} {id : OrderId} {order : Order}
    (found : cluster.stored? id = some order) :
    cluster.Has id.shard := by
  by_cases present : cluster.Has id.shard
  · exact present
  · rw [stored?_of_not_has present] at found
    cases found

/-- Every stored order, shard by shard. -/
def everyOrder (cluster : Cluster) : List Order :=
  cluster.shards.flatMap fun shard => shard.tables.orders

/-- Clusters of one size with the same orders on each shard store the same orders altogether. -/
theorem everyOrder_congr {a b : Cluster} (size : a.shards.length = b.shards.length)
    (orders : ∀ shard, (a.tables shard).orders = (b.tables shard).orders) :
    a.everyOrder = b.everyOrder := by
  unfold everyOrder
  rw [List.flatMap_def, List.flatMap_def]
  refine congrArg List.flatten (List.ext_getElem (by simpa using size) fun i left right => ?_)
  have same := orders ⟨i⟩
  rw [List.length_map] at left right
  unfold tables at same
  rw [List.getElem?_eq_getElem left, List.getElem?_eq_getElem right] at same
  simpa using same

/-! ## Health -/

/-- Writing to the tables of a shard harms no primary. -/
@[simp] theorem healthy_setTables (cluster : Cluster) (shard other : ShardIndex) (tables : Tables) :
    (cluster.setTables shard tables).Healthy other ↔ cluster.Healthy other := by
  unfold Healthy setTables
  rw [getElem?_modifyShard]
  cases cluster.shards[other.num]? with
  | none => simp
  | some stored =>
    simp only [Option.map_some, Option.some.injEq, exists_eq_left']
    split <;> rfl

theorem getElem?_sites (cluster : Cluster) (i : Nat) :
    cluster.router.sites[i]? = (cluster.shards[i]?).map (Shard.site i) := by
  simp [router]

@[simp] theorem size_router (cluster : Cluster) : cluster.router.size = cluster.shards.length := by
  simp [router, Router.size]

/-- Users are at home on the same shards of all clusters of one size. -/
theorem shardForUser_congr {a b : Cluster} (size : a.shards.length = b.shards.length)
    (user : UserId) : a.router.shardForUser user = b.router.shardForUser user := by
  unfold Router.shardForUser Router.shardForKey
  rw [size_router, size_router, size]

/-- The binding for writing to a shard is to its primary alone. -/
theorem bind_write (cluster : Cluster) (shard : ShardIndex) :
    cluster.bind shard .write =
      match cluster.shards[shard.num]? with
      | none => .error (.unknownShard shard cluster.shards.length)
      | some stored =>
        if stored.primary.unavailable then .error (.failure .acquire .unavailable)
        else .ok (.direct shard ⟨shard, .primary, stored.primary⟩) := by
  unfold bind Router.pickShard Router.site
  rw [getElem?_sites, size_router]
  cases cluster.shards[shard.num]? with
  | none => rfl
  | some stored =>
    simp only [Option.map_some, Shard.site, Member.acquire, Site.replicaFor]
    cases stored.primary.unavailable <;> rfl

/-- A write is permitted exactly on a healthy primary, whatever the operation. -/
theorem permitWrite_eq_ok_iff {cluster : Cluster} {shard : ShardIndex} {operation : Operation} :
    cluster.permitWrite shard operation = .ok () ↔ cluster.Healthy shard := by
  unfold permitWrite Healthy
  rw [bind_write]
  cases cluster.shards[shard.num]? with
  | none => simp
  | some stored =>
    rcases stored with ⟨tables, clock, ⟨unavailable, failing⟩, replica⟩
    cases unavailable <;> cases failing <;>
      simp [Member.permit, Binding.direct, Binding.primary, Faults.none]

/-- A write is refused for the switches of the primary: first as it is unavailable, then as it
    fails. -/
theorem permitWrite_eq {cluster : Cluster} {shard : ShardIndex} {site : Shard}
    (there : cluster.shards[shard.num]? = some site) (operation : Operation) :
    cluster.permitWrite shard operation =
      if site.primary.unavailable then .error (.failure .acquire .unavailable)
      else if site.primary.failing then .error (.failure operation .refused)
      else .ok () := by
  rcases site with ⟨tables, clock, ⟨unavailable, failing⟩, replica⟩
  unfold permitWrite
  rw [bind_write, there]
  cases unavailable <;> rfl

/-- Tables have no part in whether a write is permitted. -/
theorem permitWrite_setTables (cluster : Cluster) (shard other : ShardIndex) (tables : Tables)
    (operation : Operation) :
    (cluster.setTables shard tables).permitWrite other operation =
      cluster.permitWrite other operation := by
  unfold permitWrite
  rw [bind_write, bind_write, setTables, getElem?_modifyShard, length_modifyShard]
  cases cluster.shards[other.num]? with
  | none => rfl
  | some stored =>
    rw [Option.map_some]
    by_cases same : shard.num = other.num
    · rw [if_pos same]
    · rw [if_neg same]

/-- An order's shard is found exactly if it is part of the topology. -/
theorem shardForOrder_eq_ok {cluster : Cluster} {id : OrderId} {shard : ShardIndex} :
    cluster.router.shardForOrder id = .ok shard ↔ cluster.Has id.shard ∧ shard = id.shard := by
  unfold Router.shardForOrder Router.site Has
  rw [getElem?_sites]
  by_cases present : id.shard.num < cluster.shards.length
  · rw [List.getElem?_eq_getElem present]
    simp [Except.map, present, eq_comm]
  · rw [List.getElem?_eq_none (Nat.le_of_not_lt present)]
    simp [Except.map, present]

end OrderDesk.Cluster
