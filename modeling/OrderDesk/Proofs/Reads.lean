import OrderDesk.Proofs.Cluster
import OrderDesk.Checkout

/-!
# What a read finds

A read is bound to the primary of a shard and, if it can be had, to its replica. Whatever becomes of
the replica, the primary is asked in the end; so where the primary does its work a read finds what
is stored, and it fails only where a write would not get a connection either. Every read of the
store is put down to fetching a value from a shard, or from several shards in turn.
-/

namespace OrderDesk.Cluster

/-- The primary of a shard hands out connections. -/
def Available (cluster : Cluster) (shard : ShardIndex) : Prop :=
  ∃ stored, cluster.shards[shard.num]? = some stored ∧ stored.primary.unavailable = false

/-- The primary of a shard refuses work on its connections. -/
def Failing (cluster : Cluster) (shard : ShardIndex) : Prop :=
  ∃ stored, cluster.shards[shard.num]? = some stored ∧ stored.primary.failing = true

variable {cluster : Cluster} {shard : ShardIndex}

/-- The binding for reading from a shard is to its replica, with the primary held back, or to its
    primary alone. -/
theorem bind_read (cluster : Cluster) (shard : ShardIndex) :
    cluster.bind shard .read =
      match cluster.shards[shard.num]? with
      | none => .error (.unknownShard shard cluster.shards.length)
      | some stored =>
        if stored.primary.unavailable then .error (.failure .acquire .unavailable)
        else
          match stored.replica with
          | none => .ok (.direct shard ⟨shard, .primary, stored.primary⟩)
          | some faults =>
            if faults.unavailable then .ok (.direct shard ⟨shard, .primary, stored.primary⟩)
            else .ok (.withFallback shard ⟨shard, .replica, faults⟩
              ⟨shard, .primary, stored.primary⟩) := by
  unfold bind Router.pickShard Router.site
  rw [getElem?_sites, size_router]
  cases cluster.shards[shard.num]? with
  | none => rfl
  | some stored =>
    simp only [Option.map_some, Shard.site, Member.acquire, Site.replicaFor]
    cases stored.primary.unavailable with
    | true => rfl
    | false =>
      cases stored.replica with
      | none => rfl
      | some faults =>
        simp only [Option.map_some]
        cases faults.unavailable <;> rfl

theorem exists_bind_write_iff :
    (∃ binding, cluster.bind shard .write = .ok binding) ↔ cluster.Available shard := by
  unfold Available
  rw [bind_write]
  cases cluster.shards[shard.num]? with
  | none => simp
  | some stored => cases down : stored.primary.unavailable <;> simp [down]

/-- Reading fails to get a connection exactly where writing does. -/
theorem bind_read_eq_error_iff {error : StorageError} :
    cluster.bind shard .read = .error error ↔ cluster.bind shard .write = .error error := by
  rw [bind_read, bind_write]
  cases cluster.shards[shard.num]? with
  | none => rfl
  | some stored =>
    simp only
    split
    · rfl
    · split
      · simp
      · split <;> simp

/-- A binding for reading leads to databases of its shard only. -/
theorem shard_of_bind_read {binding : Binding Member}
    (bound : cluster.bind shard .read = .ok binding) :
    binding.current.shard = shard ∧
      ∀ primary, binding.fallback = some primary → primary.shard = shard := by
  rw [bind_read] at bound
  split at bound
  · cases bound
  · split at bound
    · cases bound
    · split at bound
      · cases bound
        exact ⟨rfl, fun primary none => nomatch none⟩
      · split at bound
        · cases bound
          exact ⟨rfl, fun primary none => nomatch none⟩
        · cases bound
          exact ⟨rfl, fun primary held => by cases held; rfl⟩

theorem Healthy.not_failing (healthy : cluster.Healthy shard) : ¬ cluster.Failing shard := by
  rintro ⟨stored, found, failing⟩
  obtain ⟨same, there, fine⟩ := healthy
  obtain rfl := Option.some.inj (found.symm.trans there)
  rw [fine] at failing
  cases failing

theorem Healthy.available (healthy : cluster.Healthy shard) : cluster.Available shard := by
  obtain ⟨stored, there, fine⟩ := healthy
  exact ⟨stored, there, by rw [fine]; rfl⟩

/-! ## Values from one shard -/

variable {α : Type} (operation : Operation) (look : Tables → α)

/-- A value read from a shard. -/
def fetch (cluster : Cluster) (shard : ShardIndex) (operation : Operation) (look : Tables → α) :
    Except StorageError α :=
  match cluster.bind shard .read with
  | .error error => .error error
  | .ok binding => cluster.read operation look binding

/-- Work is done on the connection that is bound or, if that fails, on a primary held back. -/
theorem read_eq (binding : Binding Member) : cluster.read operation look binding =
    if binding.current.faults.failing = false then .ok (look (cluster.tables binding.current.shard))
    else
      match binding.fallback with
      | none => .error (.failure operation .refused)
      | some primary =>
        if primary.faults.failing = false then .ok (look (cluster.tables primary.shard))
        else .error (.failure operation .refused) := by
  rcases binding with ⟨_, current, fallback⟩
  cases first : current.faults.failing with
  | false =>
    simp only [read, Binding.run, Member.permit, first, Id.run]
    rfl
  | true =>
    cases fallback with
    | none =>
      simp only [read, Binding.run, Member.permit, first, Id.run]
      rfl
    | some primary =>
      cases second : primary.faults.failing <;>
      · simp only [read, Binding.run, Member.permit, first, second, Id.run]
        rfl

theorem read_direct {member : Member} (works : member.faults.failing = false) :
    cluster.read operation look (.direct shard member) =
      .ok (look (cluster.tables member.shard)) := by
  rw [read_eq, Binding.direct]
  exact if_pos works

/-- The replica does the work, or the primary does it in its place. -/
theorem read_withFallback {replica primary : Member} (same : replica.shard = primary.shard)
    (works : primary.faults.failing = false) :
    cluster.read operation look (.withFallback shard replica primary) =
      .ok (look (cluster.tables primary.shard)) := by
  rw [read_eq, Binding.withFallback]
  simp only [same, works, if_true, ite_self]

/-- Where the primary does its work, a read finds what is stored, whatever the replica does. It
    fails only where a write would not get a connection. -/
theorem fetch_of_not_failing (steady : ¬ cluster.Failing shard) :
    cluster.fetch shard operation look =
      (cluster.bind shard .write).map fun _ => look (cluster.tables shard) := by
  unfold fetch
  rw [bind_read, bind_write]
  cases found : cluster.shards[shard.num]? with
  | none => rfl
  | some stored =>
    have works : stored.primary.failing = false :=
      Bool.eq_false_iff.2 fun failing => steady ⟨stored, found, failing⟩
    have direct : cluster.read operation look (.direct shard ⟨shard, .primary, stored.primary⟩) =
        .ok (look (cluster.tables shard)) := read_direct operation look works
    cases down : stored.primary.unavailable with
    | true => simp only [down, if_true, Except.map]
    | false =>
      cases beside : stored.replica with
      | none => simp [down, beside, direct, Except.map]
      | some faults =>
        by_cases away : faults.unavailable = true
        · simp [down, beside, away, direct, Except.map]
        · have fell : cluster.read operation look (.withFallback shard ⟨shard, .replica, faults⟩
              ⟨shard, .primary, stored.primary⟩) = .ok (look (cluster.tables shard)) :=
            read_withFallback operation look rfl works
          simp [down, beside, away, fell, Except.map]

theorem fetch_of_healthy (healthy : cluster.Healthy shard) :
    cluster.fetch shard operation look = .ok (look (cluster.tables shard)) := by
  obtain ⟨binding, bound⟩ := exists_bind_write_iff.2 healthy.available
  rw [fetch_of_not_failing operation look healthy.not_failing, bound]
  rfl

variable {operation look} in
/-- What is fetched from a shard is what it stores, however the switches stand. -/
theorem fetch_eq_ok {value : α} (fetched : cluster.fetch shard operation look = .ok value) :
    value = look (cluster.tables shard) := by
  unfold fetch at fetched
  split at fetched
  · cases fetched
  · rename_i binding bound
    obtain ⟨here, behind⟩ := shard_of_bind_read bound
    rw [read_eq] at fetched
    split at fetched
    · cases fetched
      rw [here]
    · split at fetched
      · cases fetched
      · rename_i primary held
        split at fetched
        · cases fetched
          rw [behind primary held]
        · cases fetched

theorem lookUp_eq_fetch (cluster : Cluster) (id : OrderId) :
    cluster.lookUp id =
      match cluster.router.shardForOrder id with
      | .error _ => .error (.orderNotFound id)
      | .ok shard =>
        match cluster.fetch shard .readOrder fun tables => tables.order? id with
        | .error error => .error (.storage error)
        | .ok none => .error (.orderNotFound id)
        | .ok (some order) => .ok order := by
  unfold lookUp order fetch
  cases cluster.router.shardForOrder id with
  | error error => rfl
  | ok shard =>
    simp only
    cases cluster.bind shard .read <;> rfl

/-- An order that is looked up is the one that is stored under its number. -/
theorem stored?_of_lookUp {id : OrderId} {order : Order} (found : cluster.lookUp id = .ok order) :
    cluster.stored? id = some order := by
  rw [lookUp_eq_fetch] at found
  split at found
  · cases found
  · rename_i shard located
    obtain ⟨-, rfl⟩ := shardForOrder_eq_ok.1 located
    split at found
    · cases found
    · cases found
    · rename_i fetched
      cases found
      exact (fetch_eq_ok fetched).symm

theorem stocks_eq_fetch (cluster : Cluster) (skus : List Sku) :
    cluster.stocks skus =
      match cluster.fetch .inventory .readStocks fun tables => tables.stock.rowsOf skus with
      | .error error => .error (.storage error)
      | .ok rows =>
        match Inventory.requireAll skus rows with
        | .error error => .error error
        | .ok () => .ok rows := by
  unfold stocks fetch
  cases cluster.bind .inventory .read <;> rfl

/-! ## Orders from several shards -/

/-- The orders of the given shards. Every shard is bound before the first is read. -/
def gather (cluster : Cluster) (shards : List ShardIndex) : Except StorageError (List Order) :=
  match Id.run (cluster.router.pickEach (m := Id) Member.acquire .read shards) with
  | .error error => .error error
  | .ok bindings => cluster.ordersOf bindings

theorem orders_eq_gather (cluster : Cluster) :
    cluster.orders =
      match cluster.gather cluster.router.indices with
      | .error error => .error (.storage error)
      | .ok orders => .ok (orders.mergeSort newestFirst) := by
  unfold orders gather Router.pickAll
  cases Id.run (cluster.router.pickEach (m := Id) Member.acquire .read cluster.router.indices) <;>
    rfl

theorem pickEach_cons (cluster : Cluster) (shard : ShardIndex) (rest : List ShardIndex) :
    Id.run (cluster.router.pickEach (m := Id) Member.acquire .read (shard :: rest)) =
      match cluster.bind shard .read with
      | .error error => .error error
      | .ok binding =>
        match Id.run (cluster.router.pickEach (m := Id) Member.acquire .read rest) with
        | .error error => .error error
        | .ok bindings => .ok (binding :: bindings) := by
  rw [Router.pickEach, bind]
  simp only [Id.run]
  rcases cluster.router.pickShard (m := Id) Member.acquire shard .read with error | binding
  · rfl
  · simp only
    rcases cluster.router.pickEach (m := Id) Member.acquire .read rest with error | bindings
    · rfl
    · rfl

/-- A shard whose primary does its work adds its orders, if it can be bound. -/
theorem gather_cons_of_not_failing (steady : ¬ cluster.Failing shard) (rest : List ShardIndex) :
    cluster.gather (shard :: rest) =
      match cluster.bind shard .write with
      | .error error => .error error
      | .ok _ => (cluster.gather rest).map ((cluster.tables shard).orders ++ ·) := by
  have fetched := fetch_of_not_failing .listOrders Tables.orders steady
  unfold fetch at fetched
  unfold gather
  rw [pickEach_cons]
  cases written : cluster.bind shard .write with
  | error error => rw [bind_read_eq_error_iff.2 written]
  | ok primary =>
    rw [written] at fetched
    cases bound : cluster.bind shard .read with
    | error error =>
      rw [bind_read_eq_error_iff.1 bound] at written
      cases written
    | ok binding =>
      rw [bound] at fetched
      simp only at fetched ⊢
      cases Id.run (cluster.router.pickEach (m := Id) Member.acquire .read rest) with
      | error error => rfl
      | ok bindings =>
        simp only [ordersOf, fetched, Except.map]
        cases cluster.ordersOf bindings <;> rfl

end OrderDesk.Cluster
