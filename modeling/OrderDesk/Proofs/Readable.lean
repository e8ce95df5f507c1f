import OrderDesk.Proofs.Outcome

/-!
# When a read is answered

Which databases of a shard are down decides alone whether a read of the shard is answered: for
reading, the primary has to hand out connections, and it or its replica has to do the work; for
writing, the primary has to do both. A read that is answered tells what the primary stores, to the
letter, and no fault is ever reported as something that is missing.
-/

namespace OrderDesk

/-- A database hands out connections and does its work. -/
def Faults.works (faults : Faults) : Bool := !faults.unavailable && !faults.failing

/-- An answer that reports a fault of the storage. -/
def Outage {α : Type} (answer : Except Error α) : Prop := ∃ error, answer = .error (.storage error)

/-- Where a call gives the right answer while it is served, and only then, a fault of the storage is
    reported exactly where it is not served. -/
theorem outage_iff {α : Type} {answer right : Except Error α} {served : Prop}
    (sound : ¬ Outage right) (up : served → answer = right) (down : ¬ served → Outage answer) :
    Outage answer ↔ ¬ served := by
  refine ⟨fun out serves => sound ?_, down⟩
  rwa [up serves] at out

/-- Whether the databases of a shard serve an intent. For reading, the primary is asked for a
    connection first and always; its work may then be done by a replica. -/
def Shard.serves (shard : Shard) : Intent → Bool
  | .write => shard.primary.works
  | .read => !shard.primary.unavailable &&
      (!shard.primary.failing || shard.replica.any Faults.works)

namespace Cluster

/-- Whether there is a shard whose databases serve an intent. -/
def serves (cluster : Cluster) (intent : Intent) (shard : ShardIndex) : Bool :=
  (cluster.shards[shard.num]?).any (·.serves intent)

variable {cluster : Cluster} {intent : Intent} {shard : ShardIndex}

/-! ## One shard -/

section OneShard

variable {α : Type} (operation : Operation) (look : Tables → α)

/-- A value that is read from a shard for an intent. -/
def ask (cluster : Cluster) (intent : Intent) (shard : ShardIndex) (operation : Operation)
    (look : Tables → α) : Except StorageError α :=
  match cluster.bind shard intent with
  | .error error => .error error
  | .ok binding => cluster.read operation look binding

theorem fetch_eq_ask :
    cluster.fetch shard operation look = cluster.ask .read shard operation look :=
  rfl

/-- Work on a primary alone. -/
theorem read_direct_eq_ok_iff {member : Member} {value : α} :
    cluster.read operation look (.direct shard member) = .ok value ↔
      member.faults.failing = false ∧ value = look (cluster.tables member.shard) := by
  rw [read_eq, Binding.direct]
  cases member.faults.failing <;> simp [eq_comm]

/-- Work on a replica, with the primary of the same shard held back. -/
theorem read_withFallback_eq_ok_iff {replica primary : Member}
    (same : replica.shard = primary.shard) {value : α} :
    cluster.read operation look (.withFallback shard replica primary) = .ok value ↔
      (primary.faults.failing = false ∨ replica.faults.failing = false) ∧
        value = look (cluster.tables primary.shard) := by
  rw [read_eq, Binding.withFallback]
  simp only [same]
  cases replica.faults.failing <;> cases primary.faults.failing <;> simp [eq_comm (b := value)]

/-- A read is answered exactly where the databases of the shard serve its intent, with what the
    shard stores. -/
theorem ask_eq_ok_iff {value : α} :
    cluster.ask intent shard operation look = .ok value ↔
      cluster.serves intent shard = true ∧ value = look (cluster.tables shard) := by
  unfold ask serves
  cases intent with
  | write =>
    rw [bind_write]
    cases cluster.shards[shard.num]? with
    | none => simp
    | some stored =>
      cases down : stored.primary.unavailable with
      | true => simp [Shard.serves, Faults.works, down]
      | false => simp [Shard.serves, Faults.works, down, read_direct_eq_ok_iff]
  | read =>
    rw [bind_read]
    cases cluster.shards[shard.num]? with
    | none => simp
    | some stored =>
      cases down : stored.primary.unavailable with
      | true => simp [Shard.serves, down]
      | false =>
        cases beside : stored.replica with
        | none => simp [Shard.serves, down, beside, read_direct_eq_ok_iff]
        | some faults =>
          cases away : faults.unavailable with
          | true => simp [Shard.serves, Faults.works, down, beside, away, read_direct_eq_ok_iff]
          | false =>
            simp [Shard.serves, Faults.works, down, beside, away, read_withFallback_eq_ok_iff]

theorem ask_of_serves (serves : cluster.serves intent shard = true) :
    cluster.ask intent shard operation look = .ok (look (cluster.tables shard)) :=
  (ask_eq_ok_iff operation look).2 ⟨serves, rfl⟩

theorem exists_ask_of_not_serves (fails : cluster.serves intent shard = false) :
    ∃ error, cluster.ask intent shard operation look = .error error := by
  cases asked : cluster.ask intent shard operation look with
  | error error => exact ⟨error, rfl⟩
  | ok value =>
    have served := ((ask_eq_ok_iff operation look).1 asked).1
    rw [fails] at served
    cases served

end OneShard

/-! ## Orders by number -/

theorem order_eq_ask (intent : Intent) {id : OrderId} (present : cluster.Has id.shard) :
    cluster.order id intent =
      match cluster.ask intent id.shard .readOrder fun tables => tables.order? id with
      | .error error => .error (.storage error)
      | .ok none => .error (.orderNotFound id)
      | .ok (some order) => .ok order := by
  unfold order ask
  rw [shardForOrder_eq_ok.2 ⟨present, rfl⟩]
  simp only
  cases cluster.bind id.shard intent <;> rfl

theorem order_of_serves {id : OrderId} (serves : cluster.serves intent id.shard = true)
    (present : cluster.Has id.shard) : cluster.order id intent =
      match cluster.stored? id with
      | none => .error (.orderNotFound id)
      | some order => .ok order := by
  rw [order_eq_ask intent present, ask_of_serves _ _ serves]
  unfold stored?
  cases (cluster.tables id.shard).order? id <;> rfl

theorem outage_order_iff {id : OrderId} (present : cluster.Has id.shard) :
    Outage (cluster.order id intent) ↔ ¬ cluster.serves intent id.shard = true := by
  refine outage_iff ?_ (fun serves => order_of_serves serves present) fun fails => ?_
  · rintro ⟨error, told⟩
    cases found : cluster.stored? id <;> simp [found] at told
  · obtain ⟨error, asked⟩ := exists_ask_of_not_serves .readOrder (fun tables => tables.order? id)
      (Bool.eq_false_iff.2 fails)
    rw [order_eq_ask intent present, asked]
    exact ⟨error, rfl⟩

/-! ## The units that are left of an article -/

/-- The units that are left of an article are those of its row. -/
theorem availableOf_eq (inventory : Inventory) (sku : Sku) :
    inventory.availableOf sku =
      match inventory.get? sku with
      | none => .error (.stockNotFound sku)
      | some row => row.available := by
  unfold Inventory.availableOf Inventory.requireAll Inventory.rowsOf
  cases found : inventory.get? sku with
  | none => simp [found]
  | some row => simp [found, Inventory.sku_of_get? found]

theorem available_of_serves (serves : cluster.serves .read .inventory = true) (sku : Sku) :
    cluster.available sku = cluster.inventory.availableOf sku := by
  unfold available Inventory.availableOf inventory
  rw [stocks_eq_fetch, fetch_eq_ask, ask_of_serves _ _ serves]
  simp only
  cases Inventory.requireAll [sku] ((cluster.tables .inventory).stock.rowsOf [sku]) <;> rfl

theorem not_outage_availableOf (inventory : Inventory) (sku : Sku) :
    ¬ Outage (inventory.availableOf sku) := by
  rintro ⟨error, told⟩
  rw [availableOf_eq] at told
  cases found : inventory.get? sku with
  | none => simp [found] at told
  | some row =>
    simp only [found, Stock.available] at told
    split at told <;> simp at told

theorem outage_available_iff (sku : Sku) :
    Outage (cluster.available sku) ↔ ¬ cluster.serves .read .inventory = true := by
  refine outage_iff (not_outage_availableOf cluster.inventory sku)
    (fun serves => available_of_serves serves sku) fun fails => ?_
  obtain ⟨error, asked⟩ := exists_ask_of_not_serves .readStocks
    (fun tables => tables.stock.rowsOf [sku]) (Bool.eq_false_iff.2 fails)
  refine ⟨error, ?_⟩
  unfold available
  rw [stocks_eq_fetch, fetch_eq_ask, asked]

/-! ## All orders -/

/-- Several shards are read exactly where the first is read and the others are. -/
theorem gather_cons_eq_ok_iff {rest : List ShardIndex} {orders : List Order} :
    cluster.gather (shard :: rest) = .ok orders ↔
      ∃ here there, cluster.fetch shard .listOrders Tables.orders = .ok here ∧
        cluster.gather rest = .ok there ∧ orders = here ++ there := by
  -- Every shard is bound before the first is read, so which error is reported does not split along
  -- the list; only success does.
  unfold gather fetch
  rw [pickEach_cons]
  cases cluster.bind shard .read with
  | error error => simp
  | ok binding =>
    cases Id.run (cluster.router.pickEach (m := Id) Member.acquire .read rest) with
    | error error => simp
    | ok bindings =>
      simp only [ordersOf]
      cases cluster.read .listOrders Tables.orders binding with
      | error error => simp
      | ok here =>
        cases cluster.ordersOf bindings with
        | error error => simp
        | ok there => simp [eq_comm]

theorem gather_eq_ok_iff {shards : List ShardIndex} {orders : List Order} :
    cluster.gather shards = .ok orders ↔
      (∀ shard ∈ shards, cluster.serves .read shard = true) ∧
        orders = shards.flatMap fun shard => (cluster.tables shard).orders := by
  induction shards generalizing orders with
  | nil =>
    have nothing : cluster.gather [] = .ok [] := rfl
    simp [nothing, eq_comm (b := orders)]
  | cons shard rest ih =>
    rw [gather_cons_eq_ok_iff, List.forall_mem_cons, List.flatMap_cons]
    simp only [fetch_eq_ask, ask_eq_ok_iff, ih]
    constructor
    · rintro ⟨_, _, ⟨serves, rfl⟩, ⟨others, rfl⟩, rfl⟩
      exact ⟨⟨serves, others⟩, rfl⟩
    · rintro ⟨⟨serves, others⟩, rfl⟩
      exact ⟨_, _, ⟨serves, rfl⟩, ⟨others, rfl⟩, rfl⟩

theorem mem_indices : shard ∈ cluster.router.indices ↔ cluster.Has shard := by
  rcases shard with ⟨i⟩
  simp [Router.indices, Has]

/-- The orders of all shards are all orders. -/
theorem flatMap_indices (cluster : Cluster) :
    (cluster.router.indices.flatMap fun shard => (cluster.tables shard).orders) =
      cluster.everyOrder := by
  unfold everyOrder Router.indices
  rw [List.flatMap_map, List.flatMap_def, List.flatMap_def, size_router]
  refine congrArg List.flatten (List.ext_getElem (by simp) fun i left right => ?_)
  rw [List.length_map] at right
  simp [tables, List.getElem?_eq_getElem right]

/-- A list of orders that is put in order has the greater numbers first. -/
theorem pairwise_newestFirst (orders : List Order) :
    (orders.mergeSort newestFirst).Pairwise fun a b => b.id.num ≤ a.id.num := by
  have sorted : (orders.mergeSort newestFirst).Pairwise fun a b => newestFirst a b := by
    apply List.pairwise_mergeSort
    · intro a b c first second
      simp only [newestFirst, decide_eq_true_eq] at first second ⊢
      exact Nat.le_trans second first
    · intro a b
      simpa [newestFirst] using Nat.le_total b.id.num a.id.num
  exact sorted.imp fun newer => of_decide_eq_true newer

theorem orders_of_serves (serves : ∀ shard, cluster.Has shard → cluster.serves .read shard = true) :
    cluster.orders = .ok (cluster.everyOrder.mergeSort newestFirst) := by
  have gathered : cluster.gather cluster.router.indices = .ok cluster.everyOrder :=
    gather_eq_ok_iff.2 ⟨fun shard member => serves shard (mem_indices.1 member),
      cluster.flatMap_indices.symm⟩
  rw [orders_eq_gather, gathered]

theorem outage_orders_iff :
    Outage cluster.orders ↔ ¬ ∀ shard, cluster.Has shard → cluster.serves .read shard = true := by
  refine outage_iff (fun ⟨_, told⟩ => nomatch told) orders_of_serves fun fails => ?_
  rw [orders_eq_gather]
  cases gathered : cluster.gather cluster.router.indices with
  | error error => exact ⟨error, rfl⟩
  | ok orders =>
    have all := (gather_eq_ok_iff.1 gathered).1
    exact absurd (fun shard present => all shard (mem_indices.2 present)) fails

/-- A read under faults is exact, or it fails. On any cluster, however the switches of its databases
    stand: a number that encodes no shard of the cluster is not found. Reading an order reports a
    fault of the storage exactly where its shard does not serve the intent, and otherwise tells the
    order that is stored under the number, or that there is none. Asking for the units that are left
    of an article reports a fault exactly where the first shard does not serve reading, and
    otherwise tells that there is no row, or that more is promised than held, or the difference.
    Listing reports a fault exactly where some shard does not serve reading, and otherwise lists
    every stored order, the greatest number first. -/
theorem reads_exact_or_fail (cluster : Cluster) :
    (∀ id intent, ¬ cluster.Has id.shard → cluster.order id intent = .error (.orderNotFound id)) ∧
    (∀ id intent, cluster.Has id.shard →
      (Outage (cluster.order id intent) ↔ ¬ cluster.serves intent id.shard = true) ∧
      (cluster.serves intent id.shard = true → cluster.order id intent =
        match cluster.stored? id with
        | none => .error (.orderNotFound id)
        | some order => .ok order)) ∧
    (∀ sku,
      (Outage (cluster.available sku) ↔ ¬ cluster.serves .read .inventory = true) ∧
      (cluster.serves .read .inventory = true →
        match cluster.inventory.get? sku with
        | none => cluster.available sku = .error (.stockNotFound sku)
        | some row =>
          if row.total < row.reserved then
            cluster.available sku = .error (.negativeAvailable sku row.total row.reserved)
          else ∃ units, cluster.available sku = .ok units ∧
            units.toNat = row.total.toNat - row.reserved.toNat)) ∧
    (Outage cluster.orders ↔ ∃ shard, cluster.Has shard ∧ ¬ cluster.serves .read shard = true) ∧
    ((∀ shard, cluster.Has shard → cluster.serves .read shard = true) →
      ∃ listed, cluster.orders = .ok listed ∧ listed.Perm cluster.everyOrder ∧
        listed.Pairwise fun a b => b.id.num ≤ a.id.num) := by
  refine ⟨fun id intent absent => order_of_not_has absent intent, ?_, ?_, ?_, ?_⟩
  · exact fun id intent present => ⟨outage_order_iff present, (order_of_serves · present)⟩
  · refine fun sku => ⟨outage_available_iff sku, fun serves => ?_⟩
    rw [available_of_serves serves, availableOf_eq]
    cases found : cluster.inventory.get? sku with
    | none => rfl
    | some row =>
      obtain rfl := Inventory.sku_of_get? found
      simp only [Stock.available]
      by_cases sound : row.reserved ≤ row.total
      · rw [if_neg (UInt32.not_lt.2 sound), if_pos sound]
        exact ⟨_, rfl, UInt32.toNat_sub_of_le _ _ sound⟩
      · rw [if_pos (UInt32.not_le.1 sound), if_neg sound]
  · rw [outage_orders_iff]
    simp only [not_forall, exists_prop]
  · intro serves
    exact ⟨_, orders_of_serves serves, List.mergeSort_perm _ _, pairwise_newestFirst _⟩

/-- Both primaries fail, and only the first shard has a replica that can be had: its reads are
    answered, its writes and all reads of the second shard are not. -/
theorem reads_exact_or_fail_twoShards :
    let cluster :=
      ((twoShards.setPrimary ⟨0⟩ ⟨false, true⟩).setPrimary ⟨1⟩ ⟨false, true⟩).setReplica
        ⟨1⟩ ⟨true, false⟩
    let here : OrderId := ⟨1000, by decide, by decide⟩
    let there : OrderId := ⟨1001, by decide, by decide⟩
    let nowhere : OrderId := ⟨1002, by decide, by decide⟩
    cluster.order here .read = .error (.orderNotFound here) ∧ Outage (cluster.order here .write) ∧
      Outage (cluster.order there .read) ∧
      cluster.order nowhere .read = .error (.orderNotFound nowhere) ∧
      (∃ units, cluster.available ⟨7⟩ = .ok units ∧ units.toNat = 3) ∧ Outage cluster.orders := by
  intro cluster here there nowhere
  obtain ⟨outside, byNumber, leftOf, listing, -⟩ := reads_exact_or_fail cluster
  have first : cluster.Has here.shard := by decide
  have second : cluster.Has there.shard := by decide
  have served : cluster.serves .read here.shard = true := by decide
  have unserved : ¬ cluster.serves .read there.shard = true := by decide
  have empty : cluster.stored? here = none := by decide
  have told := (byNumber here .read first).2 served
  rw [empty] at told
  refine ⟨told, (byNumber here .write first).1.2 (by decide),
    (byNumber there .read second).1.2 unserved, outside nowhere .read (by decide), ?_,
    listing.2 ⟨there.shard, second, unserved⟩⟩
  have stocked : here.shard = .inventory := by decide
  rw [stocked] at served
  exact (leftOf ⟨7⟩).2 served

end Cluster

end OrderDesk
