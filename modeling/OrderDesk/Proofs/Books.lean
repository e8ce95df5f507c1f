import Mathlib.Data.List.Perm.Subperm
import OrderDesk.Proofs.Account
import OrderDesk.Proofs.Facts
import OrderDesk.Proofs.Placement

/-!
# Books of orders

Which number an order gets depends on the topology; that it is the third that was stored does not.
A book lists, next to a cluster, the numbers of the orders that calls have stored in it, in the
order in which they did. Calls that name orders by their place in the book can be made to any
cluster. Here stands what a book of a healthy cluster always satisfies, and what one call makes of
it.
-/

namespace OrderDesk

/-- How a call names an order: by the place at which it was stored, counted from zero, or by a
    number. -/
inductive Reference where
  | nth (place : Nat)
  | raw (number : Int64)
  deriving DecidableEq, Repr

/-- A public call that names its order by a reference. -/
inductive Ask where
  | create (request : CreateRequest)
  | settle (settlement : Settlement) (order : Reference)
  | info (order : Reference)
  | stock (request : StockRequest)
  deriving DecidableEq, Repr

/-- A call names its order by this number. -/
def Ask.Names (number : Int64) : Ask → Prop
  | .settle _ order | .info order => order = .raw number
  | _ => False

/-- A cluster, and the numbers of the orders that calls have stored in it, in that order. -/
structure Book where
  cluster : Cluster
  issued : List OrderId

namespace Book

/-- The numbers of the orders that are stored after a call and were not before it. -/
def newcomers (before after : Cluster) : List OrderId :=
  (after.everyOrder.map (·.id)).filter fun id => (before.stored? id).isNone

/-- The number that a reference stands for. A place that no order has taken stands for zero, which
    is no number of an order. -/
def number (book : Book) : Reference → Int64
  | .nth place =>
    match book.issued[place]? with
    | none => 0
    | some id => Int64.ofInt id.num
  | .raw number => number

/-- The call as it is made to the cluster. -/
def request (book : Book) : Ask → Facade.Request
  | .create request => .create request
  | .settle settlement order => .settle settlement ⟨book.number order⟩
  | .info order => .info ⟨book.number order⟩
  | .stock request => .stock request

/-- Serves one call, and takes down the order that it has stored. -/
def follow (book : Book) (ask : Ask) : Facade.Response × Book :=
  match Facade.serve book.cluster (book.request ask) with
  | (response, cluster) => (response, ⟨cluster, book.issued ++ newcomers book.cluster cluster⟩)

/-- Serves calls, one after the other: what each is answered, and the book after it. -/
def pages (book : Book) : List Ask → List (Facade.Response × Book)
  | [] => []
  | ask :: rest => book.follow ask :: (book.follow ask).2.pages rest

/-- The book after all calls. -/
def close (book : Book) (asks : List Ask) : Book :=
  asks.foldl (fun book ask => (book.follow ask).2) book

/-- The account of the order at a place. -/
def account (book : Book) (place : Nat) : Option Account :=
  book.issued[place]?.bind book.cluster.account

theorem follow_fst (book : Book) (ask : Ask) :
    (book.follow ask).1 = (Facade.serve book.cluster (book.request ask)).1 := rfl

theorem cluster_follow (book : Book) (ask : Ask) :
    (book.follow ask).2.cluster = (Facade.serve book.cluster (book.request ask)).2 := rfl

theorem issued_follow (book : Book) (ask : Ask) :
    (book.follow ask).2.issued = book.issued ++ newcomers book.cluster
      (book.follow ask).2.cluster :=
  rfl

@[simp] theorem close_cons (book : Book) (ask : Ask) (rest : List Ask) :
    book.close (ask :: rest) = (book.follow ask).2.close rest := rfl

/-! ## What a book satisfies -/

/-- A book of a healthy cluster: it lists each stored order once. -/
structure Kept (book : Book) : Prop where
  placed : book.cluster.Placed
  agreed : book.cluster.Agreed
  healthy : book.cluster.AllHealthy
  distinct : book.issued.Nodup
  listed : ∀ id, id ∈ book.issued ↔ (book.cluster.stored? id).isSome = true

theorem kept_of_unused {cluster : Cluster} (unused : cluster.Unused)
    (healthy : cluster.AllHealthy) :
    (⟨cluster, []⟩ : Book).Kept where
  placed := unused.placed
  agreed := unused.agreed
  healthy := healthy
  distinct := List.nodup_nil
  listed id := by simp [unused.stored?]

end Book

namespace Cluster

variable {cluster before after : Cluster}

theorem AllHealthy.settle (healthy : cluster.AllHealthy) (settlement : Settlement) (id : OrderId) :
    (cluster.settle settlement id).2.AllHealthy := by
  rcases cluster.settle_cases settlement id with
    ⟨error, failed⟩ | ⟨order, inventory, -, -, -, -, done⟩
  · rw [failed]
    exact healthy
  · rw [done]
    exact (healthy.setTables _ _).setTables _ _

/-- The stored orders are those that are found by their numbers. -/
theorem Placed.mem_everyOrder_iff (placed : cluster.Placed) {id : OrderId} :
    id ∈ cluster.everyOrder.map (·.id) ↔ (cluster.stored? id).isSome = true := by
  constructor
  · intro member
    obtain ⟨order, listed, rfl⟩ := List.mem_map.1 member
    obtain ⟨shard, there, inside⟩ := List.mem_flatMap.1 listed
    obtain ⟨i, found⟩ := List.getElem?_of_mem there
    have here : (cluster.tables ⟨i⟩).orders = shard.tables.orders := by
      unfold tables
      rw [found]
    rw [← here] at inside
    rw [(placed.stored?_of_mem inside).2]
    rfl
  · intro known
    obtain ⟨order, found⟩ := Option.isSome_iff_exists.1 known
    exact List.mem_map.2 ⟨order, mem_everyOrder found, Tables.id_of_order? found⟩

theorem Placed.mem_newcomers (placed : after.Placed) {id : OrderId} :
    id ∈ Book.newcomers before after ↔
      (after.stored? id).isSome = true ∧ before.stored? id = none := by
  unfold Book.newcomers
  rw [List.mem_filter, placed.mem_everyOrder_iff, Option.isNone_iff_eq_none]

theorem Placed.nodup_newcomers (placed : after.Placed) : (Book.newcomers before after).Nodup :=
  placed.nodup_everyOrder.filter _

/-- Where no order is stored that was not, nobody is new. -/
theorem Placed.newcomers_eq_nil (placed : after.Placed)
    (same : ∀ id, (after.stored? id).isSome = (before.stored? id).isSome) :
    Book.newcomers before after = [] := by
  refine List.eq_nil_iff_forall_not_mem.2 fun id member => ?_
  obtain ⟨stored, fresh⟩ := placed.mem_newcomers.1 member
  rw [same, fresh] at stored
  cases stored

/-- Where one more order is stored, it is the one that is new. -/
theorem Placed.newcomers_eq_singleton (placed : after.Placed) {id : OrderId}
    (fresh : before.stored? id = none) (stored : (after.stored? id).isSome = true)
    (same : ∀ other, id ≠ other → (after.stored? other).isSome = (before.stored? other).isSome) :
    Book.newcomers before after = [id] := by
  apply List.perm_singleton.1
  refine (List.perm_ext_iff_of_nodup placed.nodup_newcomers (List.nodup_singleton id)).2
    fun other => ?_
  rw [placed.mem_newcomers, List.mem_singleton]
  constructor
  · rintro ⟨known, absent⟩
    by_contra apart
    rw [same other (Ne.symm apart), absent] at known
    cases known
  · rintro rfl
    exact ⟨stored, fresh⟩

/-- Nobody is new but orders that were stored in between. -/
theorem Placed.length_newcomers_le (placed : after.Placed) {ids : List OrderId}
    (same : ∀ other, other ∉ ids → (after.stored? other).isSome = (before.stored? other).isSome) :
    (Book.newcomers before after).length ≤ ids.length := by
  have within : Book.newcomers before after ⊆ ids := by
    intro other member
    obtain ⟨stored, fresh⟩ := placed.mem_newcomers.1 member
    by_contra absent
    rw [same other absent, fresh] at stored
    cases stored
  exact (placed.nodup_newcomers.subperm within).length_le

/-- A checkout stores one order at most. -/
theorem Placed.length_newcomers_checkout (placed : cluster.Placed) (user : UserId)
    (items : List Item) : (Book.newcomers cluster (cluster.checkout user items).2).length ≤ 1 := by
  have kept := placed.checkout user items
  rcases checkout_cases placed user items with
    ⟨error, failed⟩ | ⟨id, inventory, state, answer, -, -, healthy, next, -, done⟩
  · rw [failed] at kept ⊢
    rw [kept.newcomers_eq_nil fun _ => rfl]
    exact Nat.zero_le 1
  · rw [done] at kept ⊢
    have others : ∀ other, other ∉ [id] → (((cluster.addOrder ⟨id, user, .new, items⟩).setInventory
        inventory).moveOrder ⟨id, user, .new, items⟩ state |>.stored? other).isSome =
          (cluster.stored? other).isSome := by
      intro other absent
      have apart : id ≠ other := fun equal => absent (List.mem_singleton.2 equal.symm)
      rw [stored?_ended _ inventory state placed healthy next, if_neg apart]
    exact kept.length_newcomers_le others

/-- A settlement stores no order. -/
theorem Placed.newcomers_settle (placed : cluster.Placed) (settlement : Settlement) (id : OrderId) :
    Book.newcomers cluster (cluster.settle settlement id).2 = [] := by
  apply (placed.settle settlement id).newcomers_eq_nil
  intro other
  rcases cluster.settle_cases settlement id with
    ⟨error, failed⟩ | ⟨order, inventory, healthy, found, -, -, done⟩
  · rw [failed]
  · obtain rfl : order.id = id := Tables.id_of_order? found
    rw [done, stored?_settled order inventory settlement.target healthy found]
    by_cases same : order.id = other
    · subst same
      rw [if_pos rfl, found]
      rfl
    · rw [if_neg same]

end Cluster

namespace Book

variable {book : Book}

/-- A public call keeps what a healthy cluster satisfies, its size, and its orders. -/
theorem Kept.serve (kept : book.Kept) (request : Facade.Request) :
    let after := (Facade.serve book.cluster request).2
    after.Placed ∧ after.Agreed ∧ after.AllHealthy ∧
      after.shards.length = book.cluster.shards.length ∧ book.cluster.Remembers after := by
  rcases Facade.serve_cases book.cluster request with
    same | ⟨user, items, same⟩ | ⟨settlement, id, same⟩
  · rw [same]
    exact ⟨kept.placed, kept.agreed, kept.healthy, rfl, .refl _⟩
  · rw [same]
    exact ⟨kept.placed.checkout user items, kept.agreed.checkout kept.placed user items,
      kept.healthy.checkout kept.placed user items, Cluster.length_checkout kept.placed user items,
      kept.placed.remembers_checkout user items⟩
  · rw [same]
    exact ⟨kept.placed.settle settlement id, kept.agreed.settle settlement id,
      kept.healthy.settle settlement id, Cluster.length_settle _ settlement id,
      Cluster.remembers_settle _ settlement id⟩

/-- Every call keeps a book. -/
theorem Kept.follow (kept : book.Kept) (ask : Ask) : (book.follow ask).2.Kept := by
  obtain ⟨placed, agreed, healthy, -, remembers⟩ := kept.serve (book.request ask)
  rw [← cluster_follow] at placed agreed healthy remembers
  refine ⟨placed, agreed, healthy, ?_, ?_⟩
  · rw [issued_follow]
    refine List.nodup_append.2 ⟨kept.distinct, placed.nodup_newcomers, ?_⟩
    rintro id old other fresh rfl
    rw [kept.listed, (placed.mem_newcomers.1 fresh).2] at old
    cases old
  · intro id
    rw [issued_follow, List.mem_append, kept.listed, placed.mem_newcomers]
    constructor
    · rintro (known | ⟨stored, -⟩)
      · obtain ⟨order, found⟩ := Option.isSome_iff_exists.1 known
        obtain ⟨later, still, -⟩ := remembers id order found
        exact Option.isSome_of_eq_some still
      · exact stored
    · intro stored
      cases found : book.cluster.stored? id with
      | none => exact .inr ⟨stored, rfl⟩
      | some order => exact .inl rfl

theorem Kept.length_follow (kept : book.Kept) (ask : Ask) :
    (book.follow ask).2.cluster.shards.length = book.cluster.shards.length :=
  (kept.serve (book.request ask)).2.2.2.1

theorem issued_prefix_follow (book : Book) (ask : Ask) :
    book.issued <+: (book.follow ask).2.issued :=
  List.prefix_append _ _

theorem issued_prefix_close (book : Book) (asks : List Ask) :
    book.issued <+: (book.close asks).issued := by
  induction asks generalizing book with
  | nil => exact List.prefix_rfl
  | cons ask rest ih => exact (book.issued_prefix_follow ask).trans (ih _)

/-- A call stores one order at most. -/
theorem Kept.length_issued_follow (kept : book.Kept) (ask : Ask) :
    (book.follow ask).2.issued.length ≤ book.issued.length + 1 := by
  have fewNew : (newcomers book.cluster (book.follow ask).2.cluster).length ≤ 1 := by
    rw [cluster_follow]
    rcases Facade.serve_cases book.cluster (book.request ask) with
      same | ⟨user, items, same⟩ | ⟨settlement, id, same⟩
    · rw [same, kept.placed.newcomers_eq_nil fun _ => rfl]
      exact Nat.zero_le 1
    · rw [same]
      exact kept.placed.length_newcomers_checkout user items
    · rw [same, kept.placed.newcomers_settle]
      exact Nat.zero_le 1
  rw [issued_follow, List.length_append]
  exact Nat.add_le_add_left fewNew _

theorem Kept.close (kept : book.Kept) (asks : List Ask) : (book.close asks).Kept := by
  induction asks generalizing book with
  | nil => exact kept
  | cons ask rest ih => exact ih (kept.follow ask)

/-- Calls store as many orders at most as there are calls. -/
theorem Kept.length_issued_close (kept : book.Kept) (asks : List Ask) :
    (book.close asks).issued.length ≤ book.issued.length + asks.length := by
  induction asks generalizing book with
  | nil => exact Nat.le_refl _
  | cons ask rest ih =>
    have later := ih (kept.follow ask)
    have here := kept.length_issued_follow ask
    rw [List.length_cons, close_cons]
    omega

/-- The number of an order in a book is at least the first that any shard gives out. -/
theorem Kept.stride_le (kept : book.Kept) {id : OrderId} (member : id ∈ book.issued) :
    OrderId.stride ≤ id.num := by
  obtain ⟨order, found⟩ := Option.isSome_iff_exists.1 ((kept.listed id).1 member)
  obtain ⟨place, first, -, digits⟩ := (kept.placed id.shard).exists_num_iff.1
    ⟨order, Tables.mem_of_order? found, rfl⟩
  rw [← Tables.id_of_order? found, digits]
  have least := Nat.mul_le_mul_left OrderId.stride first
  omega

/-- A shard has given out no more places than there are orders in the book. -/
theorem Kept.orderSequence_le (kept : book.Kept) (shard : ShardIndex) :
    (book.cluster.tables shard).orderSequence ≤ book.issued.length := by
  have numbered := kept.placed shard
  have within : (book.cluster.tables shard).orders.map (·.id) ⊆ book.issued := by
    intro id member
    obtain ⟨order, listed, rfl⟩ := List.mem_map.1 member
    rw [kept.listed, (kept.placed.stored?_of_mem listed).2]
    rfl
  have bound := (numbered.nodup.subperm within).length_le
  rwa [List.length_map, numbered.length_orders] at bound

/-! ## What one call makes of a book -/

/-- A call has stored an order with this account. -/
structure Enters (entry : Account) (inventory : Inventory) (id : OrderId) (before after : Book) :
    Prop where
  issued : after.issued = before.issued ++ [id]
  inventory : after.cluster.inventory = inventory
  accounts : ∀ other, after.cluster.account other =
    if id = other then some entry else before.cluster.account other

/-- A call has moved an order to a state. -/
structure Moves (state : OrderState) (inventory : Inventory) (id : OrderId) (before after : Book) :
    Prop where
  issued : after.issued = before.issued
  inventory : after.cluster.inventory = inventory
  accounts : ∀ other, after.cluster.account other =
    if id = other then (before.cluster.account other).map (·.moved state)
    else before.cluster.account other

/-- A call that changes nothing leaves the book as it is. -/
theorem Kept.follow_of_unchanged (kept : book.Kept) {ask : Ask} {response : Facade.Response}
    (served : Facade.serve book.cluster (book.request ask) = (response, book.cluster)) :
    book.follow ask = (response, book) := by
  have nobody : newcomers book.cluster book.cluster = [] :=
    kept.placed.newcomers_eq_nil fun _ => rfl
  unfold Book.follow
  rw [served]
  simp only [nobody, List.append_nil]

/-- A checkout whose order gets a number enters it, whatever becomes of the order. -/
theorem Kept.follow_create (kept : book.Kept) {request : CreateRequest} {user : UserId}
    {items : List Item} (known : UserId.ofRaw request.user = .ok user)
    (narrowed : WireItem.toItems request.items = .ok items) (nonempty : items ≠ [])
    (fits : OrderId.stride *
      ((book.cluster.tables (book.cluster.router.shardForUser user)).orderSequence
      + 1) + (book.cluster.router.shardForUser user).num ≤ maxInt64) :
    ∃ id, (book.follow (.create request)).1 = .created
        (match (book.cluster.inventory.reserving items).1 with
          | .error error => .error (.ofError error)
          | .ok () => .ok ⟨Int64.ofInt id.num⟩) ∧
      Enters ⟨user, (book.cluster.inventory.reserving items).2.1, items,
          [.ok .new, .ok (book.cluster.inventory.reserving items).2.1]⟩
        (book.cluster.inventory.reserving items).2.2 id book (book.follow (.create request)).2 := by
  generalize home : book.cluster.router.shardForUser user = shard at fits
  have present : book.cluster.Has shard := by
    rw [← home]
    exact book.cluster.has_shardForUser user
  have small : shard.num < OrderId.stride := Nat.lt_of_lt_of_le present book.cluster.le_max
  obtain ⟨id, composed, rfl⟩ := OrderId.exists_compose small fits
  have ended := Cluster.checkout_eq kept.placed kept.healthy nonempty home present composed
  have next : book.cluster.IsNext id := Cluster.isNext_of_compose composed
  have after : (book.follow (.create request)).2.cluster =
      book.cluster.place ⟨id, user, .new, items⟩ (book.cluster.inventory.reserving items).2.1
        (book.cluster.inventory.reserving items).2.2 := by
    rw [cluster_follow]
    show (Facade.createOrder book.cluster request).2 = _
    rw [Facade.createOrder_of_narrowed known narrowed, Facade.answer_snd, ended]
  have accounts : ∀ other, (book.follow (.create request)).2.cluster.account other =
      if id = other then some ⟨user, (book.cluster.inventory.reserving items).2.1, items,
        [.ok .new, .ok (book.cluster.inventory.reserving items).2.1]⟩
      else book.cluster.account other := by
    rw [after]
    exact Cluster.account_place kept.placed kept.agreed (kept.healthy id.shard present) next
  have entered : newcomers book.cluster (book.follow (.create request)).2.cluster = [id] := by
    apply (kept.follow _).placed.newcomers_eq_singleton (kept.placed.stored?_next next)
    · rw [← Cluster.isSome_account, accounts, if_pos rfl]
      rfl
    · intro other apart
      rw [← Cluster.isSome_account, accounts, if_neg apart, Cluster.isSome_account]
  refine ⟨id, ?_, ?_, ?_, ?_⟩
  · rw [follow_fst]
    show Facade.Response.created (Facade.createOrder book.cluster request).1 = _
    rw [Facade.createOrder_of_narrowed known narrowed, ended]
    cases (book.cluster.inventory.reserving items).1 <;> rfl
  · rw [issued_follow, entered]
  · rw [after]
    exact Cluster.inventory_added _ _ _ (kept.healthy id.shard present)
  · exact accounts

section Named

variable {order : Reference} {id : OrderId}

/-- A settlement fails and leaves the book as it is, or it moves its order. -/
theorem Kept.follow_settle (kept : book.Kept) (named : OrderId.ofRaw (book.number order) = .ok id)
    (settlement : Settlement) :
    match book.cluster.inventory.settling settlement id (book.cluster.account id) with
    | .error error => book.follow (.settle settlement order) =
        (.settled (.error (.ofError error)), book)
    | .ok inventory => (book.follow (.settle settlement order)).1 = .settled (.ok ()) ∧
        Moves settlement.target inventory id book (book.follow (.settle settlement order)).2 := by
  have called : Facade.settleOrder settlement book.cluster ⟨book.number order⟩ =
      Facade.answer (fun _ => ()) (book.cluster.settle settlement id) := by
    simp only [Facade.settleOrder, named]
  have settled := Cluster.settle_eq_of_healthy kept.healthy settlement id
  have failed : ∀ error, book.cluster.settle settlement id = (.error error, book.cluster) →
      book.follow (.settle settlement order) = (.settled (.error (.ofError error)), book) := by
    intro error fails
    apply kept.follow_of_unchanged
    simp only [Facade.serve, request, called, fails, Facade.answer]
  cases found : book.cluster.stored? id with
  | none =>
    rw [found] at settled
    simp only [Cluster.account, found, Option.map_none, Inventory.settling]
    exact failed _ settled
  | some stored =>
    obtain rfl : stored.id = id := Tables.id_of_order? found
    rw [found] at settled
    simp only [Cluster.account, found, Option.map_some, Inventory.settling]
    by_cases waits : stored.state = .awaitingPayment
    · simp only [if_pos waits] at settled ⊢
      cases adjusted : book.cluster.inventory.adjustedBy settlement.adjustment stored.items with
      | error error =>
        rw [adjusted] at settled
        exact failed _ settled
      | ok inventory =>
        rw [adjusted] at settled
        have healthyHere := kept.healthy _ (Cluster.has_of_stored? found)
        have after : (book.follow (.settle settlement order)).2.cluster =
            (book.cluster.setInventory inventory).moveOrder stored settlement.target := by
          rw [cluster_follow]
          show (Facade.settleOrder settlement book.cluster ⟨book.number order⟩).2 = _
          rw [called, Facade.answer_snd, settled]
        have accounts : ∀ other, (book.follow (.settle settlement order)).2.cluster.account other =
            if stored.id = other then (book.cluster.account other).map (·.moved settlement.target)
            else book.cluster.account other := by
          rw [after]
          exact Cluster.account_settled healthyHere found
        have nobody :
            newcomers book.cluster (book.follow (.settle settlement order)).2.cluster = [] := by
          refine (kept.follow _).placed.newcomers_eq_nil fun other => ?_
          rw [← Cluster.isSome_account, accounts, ← Cluster.isSome_account]
          split
          · exact Option.isSome_map
          · rfl
        refine ⟨?_, ?_, ?_, accounts⟩
        · rw [follow_fst]
          show Facade.Response.settled (Facade.settleOrder settlement book.cluster _).1 = _
          rw [called, settled]
          rfl
        · rw [issued_follow, nobody, List.append_nil]
        · rw [after]
          exact Cluster.inventory_settled _ _ _ healthyHere
    · simp only [if_neg waits] at settled ⊢
      exact failed _ settled

/-- A reader is told the account of the order. -/
theorem Kept.follow_info (kept : book.Kept) (named : OrderId.ofRaw (book.number order) = .ok id) :
    book.follow (.info order) = (.told (match book.cluster.account id with
      | none => .error (.ofError (.orderNotFound id))
      | some account => .ok account.info), book) := by
  apply kept.follow_of_unchanged
  show (Facade.Response.told (Facade.orderInfo book.cluster ⟨book.number order⟩), book.cluster) = _
  simp only [Facade.orderInfo, named, Cluster.lookUp_of_healthy kept.healthy]
  unfold Cluster.account
  cases book.cluster.stored? id <;> rfl

/-- A number that cannot be an order's is refused. -/
theorem Kept.follow_refused (kept : book.Kept) {reason : InvalidInput}
    (refused : OrderId.ofRaw (book.number order) = .error reason) :
    (∀ settlement, book.follow (.settle settlement order) =
      (.settled (.error (.ofError (.invalidInput reason))), book)) ∧
    book.follow (.info order) = (.told (.error (.ofError (.invalidInput reason))), book) := by
  constructor
  · intro settlement
    apply kept.follow_of_unchanged
    simp only [Facade.serve, request, Facade.settleOrder, refused, Facade.refuse]
  · apply kept.follow_of_unchanged
    simp only [Facade.serve, request, Facade.orderInfo, refused]

end Named

/-- Available units are a matter of the inventory. -/
theorem Kept.follow_stock (kept : book.Kept) (request : StockRequest) :
    book.follow (.stock request) = (.counted (match Sku.ofRaw request.sku with
      | .error reason => .error (.ofError (.invalidInput reason))
      | .ok sku =>
        match book.cluster.inventory.availableOf sku with
        | .error error => .error (.ofError error)
        | .ok units => .ok ⟨units.toUInt64⟩), book) := by
  apply kept.follow_of_unchanged
  show (Facade.Response.counted (Facade.stockInfo book.cluster request), book.cluster) = _
  unfold Facade.stockInfo
  cases Sku.ofRaw request.sku with
  | error reason => rfl
  | ok sku =>
    have same := Cluster.available_eq kept.healthy.inventory sku
    cases available : book.cluster.inventory.availableOf sku with
    | error error =>
      rw [available] at same
      simp only [same, available]
    | ok units =>
      rw [available] at same
      simp only [same, available]

end Book

end OrderDesk
