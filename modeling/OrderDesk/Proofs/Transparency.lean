import OrderDesk.Proofs.Books

/-!
# Sharding is transparent

A cluster of many shards and one of a single shard answer the same calls alike, up to the numbers
of their orders. Two books are twins if their clusters hold one stock and each order of the one has
the account of the order at the same place of the other. A call that names its order by place, or by
a number that is no order's, keeps twins twins, and its two answers differ at most in the numbers
that they tell.
-/

namespace OrderDesk

/-! ## Renaming the orders of one book into those of another -/

/-- Each place of the one list stands for the same place of the other. -/
def Renames (ρ : OrderId → OrderId) (old new : List OrderId) : Prop :=
  ∀ (place : Nat) (a b : OrderId), old[place]? = some a → new[place]? = some b → ρ a = b

theorem Renames.of_prefix {ρ : OrderId → OrderId} {old new longOld longNew : List OrderId}
    (renames : Renames ρ longOld longNew) (begins : old <+: longOld) (also : new <+: longNew) :
    Renames ρ old new := by
  intro place a b here there
  apply renames place
  · obtain ⟨bound, rfl⟩ := List.getElem?_eq_some_iff.1 here
    exact List.prefix_iff_getElem?.1 begins place bound
  · obtain ⟨bound, rfl⟩ := List.getElem?_eq_some_iff.1 there
    exact List.prefix_iff_getElem?.1 also place bound

/-- The order at a place of the one list becomes the order at that place of the other; other numbers
    stay. -/
def counterpart (old new : List OrderId) (id : OrderId) : OrderId :=
  if id ∈ old then (new[old.idxOf id]?).getD id else id

theorem renames_counterpart {old : List OrderId} (distinct : old.Nodup) (new : List OrderId) :
    Renames (counterpart old new) old new := by
  intro place a b here there
  obtain ⟨bound, rfl⟩ := List.getElem?_eq_some_iff.1 here
  rw [counterpart, if_pos (List.getElem_mem bound), distinct.idxOf_getElem, there]
  rfl

theorem counterpart_of_notMem {old new : List OrderId} {id : OrderId} (absent : id ∉ old) :
    counterpart old new id = id :=
  if_neg absent

/-! ## Answers that differ in numbers only -/

/-- Two calls both went through, or both failed, for the same reason but for the orders named. -/
inductive Answered {α : Type} (ρ : OrderId → OrderId) (same : α → α → Prop) :
    Except Status α → Except Status α → Prop where
  | ok {a b : α} (agree : same a b) : Answered ρ same (.ok a) (.ok b)
  | error (error : Error) :
    Answered ρ same (.error (.ofError error)) (.error (.ofError (error.rename ρ)))

theorem Answered.of_nameless {α : Type} {ρ : OrderId → OrderId} {same : α → α → Prop}
    {error : Error} (nameless : error.Nameless) :
    Answered ρ same (.error (.ofError error)) (.error (.ofError error)) := by
  have renamed : Answered ρ same _ _ := .error error
  rwa [nameless ρ] at renamed

/-- Calls that fail alike fail with the same code. -/
theorem Answered.code_eq {α : Type} {ρ : OrderId → OrderId} {same : α → α → Prop} {a b : Status}
    (failed : Answered ρ same (.error a) (.error b)) : b.code = a.code := by
  cases failed with
  | error error => exact Status.code_ofError_rename ρ error

/-- Two answers to one kind of call tell the same, but for the numbers of orders. -/
inductive Facade.Response.Renamed (ρ : OrderId → OrderId) : Response → Response → Prop where
  | created {a b : Except Status CreateResponse}
    (agree : Answered ρ (fun a b => ∃ id : OrderId,
      a = ⟨Int64.ofInt id.num⟩ ∧ b = ⟨Int64.ofInt (ρ id).num⟩) a b) :
      Renamed ρ (.created a) (.created b)
  | settled {a b : Except Status Unit} (agree : Answered ρ Eq a b) :
      Renamed ρ (.settled a) (.settled b)
  | told {a b : Except Status InfoResponse} (agree : Answered ρ Eq a b) :
      Renamed ρ (.told a) (.told b)
  | counted {a b : Except Status StockResponse} (agree : Answered ρ Eq a b) :
    Renamed ρ (.counted a) (.counted b)

namespace Book

/-! ## Twins -/

/-- Books of clusters with the same stock, with orders of the same accounts at the same places. -/
structure Twins (a b : Book) : Prop where
  inventory : a.cluster.inventory = b.cluster.inventory
  length : a.issued.length = b.issued.length
  accounts : ∀ place, a.account place = b.account place

/-- A number in the one book and a number in the other for orders at the same place, or for no
    order. -/
structure Meets (ρ : OrderId → OrderId) (a b : Book) (ida idb : OrderId) : Prop where
  renamed : ρ ida = idb
  account : a.cluster.account ida = b.cluster.account idb
  places : ∀ place : Nat, a.issued[place]? = some ida ↔ b.issued[place]? = some idb

variable {ρ : OrderId → OrderId} {a b a' b' : Book} {ida idb : OrderId} {inventory : Inventory}

/-- A place is taken in both books or in neither. -/
theorem Twins.place_cases (twins : Twins a b) (place : Nat) :
    (a.issued[place]? = none ∧ b.issued[place]? = none) ∨
      ∃ x y, a.issued[place]? = some x ∧ b.issued[place]? = some y := by
  have same := twins.length
  by_cases taken : place < a.issued.length
  · exact .inr ⟨_, _, List.getElem?_eq_getElem taken, List.getElem?_eq_getElem (same ▸ taken)⟩
  · exact .inl ⟨List.getElem?_eq_none (Nat.le_of_not_lt taken),
      List.getElem?_eq_none (Nat.le_of_not_lt (same ▸ taken))⟩

theorem Twins.account_eq (twins : Twins a b) {place : Nat} (here : a.issued[place]? = some ida)
    (there : b.issued[place]? = some idb) : a.cluster.account ida = b.cluster.account idb := by
  have same := twins.accounts place
  unfold Book.account at same
  rwa [here, there, Option.bind_some, Option.bind_some] at same

/-- Twins that move the same order to the same state stay twins. -/
theorem Twins.moves {state : OrderState} (twins : Twins a b) (meets : Meets ρ a b ida idb)
    (left : a.Moves state inventory ida a') (right : b.Moves state inventory idb b') :
    Twins a' b' := by
  refine ⟨left.inventory.trans right.inventory.symm, ?_, ?_⟩
  · rw [left.issued, right.issued, twins.length]
  · intro place
    unfold Book.account
    rw [left.issued, right.issued]
    rcases twins.place_cases place with ⟨here, there⟩ | ⟨x, y, here, there⟩
    · rw [here, there]
      rfl
    · have same := twins.account_eq here there
      have both : ida = x ↔ idb = y := by
        constructor
        · rintro rfl
          exact Option.some.inj (((meets.places place).1 here).symm.trans there)
        · rintro rfl
          exact Option.some.inj (((meets.places place).2 there).symm.trans here)
      rw [here, there, Option.bind_some, Option.bind_some, left.accounts, right.accounts, same]
      by_cases moved : ida = x
      · rw [if_pos moved, if_pos (both.1 moved)]
      · rw [if_neg moved, if_neg fun other => moved (both.2 other)]

/-- Twins that enter orders of one account stay twins. -/
theorem Twins.enters {entry : Account} (twins : Twins a b) (left : a.Enters entry inventory ida a')
    (right : b.Enters entry inventory idb b') (freshLeft : ida ∉ a.issued)
    (freshRight : idb ∉ b.issued) : Twins a' b' := by
  have same := twins.length
  refine ⟨left.inventory.trans right.inventory.symm, ?_, ?_⟩
  · rw [left.issued, right.issued, List.length_append, List.length_append, same]
    rfl
  · intro place
    unfold Book.account
    rw [left.issued, right.issued]
    rcases twins.place_cases place with ⟨here, there⟩ | ⟨x, y, here, there⟩
    · -- The place is the one that is entered, or it comes after it.
      have late := List.getElem?_eq_none_iff.1 here
      rw [List.getElem?_append_right late, List.getElem?_append_right (same ▸ late), ← same]
      by_cases last : place - a.issued.length = 0
      · simp only [last, List.getElem?_cons_zero, Option.bind_some, left.accounts, right.accounts,
          if_true]
      · have beyond : ∀ id : OrderId, [id][place - a.issued.length]? = none := by
          intro id
          apply List.getElem?_eq_none
          exact Nat.pos_of_ne_zero last
        rw [beyond, beyond]
        rfl
    · have apartLeft : ida ≠ x := fun equal => freshLeft (equal ▸ List.mem_of_getElem? here)
      have apartRight : idb ≠ y := fun equal => freshRight (equal ▸ List.mem_of_getElem? there)
      have keepsLeft : (a.issued ++ [ida])[place]? = some x := by
        rw [List.getElem?_append_left (List.getElem?_eq_some_iff.1 here).1, here]
      have keepsRight : (b.issued ++ [idb])[place]? = some y := by
        rw [List.getElem?_append_left (List.getElem?_eq_some_iff.1 there).1, there]
      rw [keepsLeft, keepsRight, Option.bind_some, Option.bind_some, left.accounts, right.accounts,
        if_neg apartLeft, if_neg apartRight, twins.account_eq here there]

/-- A number that is not in a book has no account. -/
theorem Kept.account_eq_none {book : Book} (kept : book.Kept) {id : OrderId}
    (stranger : id ∉ book.issued) : book.cluster.account id = none := by
  rw [kept.listed] at stranger
  unfold Cluster.account
  cases found : book.cluster.stored? id with
  | none => rfl
  | some order =>
    rw [found] at stranger
    exact absurd rfl stranger

/-- An order that is entered was not in the book before. -/
theorem Enters.fresh {book after : Book} {entry : Account} {id : OrderId}
    (enters : book.Enters entry inventory id after) (kept : after.Kept) : id ∉ book.issued := by
  have distinct := kept.distinct
  rw [enters.issued] at distinct
  exact fun member =>
    (List.nodup_append.1 distinct).2.2 id member id (List.mem_singleton_self id) rfl

/-- An order stands at one place of a book. -/
theorem Kept.issued_eq_some_iff {book : Book} (kept : book.Kept) {place : Nat} {id : OrderId}
    (here : book.issued[place]? = some id) (other : Nat) :
    book.issued[other]? = some id ↔ place = other := by
  rw [← here, eq_comm, List.getElem?_inj (List.getElem?_eq_some_iff.1 here).1 kept.distinct]

/-- A reference is refused in both books, or it leads to numbers that meet. -/
theorem Twins.resolve (twins : Twins a b) (keptLeft : a.Kept) (keptRight : b.Kept)
    (renames : Renames ρ a.issued b.issued) {order : Reference}
    (foreign : ∀ number id, order = .raw number → OrderId.ofRaw number = .ok id →
      id ∉ a.issued ∧ id ∉ b.issued ∧ ρ id = id) :
    (∃ reason, OrderId.ofRaw (a.number order) = .error reason ∧
        OrderId.ofRaw (b.number order) = .error reason) ∨
      ∃ ida idb, OrderId.ofRaw (a.number order) = .ok ida ∧
        OrderId.ofRaw (b.number order) = .ok idb ∧ Meets ρ a b ida idb := by
  cases order with
  | nth place =>
    rcases twins.place_cases place with ⟨here, there⟩ | ⟨x, y, here, there⟩
    · refine .inl ⟨.fieldNotPositive .orderId, ?_, ?_⟩
      · simp only [number, here]
        decide
      · simp only [number, there]
        decide
    · refine .inr ⟨x, y, ?_, ?_, renames place x y here there, twins.account_eq here there, ?_⟩
      · simp only [number, here, OrderId.ofRaw_word]
      · simp only [number, there, OrderId.ofRaw_word]
      · intro other
        rw [keptLeft.issued_eq_some_iff here, keptRight.issued_eq_some_iff there]
  | raw number =>
    cases known : OrderId.ofRaw number with
    | error reason => exact .inl ⟨reason, known, known⟩
    | ok id =>
      obtain ⟨absentLeft, absentRight, same⟩ := foreign number id rfl known
      refine .inr ⟨id, id, known, known, same, ?_, ?_⟩
      · rw [keptLeft.account_eq_none absentLeft, keptRight.account_eq_none absentRight]
      · intro place
        constructor
        · intro here
          exact absurd (List.mem_of_getElem? here) absentLeft
        · intro there
          exact absurd (List.mem_of_getElem? there) absentRight

/-! ## One call -/

/-- A request to create an order that is not in order is refused in both books. -/
theorem Twins.create_refused (twins : Twins a b) (keptLeft : a.Kept) (keptRight : b.Kept)
    {request : CreateRequest} {reason : InvalidInput} (refused : ∀ cluster : Cluster,
      Facade.createOrder cluster request = (.error (.ofError (.invalidInput reason)), cluster)) :
    (a.follow (.create request)).1.Renamed ρ (b.follow (.create request)).1 ∧
      Twins (a.follow (.create request)).2 (b.follow (.create request)).2 := by
  have unchanged : ∀ book : Book, book.Kept → book.follow (.create request) =
      (.created (.error (.ofError (.invalidInput reason))), book) := by
    intro book kept
    apply kept.follow_of_unchanged
    simp only [Facade.serve, Book.request, refused]
  rw [unchanged a keptLeft, unchanged b keptRight]
  exact ⟨.created (.error (.invalidInput reason)), twins⟩

/-- A request to create an order that is in order enters it in both books. The numbers of both runs
    fit, as fewer orders are stored than a single shard can number. -/
theorem Twins.create_entered (twins : Twins a b) (keptLeft : a.Kept) (keptRight : b.Kept)
    (alone : b.cluster.shards.length = 1) {request : CreateRequest} {user : UserId}
    {items : List Item} (known : UserId.ofRaw request.user = .ok user)
    (narrowed : WireItem.toItems request.items = .ok items) (nonempty : items ≠ [])
    (few : (b.follow (.create request)).2.issued.length < maxInt64 / 1000)
    (renames : Renames ρ (a.follow (.create request)).2.issued
      (b.follow (.create request)).2.issued) :
    (a.follow (.create request)).1.Renamed ρ (b.follow (.create request)).1 ∧
      Twins (a.follow (.create request)).2 (b.follow (.create request)).2 := by
  -- The single shard first: what it has stored so far leaves room for one more.
  have soFar := (b.issued_prefix_follow (.create request)).length_le
  have home := Cluster.shardForUser_of_one alone user
  have givenRight := keptRight.orderSequence_le (b.cluster.router.shardForUser user)
  obtain ⟨idb, answeredRight, right⟩ := keptRight.follow_create known narrowed nonempty (by
    rw [home] at givenRight ⊢
    simp only [OrderId.stride, maxInt64] at few ⊢
    omega)
  -- That order counts as well, so there is room on whichever shard the other run stores it.
  have longer : b.issued.length + 1 < maxInt64 / 1000 := by
    rwa [right.issued, List.length_append] at few
  have within : (a.cluster.router.shardForUser user).num < ShardIndex.maxShards :=
    Nat.lt_of_lt_of_le (a.cluster.has_shardForUser user) a.cluster.le_max
  have givenLeft := keptLeft.orderSequence_le (a.cluster.router.shardForUser user)
  rw [twins.length] at givenLeft
  obtain ⟨ida, answeredLeft, left⟩ := keptLeft.follow_create known narrowed nonempty (by
    simp only [OrderId.stride, maxInt64, ShardIndex.maxShards] at longer within ⊢
    omega)
  rw [twins.inventory] at answeredLeft left
  have named : ρ ida = idb := by
    apply renames a.issued.length
    · rw [left.issued]
      exact List.getElem?_concat_length
    · rw [right.issued, twins.length]
      exact List.getElem?_concat_length
  refine ⟨?_, twins.enters left right (left.fresh (keptLeft.follow _))
    (right.fresh (keptRight.follow _))⟩
  rw [answeredLeft, answeredRight]
  cases reserved : (b.cluster.inventory.reserving items).1 with
  | error error => exact .created (.of_nameless (Inventory.nameless_of_reserving reserved))
  | ok _ => exact .created (.ok ⟨ida, rfl, by rw [named]⟩)

theorem Twins.create (twins : Twins a b) (keptLeft : a.Kept) (keptRight : b.Kept)
    (alone : b.cluster.shards.length = 1) (request : CreateRequest)
    (few : (b.follow (.create request)).2.issued.length < maxInt64 / 1000)
    (renames : Renames ρ (a.follow (.create request)).2.issued
      (b.follow (.create request)).2.issued) :
    (a.follow (.create request)).1.Renamed ρ (b.follow (.create request)).1 ∧
      Twins (a.follow (.create request)).2 (b.follow (.create request)).2 := by
  cases known : UserId.ofRaw request.user with
  | error reason =>
    have refused : ∀ cluster : Cluster, Facade.createOrder cluster request =
        (.error (.ofError (.invalidInput reason)), cluster) := by
      intro cluster
      simp only [Facade.createOrder, known, Facade.refuse]
    exact twins.create_refused keptLeft keptRight refused
  | ok user =>
    cases narrowed : WireItem.toItems request.items with
    | error reason =>
      have refused : ∀ cluster : Cluster, Facade.createOrder cluster request =
          (.error (.ofError (.invalidInput reason)), cluster) := by
        intro cluster
        simp only [Facade.createOrder, known, narrowed, Facade.refuse]
      exact twins.create_refused keptLeft keptRight refused
    | ok items =>
      by_cases empty : items = []
      · have refused : ∀ cluster : Cluster, Facade.createOrder cluster request =
            (.error (.ofError (.invalidInput .emptyOrder)), cluster) := by
          intro cluster
          rw [Facade.createOrder_of_narrowed known narrowed, empty]
          rfl
        exact twins.create_refused keptLeft keptRight refused
      · exact twins.create_entered keptLeft keptRight alone known narrowed empty few renames

section Named

variable {order : Reference}

/-- A settlement of orders that meet fails in both books for the same reason, or moves both. -/
theorem Twins.settle (twins : Twins a b) (keptLeft : a.Kept) (keptRight : b.Kept)
    (named : OrderId.ofRaw (a.number order) = .ok ida)
    (namedRight : OrderId.ofRaw (b.number order) = .ok idb) (meets : Meets ρ a b ida idb)
    (settlement : Settlement) :
    (a.follow (.settle settlement order)).1.Renamed ρ (b.follow (.settle settlement order)).1 ∧
      Twins (a.follow (.settle settlement order)).2 (b.follow (.settle settlement order)).2 := by
  have left := keptLeft.follow_settle named settlement
  have right := keptRight.follow_settle namedRight settlement
  rw [twins.inventory, meets.account] at left
  rw [← meets.renamed, Inventory.settling_rename, meets.renamed] at right
  cases outcome : b.cluster.inventory.settling settlement ida (b.cluster.account idb) with
  | error error =>
    simp only [outcome, Except.mapError] at left right
    rw [left, right]
    exact ⟨.settled (.error error), twins⟩
  | ok inventory =>
    simp only [outcome, Except.mapError] at left right
    rw [left.1, right.1]
    exact ⟨.settled (.ok rfl), twins.moves meets left.2 right.2⟩

/-- Readers are told the same of orders that meet. -/
theorem Twins.info (twins : Twins a b) (keptLeft : a.Kept) (keptRight : b.Kept)
    (named : OrderId.ofRaw (a.number order) = .ok ida)
    (namedRight : OrderId.ofRaw (b.number order) = .ok idb) (meets : Meets ρ a b ida idb) :
    (a.follow (.info order)).1.Renamed ρ (b.follow (.info order)).1 ∧
      Twins (a.follow (.info order)).2 (b.follow (.info order)).2 := by
  rw [keptLeft.follow_info named, keptRight.follow_info namedRight, meets.account]
  refine ⟨?_, twins⟩
  cases b.cluster.account idb with
  | none =>
    rw [← meets.renamed]
    exact .told (.error (.orderNotFound ida))
  | some account => exact .told (.ok rfl)

end Named

theorem Twins.stock (twins : Twins a b) (keptLeft : a.Kept) (keptRight : b.Kept)
    (request : StockRequest) :
    (a.follow (.stock request)).1.Renamed ρ (b.follow (.stock request)).1 ∧
      Twins (a.follow (.stock request)).2 (b.follow (.stock request)).2 := by
  rw [keptLeft.follow_stock, keptRight.follow_stock, twins.inventory]
  refine ⟨?_, twins⟩
  cases Sku.ofRaw request.sku with
  | error reason => exact .counted (.error (.invalidInput reason))
  | ok sku =>
    cases counted : b.cluster.inventory.availableOf sku with
    | error error =>
      simp only [counted]
      exact .counted (.of_nameless (Inventory.nameless_of_availableOf counted))
    | ok units =>
      simp only [counted]
      exact .counted (.ok rfl)

/-- Twins answer a call alike and stay twins. -/
theorem Twins.follow (twins : Twins a b) (keptLeft : a.Kept) (keptRight : b.Kept)
    (alone : b.cluster.shards.length = 1) (ask : Ask)
    (few : (b.follow ask).2.issued.length < maxInt64 / 1000)
    (renames : Renames ρ (a.follow ask).2.issued (b.follow ask).2.issued)
    (foreign : ∀ number id, ask.Names number → OrderId.ofRaw number = .ok id →
      id ∉ a.issued ∧ id ∉ b.issued ∧ ρ id = id) :
    (a.follow ask).1.Renamed ρ (b.follow ask).1 ∧ Twins (a.follow ask).2 (b.follow ask).2 := by
  have before : Renames ρ a.issued b.issued :=
    renames.of_prefix (a.issued_prefix_follow ask) (b.issued_prefix_follow ask)
  cases ask with
  | create request => exact twins.create keptLeft keptRight alone request few renames
  | stock request => exact twins.stock keptLeft keptRight request
  | settle settlement order =>
    rcases twins.resolve keptLeft keptRight before fun number id same => foreign number id same with
      ⟨reason, left, right⟩ | ⟨ida, idb, left, right, meets⟩
    · rw [(keptLeft.follow_refused left).1, (keptRight.follow_refused right).1]
      exact ⟨.settled (.error (.invalidInput reason)), twins⟩
    · exact twins.settle keptLeft keptRight left right meets settlement
  | info order =>
    rcases twins.resolve keptLeft keptRight before fun number id same => foreign number id same with
      ⟨reason, left, right⟩ | ⟨ida, idb, left, right, meets⟩
    · rw [(keptLeft.follow_refused left).2, (keptRight.follow_refused right).2]
      exact ⟨.told (.error (.invalidInput reason)), twins⟩
    · exact twins.info keptLeft keptRight left right meets

/-! ## All calls -/

/-- Twins answer all calls alike and are twins after each. -/
theorem Twins.pages (twins : Twins a b) (keptLeft : a.Kept) (keptRight : b.Kept)
    (alone : b.cluster.shards.length = 1) (asks : List Ask)
    (few : (b.close asks).issued.length < maxInt64 / 1000)
    (renames : Renames ρ (a.close asks).issued (b.close asks).issued)
    (foreign : ∀ ask ∈ asks, ∀ number id, ask.Names number → OrderId.ofRaw number = .ok id →
      id ∉ (a.close asks).issued ∧ id ∉ (b.close asks).issued ∧ ρ id = id) :
    List.Forall₂ (fun left right => left.1.Renamed ρ right.1 ∧ Twins left.2 right.2)
      (a.pages asks) (b.pages asks) := by
  induction asks generalizing a b with
  | nil => exact .nil
  | cons ask rest ih =>
    simp only [close_cons] at few renames foreign
    have laterLeft := (a.follow ask).2.issued_prefix_close rest
    have laterRight := (b.follow ask).2.issued_prefix_close rest
    have here : (a.follow ask).1.Renamed ρ (b.follow ask).1 ∧
        Twins (a.follow ask).2 (b.follow ask).2 := by
      apply twins.follow keptLeft keptRight alone ask
      · exact Nat.lt_of_le_of_lt laterRight.length_le few
      · exact renames.of_prefix laterLeft laterRight
      · intro number id names known
        obtain ⟨left, right, same⟩ := foreign ask List.mem_cons_self number id names known
        refine ⟨fun member => left ?_, fun member => right ?_, same⟩
        · exact laterLeft.subset ((a.issued_prefix_follow ask).subset member)
        · exact laterRight.subset ((b.issued_prefix_follow ask).subset member)
    refine .cons here ?_
    apply ih here.2 (keptLeft.follow ask) (keptRight.follow ask)
    · rw [keptRight.length_follow ask, alone]
    · exact few
    · exact renames
    · exact fun other member => foreign other (List.mem_cons_of_mem ask member)

/-- Sharding is transparent. Take a cluster of any number of shards and a cluster of one shard, both
    without orders, with healthy primaries and with the same stock, and make the same calls to both:
    calls that create orders, that name an order by the place at which it was stored, or that name
    one by a number that neither run gives out. As long as fewer orders are stored than one shard
    can number, every call is answered alike: it goes through in both with the same answer, or fails
    in both with the same error, once the order at each place of the one run is renamed to the order
    at that place of the other. And after every call both hold the same stock, and at every place an
    order of the same user in the same state, with the same lines and the same history of events. -/
theorem sharding_is_transparent {many one : Cluster} (alone : one.shards.length = 1)
    (unusedMany : many.Unused) (unusedOne : one.Unused) (healthyMany : many.AllHealthy)
    (healthyOne : one.AllHealthy) (same : many.inventory = one.inventory) (asks : List Ask)
    (few : ((⟨one, []⟩ : Book).close asks).issued.length < maxInt64 / 1000)
    (foreign : ∀ ask ∈ asks, ∀ number id, ask.Names number → OrderId.ofRaw number = .ok id →
      id ∉ ((⟨many, []⟩ : Book).close asks).issued ∧ id ∉ ((⟨one, []⟩ : Book).close asks).issued) :
    let ρ := counterpart ((⟨many, []⟩ : Book).close asks).issued
      ((⟨one, []⟩ : Book).close asks).issued
    List.Forall₂ (fun left right => left.1.Renamed ρ right.1 ∧ Twins left.2 right.2)
      ((⟨many, []⟩ : Book).pages asks) ((⟨one, []⟩ : Book).pages asks) := by
  intro ρ
  have keptMany : (⟨many, []⟩ : Book).Kept := kept_of_unused unusedMany healthyMany
  have keptOne : (⟨one, []⟩ : Book).Kept := kept_of_unused unusedOne healthyOne
  have twins : Twins ⟨many, []⟩ ⟨one, []⟩ := ⟨same, rfl, fun _ => rfl⟩
  apply twins.pages keptMany keptOne alone asks few
  · exact renames_counterpart (keptMany.close asks).distinct _
  · intro ask member number id names known
    obtain ⟨left, right⟩ := foreign ask member number id names known
    exact ⟨left, right, counterpart_of_notMem left⟩

/-- An order is created, paid, paid again and asked for, on two shards and on one; a number below
    all orders' numbers is asked for as well. -/
theorem sharding_is_transparent_twoShards :
    let asks : List Ask := [.create ⟨1, [⟨7, 1⟩]⟩, .settle .pay (.nth 0), .settle .pay (.nth 0),
      .info (.nth 0), .info (.raw 5), .stock ⟨7⟩]
    let ρ := counterpart ((⟨.twoShards, []⟩ : Book).close asks).issued
      ((⟨.oneShard, []⟩ : Book).close asks).issued
    List.Forall₂ (fun left right => left.1.Renamed ρ right.1 ∧ Twins left.2 right.2)
      ((⟨.twoShards, []⟩ : Book).pages asks) ((⟨.oneShard, []⟩ : Book).pages asks) := by
  intro asks
  have keptMany : (⟨.twoShards, []⟩ : Book).Kept :=
    kept_of_unused Cluster.unused_twoShards Cluster.allHealthy_twoShards
  have keptOne : (⟨.oneShard, []⟩ : Book).Kept :=
    kept_of_unused Cluster.unused_oneShard Cluster.allHealthy_oneShard
  apply sharding_is_transparent rfl Cluster.unused_twoShards Cluster.unused_oneShard
    Cluster.allHealthy_twoShards Cluster.allHealthy_oneShard
  · rw [Cluster.inventory_twoShards, Cluster.inventory_oneShard]
  · exact Nat.lt_of_le_of_lt (keptOne.length_issued_close asks) (by decide)
  · intro ask member number id names known
    have low : id.num < OrderId.stride := by
      have five : OrderId.ofRaw 5 = .ok ⟨5, by decide, by decide⟩ := by decide
      simp only [asks, List.mem_cons, List.not_mem_nil, or_false] at member
      rcases member with rfl | rfl | rfl | rfl | rfl | rfl <;> cases names
      rw [five] at known
      cases known
      decide
    exact ⟨fun inside => Nat.not_le_of_lt low ((keptMany.close asks).stride_le inside),
      fun inside => Nat.not_le_of_lt low ((keptOne.close asks).stride_le inside)⟩

end Book

end OrderDesk
