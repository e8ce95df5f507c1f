import OrderDesk.Facade
import OrderDesk.Proofs.NoTrace

/-!
# Public calls over time

A public call carries 64-bit numbers, narrows them before it reaches the desk and widens them again
in its answer; what was narrowed without complaint is widened to what it was. Of the public calls
two change anything, and they change what a checkout or a settlement changes. Between them the desk
does its other tasks: it ticks, rows are put into its stock, and databases fail or come back.
-/

namespace OrderDesk

/-! ## Numbers that are narrowed and widened -/

theorem toUInt64_of_narrow {field : String} {value : UInt64} {word : UInt32}
    (narrowed : narrow field value = .ok word) : word.toUInt64 = value := by
  unfold narrow at narrowed
  split at narrowed
  · rename_i small
    rw [← Except.ok.inj narrowed]
    apply UInt64.toNat_inj.1
    rw [UInt32.toNat_toUInt64, UInt64.toNat_toUInt32]
    exact Nat.mod_eq_of_lt small
  · cases narrowed

theorem Sku.toUInt64_of_ofRaw {value : UInt64} {sku : Sku} (narrowed : ofRaw value = .ok sku) :
    sku.num.toUInt64 = value := by
  unfold ofRaw at narrowed
  cases word : narrow "sku" value with
  | error reason =>
    rw [word] at narrowed
    cases narrowed
  | ok number =>
    rw [word] at narrowed
    cases narrowed
    exact toUInt64_of_narrow word

theorem ItemCount.toUInt64_of_ofRaw {value : UInt64} {count : ItemCount}
    (narrowed : ofRaw value = .ok count) : count.num.toUInt64 = value := by
  unfold ofRaw at narrowed
  split at narrowed
  · cases narrowed
  · rename_i units word
    split at narrowed
    · cases narrowed
    · rename_i positive counted
      unfold ofWord? at counted
      split at counted
      · cases counted
        cases narrowed
        exact toUInt64_of_narrow word
      · cases counted

namespace WireItem

theorem ofItem_of_toItem {line : WireItem} {item : Item} (narrowed : line.toItem = .ok item) :
    ofItem item = line := by
  unfold toItem at narrowed
  split at narrowed
  · cases narrowed
  · rename_i sku article
    split at narrowed
    · cases narrowed
    · rename_i count units
      cases narrowed
      unfold ofItem
      rw [Sku.toUInt64_of_ofRaw article, ItemCount.toUInt64_of_ofRaw units]

/-- Lines that were in order are told as they were asked for: in their order, none left out and
    none merged. -/
theorem map_ofItem_of_toItems {lines : List WireItem} {items : List Item}
    (narrowed : toItems lines = .ok items) : items.map ofItem = lines := by
  induction lines generalizing items with
  | nil =>
    cases narrowed
    rfl
  | cons line rest ih =>
    unfold toItems at narrowed
    split at narrowed
    · cases narrowed
    · rename_i item here
      split at narrowed
      · cases narrowed
      · rename_i others there
        cases narrowed
        rw [List.map_cons, ofItem_of_toItem here, ih there]

end WireItem

/-- A user who was named by a word is told by that word. -/
theorem UserId.word_of_ofRaw {value : Int64} {user : UserId} (narrowed : ofRaw value = .ok user) :
    Int64.ofInt user.num = value := by
  unfold ofRaw at narrowed
  split at narrowed
  · cases narrowed
  · rename_i other found
    cases narrowed
    unfold ofInt? at found
    split at found
    · rename_i range
      cases found
      show Int64.ofInt ((value.toInt.toNat : Nat) : Int) = value
      rw [Int.toNat_of_nonneg (Int.le_of_lt range.1), Int64.ofInt_toInt]
    · cases found

/-- The word that tells an order's number names that order. -/
theorem OrderId.ofRaw_word (id : OrderId) : ofRaw (Int64.ofInt id.num) = .ok id := by
  have same := Snapshot.toInt_of_le_max id.le_max
  have range : 0 < (id.num : Int) ∧ (id.num : Int) ≤ maxInt64 :=
    ⟨Int.natCast_pos.2 id.pos, Int.ofNat_le.2 id.le_max⟩
  unfold ofRaw ofInt?
  rw [same, dif_pos range]
  rfl

namespace Facade

/-! ## Calls -/

/-- A public call. -/
inductive Request where
  | create (request : CreateRequest)
  | settle (settlement : Settlement) (request : OrderRequest)
  | info (request : OrderRequest)
  | stock (request : StockRequest)
  deriving DecidableEq, Repr

/-- What a public call is answered. -/
inductive Response where
  | created (answer : Except Status CreateResponse)
  | settled (answer : Except Status Unit)
  | told (answer : Except Status InfoResponse)
  | counted (answer : Except Status StockResponse)

/-- Serves one public call. -/
def serve (cluster : Cluster) : Request → Response × Cluster
  | .create request =>
    match createOrder cluster request with
    | (answer, cluster) => (.created answer, cluster)
  | .settle settlement request =>
    match settleOrder settlement cluster request with
    | (answer, cluster) => (.settled answer, cluster)
  | .info request => (.told (orderInfo cluster request), cluster)
  | .stock request => (.counted (stockInfo cluster request), cluster)

variable {cluster : Cluster}

theorem answer_fst {α β : Type} (tell : α → β) (outcome : Except Error α × Cluster) :
    (answer tell outcome).1 = (outcome.1.map tell).mapError .ofError := by
  rcases outcome with ⟨_ | _, _⟩ <;> rfl

theorem answer_snd {α β : Type} (tell : α → β) (outcome : Except Error α × Cluster) :
    (answer tell outcome).2 = outcome.2 := by
  rcases outcome with ⟨_ | _, _⟩ <;> rfl

/-- A public call changes nothing, or what a checkout or a settlement changes. -/
theorem serve_cases (cluster : Cluster) (request : Request) :
    (serve cluster request).2 = cluster ∨
      (∃ user items, (serve cluster request).2 = (cluster.checkout user items).2) ∨
      ∃ settlement id, (serve cluster request).2 = (cluster.settle settlement id).2 := by
  cases request with
  | create request =>
    simp only [serve, createOrder]
    cases UserId.ofRaw request.user with
    | error reason => exact .inl rfl
    | ok user =>
      cases WireItem.toItems request.items with
      | error reason => exact .inl rfl
      | ok items => exact .inr (.inl ⟨user, items, answer_snd _ _⟩)
  | settle settlement request =>
    simp only [serve, settleOrder]
    cases OrderId.ofRaw request.order with
    | error reason => exact .inl rfl
    | ok id => exact .inr (.inr ⟨settlement, id, answer_snd _ _⟩)
  | info request => exact .inl rfl
  | stock request => exact .inl rfl

theorem createOrder_of_narrowed {request : CreateRequest} {user : UserId} {items : List Item}
    (known : UserId.ofRaw request.user = .ok user)
    (narrowed : WireItem.toItems request.items = .ok items) :
    createOrder cluster request =
      answer (fun id => ⟨Int64.ofInt id.num⟩) (cluster.checkout user items) := by
  simp only [createOrder, known, narrowed]

/-- An order is created by a checkout of the user and the lines that the request names. -/
theorem checkout_of_createOrder {request : CreateRequest} {response : CreateResponse}
    (created : (createOrder cluster request).1 = .ok response) :
    ∃ user items id, UserId.ofRaw request.user = .ok user ∧
      WireItem.toItems request.items = .ok items ∧ (cluster.checkout user items).1 = .ok id ∧
      response = ⟨Int64.ofInt id.num⟩ ∧
      (createOrder cluster request).2 = (cluster.checkout user items).2 := by
  cases known : UserId.ofRaw request.user with
  | error reason =>
    simp only [createOrder, known] at created
    cases created
  | ok user =>
    cases narrowed : WireItem.toItems request.items with
    | error reason =>
      simp only [createOrder, known, narrowed] at created
      cases created
    | ok items =>
      rw [createOrder_of_narrowed known narrowed] at created ⊢
      rcases checked : cluster.checkout user items with ⟨_ | id, after⟩
      · rw [checked] at created
        cases created
      · rw [checked] at created
        cases created
        exact ⟨user, items, id, rfl, rfl, by rw [checked], rfl, by rw [checked]; rfl⟩

theorem settleOrder_word (settlement : Settlement) (id : OrderId) :
    settleOrder settlement cluster ⟨Int64.ofInt id.num⟩ =
      answer (fun _ => ()) (cluster.settle settlement id) := by
  unfold settleOrder
  simp only [OrderId.ofRaw_word]

end Facade

/-! ## Turns -/

/-- What a desk does in turn: a public call, or a task of another kind. -/
inductive Turn where
  | request (request : Facade.Request)
  | task (task : Task)

namespace Desk

variable {σ : Type} (publisher : Publisher σ)

/-- Does what it is the turn of. -/
def attend (desk : Desk σ) : Turn → Desk σ
  | .request request => { desk with cluster := (Facade.serve desk.cluster request).2 }
  | .task task => desk.carryOut publisher task

/-- Takes turns, one after the other. -/
def pass (desk : Desk σ) (turns : List Turn) : Desk σ := turns.foldl (attend publisher) desk

theorem pass_append (desk : Desk σ) (early late : List Turn) :
    desk.pass publisher (early ++ late) = (desk.pass publisher early).pass publisher late :=
  List.foldl_append

section Keeps

variable {publisher} {Keeps : Cluster → Prop}
  (checkout : ∀ (cluster : Cluster) (user : UserId) (items : List Item), cluster.Placed →
    Keeps cluster → Keeps (cluster.checkout user items).2)
  (settle : ∀ (cluster : Cluster) (settlement : Settlement) (id : OrderId), cluster.Placed →
    Keeps cluster → Keeps (cluster.settle settlement id).2)
  (marks : ∀ before after, Cluster.SameButMarks before after → Keeps before → Keeps after)
  (stock : ∀ (cluster : Cluster) (inventory : Inventory), Keeps cluster →
    Keeps (cluster.setInventory inventory))

include checkout settle marks stock

/-- What checkouts, settlements, marks and changes of the stock keep, every turn keeps. -/
theorem attend_keeps (desk : Desk σ) (turn : Turn) (placed : desk.cluster.Placed)
    (holds : Keeps desk.cluster) :
    (desk.attend publisher turn).cluster.Placed ∧ Keeps (desk.attend publisher turn).cluster := by
  cases turn with
  | request request =>
    simp only [attend]
    rcases Facade.serve_cases desk.cluster request with
      same | ⟨user, items, same⟩ | ⟨settlement, id, same⟩
    · rw [same]
      exact ⟨placed, holds⟩
    · rw [same]
      exact ⟨placed.checkout user items, checkout _ user items placed holds⟩
    · rw [same]
      exact ⟨placed.settle settlement id, settle _ settlement id placed holds⟩
  | task task =>
    cases task with
    | act action => exact perform_keeps checkout settle marks desk action placed holds
    | upsert stocks =>
      refine ⟨placed.upsertStock stocks, ?_⟩
      simp only [attend, carryOut]
      rcases desk.cluster.upsertStock_cases stocks with ⟨error, failed⟩ | ⟨inventory, done⟩
      · rw [failed]
        exact holds
      · rw [done]
        exact stock _ inventory holds

/-- What checkouts, settlements, marks and changes of the stock keep, all turns keep. -/
theorem pass_keeps (desk : Desk σ) (turns : List Turn) (placed : desk.cluster.Placed)
    (holds : Keeps desk.cluster) :
    (desk.pass publisher turns).cluster.Placed ∧ Keeps (desk.pass publisher turns).cluster := by
  induction turns generalizing desk with
  | nil => exact ⟨placed, holds⟩
  | cons turn rest ih =>
    obtain ⟨placed, holds⟩ := attend_keeps checkout settle marks stock desk turn placed holds
    exact ih _ placed holds

end Keeps

theorem placed_pass (desk : Desk σ) (turns : List Turn) (placed : desk.cluster.Placed) :
    (desk.pass publisher turns).cluster.Placed := by
  have kept := @pass_keeps σ publisher (fun _ => True)
    (fun _ _ _ _ _ => trivial) (fun _ _ _ _ _ => trivial) (fun _ _ _ _ => trivial)
    (fun _ _ _ => trivial) desk turns placed trivial
  exact kept.1

end Desk

end OrderDesk
