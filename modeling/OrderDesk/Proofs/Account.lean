import OrderDesk.Facade
import OrderDesk.Proofs.Adjusting
import OrderDesk.Proofs.Agreement
import OrderDesk.Proofs.Outcome

/-!
# Accounts of orders

An account says all that there is to say about an order but its number: its user, its state and
its lines, and the states that its events tell of. Accounts of orders on different shards can be
compared. So can failures, once the numbers that they name are renamed; the checks of the stock
name none.
-/

namespace OrderDesk

/-- All that there is to say about a stored order but its number. -/
structure Account where
  user : UserId
  state : OrderState
  items : List Item
  /-- The states that the events about the order tell of, oldest first. -/
  history : List (Except Error OrderState)

/-- An account after its order was moved to another state. -/
def Account.moved (account : Account) (state : OrderState) : Account :=
  { account with state := state, history := account.history ++ [.ok state] }

/-- What is told about an order with this account. -/
def Account.info (account : Account) : InfoResponse :=
  ⟨Int64.ofInt account.user.num, account.state.name, account.items.map WireItem.ofItem⟩

namespace Cluster

/-- The states that the events about an order tell of, oldest first. -/
def history (cluster : Cluster) (id : OrderId) : List (Except Error OrderState) :=
  (cluster.eventsOf id).map fun event => event.snapshot.map (·.state)

/-- The account of the order that is stored under a number. -/
def account (cluster : Cluster) (id : OrderId) : Option Account :=
  (cluster.stored? id).map fun order => ⟨order.user, order.state, order.items, cluster.history id⟩

variable {cluster : Cluster} {order stored : Order} {state : OrderState} {inventory : Inventory}
  {id : OrderId}

@[simp] theorem isSome_account : (cluster.account id).isSome = (cluster.stored? id).isSome :=
  Option.isSome_map

/-! ## Histories -/

theorem history_eq_payloads (cluster : Cluster) (id : OrderId) :
    cluster.history id = ((cluster.eventsOf id).map Event.payload).map fun text =>
      (Snapshot.ofPayload text).map (·.state) := by
  rw [history, List.map_map]
  rfl

theorem map_state_tale (order : Order) (state : OrderState) :
    (Snapshot.ofPayload (tale order state)).map (·.state) = .ok state := by
  rw [tale, Snapshot.ofPayload_payload]
  rfl

theorem history_addOrder (present : cluster.Has order.id.shard) (id : OrderId) :
    (cluster.addOrder order).history id =
      cluster.history id ++ if order.id = id then [.ok order.state] else [] := by
  rw [history_eq_payloads, eventsOf_addOrder present, List.map_append, ← history_eq_payloads]
  split
  · rw [List.map_singleton, map_state_tale]
  · rfl

theorem history_moveOrder (present : cluster.Has stored.id.shard) (id : OrderId) :
    (cluster.moveOrder stored state).history id =
      cluster.history id ++ if stored.id = id then [.ok state] else [] := by
  rw [history_eq_payloads, eventsOf_moveOrder present, List.map_append, ← history_eq_payloads]
  split
  · rw [List.map_singleton, map_state_tale]
  · rfl

@[simp] theorem history_setInventory :
    (cluster.setInventory inventory).history id = cluster.history id := by
  rw [history, eventsOf_setInventory, history]

/-! ## Accounts after a write -/

@[simp] theorem account_setInventory :
    (cluster.setInventory inventory).account id = cluster.account id := by
  rw [account, stored?_setInventory, history_setInventory, account]

theorem account_moveOrder (present : cluster.Has stored.id.shard)
    (found : cluster.stored? stored.id = some stored) (id : OrderId) :
    (cluster.moveOrder stored state).account id =
      if stored.id = id then (cluster.account id).map (·.moved state) else cluster.account id := by
  have stores : ∀ id, (cluster.moveOrder stored state).stored? id = _ :=
    stored?_moveOrder present found
  unfold account
  rw [stores, history_moveOrder present]
  by_cases same : stored.id = id
  · subst same
    simp only [if_true, found, Option.map_some]
    rfl
  · rw [if_neg same, if_neg same, if_neg same, List.append_nil]

/-- An order that is placed has its whole history from this one call. -/
theorem account_place (placed : cluster.Placed) (agreed : cluster.Agreed)
    (healthy : cluster.Healthy order.id.shard) (next : cluster.IsNext order.id) (id : OrderId) :
    (cluster.place order state inventory).account id =
      if order.id = id then some ⟨order.user, state, order.items, [.ok order.state, .ok state]⟩
      else cluster.account id := by
  have stores := stored?_added order inventory placed healthy next
  have present := (healthy.added order inventory).has
  have untold : cluster.history order.id = [] := by
    obtain ⟨course, recorded, -⟩ := agreed
    rw [history, recorded.eventsOf_next placed next]
    rfl
  rw [place, account_moveOrder present ((stores order.id).trans (if_pos rfl)), account_setInventory]
  unfold account
  rw [stored?_addOrder healthy.has (placed.stored?_next next), history_addOrder healthy.has]
  by_cases same : order.id = id
  · subst same
    simp only [if_true, Option.map_some, untold]
    rfl
  · rw [if_neg same, if_neg same, if_neg same, if_neg same, List.append_nil]

/-- A settled order goes on with its account, and the other accounts stay. -/
theorem account_settled (healthy : cluster.Healthy stored.id.shard)
    (found : cluster.stored? stored.id = some stored) (id : OrderId) :
    ((cluster.setInventory inventory).moveOrder stored state).account id =
      if stored.id = id then (cluster.account id).map (·.moved state) else cluster.account id := by
  have stays : (cluster.setInventory inventory).stored? stored.id = some stored :=
    (stored?_setInventory stored.id).trans found
  rw [account_moveOrder (healthy_setInventory.2 healthy).has stays, account_setInventory]

end Cluster

/-! ## Failures and the numbers that they name -/

namespace Error

/-- An error about another order in the same place. -/
def rename (rename : OrderId → OrderId) : Error → Error
  | orderNotFound id => orderNotFound (rename id)
  | invalidOrderState id source target => invalidOrderState (rename id) source target
  | error => error

/-- Errors about other orders are of the same kind. -/
@[simp] theorem kind_rename (ρ : OrderId → OrderId) (error : Error) :
    (error.rename ρ).kind = error.kind := by
  cases error <;> rfl

/-- An error that names no order. -/
def Nameless (error : Error) : Prop := ∀ ρ, error.rename ρ = error

end Error

/-- What is refused for an error about another order is refused with the same code. -/
theorem Status.code_ofError_rename (ρ : OrderId → OrderId) (error : Error) :
    (ofError (error.rename ρ)).code = (ofError error).code := by
  unfold ofError
  rw [Error.kind_rename]
  cases Code.ofKind error.kind <;> rfl

theorem Demand.nameless_of_addAll {demand : Demand} {items : List Item} {error : Error}
    (failed : demand.addAll items = .error error) : error.Nameless := by
  induction items generalizing demand with
  | nil => cases failed
  | cons item rest ih =>
    unfold addAll at failed
    split at failed
    · rename_i reason refused
      unfold add at refused
      split at refused
      · cases refused
        cases failed
        exact fun _ => rfl
      · cases refused
    · exact ih failed

theorem Stock.nameless_of_available {row : Stock} {error : Error}
    (failed : row.available = .error error) : error.Nameless := by
  unfold available at failed
  split at failed
  · cases failed
  · cases failed
    exact fun _ => rfl

theorem Stock.nameless_of_adjust {row : Stock} {adjustment : Adjustment} {units : UInt32}
    {error : Error} (failed : row.adjust adjustment units = .error error) : error.Nameless := by
  cases refuses_of_adjust failed <;> exact fun _ => rfl

namespace Inventory

variable {inventory : Inventory} {error : Error}

theorem nameless_of_requireAll {skus : List Sku} {rows : List Stock}
    (failed : requireAll skus rows = .error error) : error.Nameless := by
  unfold requireAll at failed
  split at failed
  · cases failed
    exact fun _ => rfl
  · cases failed

theorem nameless_of_adjustRows {adjustment : Adjustment} {rows : List Stock}
    {lines : List (Sku × UInt32)} (failed : adjustRows adjustment rows lines = .error error) :
    error.Nameless := by
  induction lines with
  | nil => cases failed
  | cons line rest ih =>
    unfold adjustRows at failed
    split at failed
    · cases failed
      exact fun _ => rfl
    · split at failed
      · rename_i refused
        cases failed
        exact Stock.nameless_of_adjust refused
      · split at failed
        · rename_i later
          cases failed
          exact ih later
        · cases failed

/-- Lines that cannot be adjusted are refused for the stock, not for an order. -/
theorem nameless_of_adjustedBy {adjustment : Adjustment} {items : List Item}
    (failed : inventory.adjustedBy adjustment items = .error error) : error.Nameless := by
  unfold adjustedBy at failed
  split at failed
  · rename_i refused
    cases failed
    exact Demand.nameless_of_addAll refused
  · rename_i demand built
    cases changed : inventory.adjusted adjustment demand with
    | ok rows =>
      rw [changed] at failed
      cases failed
    | error reason =>
      rw [changed] at failed
      cases failed
      unfold adjusted at changed
      simp only at changed
      split at changed
      · rename_i missing
        cases changed
        exact nameless_of_requireAll missing
      · exact nameless_of_adjustRows changed

theorem nameless_of_reserving {items : List Item}
    (failed : (inventory.reserving items).1 = .error error) : error.Nameless := by
  unfold reserving at failed
  split at failed
  · rename_i refused
    cases failed
    exact nameless_of_adjustedBy refused
  · cases failed

theorem nameless_of_availableOf {sku : Sku} (failed : inventory.availableOf sku = .error error) :
    error.Nameless := by
  unfold availableOf at failed
  split at failed
  · rename_i missing
    cases failed
    exact nameless_of_requireAll missing
  · split at failed
    · cases failed
      exact fun _ => rfl
    · exact Stock.nameless_of_available failed

/-- What a settlement of the order under a number comes to, if this is its account: why it fails, or
    the inventory after it. -/
def settling (inventory : Inventory) (settlement : Settlement) (id : OrderId) :
    Option Account → Except Error Inventory
  | none => .error (.orderNotFound id)
  | some account =>
    if account.state = .awaitingPayment then
      inventory.adjustedBy settlement.adjustment account.items
    else .error (.invalidOrderState id account.state settlement.target)

/-- Under another number the same order fails for the same reason, or goes through as well. -/
theorem settling_rename (ρ : OrderId → OrderId) (settlement : Settlement) (id : OrderId)
    (account : Option Account) : inventory.settling settlement (ρ id) account =
      (inventory.settling settlement id account).mapError (·.rename ρ) := by
  cases account with
  | none => rfl
  | some account =>
    by_cases waits : account.state = .awaitingPayment
    · simp only [settling, if_pos waits]
      cases changed : inventory.adjustedBy settlement.adjustment account.items with
      | error reason => rw [Except.mapError, nameless_of_adjustedBy changed ρ]
      | ok after => rfl
    · simp only [settling, if_neg waits]
      rfl

end Inventory

end OrderDesk
