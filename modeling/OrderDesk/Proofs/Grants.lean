import OrderDesk.Proofs.Relay

/-!
# Grants

Any number of clients book units of one stock, and the bookings of all of them come in any order.
Every booking that goes through counts with the units of its lines, once, and a booking that fails
counts for nothing. So what is reserved and what is held follow from what was granted, and no
article is ever promised beyond what is held of it.
-/

namespace OrderDesk

/-- A call that books units of the stock. -/
structure Booking where
  adjustment : Adjustment
  items : List Item
  deriving DecidableEq, Repr

/-- A booking that was made, and what it was answered. -/
structure Receipt where
  booking : Booking
  answer : Except Error Unit

namespace Booking

def perform (cluster : Cluster) (booking : Booking) : Except Error Unit × Cluster :=
  match booking.adjustment with
  | .reserve => cluster.reserve booking.items
  | .remove => cluster.consume booking.items
  | .cancel => cluster.release booking.items

theorem perform_eq (cluster : Cluster) (booking : Booking) :
    booking.perform cluster = cluster.adjustStock booking.adjustment booking.items := by
  rcases booking with ⟨_ | _ | _, items⟩ <;> rfl

end Booking

namespace Receipt

/-- The units of an article that were granted for a kind of booking. -/
def units (adjustment : Adjustment) (sku : Sku) (receipt : Receipt) : Nat :=
  match receipt.answer with
  | .error _ => 0
  | .ok () =>
    if receipt.booking.adjustment = adjustment then Item.units sku receipt.booking.items else 0

/-- The units of an article that a list of receipts grants for a kind of booking. -/
def granted (adjustment : Adjustment) (sku : Sku) (receipts : List Receipt) : Nat :=
  (receipts.map (units adjustment sku)).sum

/-- The reserved units of an article that receipts account for. -/
def promised (receipts : List Receipt) (sku : Sku) : Int :=
  granted .reserve sku receipts - granted .remove sku receipts - granted .cancel sku receipts

/-- The held units of an article that receipts account for. -/
def held (receipts : List Receipt) (sku : Sku) : Int := -granted .remove sku receipts

theorem granted_append (adjustment : Adjustment) (sku : Sku) (early late : List Receipt) :
    granted adjustment sku (early ++ late) =
      granted adjustment sku early + granted adjustment sku late := by
  rw [granted, List.map_append, List.sum_append]
  rfl

/-- A booking that failed is granted nothing. -/
theorem granted_error (adjustment : Adjustment) (sku : Sku) (booking : Booking) (error : Error) :
    granted adjustment sku [⟨booking, .error error⟩] = 0 := rfl

theorem granted_ok (adjustment : Adjustment) (sku : Sku) (booking : Booking) :
    granted adjustment sku [⟨booking, .ok ()⟩] =
      if booking.adjustment = adjustment then Item.units sku booking.items else 0 := by
  simp [granted, units]

theorem promised_append_error (receipts : List Receipt) (booking : Booking) (error : Error) :
    promised (receipts ++ [⟨booking, .error error⟩]) = promised receipts := by
  funext sku
  simp only [promised, granted_append, granted_error, Nat.add_zero]

theorem held_append_error (receipts : List Receipt) (booking : Booking) (error : Error) :
    held (receipts ++ [⟨booking, .error error⟩]) = held receipts := by
  funext sku
  simp only [held, granted_append, granted_error, Nat.add_zero]

/-- A booking that went through accounts for what its adjustment makes of the units of its lines. -/
theorem promised_append_ok (receipts : List Receipt) (booking : Booking) (sku : Sku) :
    promised (receipts ++ [⟨booking, .ok ()⟩]) sku =
      promised receipts sku + booking.adjustment.promised * Item.units sku booking.items := by
  rcases booking with ⟨_ | _ | _, items⟩ <;>
    simp only [promised, granted_append, granted_ok, Adjustment.promised, reduceCtorEq, if_true,
      if_false] <;>
    omega

theorem held_append_ok (receipts : List Receipt) (booking : Booking) (sku : Sku) :
    held (receipts ++ [⟨booking, .ok ()⟩]) sku =
      held receipts sku + booking.adjustment.held * Item.units sku booking.items := by
  rcases booking with ⟨_ | _ | _, items⟩ <;>
    simp only [held, granted_append, granted_ok, Adjustment.held, reduceCtorEq, if_true,
      if_false] <;>
    omega

end Receipt

/-- A cluster whose stock clients book, with what each of them is still going to ask for, and the
    receipts of all bookings made so far. -/
structure Counter where
  cluster : Cluster
  clients : List (List Booking)
  receipts : List Receipt

namespace Counter

/-- What may happen next. A booking changes the rows in one step, so those of different clients
    come one after the other, in any order. -/
inductive Turn where
  /-- The client of that place makes its next booking. -/
  | serve (client : Nat)
  | setPrimary (shard : ShardIndex) (faults : Faults)
  | setReplica (shard : ShardIndex) (faults : Faults)

/-- A counter at which no booking was made yet. -/
def opened (cluster : Cluster) (clients : List (List Booking)) : Counter := ⟨cluster, clients, []⟩

def step (counter : Counter) : Turn → Counter
  | .serve client =>
    match counter.clients[client]? with
    | some (booking :: later) =>
      match booking.perform counter.cluster with
      | (answer, after) =>
        ⟨after, counter.clients.set client later, counter.receipts ++ [⟨booking, answer⟩]⟩
    | _ => counter
  | .setPrimary shard faults => { counter with cluster := counter.cluster.setPrimary shard faults }
  | .setReplica shard faults => { counter with cluster := counter.cluster.setReplica shard faults }

def run (counter : Counter) (turns : List Turn) : Counter := turns.foldl step counter

/-- The units of an article that were granted so far for a kind of booking. -/
def granted (counter : Counter) (adjustment : Adjustment) (sku : Sku) : Nat :=
  Receipt.granted adjustment sku counter.receipts

/-- Since the counter was opened, the stock gained exactly what the receipts account for. -/
def Square (opening : Inventory) (counter : Counter) : Prop :=
  Inventory.Gained (Receipt.promised counter.receipts) (Receipt.held counter.receipts) opening
    counter.cluster.inventory

variable {opening : Inventory} {counter : Counter}

theorem square_opened (cluster : Cluster) (clients : List (List Booking)) :
    Square cluster.inventory (opened cluster clients) :=
  .refl cluster.inventory

theorem Square.booked (square : Square opening counter) (booking : Booking)
    (clients : List (List Booking)) :
    Square opening ⟨(booking.perform counter.cluster).2, clients,
      counter.receipts ++ [⟨booking, (booking.perform counter.cluster).1⟩]⟩ := by
  unfold Square at square ⊢
  rw [booking.perform_eq]
  rcases counter.cluster.adjustStock_cases booking.adjustment booking.items with
    ⟨error, failed⟩ | ⟨inventory, gained, done⟩
  · rw [failed, Receipt.promised_append_error, Receipt.held_append_error]
    exact square
  · rw [done, Cluster.inventory_setInventory]
    exact (square.trans gained).congr
      (fun sku => (Receipt.promised_append_ok counter.receipts booking sku).symm)
      (fun sku => (Receipt.held_append_ok counter.receipts booking sku).symm)

theorem Square.step (square : Square opening counter) (turn : Turn) :
    Square opening (counter.step turn) := by
  cases turn with
  | serve client =>
    cases waiting : counter.clients[client]? with
    | none => simpa only [Counter.step, waiting] using square
    | some plan =>
      cases plan with
      | nil => simpa only [Counter.step, waiting] using square
      | cons booking later =>
        simp only [Counter.step, waiting]
        exact square.booked booking _
  | setPrimary shard faults =>
    have same := counter.cluster.sameButMarks_setPrimary shard faults
    simpa only [Square, Counter.step, same.inventory] using square
  | setReplica shard faults =>
    have same := counter.cluster.sameButMarks_setReplica shard faults
    simpa only [Square, Counter.step, same.inventory] using square

theorem Square.run (square : Square opening counter) (turns : List Turn) :
    Square opening (counter.run turns) := by
  unfold Counter.run
  induction turns generalizing counter with
  | nil => exact square
  | cons turn rest ih => exact ih (square.step turn)

/-- Nothing is oversold, and every grant counts once. Clients book units of a stock that nowhere
    promises more than it holds, with any lines, in any order, while databases fail and come back.
    At any time no article has gained or lost its row, each row promises and holds what it did at
    first plus and minus the units that were granted since, as whole numbers that never wrap, and it
    promises no more than it holds. A booking that is refused leaves the cluster as it was. -/
theorem grants_count_once {start : Cluster} (sound : start.inventory.Sound)
    (clients : List (List Booking)) (turns : List Turn) :
    let done := (opened start clients).run turns
    (∀ sku, start.inventory.get? sku = none → done.cluster.inventory.get? sku = none) ∧
    (∀ sku row, start.inventory.get? sku = some row →
      let reserved : Int := row.reserved.toNat + done.granted .reserve sku -
        done.granted .remove sku - done.granted .cancel sku
      let total : Int := row.total.toNat - done.granted .remove sku
      ∃ left, done.cluster.inventory.get? sku = some left ∧
        (left.reserved.toNat : Int) = reserved ∧ (left.total.toNat : Int) = total ∧
        0 ≤ reserved ∧ reserved ≤ total ∧ total ≤ row.total.toNat) ∧
    ∀ (booking : Booking) error after, booking.perform done.cluster = (.error error, after) →
      after = done.cluster := by
  intro done
  have square : Square start.inventory done := (square_opened start clients).run turns
  refine ⟨?_, ?_, ?_⟩
  · exact fun sku absent => square.get?_eq_none absent
  · intro sku row found reserved total
    obtain ⟨left, there, gained⟩ := square.get? found
    have exactReserved : (left.reserved.toNat : Int) = reserved := by
      rw [gained.reserved, Receipt.promised]
      simp only [reserved, granted]
      omega
    have exactTotal : (left.total.toNat : Int) = total := by
      rw [gained.total, Receipt.held]
      simp only [total, granted]
      omega
    have within := Stock.sound_iff.1 (gained.sound (sound sku row found))
    refine ⟨left, there, exactReserved, exactTotal, ?_, ?_, ?_⟩
    · omega
    · omega
    · simp only [total]
      omega
  · intro booking error after refused
    rw [booking.perform_eq] at refused
    rcases done.cluster.adjustStock_cases booking.adjustment booking.items with
      ⟨reason, failed⟩ | ⟨inventory, -, wentThrough⟩
    · rw [failed] at refused
      exact (congrArg Prod.snd refused).symm
    · rw [wentThrough] at refused
      cases refused

/-- Two clients at a row that promises two units of five: three more are granted to one of them,
    then the other is refused one unit, a failing database refuses the next booking, and one unit
    is taken out. -/
theorem grants_count_once_twoShards :
    let clients : List (List Booking) :=
      [[⟨.reserve, [⟨⟨7⟩, 1, by decide⟩, ⟨⟨7⟩, 2, by decide⟩]⟩, ⟨.cancel, [⟨⟨7⟩, 1, by decide⟩]⟩],
        [⟨.reserve, [⟨⟨7⟩, 1, by decide⟩]⟩, ⟨.remove, [⟨⟨7⟩, 1, by decide⟩]⟩]]
    let turns : List Turn := [.serve 0, .serve 1, .setPrimary ⟨0⟩ ⟨false, true⟩, .serve 0,
      .setPrimary ⟨0⟩ ⟨false, false⟩, .serve 1]
    let done := (opened .twoShards clients).run turns
    done.granted .reserve ⟨7⟩ = 3 ∧ done.granted .remove ⟨7⟩ = 1 ∧ done.granted .cancel ⟨7⟩ = 0 ∧
      ∃ left, done.cluster.inventory.get? ⟨7⟩ = some left ∧ left.reserved.toNat = 4 ∧
        left.total.toNat = 4 := by
  intro clients turns done
  have reserved : done.granted .reserve ⟨7⟩ = 3 := by decide
  have removed : done.granted .remove ⟨7⟩ = 1 := by decide
  have cancelled : done.granted .cancel ⟨7⟩ = 0 := by decide
  have there : Cluster.twoShards.inventory.get? ⟨7⟩ = some ⟨⟨7⟩, 5, 2⟩ := by
    rw [Cluster.inventory_twoShards]
    rfl
  obtain ⟨-, rows, -⟩ := grants_count_once Cluster.sound_twoShards clients turns
  obtain ⟨left, found, exactReserved, exactTotal, -⟩ := rows ⟨7⟩ _ there
  refine ⟨reserved, removed, cancelled, left, found, ?_, ?_⟩
  · change (left.reserved.toNat : Int) = 2 + done.granted .reserve ⟨7⟩ - done.granted .remove ⟨7⟩ -
      done.granted .cancel ⟨7⟩ at exactReserved
    omega
  · change (left.total.toNat : Int) = 5 - done.granted .remove ⟨7⟩ at exactTotal
    omega

end Counter

end OrderDesk
