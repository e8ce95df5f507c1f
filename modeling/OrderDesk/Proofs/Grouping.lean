import Mathlib.Algebra.BigOperators.Group.List.Lemmas
import Mathlib.Algebra.GroupWithZero.Nat
import Mathlib.Data.List.Induction
import Mathlib.Data.List.Nodup
import OrderDesk.Proofs.Rows

/-!
# Rows and the orders that they hold

A store that joins orders with their lines returns rows, and rows of different orders may come in
any mixture. Rows hold orders if the orders come in the order of their first rows, each with the
user and the state of its first row and with the lines of all its rows. Grouping finds the orders
that are held, and where there are none it blames the first row that is corrupt. In particular it
undoes the join, however the rows of the orders are interleaved.
-/

namespace OrderDesk

/-! ## Elements in the order of their first appearance -/

section FirstSeen

variable {α : Type} [DecidableEq α]

/-- A further element is appended if it was not seen before. -/
theorem eraseDups_concat (early : List α) (last : α) :
    (early ++ [last]).eraseDups =
      if last ∈ early then early.eraseDups else early.eraseDups ++ [last] := by
  rw [List.eraseDups_append, List.removeAll, List.filter_singleton, List.elem_eq_mem]
  by_cases seen : last ∈ early
  · simp [seen]
  · simp [seen, List.eraseDups_cons]

theorem nodup_eraseDups (list : List α) : list.eraseDups.Nodup := by
  induction list using List.reverseRecOn with
  | nil => exact List.nodup_nil
  | append_singleton early last ih =>
    rw [eraseDups_concat]
    split
    · exact ih
    · rename_i fresh
      rw [← List.mem_eraseDups] at fresh
      rw [← List.concat_eq_append]
      exact ih.concat fresh

end FirstSeen

namespace OrderRow

variable {row : OrderRow} {rows early late : List OrderRow} {orders next : List Order}
  {item : Item} {order : Order} {fault : RowFault}

/-! ## Orders that rows hold -/

theorem isOf_iff : row.isOf order = true ↔ (order.id.num : Int) = row.id.toInt :=
  decide_eq_true_iff

theorem filter_of_isOf (own : row.isOf order = true) : [row].filter (·.isOf order) = [row] := by
  simp [own]

theorem filter_of_not_isOf (other : ¬ row.isOf order = true) :
    [row].filter (·.isOf order) = [] := by
  simp [other]

/-- What is wrong with a row that stands behind others: something with its line, or with what it
    tells of its order if it is the first row of that order. -/
inductive Faulty (early : List OrderRow) (row : OrderRow) : RowFault → Prop where
  | line {fault : RowFault} (wrong : row.LineFault fault) : Faulty early row fault
  | head {fault : RowFault} (line : ∀ other, ¬ row.LineFault other)
      (first : ∀ other ∈ early, other.id ≠ row.id) (wrong : row.HeadFault fault) :
      Faulty early row fault

/-- Rows hold orders, and no others: the orders come in the order of their first rows, the first row
    of an order tells its user and its state, and its rows hold its lines one after the other. -/
structure Holds (rows : List OrderRow) (orders : List Order) : Prop where
  ids : orders.map (fun order => (order.id.num : Int)) = (rows.map (·.id.toInt)).eraseDups
  first : ∀ order ∈ orders, ∃ row, rows.find? (·.isOf order) = some row ∧
    row.user.toInt = order.user.num ∧ row.state = order.state.name
  lines : ∀ order ∈ orders, (rows.filter (·.isOf order)).map columns = order.items.map Item.columns

theorem holds_nil : Holds [] [] := ⟨rfl, List.forall_mem_nil _, List.forall_mem_nil _⟩

/-- A row is of an order that is held exactly if some row bears its number. -/
theorem Holds.any_isOf_iff (holds : Holds early orders) :
    orders.any row.isOf = true ↔ ∃ other ∈ early, other.id = row.id := by
  have listed : row.id.toInt ∈ orders.map (fun order => (order.id.num : Int)) ↔
      ∃ other ∈ early, other.id = row.id := by
    rw [holds.ids, List.mem_eraseDups, List.mem_map]
    simp only [Int64.toInt_inj]
  rw [← listed, List.any_eq_true, List.mem_map]
  simp only [isOf_iff]

/-- An order with one more line, if a row is of that order. -/
def addLine (row : OrderRow) (item : Item) (order : Order) : Order :=
  if row.isOf order then { order with items := order.items ++ [item] } else order

theorem id_addLine (row : OrderRow) (item : Item) (order : Order) :
    (row.addLine item order).id = order.id := by
  unfold addLine
  split <;> rfl

theorem isOf_addLine (row other : OrderRow) (item : Item) (order : Order) :
    other.isOf (row.addLine item order) = other.isOf order := by
  rw [isOf, isOf, id_addLine]

/-- A further row of an order that is held adds its line to that order. -/
theorem Holds.addLine (holds : Holds early orders) (shows : row.columns = item.columns)
    (known : orders.any row.isOf = true) :
    Holds (early ++ [row]) (orders.map (row.addLine item)) := by
  have seen : row.id.toInt ∈ early.map (·.id.toInt) := by
    obtain ⟨other, member, same⟩ := holds.any_isOf_iff.1 known
    rw [← same]
    exact List.mem_map_of_mem member
  refine ⟨?_, ?_, ?_⟩
  · rw [List.map_append, List.map_singleton, eraseDups_concat, if_pos seen, ← holds.ids,
      List.map_map]
    apply List.map_congr_left
    intro order _
    rw [Function.comp_apply, id_addLine]
  · intro longer member
    obtain ⟨order, listed, rfl⟩ := List.mem_map.1 member
    obtain ⟨first, found, user, state⟩ := holds.first order listed
    refine ⟨first, ?_, ?_, ?_⟩
    · simp only [isOf_addLine]
      rw [List.find?_append, found, Option.some_or]
    · rw [user, OrderRow.addLine]
      split <;> rfl
    · rw [state, OrderRow.addLine]
      split <;> rfl
  · intro longer member
    obtain ⟨order, listed, rfl⟩ := List.mem_map.1 member
    have lines := holds.lines order listed
    simp only [isOf_addLine]
    rw [List.filter_append, List.map_append, lines, OrderRow.addLine]
    by_cases own : row.isOf order = true
    · rw [if_pos own, filter_of_isOf own, List.map_append, List.map_singleton, List.map_singleton,
        shows]
    · rw [if_neg own, filter_of_not_isOf own, List.map_nil, List.append_nil]

/-- The first row of an order that was not there before adds an order of one line. -/
theorem Holds.addOrder (holds : Holds early orders) (shows : row.columns = item.columns)
    (fresh : ¬ orders.any row.isOf = true) (read : row.order item = .ok order) :
    Holds (early ++ [row]) (orders ++ [order]) := by
  obtain ⟨id, user, state, lines⟩ := order_eq_ok_iff.1 read
  have unseen : ∀ other ∈ early, other.id ≠ row.id := by
    intro other member same
    exact fresh (holds.any_isOf_iff.2 ⟨other, member, same⟩)
  have absent : row.id.toInt ∉ early.map (·.id.toInt) := by
    intro member
    obtain ⟨other, listed, same⟩ := List.mem_map.1 member
    exact unseen other listed (Int64.toInt_inj.1 same)
  have own : row.isOf order = true := isOf_iff.2 id.symm
  have none : ∀ other ∈ early, ¬ other.isOf order = true := by
    intro other member here
    rw [isOf_iff, ← id] at here
    exact unseen other member (Int64.toInt_inj.1 here.symm)
  refine ⟨?_, ?_, ?_⟩
  · rw [List.map_append, List.map_append, List.map_singleton, List.map_singleton, eraseDups_concat,
      if_neg absent, holds.ids, id]
  · intro held member
    rcases List.mem_append.1 member with old | new
    · obtain ⟨first, found, told⟩ := holds.first held old
      exact ⟨first, by rw [List.find?_append, found, Option.some_or], told⟩
    · obtain rfl := List.mem_singleton.1 new
      refine ⟨row, ?_, user, state⟩
      rw [List.find?_append, List.find?_eq_none.2 none, Option.none_or, ← List.head?_filter,
        filter_of_isOf own]
      rfl
  · intro held member
    rw [List.filter_append]
    rcases List.mem_append.1 member with old | new
    · have other : ¬ row.isOf held = true :=
        fun here => fresh (List.any_eq_true.2 ⟨held, old, here⟩)
      rw [filter_of_not_isOf other, List.append_nil]
      exact holds.lines held old
    · obtain rfl := List.mem_singleton.1 new
      rw [List.filter_eq_nil_iff.2 none, filter_of_isOf own, lines,
        List.nil_append, List.map_singleton, List.map_singleton, shows]

/-- What one more row makes of the orders that are held. -/
theorem Holds.addTo (holds : Holds early orders) (added : addTo orders row = .ok next) :
    Holds (early ++ [row]) next := by
  unfold OrderRow.addTo at added
  split at added
  · cases added
  · rename_i item read
    have shows := item_eq_ok_iff.1 read
    split at added
    · rename_i known
      cases added
      exact holds.addLine shows known
    · rename_i fresh
      split at added
      · cases added
      · rename_i order told
        cases added
        exact holds.addOrder shows fresh told

/-- One more row is refused exactly for what is wrong with it where it stands. -/
theorem Holds.addTo_eq_error_iff (holds : Holds early orders) :
    OrderRow.addTo orders row = .error fault ↔ row.Faulty early fault := by
  have first : (¬ orders.any row.isOf = true) ↔ ∀ other ∈ early, other.id ≠ row.id := by
    rw [holds.any_isOf_iff]
    simp only [not_exists, not_and, ne_eq]
  unfold OrderRow.addTo
  cases read : row.item with
  | error wrong =>
    have line := item_eq_error_iff.1 read
    simp only [Except.error.injEq]
    constructor
    · rintro rfl
      exact .line line
    · intro faulty
      cases faulty with
      | line also =>
        rw [item_eq_error_iff.2 also] at read
        exact (Except.error.inj read).symm
      | head sound => exact absurd line (sound wrong)
  | ok item =>
    have shows := item_eq_ok_iff.1 read
    simp only
    split
    · rename_i known
      refine iff_of_false (fun equal => nomatch equal) fun faulty => ?_
      cases faulty with
      | line wrong => exact not_lineFault shows wrong
      | head _ unseen _ => exact first.2 unseen known
    · rename_i fresh
      cases told : row.order item with
      | error wrong =>
        have head := order_eq_error_iff.1 told
        simp only [Except.error.injEq]
        constructor
        · rintro rfl
          exact .head (fun _ => not_lineFault shows) (first.1 fresh) head
        · intro faulty
          cases faulty with
          | line other => exact absurd other (not_lineFault shows)
          | head _ _ also => exact head.unique also
      | ok order =>
        refine iff_of_false (fun equal => nomatch equal) fun faulty => ?_
        cases faulty with
        | line wrong => exact not_lineFault shows wrong
        | head _ _ wrong => exact wrong.not_order told

/-! ## Grouping -/

theorem Holds.addAll (holds : Holds early orders) (added : addAll orders late = .ok next) :
    Holds (early ++ late) next := by
  induction late generalizing early orders with
  | nil =>
    cases added
    rw [List.append_nil]
    exact holds
  | cons row rest ih =>
    unfold OrderRow.addAll at added
    split at added
    · cases added
    · rename_i more here
      have later := ih (holds.addTo here) added
      rwa [List.append_assoc] at later

theorem addAll_append (orders : List Order) (early late : List OrderRow) :
    addAll orders (early ++ late) =
      match addAll orders early with
      | .error fault => .error fault
      | .ok next => addAll next late := by
  induction early generalizing orders with
  | nil => rfl
  | cons row rest ih =>
    rw [List.cons_append]
    rw [addAll, addAll]
    cases OrderRow.addTo orders row with
    | error fault => rfl
    | ok more => exact ih more

/-- Rows are refused for one of them, after those in front of it were taken in. -/
theorem exists_of_addAll (failed : addAll orders rows = .error fault) :
    ∃ early row late next, rows = early ++ row :: late ∧ addAll orders early = .ok next ∧
      addTo next row = .error fault := by
  induction rows generalizing orders with
  | nil => cases failed
  | cons row rest ih =>
    unfold OrderRow.addAll at failed
    split at failed
    · rename_i wrong here
      cases failed
      exact ⟨[], row, rest, orders, rfl, rfl, here⟩
    · rename_i more here
      obtain ⟨early, other, late, next, rfl, went, refused⟩ := ih failed
      refine ⟨row :: early, other, late, next, rfl, ?_, refused⟩
      unfold OrderRow.addAll
      rw [here]
      exact went

/-- No row is faulty where rows hold orders. -/
theorem Holds.not_faulty (holds : Holds (early ++ row :: late) orders) :
    ¬ row.Faulty early fault := by
  have member : row ∈ early ++ row :: late := List.mem_append_right _ List.mem_cons_self
  obtain ⟨order, listed, own⟩ := List.any_eq_true.1 (holds.any_isOf_iff.2 ⟨row, member, rfl⟩)
  intro faulty
  cases faulty with
  | line wrong =>
    have line : row.columns ∈ (List.filter (·.isOf order) (early ++ row :: late)).map columns :=
      List.mem_map_of_mem (List.mem_filter.2 ⟨member, own⟩)
    rw [holds.lines order listed] at line
    obtain ⟨item, -, shows⟩ := List.mem_map.1 line
    exact not_lineFault shows.symm wrong
  | head _ unseen wrong =>
    obtain ⟨first, found, user, state⟩ := holds.first order listed
    have none : early.find? (·.isOf order) = none := by
      refine List.find?_eq_none.2 fun other inside here => unseen other inside ?_
      rw [isOf_iff] at own here
      exact Int64.toInt_inj.1 (here.symm.trans own)
    rw [List.find?_append, none, Option.none_or, List.find?_cons, own] at found
    cases found
    have id := isOf_iff.1 own
    have positive := order.id.pos
    have also := order.user.pos
    cases wrong with
    | id => omega
    | user => omega
    | state _ _ unknown => exact unknown order.state state.symm

/-- An order that rows hold is told by its number. -/
theorem Holds.eq_of_id {other : List Order} (holds : Holds rows orders) (also : Holds rows other)
    {a b : Order} (left : a ∈ orders) (right : b ∈ other) (same : a.id = b.id) : a = b := by
  have alike : ∀ row : OrderRow, row.isOf a = row.isOf b := by
    intro row
    rw [isOf, isOf, same]
  obtain ⟨first, found, user, state⟩ := holds.first a left
  obtain ⟨second, there, known, named⟩ := also.first b right
  have lines := holds.lines a left
  simp only [alike] at found lines
  rw [also.lines b right] at lines
  rw [there] at found
  cases found
  have items : b.items = a.items := List.map_injective_iff.2 Item.columns_injective lines
  have users : a.user.num = b.user.num := Int.ofNat_inj.1 (user.symm.trans known)
  have states : a.state = b.state := OrderState.name_injective (state.symm.trans named)
  rcases a with ⟨idA, ⟨userA, _, _⟩, stateA, itemsA⟩
  rcases b with ⟨idB, ⟨userB, _, _⟩, stateB, itemsB⟩
  cases same
  cases users
  cases states
  cases items
  rfl

/-- Rows hold one list of orders. -/
theorem Holds.unique {other : List Order} (holds : Holds rows orders) (also : Holds rows other) :
    orders = other := by
  have ids := holds.ids.trans also.ids.symm
  have size : orders.length = other.length := by
    simpa only [List.length_map] using congrArg List.length ids
  refine List.ext_getElem size fun i below above => ?_
  apply holds.eq_of_id also (List.getElem_mem below) (List.getElem_mem above)
  have numbers := List.getElem_of_eq ids (by rwa [List.length_map])
  simp only [List.getElem_map] at numbers
  exact OrderId.eq_of_num (Int.ofNat_inj.1 numbers)

variable {operation : Operation}

theorem group_eq_ok_iff_addAll :
    group operation rows = .ok orders ↔ addAll [] rows = .ok orders := by
  unfold group
  cases addAll [] rows <;> simp [Except.mapError]

/-- Grouping finds exactly the orders that rows hold. -/
theorem group_eq_ok_iff : group operation rows = .ok orders ↔ Holds rows orders := by
  rw [group_eq_ok_iff_addAll]
  constructor
  · exact holds_nil.addAll
  · intro holds
    cases grouped : addAll [] rows with
    | ok found => rw [holds.unique (holds_nil.addAll grouped)]
    | error fault =>
      obtain ⟨early, row, late, next, rfl, went, refused⟩ := exists_of_addAll grouped
      have faulty := (holds_nil.addAll went).addTo_eq_error_iff.1 refused
      exact absurd faulty holds.not_faulty

/-- Rows are intact if none of them is faulty where it stands. -/
def Intact (rows : List OrderRow) : Prop :=
  ∀ early row late fault, rows = early ++ row :: late → ¬ row.Faulty early fault

theorem group_eq_error_iff_addAll {error : StorageError} : group operation rows = .error error ↔
    ∃ fault, addAll [] rows = .error fault ∧ error = .corrupt operation fault := by
  unfold group
  cases addAll [] rows <;> simp [Except.mapError, eq_comm]

/-- Grouping goes through exactly if the rows are intact. -/
theorem exists_group_iff (operation : Operation) (rows : List OrderRow) :
    (∃ orders, group operation rows = .ok orders) ↔ Intact rows := by
  constructor
  · rintro ⟨orders, grouped⟩ early row late fault rfl
    exact (group_eq_ok_iff.1 grouped).not_faulty
  · intro intact
    cases grouped : group operation rows with
    | ok orders => exact ⟨orders, rfl⟩
    | error error =>
      obtain ⟨fault, failed, -⟩ := group_eq_error_iff_addAll.1 grouped
      obtain ⟨early, row, late, next, split, went, refused⟩ := exists_of_addAll failed
      have faulty := (holds_nil.addAll went).addTo_eq_error_iff.1 refused
      exact absurd faulty (intact early row late fault split)

/-- Grouping blames the first row that is faulty where it stands, for the first thing that is wrong
    with it. -/
theorem group_eq_error_iff {error : StorageError} : group operation rows = .error error ↔
    ∃ early row late fault, rows = early ++ row :: late ∧ Intact early ∧ row.Faulty early fault ∧
      error = .corrupt operation fault := by
  rw [group_eq_error_iff_addAll]
  constructor
  · rintro ⟨fault, failed, rfl⟩
    obtain ⟨early, row, late, next, rfl, went, refused⟩ := exists_of_addAll failed
    have intact := (exists_group_iff operation early).1 ⟨next, group_eq_ok_iff_addAll.2 went⟩
    exact ⟨early, row, late, fault, rfl, intact,
      (holds_nil.addAll went).addTo_eq_error_iff.1 refused, rfl⟩
  · rintro ⟨early, row, late, fault, rfl, intact, faulty, rfl⟩
    obtain ⟨next, went⟩ := (exists_group_iff operation early).2 intact
    rw [group_eq_ok_iff_addAll] at went
    refine ⟨fault, ?_, rfl⟩
    rw [addAll_append, went]
    simp only
    unfold OrderRow.addAll
    rw [(holds_nil.addAll went).addTo_eq_error_iff.2 faulty]

/-! ## Rows that are refused -/

/-- Rows are refused exactly for a line out of range, or for the first row of an order that tells no
    order. -/
theorem not_intact_iff : ¬ Intact rows ↔
    (∃ row ∈ rows, ∃ fault, row.LineFault fault) ∨
    ∃ early row late, rows = early ++ row :: late ∧ (∀ other ∈ early, other.id ≠ row.id) ∧
      ∃ fault, row.HeadFault fault := by
  constructor
  · intro refused
    simp only [Intact, not_forall, not_not] at refused
    obtain ⟨early, row, late, fault, rfl, faulty⟩ := refused
    cases faulty with
    | line wrong => exact .inl ⟨row, List.mem_append_right _ List.mem_cons_self, fault, wrong⟩
    | head _ first wrong => exact .inr ⟨early, row, late, rfl, first, fault, wrong⟩
  · rintro (⟨row, member, fault, wrong⟩ | ⟨early, row, late, rfl, first, fault, wrong⟩) intact
    · obtain ⟨early, late, split⟩ := List.append_of_mem member
      exact intact early row late fault split (.line wrong)
    · have sound : ∀ other, ¬ row.LineFault other := by
        intro other line
        exact intact early row late other rfl (.line line)
      exact intact early row late fault rfl (.head sound first wrong)

theorem exists_group_error_iff (operation : Operation) (rows : List OrderRow) :
    (∃ error, group operation rows = .error error) ↔ ¬ Intact rows := by
  rw [← exists_group_iff operation]
  cases group operation rows <;> simp

/-! ## Numbers and lines of the orders that are held -/

theorem Holds.nodup (holds : Holds rows orders) : (orders.map (·.id)).Nodup := by
  have numbers : (orders.map fun order => (order.id.num : Int)).Nodup := by
    rw [holds.ids]
    exact nodup_eraseDups _
  refine List.Nodup.of_map (fun id : OrderId => (id.num : Int)) ?_
  rw [List.map_map]
  exact numbers

/-- An order has as many lines as rows bear its number. -/
theorem Holds.length_items (holds : Holds rows orders) (listed : order ∈ orders) :
    order.items.length = (rows.map (·.id.toInt)).count (order.id.num : Int) := by
  have lines := congrArg List.length (holds.lines order listed)
  rw [List.length_map, List.length_map] at lines
  rw [← lines, List.count, List.countP_map, List.countP_eq_length_filter]
  congr 1
  apply List.filter_congr
  intro row _
  rw [Bool.eq_iff_iff, isOf_iff, Function.comp_apply, beq_iff_eq, eq_comm]

/-- Every row gives one line to one order. -/
theorem Holds.sum_lines (holds : Holds rows orders) :
    (orders.map (·.items.length)).sum = rows.length := by
  set numbers := rows.map (·.id.toInt) with bears
  have counts : orders.map (·.items.length) = numbers.eraseDups.map (numbers.count ·) := by
    rw [← holds.ids, List.map_map]
    apply List.map_congr_left
    intro order listed
    exact holds.length_items listed
  have same : numbers.eraseDups.Perm numbers.dedup := by
    apply (List.perm_ext_iff_of_nodup (nodup_eraseDups _) (List.nodup_dedup _)).2
    intro number
    rw [List.mem_eraseDups, List.mem_dedup]
  calc (orders.map (·.items.length)).sum
      = (numbers.dedup.map (numbers.count ·)).sum := by rw [counts, (same.map _).sum_eq]
    _ = numbers.length := List.sum_map_count_dedup_eq_length numbers
    _ = rows.length := by rw [bears, List.length_map]

/-! ## Undoing the join -/

/-- The rows of an order joined with its lines. -/
def join (order : Order) : List OrderRow :=
  order.items.map fun item =>
    ⟨Int64.ofInt order.id.num, Int64.ofInt order.user.num, order.state.name,
      Int64.ofInt item.sku.num.toNat, Int64.ofInt item.count.num.toNat⟩

/-- The joined rows of orders come in some mixture: there are no others, those of one order stay in
    their own order, and the first rows of the orders come in the order of the orders. -/
structure Interleaved (orders : List Order) (rows : List OrderRow) : Prop where
  perm : rows.Perm (orders.flatMap join)
  own : ∀ order ∈ orders, List.Sublist (join order) rows
  seen : (rows.map (·.id.toInt)).eraseDups = orders.map fun order => (order.id.num : Int)

/-- A column keeps a number that it has room for. -/
theorem toInt_ofInt_natCast {n : Nat} (room : n ≤ maxInt64) : (Int64.ofInt n).toInt = n := by
  unfold maxInt64 at room
  apply Int64.toInt_ofInt_of_le <;> omega

theorem toInt_ofInt_word (word : UInt32) : (Int64.ofInt word.toNat).toInt = word.toNat := by
  have below := word.toNat_lt
  apply toInt_ofInt_natCast
  unfold maxInt64
  omega

/-- A joined row tells the number, the user and the state of its order. -/
theorem told_of_mem_join (member : row ∈ join order) : row.id.toInt = order.id.num ∧
    row.user.toInt = order.user.num ∧ row.state = order.state.name := by
  obtain ⟨item, -, rfl⟩ := List.mem_map.1 member
  exact ⟨toInt_ofInt_natCast order.id.le_max, toInt_ofInt_natCast order.user.le_max, rfl⟩

theorem map_columns_join (order : Order) :
    (join order).map columns = order.items.map Item.columns := by
  rw [join, List.map_map]
  apply List.map_congr_left
  intro item _
  exact Prod.ext (toInt_ofInt_word item.sku.num) (toInt_ofInt_word item.count.num)

theorem filter_join (order : Order) : (join order).filter (·.isOf order) = join order := by
  apply List.filter_eq_self.2
  intro row member
  exact isOf_iff.2 (told_of_mem_join member).1.symm

theorem filter_join_of_ne {other : Order} (ne : other.id ≠ order.id) :
    (join other).filter (·.isOf order) = [] := by
  apply List.filter_eq_nil_iff.2
  intro row member own
  rw [isOf_iff, (told_of_mem_join member).1] at own
  exact ne (OrderId.eq_of_num (Int.ofNat_inj.1 own.symm))

/-- Among the joined rows of orders with distinct numbers, those that bear the number of one order
    are its own. -/
theorem filter_flatMap_join (distinct : (orders.map (·.id)).Nodup) (listed : order ∈ orders) :
    (orders.flatMap join).filter (·.isOf order) = join order := by
  induction orders with
  | nil => cases listed
  | cons head rest ih =>
    rw [List.map_cons, List.nodup_cons] at distinct
    rw [List.flatMap_cons, List.filter_append]
    rcases List.mem_cons.1 listed with rfl | behind
    · have others : (rest.flatMap join).filter (·.isOf order) = [] := by
        rw [List.filter_flatMap, List.flatMap_eq_nil_iff]
        intro other member
        apply filter_join_of_ne
        intro same
        exact distinct.1 (same ▸ List.mem_map_of_mem member)
      rw [others, filter_join, List.append_nil]
    · have ne : head.id ≠ order.id := by
        intro same
        exact distinct.1 (same ▸ List.mem_map_of_mem behind)
      rw [filter_join_of_ne ne, List.nil_append, ih distinct.2 behind]

theorem Interleaved.filter_isOf (mixed : Interleaved orders rows)
    (distinct : (orders.map (·.id)).Nodup) (listed : order ∈ orders) :
    rows.filter (·.isOf order) = join order := by
  have own := (mixed.own order listed).filter (·.isOf order)
  have size := (mixed.perm.filter (·.isOf order)).length_eq
  rw [filter_join] at own
  rw [filter_flatMap_join distinct listed] at size
  exact (own.eq_of_length size.symm).symm

/-- Joined rows hold the orders that were joined, however they are interleaved. -/
theorem Interleaved.holds (mixed : Interleaved orders rows)
    (distinct : (orders.map (·.id)).Nodup) (lines : ∀ order ∈ orders, order.items ≠ []) :
    Holds rows orders := by
  refine ⟨mixed.seen.symm, ?_, ?_⟩
  · intro order listed
    have rowsOf := mixed.filter_isOf distinct listed
    obtain ⟨item, items, some⟩ := List.exists_cons_of_ne_nil (lines order listed)
    obtain ⟨row, rest, joined⟩ : ∃ row rest, join order = row :: rest := by
      rw [join, some]
      exact ⟨_, _, rfl⟩
    have told := told_of_mem_join (joined ▸ List.mem_cons_self : row ∈ join order)
    refine ⟨row, ?_, told.2⟩
    rw [← List.head?_filter, rowsOf, joined]
    rfl
  · intro order listed
    rw [mixed.filter_isOf distinct listed, map_columns_join]

/-- Grouping rows into orders. It fails exactly if some row has an article or a count out of range,
    or the first row of some number tells no order; then it blames the first row that is faulty
    where it stands. Otherwise it gives the orders that the rows hold: each number once, and each
    row as one line of one order. And it undoes the join of orders with their lines in every
    mixture. -/
theorem groups_exactly (operation : Operation) (rows : List OrderRow) :
    ((∃ error, group operation rows = .error error) ↔
      (∃ row ∈ rows, ¬ FitsWord row.sku ∨
        ¬ (1 ≤ row.count.toInt ∧ row.count.toInt ≤ 4294967295)) ∨
      ∃ early row late, rows = early ++ row :: late ∧ (∀ other ∈ early, other.id ≠ row.id) ∧
        (row.id.toInt ≤ 0 ∨ row.user.toInt ≤ 0 ∨
          ∀ state : OrderState, state.name ≠ row.state)) ∧
    (∀ error, group operation rows = .error error ↔
      ∃ early row late fault, rows = early ++ row :: late ∧ Intact early ∧
        row.Faulty early fault ∧ error = .corrupt operation fault) ∧
    (∀ orders, group operation rows = .ok orders ↔ Holds rows orders) ∧
    (∀ orders, group operation rows = .ok orders →
      (orders.map (·.id)).Nodup ∧ (orders.map (·.items.length)).sum = rows.length) ∧
    ∀ orders, (orders.map (·.id)).Nodup → (∀ order ∈ orders, order.items ≠ []) →
      Interleaved orders rows → group operation rows = .ok orders := by
  refine ⟨?_, ?_, ?_, ?_, ?_⟩
  · rw [exists_group_error_iff, not_intact_iff]
    simp only [exists_lineFault_iff, exists_headFault_iff]
  · intro error
    exact group_eq_error_iff
  · intro orders
    exact group_eq_ok_iff
  · intro orders grouped
    have holds := group_eq_ok_iff.1 grouped
    exact ⟨holds.nodup, holds.sum_lines⟩
  · intro orders distinct lines mixed
    exact group_eq_ok_iff.2 (mixed.holds distinct lines)

/-- The line of one order stands between those of another; a count of zero is refused. -/
theorem groups_exactly_twoOrders :
    let near : Order := ⟨⟨2000, by decide, by decide⟩, ⟨42, by decide, by decide⟩, .payed,
      [⟨⟨1⟩, ⟨1, by decide⟩⟩, ⟨⟨2⟩, ⟨3, by decide⟩⟩]⟩
    let far : Order := ⟨⟨1000, by decide, by decide⟩, ⟨7, by decide, by decide⟩, .awaitingPayment,
      [⟨⟨5⟩, ⟨2, by decide⟩⟩]⟩
    let early : List OrderRow := [⟨2000, 42, "PAYED", 1, 1⟩, ⟨1000, 7, "AWAITING_PAYMENT", 5, 2⟩]
    group .listOrders (early ++ [⟨2000, 42, "PAYED", 2, 3⟩]) = .ok [near, far] ∧
      group .listOrders (early ++ [⟨2000, 42, "PAYED", 2, 0⟩]) =
        .error (.corrupt .listOrders (.notPositive .itemCount)) := by
  intro near far early
  constructor
  · obtain ⟨-, -, -, -, undoes⟩ :=
      groups_exactly .listOrders (early ++ [⟨2000, 42, "PAYED", 2, 3⟩])
    apply undoes
    · decide
    · decide
    · exact ⟨by decide, by decide, by decide⟩
  · obtain ⟨-, blames, -⟩ := groups_exactly .listOrders (early ++ [⟨2000, 42, "PAYED", 2, 0⟩])
    rw [blames]
    have intact : Intact early := (exists_group_iff .listOrders early).1 ⟨_, rfl⟩
    exact ⟨early, ⟨2000, 42, "PAYED", 2, 0⟩, [], _, rfl, intact,
      .line (.empty ⟨by decide, by decide⟩ rfl), rfl⟩

end OrderRow

end OrderDesk
