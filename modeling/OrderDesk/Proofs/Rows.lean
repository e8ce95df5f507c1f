import OrderDesk.Proofs.Composition
import OrderDesk.Store.Rows

/-!
# What a row tells

A row holds a line in two columns that need not fit, and tells number, user and state of its order
in three more. Reading the line, and reading the order, succeeds exactly if the columns show what is
read; otherwise the first thing that is wrong is told.
-/

namespace OrderDesk

/-! ## Columns -/

/-- A column holds a number that 32 bits hold. -/
def FitsWord (value : Int64) : Prop := 0 ≤ value.toInt ∧ value.toInt ≤ 4294967295

variable {column : String} {value : Int64} {word : UInt32} {fault : RowFault}

theorem columnWord_eq_ok_iff : columnWord column value = .ok word ↔ value.toInt = word.toNat := by
  have below := word.toNat_lt
  unfold columnWord UInt32.size
  split
  · rename_i range
    have small : value.toInt.toNat < UInt32.size := by
      unfold UInt32.size
      omega
    rw [Except.ok.injEq, ← UInt32.toNat_inj, UInt32.toNat_ofNat_of_lt' small]
    omega
  · rename_i outside
    refine iff_of_false (fun equal => nomatch equal) fun same => outside ?_
    omega

theorem columnWord_eq_error_iff : columnWord column value = .error fault ↔
    ¬ FitsWord value ∧ fault = .outOfRange column value.toInt := by
  unfold columnWord FitsWord UInt32.size
  split
  · rename_i range
    refine iff_of_false (fun equal => nomatch equal) fun told => told.1 ⟨range.1, ?_⟩
    omega
  · rename_i outside
    rw [Except.error.injEq, eq_comm]
    refine (and_iff_right ?_).symm
    omega

theorem exists_columnWord_of_fits (column : String) (fits : FitsWord value) :
    ∃ word, columnWord column value = .ok word := by
  cases read : columnWord column value with
  | ok word => exact ⟨word, rfl⟩
  | error fault => exact absurd fits (columnWord_eq_error_iff.1 read).1

theorem fitsWord_of_columnWord (read : columnWord column value = .ok word) : FitsWord value := by
  have below := word.toNat_lt
  rw [columnWord_eq_ok_iff] at read
  unfold FitsWord
  omega

namespace ItemCount

theorem ofWord?_eq_some_iff {count : ItemCount} : ofWord? word = some count ↔ word = count.num := by
  rcases count with ⟨units, pos⟩
  unfold ofWord?
  split
  · simp
  · rename_i none
    refine iff_of_false (fun equal => nomatch equal) ?_
    rintro rfl
    exact none pos

theorem ofWord?_eq_none_iff : ofWord? word = none ↔ word = 0 := by
  unfold ofWord?
  split
  · rename_i pos
    refine iff_of_false (fun equal => nomatch equal) ?_
    rintro rfl
    exact absurd pos (by decide)
  · rename_i none
    rw [UInt32.lt_iff_toNat_lt] at none
    exact iff_of_true rfl (UInt32.toNat_inj.1 (Nat.eq_zero_of_not_pos none))

end ItemCount

theorem OrderId.ofInt?_eq_none_iff : OrderId.ofInt? value.toInt = none ↔ value.toInt ≤ 0 := by
  have top : value.toInt ≤ maxInt64 := value.toInt_le
  unfold OrderId.ofInt?
  split
  · rename_i range
    exact iff_of_false (Option.some_ne_none _) (Int.not_le.2 range.1)
  · rename_i outside
    exact iff_of_true rfl (Int.not_lt.1 fun pos => outside ⟨pos, top⟩)

theorem UserId.ofInt?_eq_none_iff : UserId.ofInt? value.toInt = none ↔ value.toInt ≤ 0 := by
  have top : value.toInt ≤ maxInt64 := value.toInt_le
  unfold UserId.ofInt?
  split
  · rename_i range
    exact iff_of_false (Option.some_ne_none _) (Int.not_le.2 range.1)
  · rename_i outside
    exact iff_of_true rfl (Int.not_lt.1 fun pos => outside ⟨pos, top⟩)

theorem UserId.ofInt?_eq_some_iff {n : Int} {user : UserId} :
    UserId.ofInt? n = some user ↔ (user.num : Int) = n := by
  unfold UserId.ofInt?
  constructor
  · intro made
    split at made
    · rename_i range
      rw [← Option.some.inj made]
      exact Int.toNat_of_nonneg (Int.le_of_lt range.1)
    · cases made
  · rintro rfl
    rw [dif_pos ⟨Int.natCast_pos.2 user.pos, Int.ofNat_le.2 user.le_max⟩]
    rfl

namespace OrderState

theorem ofName?_eq_some_iff {name : String} {state : OrderState} :
    ofName? name = some state ↔ state.name = name := by
  constructor
  · intro found
    simpa using List.find?_some found
  · rintro rfl
    exact ofName?_name state

theorem ofName?_eq_none_iff {name : String} :
    ofName? name = none ↔ ∀ state : OrderState, state.name ≠ name := by
  rw [ofName?, List.find?_eq_none]
  simp [mem_all]

end OrderState

/-- The numbers of a line. -/
def Item.columns (item : Item) : Int × Int := (item.sku.num.toNat, item.count.num.toNat)

theorem Item.columns_injective : Function.Injective columns := by
  rintro ⟨⟨sku⟩, ⟨units, _⟩⟩ ⟨⟨other⟩, ⟨count, _⟩⟩ same
  obtain ⟨skus, counts⟩ := Prod.mk.inj same
  obtain rfl := UInt32.toNat_inj.1 (Int.ofNat_inj.1 skus)
  obtain rfl := UInt32.toNat_inj.1 (Int.ofNat_inj.1 counts)
  rfl

namespace OrderRow

/-- What is wrong with the line of a row: the article is looked at before the count. -/
inductive LineFault (row : OrderRow) : RowFault → Prop where
  | sku (outside : ¬ FitsWord row.sku) : LineFault row (.outOfRange "sku" row.sku.toInt)
  | count (sku : FitsWord row.sku) (outside : ¬ FitsWord row.count) :
      LineFault row (.outOfRange "count" row.count.toInt)
  | empty (sku : FitsWord row.sku) (none : row.count.toInt = 0) :
      LineFault row (.notPositive .itemCount)

/-- What is wrong with what a row tells of its order: the number is looked at before the user, and
    the user before the state. -/
inductive HeadFault (row : OrderRow) : RowFault → Prop where
  | id (notPositive : row.id.toInt ≤ 0) : HeadFault row (.notPositive .orderId)
  | user (id : 0 < row.id.toInt) (notPositive : row.user.toInt ≤ 0) :
      HeadFault row (.notPositive .userId)
  | state (id : 0 < row.id.toInt) (user : 0 < row.user.toInt)
      (unknown : ∀ state : OrderState, state.name ≠ row.state) :
      HeadFault row (.unknownState row.state)

/-- The numbers in which a row holds its line. -/
def columns (row : OrderRow) : Int × Int := (row.sku.toInt, row.count.toInt)

variable {row : OrderRow} {item : Item} {order : Order}

theorem item_eq_ok_iff : row.item = .ok item ↔ row.columns = item.columns := by
  constructor
  · intro read
    unfold OrderRow.item at read
    split at read
    · cases read
    · rename_i sku article
      split at read
      · cases read
      · rename_i units counted
        split at read
        · cases read
        · rename_i count positive
          cases read
          rw [ItemCount.ofWord?_eq_some_iff] at positive
          rw [positive] at counted
          exact Prod.ext (columnWord_eq_ok_iff.1 article) (columnWord_eq_ok_iff.1 counted)
  · intro shows
    obtain ⟨article, counted⟩ := Prod.mk.inj shows
    unfold OrderRow.item
    simp only [columnWord_eq_ok_iff.2 article, columnWord_eq_ok_iff.2 counted,
      ItemCount.ofWord?_eq_some_iff.2 rfl]

theorem item_eq_error_iff : row.item = .error fault ↔ row.LineFault fault := by
  constructor
  · intro failed
    unfold OrderRow.item at failed
    split at failed
    · rename_i wrong article
      obtain ⟨outside, rfl⟩ := columnWord_eq_error_iff.1 article
      cases failed
      exact .sku outside
    · rename_i sku article
      have fits := fitsWord_of_columnWord article
      split at failed
      · rename_i wrong counted
        obtain ⟨outside, rfl⟩ := columnWord_eq_error_iff.1 counted
        cases failed
        exact .count fits outside
      · rename_i units counted
        split at failed
        · rename_i none
          cases failed
          rw [columnWord_eq_ok_iff, ItemCount.ofWord?_eq_none_iff.1 none] at counted
          exact .empty fits counted
        · cases failed
  · intro wrong
    unfold OrderRow.item
    cases wrong with
    | sku outside => simp only [columnWord_eq_error_iff.2 ⟨outside, rfl⟩]
    | count fits outside =>
      obtain ⟨sku, article⟩ := exists_columnWord_of_fits "sku" fits
      simp only [article, columnWord_eq_error_iff.2 ⟨outside, rfl⟩]
    | empty fits none =>
      obtain ⟨sku, article⟩ := exists_columnWord_of_fits "sku" fits
      have counted : columnWord "count" row.count = .ok 0 := columnWord_eq_ok_iff.2 none
      simp only [article, counted, ItemCount.ofWord?_eq_none_iff.2]

theorem not_lineFault (shows : row.columns = item.columns) : ¬ row.LineFault fault := by
  intro wrong
  have read := item_eq_ok_iff.2 shows
  rw [item_eq_error_iff.2 wrong] at read
  cases read

/-- The order of a row has its number, user and state, and one line. -/
theorem order_eq_ok_iff : row.order item = .ok order ↔ row.id.toInt = order.id.num ∧
    row.user.toInt = order.user.num ∧ row.state = order.state.name ∧ order.items = [item] := by
  constructor
  · intro read
    unfold OrderRow.order at read
    split at read
    · cases read
    · rename_i id numbered
      split at read
      · cases read
      · rename_i user known
        split at read
        · cases read
        · rename_i state named
          cases read
          exact ⟨(OrderId.ofInt?_eq_some_iff.1 numbered).symm,
            (UserId.ofInt?_eq_some_iff.1 known).symm,
            (OrderState.ofName?_eq_some_iff.1 named).symm, rfl⟩
  · rcases order with ⟨id, user, state, items⟩
    rintro ⟨numbered, known, named, rfl⟩
    unfold OrderRow.order
    simp only [OrderId.ofInt?_eq_some_iff.2 numbered.symm, UserId.ofInt?_eq_some_iff.2 known.symm,
      OrderState.ofName?_eq_some_iff.2 named.symm]

/-- One thing is the first that is wrong. -/
theorem HeadFault.unique {other : RowFault} (wrong : row.HeadFault fault)
    (also : row.HeadFault other) : fault = other := by
  cases wrong with
  | id =>
    cases also with
    | id => rfl
    | user => omega
    | state => omega
  | user =>
    cases also with
    | id => omega
    | user => rfl
    | state => omega
  | state =>
    cases also with
    | id => omega
    | user => omega
    | state => rfl

theorem headFault_of_order (failed : row.order item = .error fault) : row.HeadFault fault := by
  unfold OrderRow.order at failed
  split at failed
  · rename_i none
    cases failed
    exact .id (OrderId.ofInt?_eq_none_iff.1 none)
  · rename_i id numbered
    have positive : 0 < row.id.toInt := by
      rw [← OrderId.ofInt?_eq_some_iff.1 numbered]
      exact Int.natCast_pos.2 id.pos
    split at failed
    · rename_i none
      cases failed
      exact .user positive (UserId.ofInt?_eq_none_iff.1 none)
    · rename_i user known
      have also : 0 < row.user.toInt := by
        rw [← UserId.ofInt?_eq_some_iff.1 known]
        exact Int.natCast_pos.2 user.pos
      split at failed
      · rename_i none
        cases failed
        exact .state positive also (OrderState.ofName?_eq_none_iff.1 none)
      · cases failed

theorem HeadFault.not_order (wrong : row.HeadFault fault) : row.order item ≠ .ok order := by
  intro read
  obtain ⟨id, user, state, -⟩ := order_eq_ok_iff.1 read
  have positive := order.id.pos
  have also := order.user.pos
  cases wrong with
  | id => omega
  | user => omega
  | state _ _ unknown => exact unknown order.state state.symm

theorem order_eq_error_iff : row.order item = .error fault ↔ row.HeadFault fault := by
  refine ⟨headFault_of_order, fun wrong => ?_⟩
  cases read : row.order item with
  | ok order => exact absurd read wrong.not_order
  | error other => rw [wrong.unique (headFault_of_order read)]

theorem exists_lineFault_iff : (∃ fault, row.LineFault fault) ↔
    ¬ FitsWord row.sku ∨ ¬ (1 ≤ row.count.toInt ∧ row.count.toInt ≤ 4294967295) := by
  have small : (1 ≤ row.count.toInt ∧ row.count.toInt ≤ 4294967295) ↔
      FitsWord row.count ∧ row.count.toInt ≠ 0 := by
    unfold FitsWord
    omega
  rw [small]
  constructor
  · rintro ⟨fault, wrong⟩
    cases wrong with
    | sku outside => exact .inl outside
    | count _ outside => exact .inr fun fits => outside fits.1
    | empty _ none => exact .inr fun fits => fits.2 none
  · intro wrong
    by_cases sku : FitsWord row.sku
    · by_cases count : FitsWord row.count
      · have none : row.count.toInt = 0 := by
          refine Decidable.of_not_not fun some => ?_
          exact wrong.elim (absurd sku) (absurd ⟨count, some⟩)
        exact ⟨_, .empty sku none⟩
      · exact ⟨_, .count sku count⟩
    · exact ⟨_, .sku sku⟩

theorem exists_headFault_iff : (∃ fault, row.HeadFault fault) ↔
    row.id.toInt ≤ 0 ∨ row.user.toInt ≤ 0 ∨ ∀ state : OrderState, state.name ≠ row.state := by
  constructor
  · rintro ⟨fault, wrong⟩
    cases wrong with
    | id notPositive => exact .inl notPositive
    | user _ notPositive => exact .inr (.inl notPositive)
    | state _ _ unknown => exact .inr (.inr unknown)
  · intro wrong
    by_cases id : row.id.toInt ≤ 0
    · exact ⟨_, .id id⟩
    · by_cases user : row.user.toInt ≤ 0
      · exact ⟨_, .user (Int.not_le.1 id) user⟩
      · have unknown := (wrong.resolve_left id).resolve_left user
        exact ⟨_, .state (Int.not_le.1 id) (Int.not_le.1 user) unknown⟩

end OrderRow

end OrderDesk
