import OrderDesk.Outbox.Snapshot
import OrderDesk.Proofs.Reading

/-!
# Snapshots come back

What is written of a snapshot is read back as the same snapshot, however much white space is put
between its tokens. So an event tells exactly what the order was when the event was stored.
-/

namespace OrderDesk

open Json

namespace Wire

/-- A value is read back from its document, and the document from every spelling. -/
structure Faithful {α : Type} [Wire α] (value : α) : Prop where
  reads : (shape α).Reads (toJson value)
  ofJson? : ofJson? (toJson value) = some value

variable {α : Type} [Wire α]

theorem read_spelled {value : α} (faithful : Faithful value) {bytes space : List UInt8}
    (spells : Spells (toJson value).tokens bytes) (blank : ∀ byte ∈ space, isSpace byte = true) :
    read α (bytes ++ space) = .ok value := by
  have stops : NoNumeral space := by
    simpa using noNumeral_of_blank blank noNumeral_nil
  have ended : skipSpace space = [] := by
    rw [← List.append_nil space, skipSpace_blank blank]
    rfl
  unfold read Shape.parse
  rw [faithful.reads bytes space spells stops]
  simp only [ended, List.isEmpty_nil, if_true, faithful.ofJson?]

theorem read_write {value : α} (faithful : Faithful value) :
    read α (Utf8.encode (write value)) = .ok value := by
  have spells : Spells (toJson value).tokens (Utf8.encode (write value)) := spells_join _
  have blank : ∀ byte ∈ ([] : List UInt8), isSpace byte = true := by simp
  simpa using read_spelled faithful spells blank

theorem faithful_uint32 (n : UInt32) : Faithful n := by
  have bound := n.toNat_lt_size
  have low : Int64.minValue.toInt ≤ n.toNat := by
    rw [Int64.toInt_minValue]
    omega
  have high : UInt32.size ≤ UInt64.size := by decide
  constructor
  · apply Shape.reads_integer <;> omega
  · show (if (0 : Int) ≤ n.toNat ∧ (n.toNat : Int) < UInt32.size then
      some (UInt32.ofNat (n.toNat : Int).toNat) else none) = some n
    rw [if_pos (by omega), Int.toNat_natCast, UInt32.ofNat_toNat]

theorem faithful_int64 (n : Int64) : Faithful n := by
  have high : n.toInt < UInt64.size := by
    have below := n.toInt_lt
    rw [UInt64.size]
    omega
  constructor
  · exact Shape.reads_integer ⟨n.minValue_le_toInt, n.toInt_le⟩ ⟨n.minValue_le_toInt, high⟩
  · show (if Int64.minValue.toInt ≤ n.toInt ∧ n.toInt ≤ Int64.maxValue.toInt then
      some (Int64.ofInt n.toInt) else none) = some n
    rw [if_pos ⟨n.minValue_le_toInt, n.toInt_le⟩, Int64.ofInt_toInt]

theorem faithful_list {values : List α} (faithful : ∀ value ∈ values, Faithful value) :
    Faithful values := by
  constructor
  · apply Shape.reads_list
    intro document member
    obtain ⟨value, inside, rfl⟩ := List.mem_map.1 member
    exact (faithful value inside).reads
  · show listOfJson? (values.map toJson) = some values
    induction values with
    | nil => rfl
    | cons value rest ih =>
      have here := (faithful value (by simp)).ofJson?
      have others := ih fun other inside => faithful other (by simp [inside])
      simp only [List.map_cons, listOfJson?, here, others]

/-- A value in a field of a record. -/
def entry (name : String) (value : α) : Shape.Entry := ⟨name, shape α, toJson value⟩

theorem Faithful.fits {value : α} (faithful : Faithful value) {name : String} (plain : Plain name) :
    (entry name value).Fits :=
  ⟨plain, faithful.reads⟩

theorem Faithful.field? {value : α} (faithful : Faithful value) {document : Json} {name : String}
    (member : document.member? name = some (toJson value)) : field? document name = some value := by
  rw [Wire.field?, member]
  exact faithful.ofJson?

end Wire

theorem faithful_orderState (state : OrderState) : Wire.Faithful state := by
  constructor
  · apply Shape.reads_choice
    · exact List.mem_map_of_mem (OrderState.mem_all state)
    · cases state <;> decide
  · exact OrderState.ofName?_name state

theorem faithful_snapshotItem (item : SnapshotItem) : Wire.Faithful item := by
  have sku := Wire.faithful_uint32 item.sku
  have count := Wire.faithful_uint32 item.count
  have fits : ∀ entry ∈ [Wire.entry "SKU" item.sku, Wire.entry "Count" item.count], entry.Fits := by
    simp only [List.forall_mem_cons]
    exact ⟨sku.fits (by decide), count.fits (by decide), by simp⟩
  have distinct : ["SKU", "Count"].Nodup := by decide
  constructor
  · exact Shape.reads_record fits distinct
  · show (do
      let sku ← Wire.field? (Wire.toJson item) "SKU"
      let count ← Wire.field? (Wire.toJson item) "Count"
      some (⟨sku, count⟩ : SnapshotItem)) = some item
    rw [sku.field? rfl, count.field? rfl]
    rfl

theorem faithful_snapshot (snapshot : Snapshot) : Wire.Faithful snapshot := by
  have id := Wire.faithful_int64 snapshot.id
  have user := Wire.faithful_int64 snapshot.user
  have state := faithful_orderState snapshot.state
  have items : Wire.Faithful snapshot.items :=
    Wire.faithful_list fun item _ => faithful_snapshotItem item
  have fits : ∀ entry ∈ [Wire.entry "ID" snapshot.id, Wire.entry "UserId" snapshot.user,
      Wire.entry "State" snapshot.state, Wire.entry "Items" snapshot.items], entry.Fits := by
    simp only [List.forall_mem_cons]
    exact ⟨id.fits (by decide), user.fits (by decide), state.fits (by decide),
      items.fits (by decide), by simp⟩
  have distinct : ["ID", "UserId", "State", "Items"].Nodup := by decide
  constructor
  · exact Shape.reads_record fits distinct
  · show (do
      let id ← Wire.field? (Wire.toJson snapshot) "ID"
      let user ← Wire.field? (Wire.toJson snapshot) "UserId"
      let state ← Wire.field? (Wire.toJson snapshot) "State"
      let items ← Wire.field? (Wire.toJson snapshot) "Items"
      some (⟨id, user, state, items⟩ : Snapshot)) = some snapshot
    rw [id.field? rfl, user.field? rfl, state.field? rfl, items.field? rfl]
    rfl

namespace Snapshot

/-- The stored text of a snapshot holds that snapshot. -/
theorem ofPayload_payload (snapshot : Snapshot) : ofPayload snapshot.payload = .ok snapshot := by
  rw [ofPayload, payload, Wire.read_write (faithful_snapshot snapshot)]

/-- A snapshot tells the number, the user and the lines of an order as they are. -/
structure Tells (snapshot : Snapshot) (order : Order) : Prop where
  id : snapshot.id.toInt = order.id.num
  user : snapshot.user.toInt = order.user.num
  items : snapshot.items.map (fun item => (item.sku, item.count)) =
    order.items.map fun item => (item.sku.num, item.count.num)

theorem toInt_of_le_max {n : Nat} (le_max : n ≤ maxInt64) : (Int64.ofInt n).toInt = n := by
  unfold maxInt64 at le_max
  apply Int64.toInt_ofInt_of_le <;> omega

theorem tells_ofOrder (order : Order) (state : OrderState) :
    (ofOrder { order with state := state }).Tells order where
  id := toInt_of_le_max order.id.le_max
  user := toInt_of_le_max order.user.le_max
  items := by simp [ofOrder]

end Snapshot

end OrderDesk
