import Mathlib.Data.List.Induction
import OrderDesk.Proofs.Encoding
import OrderDesk.Proofs.Payload
import OrderDesk.Store.SeedFile

/-!
# What a seed file puts into the stock

A file is accepted if no record names an article that an earlier one names and none promises more
than is held. The first record that does is reported. The rows of an accepted file are of different
articles, so it does not matter in which order they are put into the stock, and as none of them
promises too much, a sound stock stays sound.
-/

namespace OrderDesk

/-! ## The rows of a file -/

namespace SeedRecord

/-- The row of the stock that a record tells of. -/
def stock (record : SeedRecord) : Stock := ⟨⟨record.sku⟩, record.total, record.reserved⟩

end SeedRecord

namespace SeedFile

/-- Records of different articles, none of which promises more than is held. -/
structure InOrder (records : List SeedRecord) : Prop where
  distinct : (records.map (·.stock.sku)).Nodup
  sound : ∀ record ∈ records, record.stock.Sound

/-- Why a record is refused, behind the records in front of it. -/
inductive Offends (front : List SeedRecord) (record : SeedRecord) : SeedError → Prop where
  | duplicate (named : record.stock.sku ∈ front.map (·.stock.sku)) :
      Offends front record (.duplicate record.stock.sku)
  | exceeds (fresh : record.stock.sku ∉ front.map (·.stock.sku)) (above : ¬record.stock.Sound) :
      Offends front record (.reservedExceedsTotal record.stock.sku record.reserved record.total)

/-- The articles seen when records have been read, the last one first. -/
def seenIn (front : List SeedRecord) : List Sku := (front.map (·.stock.sku)).reverse

variable {front back records others : List SeedRecord} {record : SeedRecord} {error : SeedError}

theorem InOrder.of_append (inOrder : InOrder (front ++ back)) : InOrder front := by
  have distinct := inOrder.distinct
  rw [List.map_append] at distinct
  exact ⟨distinct.of_append_left, fun record member => inOrder.sound record (by simp [member])⟩

theorem InOrder.perm (inOrder : InOrder records) (same : others.Perm records) : InOrder others :=
  ⟨(same.map _).nodup_iff.2 inOrder.distinct,
    fun record member => inOrder.sound record (same.mem_iff.1 member)⟩

theorem inOrder_concat : InOrder (front ++ [record]) ↔
    InOrder front ∧ record.stock.sku ∉ front.map (·.stock.sku) ∧ record.stock.Sound := by
  constructor
  · intro inOrder
    have distinct := inOrder.distinct
    rw [List.map_append, List.map_singleton, List.nodup_append] at distinct
    obtain ⟨-, -, apart⟩ := distinct
    exact ⟨inOrder.of_append, fun named => apart _ named _ (by simp) rfl,
      inOrder.sound record (by simp)⟩
  · rintro ⟨inOrder, fresh, sound⟩
    constructor
    · rw [List.map_append, List.map_singleton, ← List.concat_eq_append]
      exact inOrder.distinct.concat fresh
    · intro other member
      rcases List.mem_append.1 member with inside | last
      · exact inOrder.sound other inside
      · rwa [List.mem_singleton.1 last]

/-- Records are in order, or there is a first one that offends. -/
theorem inOrder_or_offends (records : List SeedRecord) : InOrder records ∨
    ∃ front record back error,
      records = front ++ record :: back ∧ InOrder front ∧ Offends front record error := by
  induction records using List.reverseRecOn with
  | nil => exact .inl ⟨List.nodup_nil, by simp⟩
  | append_singleton records last ih =>
    rcases ih with inOrder | ⟨front, record, back, error, split, inOrder, offends⟩
    · by_cases named : last.stock.sku ∈ records.map (·.stock.sku)
      · exact .inr ⟨records, last, [], _, rfl, inOrder, .duplicate named⟩
      · by_cases sound : last.stock.Sound
        · exact .inl (inOrder_concat.2 ⟨inOrder, named, sound⟩)
        · exact .inr ⟨records, last, [], _, rfl, inOrder, .exceeds named sound⟩
    · refine .inr ⟨front, record, back ++ [last], error, ?_, inOrder, offends⟩
      rw [split, List.append_assoc, List.cons_append]

theorem checked_stock (record : SeedRecord) :
    Stock.checked ⟨record.sku⟩ record.total record.reserved =
      if record.stock.Sound then .ok record.stock
      else .error (.negativeAvailable record.stock.sku record.total record.reserved) := by
  by_cases sound : record.reserved ≤ record.total
  · have same : record.stock.Sound := sound
    simp only [Stock.checked, Stock.available, sound, same, if_true]
    rfl
  · have same : ¬record.stock.Sound := sound
    simp only [Stock.checked, Stock.available, sound, same, if_false]
    rfl

theorem row_seenIn (front : List SeedRecord) (record : SeedRecord) : row (seenIn front) record =
    if record.stock.sku ∈ front.map (·.stock.sku) then .error (.duplicate record.stock.sku)
    else if record.stock.Sound then .ok record.stock
    else .error (.reservedExceedsTotal record.stock.sku record.reserved record.total) := by
  have seen : (seenIn front).contains ⟨record.sku⟩ = true ↔
      record.stock.sku ∈ front.map (·.stock.sku) := by
    rw [List.contains_iff_mem, seenIn, List.mem_reverse]
    rfl
  simp only [row, seen, checked_stock]
  by_cases sound : record.stock.Sound <;> simp only [sound, if_true, if_false] <;> rfl

theorem row_of_inOrder (inOrder : InOrder (front ++ [record])) :
    row (seenIn front) record = .ok record.stock := by
  obtain ⟨-, fresh, sound⟩ := inOrder_concat.1 inOrder
  rw [row_seenIn, if_neg fresh, if_pos sound]

theorem row_of_offends (offends : Offends front record error) :
    row (seenIn front) record = .error error := by
  cases offends with
  | duplicate named => rw [row_seenIn, if_pos named]
  | exceeds fresh above => rw [row_seenIn, if_neg fresh, if_neg above]

/-- Records that are in order behind those before them give their rows; what comes of the rest is
    decided by the rest. -/
theorem rowsAfter_append (before : List SeedRecord) (inOrder : InOrder (before ++ front)) :
    rowsAfter (seenIn before) (front ++ back) =
      (rowsAfter (seenIn (before ++ front)) back).map (front.map SeedRecord.stock ++ ·) := by
  induction front generalizing before with
  | nil =>
    rw [List.append_nil, List.nil_append]
    cases rowsAfter (seenIn before) back <;> rfl
  | cons record front ih =>
    rw [List.append_cons] at inOrder
    have seen : (⟨record.sku⟩ : Sku) :: seenIn before = seenIn (before ++ [record]) := by
      simp [seenIn, SeedRecord.stock]
    rw [List.cons_append, rowsAfter, row_of_inOrder inOrder.of_append]
    simp only
    rw [seen, ih _ inOrder, ← List.append_cons]
    cases rowsAfter (seenIn (before ++ record :: front)) back <;> rfl

theorem rows_of_inOrder (inOrder : InOrder records) :
    rows records = .ok (records.map SeedRecord.stock) := by
  have all : rows (records ++ []) = _ := rowsAfter_append [] inOrder
  rw [List.append_nil] at all
  rw [all, rowsAfter, Except.map, List.append_nil]

theorem rows_of_offends (inOrder : InOrder front) (offends : Offends front record error)
    (back : List SeedRecord) : rows (front ++ record :: back) = .error error := by
  have all : rows (front ++ record :: back) = _ := rowsAfter_append [] inOrder
  rw [all, List.nil_append, rowsAfter, row_of_offends offends]
  rfl

theorem rows_eq_ok_iff {stocks : List Stock} :
    rows records = .ok stocks ↔ InOrder records ∧ stocks = records.map SeedRecord.stock := by
  constructor
  · intro accepted
    rcases inOrder_or_offends records with
      inOrder | ⟨front, record, back, error, rfl, inOrder, offends⟩
    · rw [rows_of_inOrder inOrder] at accepted
      exact ⟨inOrder, (Except.ok.inj accepted).symm⟩
    · rw [rows_of_offends inOrder offends] at accepted
      cases accepted
  · rintro ⟨inOrder, rfl⟩
    exact rows_of_inOrder inOrder

/-- The error is that of the first record that offends. -/
theorem rows_eq_error_iff : rows records = .error error ↔ ∃ front record back,
    records = front ++ record :: back ∧ InOrder front ∧ Offends front record error := by
  constructor
  · intro refused
    rcases inOrder_or_offends records with
      inOrder | ⟨front, record, back, other, rfl, inOrder, offends⟩
    · rw [rows_of_inOrder inOrder] at refused
      cases refused
    · rw [rows_of_offends inOrder offends] at refused
      cases refused
      exact ⟨front, record, back, rfl, inOrder, offends⟩
  · rintro ⟨front, record, back, rfl, inOrder, offends⟩
    exact rows_of_offends inOrder offends back

theorem InOrder.distinct_rows (inOrder : InOrder records) :
    ((records.map SeedRecord.stock).map (·.sku)).Nodup := by
  rw [List.map_map]
  exact inOrder.distinct

theorem InOrder.sound_rows (inOrder : InOrder records) :
    ∀ row ∈ records.map SeedRecord.stock, row.Sound := by
  intro row member
  obtain ⟨record, inside, rfl⟩ := List.mem_map.1 member
  exact inOrder.sound record inside

theorem parse_of_read {text : String}
    (decodes : Wire.read (List SeedRecord) (Utf8.encode text) = .ok records) :
    parse text = rows records := by
  simp only [parse, decodes]

theorem read_encode (path text : String) : read path (some (Utf8.encode text)) = parse text := by
  simp only [read, Option.map_some, Utf8.decode_encode, String.ofList_toList]

end SeedFile

/-- A record of a seed file is read back from what is written of it. -/
theorem faithful_seedRecord (record : SeedRecord) : Wire.Faithful record := by
  have sku := Wire.faithful_uint32 record.sku
  have total := Wire.faithful_uint32 record.total
  have reserved := Wire.faithful_uint32 record.reserved
  have fits : ∀ entry ∈ [Wire.entry "sku" record.sku, Wire.entry "total_count" record.total,
      Wire.entry "reserved" record.reserved], entry.Fits := by
    simp only [List.forall_mem_cons]
    exact ⟨sku.fits (by decide), total.fits (by decide), reserved.fits (by decide), by simp⟩
  have distinct : ["sku", "total_count", "reserved"].Nodup := by decide
  constructor
  · exact Json.Shape.reads_record fits distinct
  · show (do
      let sku ← Wire.field? (Wire.toJson record) "sku"
      let total ← Wire.field? (Wire.toJson record) "total_count"
      let reserved ← Wire.field? (Wire.toJson record) "reserved"
      some (⟨sku, total, reserved⟩ : SeedRecord)) = some record
    rw [sku.field? rfl, total.field? rfl, reserved.field? rfl]
    rfl

/-- So every list of records is the content of some file. -/
theorem SeedFile.read_written (records : List SeedRecord) :
    Wire.read (List SeedRecord) (Utf8.encode (Wire.write records)) = .ok records :=
  Wire.read_write (Wire.faithful_list fun record _ => faithful_seedRecord record)

/-! ## Rows that are put into the stock -/

namespace Inventory

/-- An inventory took rows in: their articles have these rows, and no other article was touched. -/
structure Took (stocks : List Stock) (before after : Inventory) : Prop where
  listed : ∀ row ∈ stocks, after.get? row.sku = some row
  others : ∀ sku, sku ∉ stocks.map (·.sku) → after.get? sku = before.get? sku

variable {before after : Inventory} {stocks : List Stock}

/-- Rows of different articles do not overwrite each other. -/
theorem took_putAll (distinct : (stocks.map (·.sku)).Nodup) (inventory : Inventory) :
    inventory.Took stocks (inventory.putAll stocks) := by
  induction stocks generalizing inventory with
  | nil => exact ⟨by simp, fun _ _ => rfl⟩
  | cons first rest ih =>
    obtain ⟨fresh, apart⟩ := List.nodup_cons.1 distinct
    have later : (inventory.put first).Took rest (inventory.putAll (first :: rest)) := ih apart _
    constructor
    · intro row member
      rcases List.mem_cons.1 member with rfl | inside
      · rw [later.others _ fresh, get?_put, if_pos rfl]
      · exact later.listed row inside
    · intro sku unlisted
      obtain ⟨other, absent⟩ := List.ne_and_not_mem_of_not_mem_cons unlisted
      rw [later.others sku absent, get?_put, if_neg (Ne.symm other)]

theorem Took.sound (took : Took stocks before after) (rows : ∀ row ∈ stocks, row.Sound)
    (sound : before.Sound) : after.Sound := by
  intro sku row found
  by_cases listed : sku ∈ stocks.map (·.sku)
  · obtain ⟨there, member, rfl⟩ := List.mem_map.1 listed
    rw [took.listed there member] at found
    rw [← Option.some.inj found]
    exact rows there member
  · rw [took.others sku listed] at found
    exact sound sku row found

/-- The rows taken in decide what an inventory holds, their order does not. -/
theorem Took.get?_eq {others : List Stock} {again : Inventory} (took : Took stocks before after)
    (reordered : Took others before again) (same : others.Perm stocks) (sku : Sku) :
    again.get? sku = after.get? sku := by
  by_cases listed : sku ∈ stocks.map (·.sku)
  · obtain ⟨there, member, rfl⟩ := List.mem_map.1 listed
    rw [took.listed there member, reordered.listed there (same.mem_iff.2 member)]
  · have unlisted : sku ∉ others.map (·.sku) := mt (same.map _).mem_iff.1 listed
    rw [took.others sku listed, reordered.others sku unlisted]

end Inventory

namespace Cluster

open SeedFile

/-- A seed file is loaded as a whole or not at all. For a text that is a list of records: it is
    accepted if and only if its records are of different articles and none promises more than is
    held. Its rows are those that the records tell of, in their order. Otherwise the error is that
    of the first record that offends, and nothing is loaded. On a healthy shard, each article of the
    file has afterwards the row of the file, and every other article the row that it had, so a sound
    stock stays sound. A file with the same records in another order is accepted as well and leaves
    the same rows. If the shard is not healthy, nothing is loaded. -/
theorem seeds_exactly {text : String} {records : List SeedRecord}
    (decodes : Wire.read (List SeedRecord) (Utf8.encode text) = .ok records) :
    ((∃ stocks, parse text = .ok stocks) ↔ InOrder records) ∧
    (∀ stocks, parse text = .ok stocks → stocks = records.map SeedRecord.stock) ∧
    (∀ error, parse text = .error error ↔ ∃ front record back,
      records = front ++ record :: back ∧ InOrder front ∧ Offends front record error) ∧
    (∀ (cluster : Cluster) (path : String) (error : SeedError), parse text = .error error →
      cluster.loadSeed path (some (Utf8.encode text)) = (.error error, cluster)) ∧
    ∀ (cluster : Cluster) (path : String) (stocks : List Stock), parse text = .ok stocks →
      (cluster.Healthy .inventory → ∃ after : Inventory,
        cluster.upsertStock stocks = (.ok (), cluster.setInventory after) ∧
        cluster.loadSeed path (some (Utf8.encode text)) =
          (.ok records.length, cluster.setInventory after) ∧
        cluster.inventory.Took stocks after ∧ (cluster.inventory.Sound → after.Sound) ∧
        ∀ (again : String) (others : List SeedRecord), others.Perm records →
          Wire.read (List SeedRecord) (Utf8.encode again) = .ok others →
          ∃ (rows : List Stock) (reordered : Inventory), parse again = .ok rows ∧
            cluster.upsertStock rows = (.ok (), cluster.setInventory reordered) ∧
            ∀ sku, reordered.get? sku = after.get? sku) ∧
      (¬cluster.Healthy .inventory → ∃ error,
        cluster.upsertStock stocks = (.error (.storage error), cluster) ∧
        cluster.loadSeed path (some (Utf8.encode text)) =
          (.error (.store (.storage error)), cluster)) := by
  have parsed := parse_of_read decodes
  refine ⟨?_, ?_, ?_, ?_, ?_⟩
  · rw [parsed]
    constructor
    · rintro ⟨stocks, accepted⟩
      exact (rows_eq_ok_iff.1 accepted).1
    · exact fun inOrder => ⟨_, rows_of_inOrder inOrder⟩
  · intro stocks accepted
    rw [parsed] at accepted
    exact (rows_eq_ok_iff.1 accepted).2
  · intro error
    rw [parsed]
    exact rows_eq_error_iff
  · intro cluster path error refused
    simp only [loadSeed, read_encode, refused]
  · intro cluster path stocks accepted
    obtain ⟨inOrder, rfl⟩ := rows_eq_ok_iff.1 (parsed.symm.trans accepted)
    constructor
    · intro healthy
      have wrote := upsertStock_of_healthy healthy (records.map SeedRecord.stock)
      have took := Inventory.took_putAll inOrder.distinct_rows cluster.inventory
      refine ⟨_, wrote, ?_, took, took.sound inOrder.sound_rows, ?_⟩
      · simp only [loadSeed, read_encode, accepted, wrote, List.length_map]
      · intro again others same decodes
        have inOrder := inOrder.perm same
        have accepted := (parse_of_read decodes).trans (rows_of_inOrder inOrder)
        exact ⟨_, _, accepted, upsertStock_of_healthy healthy _,
          took.get?_eq (Inventory.took_putAll inOrder.distinct_rows _) (same.map _)⟩
    · intro ill
      obtain ⟨error, failed⟩ := upsertStock_of_not_healthy ill (records.map SeedRecord.stock)
      exact ⟨error, failed, by simp only [loadSeed, read_encode, accepted, failed]⟩

/-- Of the two articles of a file, the stock has one: it gets the row of the file, as the other
    does, and in the other order as well. A record that names an article again and promises too much
    is refused for the article. -/
theorem seeds_exactly_twoShards :
    let records : List SeedRecord := [⟨8, 3, 0⟩, ⟨7, 9, 4⟩]
    let twice : List SeedRecord := [⟨8, 3, 0⟩, ⟨8, 9, 10⟩]
    let text := "[\x7b\"sku\":8,\"total_count\":3,\"reserved\":0\x7d," ++
      "\x7b\"sku\":7,\"total_count\":9,\"reserved\":4\x7d]"
    Wire.read (List SeedRecord) (Utf8.encode text) = .ok records ∧
    (∃ after : Inventory, twoShards.loadSeed "seed.json" (some (Utf8.encode text)) =
        (.ok 2, twoShards.setInventory after) ∧
      after.get? ⟨7⟩ = some ⟨⟨7⟩, 9, 4⟩ ∧ after.get? ⟨8⟩ = some ⟨⟨8⟩, 3, 0⟩ ∧ after.Sound ∧
      ∃ (rows : List Stock) (reordered : Inventory),
        parse (Wire.write records.reverse) = .ok rows ∧
        twoShards.upsertStock rows = (.ok (), twoShards.setInventory reordered) ∧
        ∀ sku, reordered.get? sku = after.get? sku) ∧
    twoShards.loadSeed "seed.json" (some (Utf8.encode (Wire.write twice))) =
      (.error (.duplicate ⟨8⟩), twoShards) := by
  intro records twice text
  have written : Wire.write records = text := by decide +kernel
  have decodes := written ▸ read_written records
  obtain ⟨accepts, rows, -, -, loads⟩ := seeds_exactly decodes
  obtain ⟨stocks, accepted⟩ := accepts.2 ⟨by decide, by decide⟩
  obtain ⟨after, -, loaded, took, sound, reordered⟩ :=
    (loads twoShards "seed.json" stocks accepted).1 allHealthy_twoShards.inventory
  rw [rows stocks accepted] at took
  obtain ⟨-, -, errors, fails, -⟩ := seeds_exactly (read_written twice)
  have refused := (errors (.duplicate ⟨8⟩)).2
    ⟨[⟨8, 3, 0⟩], ⟨8, 9, 10⟩, [], rfl, ⟨by decide, by decide⟩, .duplicate (by decide)⟩
  exact ⟨decodes, ⟨after, loaded, took.listed ⟨⟨7⟩, 9, 4⟩ (by decide),
    took.listed ⟨⟨8⟩, 3, 0⟩ (by decide), sound sound_twoShards,
    reordered _ _ records.reverse_perm (read_written records.reverse)⟩,
    fails twoShards "seed.json" _ refused⟩

end Cluster

end OrderDesk
