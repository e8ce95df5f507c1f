import OrderDesk.Proofs.Demand
import OrderDesk.Stock.Inventory

/-!
# What an adjustment gains

Rows and inventories are compared by what they gained: how many reserved units and how many held
units each article has more than before, as integers, so that a loss is a negative gain. An
adjustment that goes through gains exactly its units; no row comes or goes, and a sound row stays
sound.
-/

namespace OrderDesk

namespace Adjustment

/-- The reserved units that one adjusted unit gains. -/
def promised : Adjustment → Int
  | reserve => 1
  | remove => -1
  | cancel => -1

/-- The held units that one adjusted unit gains. -/
def held : Adjustment → Int
  | reserve => 0
  | remove => -1
  | cancel => 0

end Adjustment

namespace Stock

/-- A row of the stock gained so many reserved and so many held units. -/
structure Gained (reserved total : Int) (before after : Stock) : Prop where
  sku : after.sku = before.sku
  reserved : (after.reserved.toNat : Int) = before.reserved.toNat + reserved
  total : (after.total.toNat : Int) = before.total.toNat + total
  sound : before.Sound → after.Sound

theorem Gained.refl (row : Stock) : Gained 0 0 row row := ⟨rfl, by simp, by simp, id⟩

theorem Gained.trans {r t r' t' : Int} {a b c : Stock} (first : Gained r t a b)
    (second : Gained r' t' b c) : Gained (r + r') (t + t') a c := by
  refine ⟨second.sku.trans first.sku, ?_, ?_, second.sound ∘ first.sound⟩
  · rw [second.reserved, first.reserved, Int.add_assoc]
  · rw [second.total, first.total, Int.add_assoc]

theorem Gained.congr {r t r' t' : Int} {a b : Stock} (gained : Gained r t a b) (reserved : r = r')
    (total : t = t') : Gained r' t' a b := by
  rwa [reserved, total] at gained

theorem sound_iff {row : Stock} : row.Sound ↔ row.reserved.toNat ≤ row.total.toNat :=
  UInt32.le_iff_toNat_le

/-- Units are promised exactly if they fit, as numbers, and then the sum of the words does not wrap.
    A refusal says by how much they do not fit. -/
theorem reserve_cases (row : Stock) (units : UInt32) :
    (row.total.toNat < row.reserved.toNat ∧
      row.reserve units = .error (.negativeAvailable row.sku row.total row.reserved)) ∨
    (∃ free : UInt32, row.reserved.toNat + free.toNat = row.total.toNat ∧
      free.toNat < units.toNat ∧
      row.reserve units = .error (.insufficientStock row.sku units free)) ∨
    (row.reserved.toNat + units.toNat ≤ row.total.toNat ∧
      row.reserve units = .ok { row with reserved := row.reserved + units }) := by
  unfold reserve available
  by_cases sound : row.reserved ≤ row.total
  · have below := UInt32.le_iff_toNat_le.1 sound
    have rest := UInt32.toNat_sub_of_le _ _ sound
    by_cases less : row.total - row.reserved < units
    · refine .inr (.inl ⟨row.total - row.reserved, by omega, UInt32.lt_iff_toNat_lt.1 less, ?_⟩)
      simp only [sound, less, if_true]
    · have enough := UInt32.le_iff_toNat_le.1 (UInt32.not_lt.1 less)
      refine .inr (.inr ⟨by omega, ?_⟩)
      simp only [sound, less, if_true, if_false]
  · refine .inl ⟨Nat.not_le.1 (mt UInt32.le_iff_toNat_le.2 sound), ?_⟩
    simp only [sound, if_false]

/-- Units are taken out exactly if they are promised and held, which is checked in this order. -/
theorem remove_cases (row : Stock) (units : UInt32) :
    (row.reserved.toNat < units.toNat ∧
      row.remove units = .error (.negativeReserved row.sku row.reserved units)) ∨
    (units.toNat ≤ row.reserved.toNat ∧ row.total.toNat < units.toNat ∧
      row.remove units = .error (.insufficientStock row.sku units row.total)) ∨
    (units.toNat ≤ row.reserved.toNat ∧ units.toNat ≤ row.total.toNat ∧ row.remove units =
      .ok { row with reserved := row.reserved - units, total := row.total - units }) := by
  unfold remove
  by_cases unpromised : row.reserved < units
  · exact .inl ⟨UInt32.lt_iff_toNat_lt.1 unpromised, if_pos unpromised⟩
  · have promised := UInt32.le_iff_toNat_le.1 (UInt32.not_lt.1 unpromised)
    rw [if_neg unpromised]
    by_cases unheld : row.total < units
    · exact .inr (.inl ⟨promised, UInt32.lt_iff_toNat_lt.1 unheld, if_pos unheld⟩)
    · have held := UInt32.le_iff_toNat_le.1 (UInt32.not_lt.1 unheld)
      exact .inr (.inr ⟨promised, held, if_neg unheld⟩)

/-- Units are given back exactly if they are promised. -/
theorem cancel_cases (row : Stock) (units : UInt32) :
    (row.reserved.toNat < units.toNat ∧
      row.cancel units = .error (.negativeReserved row.sku row.reserved units)) ∨
    (units.toNat ≤ row.reserved.toNat ∧
      row.cancel units = .ok { row with reserved := row.reserved - units }) := by
  unfold cancel
  by_cases unpromised : row.reserved < units
  · exact .inl ⟨UInt32.lt_iff_toNat_lt.1 unpromised, if_pos unpromised⟩
  · have promised := UInt32.le_iff_toNat_le.1 (UInt32.not_lt.1 unpromised)
    exact .inr ⟨promised, if_neg unpromised⟩

theorem gained_reserve {row after : Stock} {units : UInt32} (h : row.reserve units = .ok after) :
    Gained units.toNat 0 row after := by
  rcases reserve_cases row units with ⟨-, refused⟩ | ⟨free, -, -, refused⟩ | ⟨fits, done⟩
  · cases h.symm.trans refused
  · cases h.symm.trans refused
  · cases h.symm.trans done
    have bound := row.total.toNat_lt
    have sum : (row.reserved + units).toNat = row.reserved.toNat + units.toNat := by
      rw [UInt32.toNat_add, Nat.mod_eq_of_lt (by omega)]
    exact ⟨rfl, by simp [sum], by simp, fun _ => sound_iff.2 (sum ▸ fits)⟩

theorem gained_remove {row after : Stock} {units : UInt32} (h : row.remove units = .ok after) :
    Gained (-units.toNat) (-units.toNat) row after := by
  rcases remove_cases row units with ⟨-, refused⟩ | ⟨-, -, refused⟩ | ⟨promised, held, done⟩
  · cases h.symm.trans refused
  · cases h.symm.trans refused
  · cases h.symm.trans done
    have reserved := UInt32.toNat_sub_of_le _ _ (UInt32.le_iff_toNat_le.2 promised)
    have total := UInt32.toNat_sub_of_le _ _ (UInt32.le_iff_toNat_le.2 held)
    refine ⟨rfl, ?_, ?_, fun sound => sound_iff.2 ?_⟩
    · simp only [reserved]
      omega
    · simp only [total]
      omega
    · have below := sound_iff.1 sound
      simp only [reserved, total]
      omega

theorem gained_cancel {row after : Stock} {units : UInt32} (h : row.cancel units = .ok after) :
    Gained (-units.toNat) 0 row after := by
  rcases cancel_cases row units with ⟨-, refused⟩ | ⟨promised, done⟩
  · cases h.symm.trans refused
  · cases h.symm.trans done
    have reserved := UInt32.toNat_sub_of_le _ _ (UInt32.le_iff_toNat_le.2 promised)
    refine ⟨rfl, ?_, by simp, fun sound => sound_iff.2 ?_⟩
    · simp only [reserved]
      omega
    · have below := sound_iff.1 sound
      simp only [reserved]
      omega

/-- A row that is adjusted gains exactly the units of the adjustment. -/
theorem gained_adjust {adjustment : Adjustment} {row after : Stock} {units : UInt32}
    (h : row.adjust adjustment units = .ok after) :
    Gained (adjustment.promised * units.toNat) (adjustment.held * units.toNat) row after := by
  cases adjustment with
  | reserve => simpa [Adjustment.promised, Adjustment.held] using gained_reserve h
  | remove => simpa [Adjustment.promised, Adjustment.held] using gained_remove h
  | cancel => simpa [Adjustment.promised, Adjustment.held] using gained_cancel h

end Stock

namespace Inventory

/-- Every row that counts is sound. -/
def Sound (inventory : Inventory) : Prop :=
  ∀ sku row, inventory.get? sku = some row → row.Sound

theorem sound_of_rows {inventory : Inventory} (rows : ∀ row ∈ inventory.rows, row.Sound) :
    inventory.Sound :=
  fun _ row found => rows row (List.mem_of_find?_eq_some found)

/-- Every article gained so many reserved and so many held units; the articles that have a row
    are the same as before. -/
def Gained (reserved total : Sku → Int) (before after : Inventory) : Prop :=
  ∀ sku, Option.Rel (Stock.Gained (reserved sku) (total sku)) (before.get? sku) (after.get? sku)

theorem Gained.refl (inventory : Inventory) :
    Gained (fun _ => 0) (fun _ => 0) inventory inventory := by
  intro sku
  cases inventory.get? sku with
  | none => exact .none
  | some row => exact .some (.refl row)

theorem Gained.trans {r t r' t' : Sku → Int} {a b c : Inventory} (first : Gained r t a b)
    (second : Gained r' t' b c) :
    Gained (fun sku => r sku + r' sku) (fun sku => t sku + t' sku) a c := by
  intro sku
  have one := first sku
  have two := second sku
  revert one two
  generalize a.get? sku = x, b.get? sku = y, c.get? sku = z
  rintro (one | _) (two | _)
  · exact .some (one.trans two)
  · exact .none

theorem Gained.congr {r t r' t' : Sku → Int} {before after : Inventory}
    (gained : Gained r t before after) (reserved : ∀ sku, r sku = r' sku)
    (total : ∀ sku, t sku = t' sku) : Gained r' t' before after := by
  rwa [funext reserved, funext total] at gained

/-- The row of an article that had one, after the gain. -/
theorem Gained.get? {reserved total : Sku → Int} {before after : Inventory}
    (gained : Gained reserved total before after) {sku : Sku} {row : Stock}
    (h : before.get? sku = some row) :
    ∃ now, after.get? sku = some now ∧ Stock.Gained (reserved sku) (total sku) row now := by
  have related := gained sku
  rw [h] at related
  revert related
  generalize after.get? sku = found
  rintro (related | _)
  exact ⟨_, rfl, related⟩

/-- The row from which a row was gained. -/
theorem Gained.exists_before {reserved total : Sku → Int} {before after : Inventory}
    (gained : Gained reserved total before after) {sku : Sku} {now : Stock}
    (h : after.get? sku = some now) :
    ∃ row, before.get? sku = some row ∧ Stock.Gained (reserved sku) (total sku) row now := by
  have related := gained sku
  rw [h] at related
  revert related
  generalize before.get? sku = found
  rintro (related | _)
  exact ⟨_, rfl, related⟩

theorem Gained.isSome_get? {reserved total : Sku → Int} {before after : Inventory}
    (gained : Gained reserved total before after) (sku : Sku) :
    (after.get? sku).isSome = (before.get? sku).isSome := by
  have related := gained sku
  revert related
  generalize before.get? sku = x, after.get? sku = y
  rintro (_ | _) <;> rfl

/-- An article without a row gets none. -/
theorem Gained.get?_eq_none {reserved total : Sku → Int} {before after : Inventory}
    (gained : Gained reserved total before after) {sku : Sku} (absent : before.get? sku = none) :
    after.get? sku = none := by
  have same := gained.isSome_get? sku
  rw [absent, Option.isSome_none] at same
  exact Option.isNone_iff_eq_none.1 (Option.isSome_eq_false_iff.1 same)

theorem sku_of_get? {inventory : Inventory} {sku : Sku} {row : Stock}
    (h : inventory.get? sku = some row) : row.sku = sku := by
  simpa using List.find?_some h

/-- Among the rows of a list of articles, each of these articles has the row that it has in the
    inventory. -/
theorem find?_rowsOf (inventory : Inventory) (skus : List Sku) (sku : Sku) :
    (inventory.rowsOf skus).find? (·.sku = sku) =
      if sku ∈ skus then inventory.get? sku else none := by
  induction skus with
  | nil => rfl
  | cons first rest ih =>
    unfold rowsOf at ih ⊢
    cases found : inventory.get? first with
    | none =>
      rw [List.filterMap_cons_none found, ih]
      by_cases same : sku = first
      · simp [same, found]
      · simp [same]
    | some row =>
      have named := sku_of_get? found
      rw [List.filterMap_cons_some found]
      by_cases same : sku = first
      · simp [same, named, found]
      · simp [same, named, Ne.symm same, ih]

/-- An article of the list has a row among these if it has one in the inventory. -/
theorem any_rowsOf (inventory : Inventory) {skus : List Sku} {sku : Sku} (member : sku ∈ skus) :
    (inventory.rowsOf skus).any (·.sku = sku) = (inventory.get? sku).isSome := by
  have found := find?_rowsOf inventory skus sku
  rw [if_pos member] at found
  rw [← found, List.isSome_find?]

theorem gained_put {inventory : Inventory} {adjustment : Adjustment} {sku : Sku} {row after : Stock}
    {units : UInt32} (found : inventory.get? sku = some row)
    (adjusted : row.adjust adjustment units = .ok after) :
    Gained (fun other => adjustment.promised * (if sku = other then units.toNat else 0 : Nat))
      (fun other => adjustment.held * (if sku = other then units.toNat else 0 : Nat))
      inventory (inventory.put after) := by
  intro other
  have gained := Stock.gained_adjust adjusted
  have named : after.sku = sku := gained.sku.trans (sku_of_get? found)
  rw [get?_put, named]
  by_cases same : sku = other
  · subst same
    simpa [found] using Option.Rel.some gained
  · simpa [same] using Gained.refl inventory other

/-- Rows that are adjusted line by line, and then put into the inventory that they were taken
    from, gain the units of the lines. -/
theorem gained_putAll {adjustment : Adjustment} {rows adjusted : List Stock}
    {lines : List (Sku × UInt32)} (h : adjustRows adjustment rows lines = .ok adjusted)
    (distinct : (lines.map (·.1)).Nodup) (inventory : Inventory)
    (taken : ∀ sku ∈ lines.map (·.1), rows.find? (·.sku = sku) = inventory.get? sku) :
    Gained (fun sku => adjustment.promised * Demand.unitsOn sku lines)
      (fun sku => adjustment.held * Demand.unitsOn sku lines)
      inventory (inventory.putAll adjusted) := by
  induction lines generalizing inventory adjusted with
  | nil =>
    cases h
    simpa [putAll] using Gained.refl inventory
  | cons line rest ih =>
    obtain ⟨sku, units⟩ := line
    obtain ⟨fresh, others⟩ := List.nodup_cons.1 distinct
    unfold adjustRows at h
    split at h
    · cases h
    · rename_i row found
      split at h
      · cases h
      · rename_i after changed
        split at h
        · cases h
        · rename_i tail adjustedRest
          cases h
          have here := taken sku (by simp)
          rw [found] at here
          have first := gained_put here.symm changed
          have named : after.sku = sku :=
            (Stock.gained_adjust changed).sku.trans (sku_of_get? here.symm)
          have later := ih adjustedRest others (inventory.put after) (by
            intro other member
            have apart : ¬ sku = other := fun equal => fresh (equal ▸ member)
            rw [get?_put, named, if_neg apart]
            exact taken other (by simp [member]))
          have both := first.trans later
          simp only [← Int.mul_add, ← Int.natCast_add] at both
          simpa only [Demand.unitsOn_cons, putAll, List.foldl_cons] using both

/-- An adjustment of an inventory by what order lines add up to gains, for every article, the
    units that the lines ask for. -/
theorem gained_adjusted {inventory : Inventory} {adjustment : Adjustment} {demand : Demand}
    {items : List Item} {rows : List Stock} (h : inventory.adjusted adjustment demand = .ok rows)
    (sums : demand.SumsUp items) :
    Gained (fun sku => adjustment.promised * Item.units sku items)
      (fun sku => adjustment.held * Item.units sku items)
      inventory (inventory.putAll rows) := by
  unfold adjusted at h
  simp only at h
  split at h
  · cases h
  · have gained := gained_putAll h sums.nodup_skus inventory fun sku member => by
      rw [find?_rowsOf]
      exact if_pos member
    simpa only [sums.units] using gained

end Inventory

end OrderDesk
