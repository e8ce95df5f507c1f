import OrderDesk.Proofs.Outcome

/-!
# Where the rows of the stock stand

An adjustment changes rows where they stand: no row comes or goes or changes its place, and a row
that stands behind another of its article, which never counts, is left alone. So inventories that
come from the same one by adjustments are the same as soon as they tell the same of every article.
-/

namespace OrderDesk

/-- A gain settles which row comes of a row. -/
theorem Stock.Gained.eq {reserved total : Int} {row a b : Stock}
    (left : Gained reserved total row a) (right : Gained reserved total row b) : a = b := by
  have skus := left.sku.trans right.sku.symm
  have reservedUnits : a.reserved.toNat = b.reserved.toNat :=
    Int.ofNat.inj (left.reserved.trans right.reserved.symm)
  have totalUnits : a.total.toNat = b.total.toNat :=
    Int.ofNat.inj (left.total.trans right.total.symm)
  cases a
  cases b
  simp_all [UInt32.toNat_inj]

namespace Inventory

/-- The rows that stand behind another of their article, or whose article is among the given. -/
def hidden (seen : List Sku) : List Stock → List Stock
  | [] => []
  | row :: rest =>
    if row.sku ∈ seen then row :: hidden seen rest else hidden (row.sku :: seen) rest

/-- The rows stand where they stood, and those that do not count are as they were. -/
structure InPlace (before after : Inventory) : Prop where
  skus : after.rows.map (·.sku) = before.rows.map (·.sku)
  hidden : hidden [] after.rows = hidden [] before.rows

theorem InPlace.refl (inventory : Inventory) : InPlace inventory inventory := ⟨rfl, rfl⟩

theorem InPlace.trans {a b c : Inventory} (first : InPlace a b) (second : InPlace b c) :
    InPlace a c :=
  ⟨second.skus.trans first.skus, second.hidden.trans first.hidden⟩

/-- Rows of the same articles, place by place, are the same if those that count tell the same and
    those that do not count are the same. -/
theorem eq_of_hidden {a b : List Stock} {seen : List Sku} (skus : a.map (·.sku) = b.map (·.sku))
    (aside : hidden seen a = hidden seen b)
    (told : ∀ sku, sku ∉ seen → a.find? (·.sku = sku) = b.find? (·.sku = sku)) : a = b := by
  -- The articles in `seen` stand in front of both lists, which decides whether the first row
  -- counts.
  induction a generalizing b seen with
  | nil => exact (List.map_eq_nil_iff.1 skus.symm).symm
  | cons row rest ih =>
    cases b with
    | nil => cases skus
    | cons other others =>
      rw [List.map_cons, List.map_cons, List.cons.injEq] at skus
      obtain ⟨same, skus⟩ := skus
      by_cases behind : row.sku ∈ seen
      · have also : other.sku ∈ seen := same ▸ behind
        rw [hidden, hidden, if_pos behind, if_pos also, List.cons.injEq] at aside
        obtain ⟨rfl, aside⟩ := aside
        refine congrArg _ (ih skus aside fun sku fresh => ?_)
        have apart : ¬ row.sku = sku := fun equal => fresh (equal ▸ behind)
        simpa [apart] using told sku fresh
      · have also : other.sku ∉ seen := same ▸ behind
        have here := told row.sku behind
        rw [List.find?_cons_of_pos (by simp), List.find?_cons_of_pos (by simp [same])] at here
        obtain rfl := Option.some.inj here
        rw [hidden, hidden, if_neg behind, if_neg behind] at aside
        refine congrArg _ (ih skus aside fun sku fresh => ?_)
        rw [List.mem_cons, not_or] at fresh
        simpa [Ne.symm fresh.1] using told sku fresh.2

/-- What came in place from one inventory is the same if it tells the same of every article. -/
theorem InPlace.eq_of_get? {start a b : Inventory} (left : InPlace start a)
    (right : InPlace start b) (told : ∀ sku, a.get? sku = b.get? sku) : a = b := by
  have rows : a.rows = b.rows := eq_of_hidden (left.skus.trans right.skus.symm)
    (left.hidden.trans right.hidden.symm) fun sku _ => told sku
  cases a
  cases b
  cases rows
  rfl

theorem map_sku_putIn {row : Stock} {rows : List Stock} (there : row.sku ∈ rows.map (·.sku)) :
    (putIn row rows).map (·.sku) = rows.map (·.sku) := by
  induction rows with
  | nil => cases there
  | cons first rest ih =>
    unfold putIn
    split
    · rename_i same
      rw [List.map_cons, List.map_cons, same]
    · rename_i apart
      have behind := List.mem_of_ne_of_mem (Ne.symm apart) there
      rw [List.map_cons, List.map_cons, ih behind]

theorem hidden_putIn {row : Stock} {rows : List Stock} {seen : List Sku}
    (there : row.sku ∈ rows.map (·.sku)) (fresh : row.sku ∉ seen) :
    hidden seen (putIn row rows) = hidden seen rows := by
  induction rows generalizing seen with
  | nil => cases there
  | cons first rest ih =>
    unfold putIn
    split
    · rename_i same
      rw [hidden, hidden, same, if_neg fresh, if_neg fresh]
    · rename_i apart
      have behind := List.mem_of_ne_of_mem (Ne.symm apart) there
      have further : row.sku ∉ first.sku :: seen := by
        rw [List.mem_cons, not_or]
        exact ⟨fun same => apart same.symm, fresh⟩
      rw [hidden, hidden, ih behind fresh, ih behind further]

theorem mem_skus_iff {inventory : Inventory} {sku : Sku} :
    sku ∈ inventory.rows.map (·.sku) ↔ (inventory.get? sku).isSome = true := by
  rw [get?, List.find?_isSome, List.mem_map]
  simp

theorem inPlace_put {inventory : Inventory} {row : Stock}
    (there : (inventory.get? row.sku).isSome = true) : InPlace inventory (inventory.put row) :=
  ⟨map_sku_putIn (mem_skus_iff.2 there), hidden_putIn (mem_skus_iff.2 there) List.not_mem_nil⟩

theorem inPlace_putAll {inventory : Inventory} {rows : List Stock}
    (there : ∀ row ∈ rows, (inventory.get? row.sku).isSome = true) :
    InPlace inventory (inventory.putAll rows) := by
  induction rows generalizing inventory with
  | nil => exact .refl inventory
  | cons row rest ih =>
    obtain ⟨here, later⟩ := List.forall_mem_cons.1 there
    refine (inPlace_put here).trans (ih fun other member => ?_)
    rw [get?_put]
    split
    · rfl
    · exact later other member

/-- The rows of an adjustment are of articles that have a row. -/
theorem sku_mem_adjustRows {adjustment : Adjustment} {rows adjusted : List Stock}
    {lines : List (Sku × UInt32)} (h : adjustRows adjustment rows lines = .ok adjusted) :
    ∀ row ∈ adjusted, ∃ old ∈ rows, old.sku = row.sku := by
  induction lines generalizing adjusted with
  | nil =>
    cases h
    exact fun row member => nomatch member
  | cons line rest ih =>
    unfold adjustRows at h
    split at h
    · cases h
    · rename_i old found
      split at h
      · cases h
      · rename_i after changed
        split at h
        · cases h
        · rename_i tail adjustedRest
          cases h
          refine List.forall_mem_cons.2 ⟨?_, ih adjustedRest⟩
          exact ⟨old, List.mem_of_find?_eq_some found, (Stock.gained_adjust changed).sku.symm⟩

theorem inPlace_adjusted {inventory : Inventory} {adjustment : Adjustment} {demand : Demand}
    {rows : List Stock} (h : inventory.adjusted adjustment demand = .ok rows) :
    InPlace inventory (inventory.putAll rows) := by
  unfold adjusted at h
  simp only at h
  split at h
  · cases h
  · refine inPlace_putAll fun row member => ?_
    obtain ⟨old, taken, same⟩ := sku_mem_adjustRows h row member
    obtain ⟨sku, -, found⟩ := List.mem_filterMap.1 taken
    rw [← same, sku_of_get? found, found]
    rfl

/-- An adjustment by order lines takes place where the rows stand, and each article gains the units
    that the lines ask for. -/
theorem adjustedBy_eq_ok {inventory after : Inventory} {adjustment : Adjustment} {items : List Item}
    (h : inventory.adjustedBy adjustment items = .ok after) :
    InPlace inventory after ∧
      Gained (fun sku => adjustment.promised * Item.units sku items)
        (fun sku => adjustment.held * Item.units sku items) inventory after := by
  unfold adjustedBy at h
  split at h
  · cases h
  · rename_i demand built
    cases changed : inventory.adjusted adjustment demand with
    | error error =>
      rw [changed] at h
      cases h
    | ok rows =>
      rw [changed] at h
      cases h
      exact ⟨inPlace_adjusted changed, gained_adjusted changed (Demand.sumsUp_ofItems built)⟩

/-- A gain settles what is told of an article. -/
theorem Gained.get?_eq {reserved total : Sku → Int} {start a b : Inventory}
    (left : Gained reserved total start a) (right : Gained reserved total start b) (sku : Sku) :
    a.get? sku = b.get? sku := by
  have one := left sku
  have two := right sku
  revert one two
  generalize start.get? sku = x, a.get? sku = y, b.get? sku = z
  rintro (one | _) (two | _)
  · rw [one.eq two]
  · rfl

end Inventory

end OrderDesk
