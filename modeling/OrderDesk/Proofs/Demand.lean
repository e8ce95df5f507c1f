import Mathlib.Algebra.GroupWithZero.Nat
import OrderDesk.Stock.Demand

/-!
# What a demand adds up to

A demand that is built from order lines lists every article of the lines once, in ascending
order, with exactly the units that the lines ask for. The last statement puts this together;
it is all that later modules need to know of how a demand is built.
-/

namespace OrderDesk

namespace Demand

/-- The units of an article on lines of a demand. -/
def unitsOn (sku : Sku) (lines : List (Sku × UInt32)) : Nat :=
  (lines.map fun line => if line.1 = sku then line.2.toNat else 0).sum

/-- Lines that list their articles in ascending order. -/
def Ascending (lines : List (Sku × UInt32)) : Prop :=
  lines.Pairwise fun a b => a.1.num < b.1.num

@[simp] theorem unitsOn_nil (sku : Sku) : unitsOn sku [] = 0 := rfl

@[simp] theorem unitsOn_cons (sku : Sku) (line : Sku × UInt32) (lines : List (Sku × UInt32)) :
    unitsOn sku (line :: lines) = (if line.1 = sku then line.2.toNat else 0) +
      unitsOn sku lines := by
  simp [unitsOn]

theorem sum?_eq_some {a b c : UInt32} (h : sum? a b = some c) : c.toNat = a.toNat + b.toNat := by
  unfold sum? at h
  split at h
  · rename_i fits
    cases h
    rw [UInt32.toNat_add, Nat.mod_eq_of_lt fits]
  · cases h

/-- The articles of ascending lines after one more line are those of before and that of the
    line. -/
theorem mem_skus_addTo {sku : Sku} {units : UInt32} {lines sums : List (Sku × UInt32)}
    (h : addTo sku units lines = some sums) (other : Sku) :
    other ∈ sums.map (·.1) ↔ other = sku ∨ other ∈ lines.map (·.1) := by
  induction lines generalizing sums with
  | nil =>
    cases h
    simp
  | cons line rest ih =>
    obtain ⟨first, held⟩ := line
    unfold addTo at h
    split at h
    · cases h
      simp
    · split at h
      · rename_i same
        obtain ⟨total, -, rfl⟩ := Option.map_eq_some_iff.1 h
        subst same
        simp
      · obtain ⟨tail, added, rfl⟩ := Option.map_eq_some_iff.1 h
        simp only [List.map_cons, List.mem_cons, ih added]
        exact or_left_comm

theorem ascending_addTo {sku : Sku} {units : UInt32} {lines sums : List (Sku × UInt32)}
    (h : addTo sku units lines = some sums) (ascending : Ascending lines) : Ascending sums := by
  induction lines generalizing sums with
  | nil =>
    cases h
    exact List.pairwise_singleton _ _
  | cons line rest ih =>
    obtain ⟨first, held⟩ := line
    obtain ⟨below, rising⟩ := List.pairwise_cons.1 ascending
    unfold addTo at h
    split at h
    · rename_i smaller
      cases h
      refine List.pairwise_cons.2 ⟨fun line member => ?_, ascending⟩
      rcases List.mem_cons.1 member with rfl | member
      · exact smaller
      · exact UInt32.lt_trans smaller (below line member)
    · split at h
      · obtain ⟨total, -, rfl⟩ := Option.map_eq_some_iff.1 h
        exact List.pairwise_cons.2 ⟨below, rising⟩
      · rename_i notSmaller different
        obtain ⟨tail, added, rfl⟩ := Option.map_eq_some_iff.1 h
        refine List.pairwise_cons.2 ⟨fun line member => ?_, ih added rising⟩
        have listed := (mem_skus_addTo added line.1).1 (List.mem_map_of_mem member)
        rcases listed with same | listed
        · have distinct : first.num ≠ sku.num := by
            intro equal
            exact different (by cases first; cases sku; simp_all)
          rw [same]
          exact UInt32.lt_of_le_of_ne (UInt32.not_lt.1 notSmaller) distinct
        · obtain ⟨old, oldMember, equal⟩ := List.mem_map.1 listed
          rw [← equal]
          exact below old oldMember

/-- One more line adds its units to those of its article. -/
theorem unitsOn_addTo {sku : Sku} {units : UInt32} {lines sums : List (Sku × UInt32)}
    (h : addTo sku units lines = some sums) (other : Sku) :
    unitsOn other sums = unitsOn other lines + if sku = other then units.toNat else 0 := by
  induction lines generalizing sums with
  | nil =>
    cases h
    simp
  | cons line rest ih =>
    obtain ⟨first, held⟩ := line
    unfold addTo at h
    split at h
    · cases h
      simp only [unitsOn_cons]
      omega
    · split at h
      · rename_i same
        obtain ⟨total, summed, rfl⟩ := Option.map_eq_some_iff.1 h
        subst same
        have exact := sum?_eq_some summed
        simp only [unitsOn_cons]
        split <;> omega
      · obtain ⟨tail, added, rfl⟩ := Option.map_eq_some_iff.1 h
        simp only [unitsOn_cons, ih added]
        omega

/-- A demand is what order lines add up to: every article once, in ascending order, with the
    units that all lines together ask for. -/
structure SumsUp (demand : Demand) (items : List Item) : Prop where
  ascending : Ascending demand.lines
  units : ∀ sku, unitsOn sku demand.lines = Item.units sku items

theorem SumsUp.add {demand sum : Demand} {items : List Item} {item : Item}
    (sums : SumsUp demand items) (h : demand.add item = .ok sum) :
    SumsUp sum (items ++ [item]) := by
  unfold Demand.add at h
  split at h
  · cases h
  · rename_i lines added
    cases h
    refine ⟨ascending_addTo added sums.ascending, ?_⟩
    intro sku
    rw [unitsOn_addTo added, sums.units]
    simp [Item.unitsOf]

theorem SumsUp.addAll {items : List Item} {demand sum : Demand} {before : List Item}
    (sums : SumsUp demand before) (h : demand.addAll items = .ok sum) :
    SumsUp sum (before ++ items) := by
  induction items generalizing demand before with
  | nil =>
    cases h
    simpa using sums
  | cons item rest ih =>
    unfold Demand.addAll at h
    split at h
    · cases h
    · rename_i next added
      simpa using ih (sums.add added) h

/-- A demand that is built from order lines is what they add up to. -/
theorem sumsUp_ofItems {items : List Item} {demand : Demand} (h : ofItems items = .ok demand) :
    SumsUp demand items := by
  have nothing : SumsUp ⟨[]⟩ [] := ⟨List.Pairwise.nil, fun _ => rfl⟩
  simpa using nothing.addAll h

/-- The articles of ascending lines are distinct. -/
theorem nodup_skus {demand : Demand} (ascending : Ascending demand.lines) : demand.skus.Nodup := by
  refine List.pairwise_map.2 (ascending.imp fun {a b} less equal => ?_)
  rw [equal] at less
  exact UInt32.lt_irrefl _ less

theorem SumsUp.nodup_skus {demand : Demand} {items : List Item} (sums : SumsUp demand items) :
    demand.skus.Nodup :=
  Demand.nodup_skus sums.ascending

end Demand

end OrderDesk
