import Mathlib.Data.List.Nodup
import OrderDesk.Proofs.Demand

/-!
# When order lines add up

Order lines add up exactly if the units of each article fit into a word together, and the line that
is blamed otherwise is the first one with which they do not. What lines add up to depends on these
sums alone: a demand lists exactly the articles that are asked for, each with its sum, so lines with
the same sums make the same demand, in whatever order they come.
-/

namespace OrderDesk

namespace Item

/-- For every article the units of its lines together fit into a word. -/
def AddUp (items : List Item) : Prop := ∀ sku, units sku items < UInt32.size

/-- The units of an article on a list of lines that add up, as a word. -/
def sum (sku : Sku) (items : List Item) : UInt32 := UInt32.ofNat (units sku items)

variable {sku : Sku} {items a b : List Item}

theorem toNat_sum (addUp : AddUp items) (sku : Sku) : (sum sku items).toNat = units sku items :=
  UInt32.toNat_ofNat_of_lt' (addUp sku)

/-- As every line asks for some unit, an article has units exactly if some line asks for it. -/
theorem units_pos_iff : 0 < units sku items ↔ sku ∈ items.map (·.sku) := by
  induction items with
  | nil => simp
  | cons item rest ih =>
    rw [units_cons, List.map_cons, List.mem_cons, ← ih, unitsOf]
    have pos : 0 < item.count.num.toNat := UInt32.lt_iff_toNat_lt.1 item.count.pos
    by_cases same : item.sku = sku
    · simp only [same, if_true, true_or, iff_true]
      omega
    · simp [same, Ne.symm same]

theorem units_eq_of_perm (perm : a.Perm b) (sku : Sku) : units sku a = units sku b := by
  induction perm with
  | nil => rfl
  | cons item _ ih => rw [units_cons, units_cons, ih]
  | swap first second rest =>
    rw [units_cons, units_cons, units_cons, units_cons]
    omega
  | trans _ _ left right => rw [left, right]

theorem sum_congr (same : units sku a = units sku b) : sum sku a = sum sku b := by
  rw [sum, same, sum]

end Item

namespace Demand

variable {sku : Sku} {units : UInt32} {line : Sku × UInt32} {lines sums : List (Sku × UInt32)}
  {demand sum : Demand} {items before others : List Item} {error : Error}

theorem unitsOn_eq_zero (absent : sku ∉ lines.map (·.1)) : unitsOn sku lines = 0 := by
  induction lines with
  | nil => rfl
  | cons line rest ih =>
    rw [List.map_cons, List.mem_cons, not_or] at absent
    rw [unitsOn_cons, if_neg (Ne.symm absent.1), ih absent.2]

/-- An article that is listed once has the units of its line. -/
theorem unitsOn_of_mem (distinct : (lines.map (·.1)).Nodup) (member : line ∈ lines) :
    unitsOn line.1 lines = line.2.toNat := by
  induction lines with
  | nil => cases member
  | cons first rest ih =>
    obtain ⟨fresh, others⟩ := List.nodup_cons.1 distinct
    rw [unitsOn_cons]
    rcases List.mem_cons.1 member with rfl | later
    · rw [if_pos rfl, unitsOn_eq_zero fresh, Nat.add_zero]
    · have apart : first.1 ≠ line.1 := fun same => fresh (List.mem_map.2 ⟨line, later, same.symm⟩)
      rw [if_neg apart, ih others later, Nat.zero_add]

/-! ## When a line can be added -/

theorem sum?_eq_none_iff {a b : UInt32} : sum? a b = none ↔ UInt32.size ≤ a.toNat + b.toNat := by
  unfold sum?
  split
  · rename_i fits
    exact iff_of_false (fun equal => nomatch equal) (Nat.not_le.2 fits)
  · rename_i excess
    exact iff_of_true rfl (Nat.le_of_not_lt excess)

theorem addTo_eq_none_iff (ascending : Ascending lines) :
    addTo sku units lines = none ↔ UInt32.size ≤ unitsOn sku lines + units.toNat := by
  induction lines with
  | nil => simpa [addTo] using units.toNat_lt
  | cons line rest ih =>
    obtain ⟨first, held⟩ := line
    obtain ⟨below, rising⟩ := List.pairwise_cons.1 ascending
    unfold addTo
    split
    · -- The article comes before all that are listed, so it is not listed yet.
      rename_i smaller
      have absent : sku ∉ ((first, held) :: rest).map (·.1) := by
        intro listed
        obtain ⟨other, member, rfl⟩ := List.mem_map.1 listed
        rcases List.mem_cons.1 member with rfl | later
        · exact UInt32.lt_irrefl _ smaller
        · exact UInt32.lt_irrefl _ (UInt32.lt_trans smaller (below other later))
      rw [unitsOn_eq_zero absent, Nat.zero_add]
      exact iff_of_false (fun equal => nomatch equal) (Nat.not_le.2 units.toNat_lt)
    · split
      · rename_i same
        subst same
        have absent : sku ∉ rest.map (·.1) := by
          intro listed
          obtain ⟨other, member, same⟩ := List.mem_map.1 listed
          have less := below other member
          rw [same] at less
          exact UInt32.lt_irrefl _ less
        rw [Option.map_eq_none_iff, sum?_eq_none_iff, unitsOn_cons, if_pos rfl,
          unitsOn_eq_zero absent, Nat.add_zero]
      · rename_i apart
        rw [Option.map_eq_none_iff, ih rising, unitsOn_cons, if_neg (Ne.symm apart), Nat.zero_add]

theorem add_eq_error_iff (sums : SumsUp demand before) {item : Item} :
    demand.add item = .error error ↔
      UInt32.size ≤ Item.units item.sku (before ++ [item]) ∧
        error = .invalidInput (.demandOverflow item.sku) := by
  have excess : Item.units item.sku (before ++ [item]) =
      unitsOn item.sku demand.lines + item.count.num.toNat := by
    rw [Item.units_append, sums.units]
    simp [Item.unitsOf]
  rw [excess, ← addTo_eq_none_iff sums.ascending, add]
  cases addTo item.sku item.count.num demand.lines with
  | none => simp [eq_comm]
  | some lines => simp

/-- Adding lines up fails at the first line with which the units of its article no longer fit. -/
theorem addAll_eq_error (sums : SumsUp demand before)
    (failed : demand.addAll items = .error error) :
    ∃ early item late, items = early ++ item :: late ∧
      UInt32.size ≤ Item.units item.sku (before ++ early ++ [item]) ∧
      error = .invalidInput (.demandOverflow item.sku) := by
  induction items generalizing demand before with
  | nil => cases failed
  | cons item rest ih =>
    unfold addAll at failed
    split at failed
    · rename_i reason refused
      cases failed
      obtain ⟨excess, blamed⟩ := (add_eq_error_iff sums).1 refused
      exact ⟨[], item, rest, rfl, by rwa [List.append_nil], blamed⟩
    · rename_i next added
      obtain ⟨early, other, late, rfl, excess, blamed⟩ := ih (sums.add added) failed
      refine ⟨item :: early, other, late, rfl, ?_, blamed⟩
      rwa [List.append_assoc before, List.singleton_append] at excess

/-- What a demand sums up fits: each article has one line, and the line is a word. -/
theorem SumsUp.addUp (sums : SumsUp demand items) : Item.AddUp items := by
  intro sku
  rw [← sums.units]
  by_cases listed : sku ∈ demand.lines.map (·.1)
  · obtain ⟨line, member, rfl⟩ := List.mem_map.1 listed
    rw [unitsOn_of_mem sums.nodup_skus member]
    exact line.2.toNat_lt
  · rw [unitsOn_eq_zero listed]
    decide

theorem not_addUp_of_ofItems (failed : ofItems items = .error error) :
    ¬ Item.AddUp items ∧ ∃ sku, error = .invalidInput (.demandOverflow sku) := by
  have nothing : SumsUp ⟨[]⟩ [] := ⟨List.Pairwise.nil, fun _ => rfl⟩
  obtain ⟨early, item, late, rfl, excess, blamed⟩ := addAll_eq_error nothing failed
  refine ⟨fun addUp => ?_, item.sku, blamed⟩
  have fits := addUp item.sku
  rw [List.nil_append, Item.units_append, Item.units_cons, Item.units_nil] at excess
  rw [Item.units_append, Item.units_cons] at fits
  omega

/-- Order lines make a demand exactly if they add up. -/
theorem exists_ofItems_iff : (∃ demand, ofItems items = .ok demand) ↔ Item.AddUp items := by
  constructor
  · rintro ⟨demand, built⟩
    exact (sumsUp_ofItems built).addUp
  · intro addUp
    cases built : ofItems items with
    | error error => exact absurd addUp (not_addUp_of_ofItems built).1
    | ok demand => exact ⟨demand, rfl⟩

/-! ## What lines add up to -/

/-- Every article that is listed is asked for. -/
def Filled (lines : List (Sku × UInt32)) : Prop := ∀ line ∈ lines, 0 < line.2.toNat

theorem filled_addTo (h : addTo sku units lines = some sums) (filled : Filled lines)
    (pos : 0 < units.toNat) : Filled sums := by
  induction lines generalizing sums with
  | nil =>
    cases h
    simpa [Filled] using pos
  | cons line rest ih =>
    obtain ⟨first, held⟩ := line
    obtain ⟨here, later⟩ := List.forall_mem_cons.1 filled
    unfold addTo at h
    split at h
    · cases h
      exact List.forall_mem_cons.2 ⟨pos, filled⟩
    · split at h
      · obtain ⟨total, summed, rfl⟩ := Option.map_eq_some_iff.1 h
        refine List.forall_mem_cons.2 ⟨?_, later⟩
        have exact := sum?_eq_some summed
        simp only
        omega
      · obtain ⟨tail, added, rfl⟩ := Option.map_eq_some_iff.1 h
        exact List.forall_mem_cons.2 ⟨here, ih added later⟩

theorem filled_addAll (h : demand.addAll items = .ok sum) (filled : Filled demand.lines) :
    Filled sum.lines := by
  induction items generalizing demand with
  | nil =>
    cases h
    exact filled
  | cons item rest ih =>
    unfold addAll at h
    split at h
    · cases h
    · rename_i next added
      refine ih h ?_
      unfold add at added
      split at added
      · cases added
      · rename_i lines put
        cases added
        exact filled_addTo put filled (UInt32.lt_iff_toNat_lt.1 item.count.pos)

/-- A demand lists exactly the articles that are asked for, each with its sum. -/
theorem mem_lines_iff (built : ofItems items = .ok demand) :
    line ∈ demand.lines ↔ line.1 ∈ items.map (·.sku) ∧ line.2 = Item.sum line.1 items := by
  have sums := sumsUp_ofItems built
  have filled : Filled demand.lines := filled_addAll built fun line member => nomatch member
  have word : ∀ line ∈ demand.lines, line.2 = Item.sum line.1 items := by
    intro line member
    apply UInt32.toNat_inj.1
    rw [Item.toNat_sum sums.addUp, ← sums.units, unitsOn_of_mem sums.nodup_skus member]
  constructor
  · intro member
    refine ⟨?_, word line member⟩
    rw [← Item.units_pos_iff, ← sums.units, unitsOn_of_mem sums.nodup_skus member]
    exact filled line member
  · rintro ⟨asked, same⟩
    have pos := Item.units_pos_iff.2 asked
    have listed : line.1 ∈ demand.lines.map (·.1) := by
      by_contra absent
      rw [← sums.units, unitsOn_eq_zero absent] at pos
      exact Nat.lt_irrefl 0 pos
    obtain ⟨other, member, named⟩ := List.mem_map.1 listed
    have equal : other = line := Prod.ext named (by rw [word other member, named, same])
    rwa [← equal]

theorem mem_lines_of_asked (built : ofItems items = .ok demand) (asked : sku ∈ items.map (·.sku)) :
    (sku, Item.sum sku items) ∈ demand.lines :=
  (mem_lines_iff built).2 ⟨asked, rfl⟩

theorem mem_skus_iff (built : ofItems items = .ok demand) :
    sku ∈ demand.skus ↔ sku ∈ items.map (·.sku) := by
  constructor
  · intro listed
    obtain ⟨line, member, rfl⟩ := List.mem_map.1 listed
    exact ((mem_lines_iff built).1 member).1
  · intro asked
    exact List.mem_map_of_mem (mem_lines_of_asked built asked)

/-- Ascending demands with the same lines are the same. -/
theorem eq_of_mem_lines (rising : Ascending demand.lines) (rises : Ascending sum.lines)
    (same : ∀ line, line ∈ demand.lines ↔ line ∈ sum.lines) : demand = sum := by
  have perm : demand.lines.Perm sum.lines := by
    rw [List.perm_ext_iff_of_nodup (List.Nodup.of_map _ (nodup_skus rising))
      (List.Nodup.of_map _ (nodup_skus rises))]
    exact same
  have lines : demand.lines = sum.lines := perm.eq_of_pairwise
    (fun _ _ _ _ less greater => absurd greater (UInt32.lt_asymm less)) rising rises
  obtain ⟨_⟩ := demand
  obtain ⟨_⟩ := sum
  cases lines
  rfl

/-- Lines with the same sums make the same demand. -/
theorem ofItems_congr (same : ∀ sku, Item.units sku others = Item.units sku items)
    (built : ofItems items = .ok demand) : ofItems others = .ok demand := by
  have addUp : Item.AddUp others := by
    intro sku
    rw [same]
    exact (sumsUp_ofItems built).addUp sku
  obtain ⟨other, made⟩ := exists_ofItems_iff.2 addUp
  have equal : other = demand := by
    refine eq_of_mem_lines (sumsUp_ofItems made).ascending (sumsUp_ofItems built).ascending ?_
    intro line
    rw [mem_lines_iff made, mem_lines_iff built, ← Item.units_pos_iff, ← Item.units_pos_iff, same,
      Item.sum_congr (same line.1)]
  rwa [equal] at made

end Demand

end OrderDesk
