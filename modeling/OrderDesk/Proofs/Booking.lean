import OrderDesk.Proofs.Adjusting
import OrderDesk.Proofs.Aggregation
import OrderDesk.Proofs.Grants
import OrderDesk.Proofs.InPlace

/-!
# What a booking comes to

On a healthy shard a booking depends on the rows of the stock and on the sums of its lines alone.
Lines that do not add up are refused before the stock is looked at. Then every article has to have a
row, and then the row of every article has to let the adjustment through; the smallest article that
fails the first of these checks, or else the second, is the one that the answer is about. If none
fails, every article that is asked for is adjusted by the sum of its lines, and no other one.
-/

namespace OrderDesk

namespace Sku

/-- The smallest article with a property. -/
def Least (property : Sku → Prop) (sku : Sku) : Prop :=
  property sku ∧ ∀ other, property other → sku.num ≤ other.num

/-- The first article of an ascending list that has a property is the smallest that has it. -/
theorem least_of_first {property : Sku → Prop} {early late : List Sku} {sku : Sku}
    (ascending : (early ++ sku :: late).Pairwise fun a b => a.num < b.num) (here : property sku)
    (before : ∀ other ∈ early, ¬ property other)
    (listed : ∀ other, property other → other ∈ early ++ sku :: late) : Least property sku := by
  refine ⟨here, fun other has => ?_⟩
  rcases List.mem_append.1 (listed other has) with earlier | later
  · exact absurd has (before other earlier)
  · rcases List.mem_cons.1 later with rfl | behind
    · exact UInt32.le_refl _
    · have rising := (List.pairwise_append.1 ascending).2.1
      exact UInt32.le_of_lt ((List.pairwise_cons.1 rising).1 other behind)

end Sku

/-- An adjustment of a row is refused for its units, never as an input that makes no sense. -/
theorem Stock.adjust_ne_invalidInput (adjustment : Adjustment) (row : Stock) (units : UInt32)
    (reason : InvalidInput) : row.adjust adjustment units ≠ .error (.invalidInput reason) := by
  intro refused
  cases refuses_of_adjust refused

namespace Inventory

/-- An article is asked for that has no row. -/
def Lacks (inventory : Inventory) (items : List Item) (sku : Sku) : Prop :=
  sku ∈ items.map (·.sku) ∧ inventory.get? sku = none

/-- An article is asked for whose row refuses the sum of its lines. -/
def Refuses (inventory : Inventory) (adjustment : Adjustment) (items : List Item) (sku : Sku)
    (error : Error) : Prop :=
  sku ∈ items.map (·.sku) ∧ ∃ row, inventory.get? sku = some row ∧
    row.adjust adjustment (Item.sum sku items) = .error error

/-- Every article that is asked for has been adjusted by the sum of its lines, and no other one. -/
def Adjusted (before : Inventory) (adjustment : Adjustment) (items : List Item)
    (after : Inventory) : Prop :=
  ∀ sku,
    (sku ∈ items.map (·.sku) → ∃ row adjusted, before.get? sku = some row ∧
      row.adjust adjustment (Item.sum sku items) = .ok adjusted ∧
      after.get? sku = some adjusted) ∧
    (sku ∉ items.map (·.sku) → after.get? sku = before.get? sku)

variable {inventory after : Inventory} {adjustment : Adjustment} {items others : List Item}
  {demand : Demand} {rows results : List Stock} {lines : List (Sku × UInt32)} {skus : List Sku}
  {error : Error}

theorem requireAll_eq_error (failed : requireAll skus (inventory.rowsOf skus) = .error error) :
    ∃ early sku late, skus = early ++ sku :: late ∧ inventory.get? sku = none ∧
      (∀ other ∈ early, inventory.get? other ≠ none) ∧ error = .stockNotFound sku := by
  unfold requireAll at failed
  split at failed
  · rename_i missing first
    cases failed
    obtain ⟨absent, early, late, rfl, before⟩ := List.find?_eq_some_iff_append.1 first
    refine ⟨early, missing, late, rfl, ?_, fun other member => ?_, rfl⟩
    · have listed : missing ∈ early ++ missing :: late := by simp
      rw [any_rowsOf inventory listed] at absent
      simpa using absent
    · have listed : other ∈ early ++ missing :: late := by simp [member]
      have there := before other member
      rw [any_rowsOf inventory listed] at there
      simpa [Option.isSome_iff_ne_none] using there
  · cases failed

/-- Adjusting rows fails at the first line whose row refuses it. -/
theorem adjustRows_eq_error (failed : adjustRows adjustment rows lines = .error error)
    (all : ∀ line ∈ lines, ∃ row, rows.find? (·.sku = line.1) = some row) :
    ∃ early line late row, lines = early ++ line :: late ∧
      rows.find? (·.sku = line.1) = some row ∧ row.adjust adjustment line.2 = .error error ∧
      ∀ other ∈ early, ∀ row, rows.find? (·.sku = other.1) = some row →
        ∃ after, row.adjust adjustment other.2 = .ok after := by
  induction lines with
  | nil => cases failed
  | cons line rest ih =>
    obtain ⟨⟨row, found⟩, later⟩ := List.forall_mem_cons.1 all
    rw [adjustRows, found] at failed
    simp only at failed
    split at failed
    · rename_i reason refused
      cases failed
      exact ⟨[], line, rest, row, rfl, found, refused, List.forall_mem_nil _⟩
    · rename_i after adjustedHere
      split at failed
      · rename_i reason behind
        cases failed
        obtain ⟨early, other, late, otherRow, rfl, there, refused, before⟩ := ih behind later
        refine ⟨line :: early, other, late, otherRow, rfl, there, refused, ?_⟩
        refine List.forall_mem_cons.2 ⟨fun first same => ?_, before⟩
        rw [found] at same
        cases same
        exact ⟨after, adjustedHere⟩
      · cases failed

theorem exists_of_adjustRows (done : adjustRows adjustment rows lines = .ok results) :
    ∀ line ∈ lines, ∃ row after, rows.find? (·.sku = line.1) = some row ∧
      row.adjust adjustment line.2 = .ok after := by
  induction lines generalizing results with
  | nil => exact List.forall_mem_nil _
  | cons line rest ih =>
    unfold adjustRows at done
    split at done
    · cases done
    · rename_i row found
      split at done
      · cases done
      · rename_i after adjustedHere
        split at done
        · cases done
        · rename_i tail adjustedRest
          exact List.forall_mem_cons.2 ⟨⟨row, after, found, adjustedHere⟩, ih adjustedRest⟩

/-- Lines that do not add up are refused, whatever the stock. -/
theorem adjustedBy_of_not_addUp (inventory : Inventory) (adjustment : Adjustment)
    (excess : ¬ Item.AddUp items) : ∃ sku, inventory.adjustedBy adjustment items =
      .error (.invalidInput (.demandOverflow sku)) := by
  unfold adjustedBy
  cases built : Demand.ofItems items with
  | ok demand => exact absurd (Demand.exists_ofItems_iff.1 ⟨demand, built⟩) excess
  | error reason =>
    obtain ⟨-, sku, rfl⟩ := Demand.not_addUp_of_ofItems built
    exact ⟨sku, rfl⟩

theorem find?_rowsOf_line {line : Sku × UInt32} (member : line ∈ demand.lines) :
    (inventory.rowsOf demand.skus).find? (·.sku = line.1) = inventory.get? line.1 := by
  rw [find?_rowsOf]
  exact if_pos (List.mem_map_of_mem member)

theorem ascending_skus (built : Demand.ofItems items = .ok demand) :
    demand.skus.Pairwise fun a b => a.num < b.num :=
  List.pairwise_map.2 (Demand.sumsUp_ofItems built).ascending

/-- If some row is missing, the smallest article that lacks one is blamed. -/
theorem least_lacks (built : Demand.ofItems items = .ok demand)
    (failed : requireAll demand.skus (inventory.rowsOf demand.skus) = .error error) :
    ∃ sku, Sku.Least (inventory.Lacks items) sku ∧ error = .stockNotFound sku := by
  obtain ⟨early, sku, late, skus, absent, before, rfl⟩ := requireAll_eq_error failed
  have lacks : inventory.Lacks items sku := by
    refine ⟨(Demand.mem_skus_iff built).1 ?_, absent⟩
    rw [skus]
    exact List.mem_append_right _ List.mem_cons_self
  refine ⟨sku, Sku.least_of_first (skus ▸ ascending_skus built) lacks ?_ ?_, rfl⟩
  · exact fun other earlier has => before other earlier has.2
  · intro other has
    rw [← skus]
    exact (Demand.mem_skus_iff built).2 has.1

/-- If all rows are there but not all of them are adjusted, the smallest article whose row refuses
    is blamed. -/
theorem least_refuses (built : Demand.ofItems items = .ok demand)
    (rowed : ∀ sku ∈ demand.skus, (inventory.get? sku).isSome = true)
    (failed : adjustRows adjustment (inventory.rowsOf demand.skus) demand.lines = .error error) :
    ∃ sku, Sku.Least (fun sku => ∃ error, inventory.Refuses adjustment items sku error) sku ∧
      inventory.Refuses adjustment items sku error := by
  have has : ∀ line ∈ demand.lines, ∃ row,
      (inventory.rowsOf demand.skus).find? (·.sku = line.1) = some row := by
    intro line member
    rw [find?_rowsOf_line member]
    exact Option.isSome_iff_exists.1 (rowed line.1 (List.mem_map_of_mem member))
  obtain ⟨early, line, late, row, lines, found, refused, before⟩ := adjustRows_eq_error failed has
  have among : ∀ other ∈ early ++ line :: late, other ∈ demand.lines := fun other member => by
    rwa [lines]
  have skus : demand.skus = early.map (·.1) ++ line.1 :: late.map (·.1) := by
    rw [Demand.skus, lines, List.map_append, List.map_cons]
  have refuses : inventory.Refuses adjustment items line.1 error := by
    have member := among line (List.mem_append_right _ List.mem_cons_self)
    obtain ⟨listed, units⟩ := (Demand.mem_lines_iff built).1 member
    rw [find?_rowsOf_line member] at found
    rw [units] at refused
    exact ⟨listed, row, found, refused⟩
  refine ⟨line.1, Sku.least_of_first (skus ▸ ascending_skus built) ⟨error, refuses⟩ ?_ ?_, refuses⟩
  · rintro sku earlier ⟨reason, -, other, there, refusedThere⟩
    obtain ⟨first, firstMember, rfl⟩ := List.mem_map.1 earlier
    have member := among first (List.mem_append_left _ firstMember)
    rw [← find?_rowsOf_line member] at there
    obtain ⟨after, fine⟩ := before first firstMember other there
    rw [← ((Demand.mem_lines_iff built).1 member).2, fine] at refusedThere
    cases refusedThere
  · rintro sku ⟨reason, asked, -⟩
    rw [← skus]
    exact (Demand.mem_skus_iff built).2 asked

/-- The row of every line lets its adjustment through. -/
def Lets (inventory : Inventory) (adjustment : Adjustment) (demand : Demand) : Prop :=
  ∀ line ∈ demand.lines, ∃ row after, inventory.get? line.1 = some row ∧
    row.adjust adjustment line.2 = .ok after

theorem Lets.not_refuses (lets : inventory.Lets adjustment demand)
    (built : Demand.ofItems items = .ok demand) (sku : Sku) (error : Error) :
    ¬ inventory.Refuses adjustment items sku error := by
  rintro ⟨asked, row, there, refused⟩
  obtain ⟨other, after, same, fine⟩ := lets _ (Demand.mem_lines_of_asked built asked)
  simp only at same fine
  rw [there] at same
  cases same
  rw [refused] at fine
  cases fine

/-- Where every row lets its adjustment through, a gain of the units of the lines adjusts every
    article that they ask for. -/
theorem Lets.adjusted (lets : inventory.Lets adjustment demand)
    (built : Demand.ofItems items = .ok demand)
    (gained : Gained (fun sku => adjustment.promised * Item.units sku items)
      (fun sku => adjustment.held * Item.units sku items) inventory after) :
    inventory.Adjusted adjustment items after := by
  have addUp := Demand.exists_ofItems_iff.1 ⟨demand, built⟩
  intro sku
  constructor
  · intro asked
    obtain ⟨row, adjusted, there, done⟩ := lets _ (Demand.mem_lines_of_asked built asked)
    obtain ⟨left, found, gains⟩ := gained.get? there
    have same := Stock.gained_adjust done
    rw [Item.toNat_sum addUp] at same
    exact ⟨row, adjusted, there, done, found.trans (congrArg some (gains.eq same))⟩
  · intro other
    have none : Item.units sku items = 0 :=
      Nat.eq_zero_of_not_pos fun pos => other (Item.units_pos_iff.1 pos)
    have here := gained sku
    simp only [none, Int.natCast_zero, Int.mul_zero] at here
    revert here
    generalize inventory.get? sku = x, after.get? sku = y
    rintro (same | _)
    · exact congrArg some (same.eq (.refl _))
    · rfl

/-- What can come of an adjustment by lines that add up. -/
theorem adjustedBy_cases (inventory : Inventory) (adjustment : Adjustment)
    (addUp : Item.AddUp items) :
    (∃ sku, Sku.Least (inventory.Lacks items) sku ∧
      inventory.adjustedBy adjustment items = .error (.stockNotFound sku)) ∨
    (∀ sku, ¬ inventory.Lacks items sku) ∧
      ((∃ sku error,
          Sku.Least (fun sku => ∃ error, inventory.Refuses adjustment items sku error) sku ∧
          inventory.Refuses adjustment items sku error ∧
          inventory.adjustedBy adjustment items = .error error) ∨
        (∀ sku error, ¬ inventory.Refuses adjustment items sku error) ∧
          ∃ after, inventory.adjustedBy adjustment items = .ok after ∧
            inventory.Adjusted adjustment items after) := by
  obtain ⟨demand, built⟩ := Demand.exists_ofItems_iff.2 addUp
  have opened : inventory.adjustedBy adjustment items =
      (inventory.adjusted adjustment demand).map inventory.putAll := by
    rw [adjustedBy, built]
  unfold adjusted at opened
  simp only at opened
  cases checked : requireAll demand.skus (inventory.rowsOf demand.skus) with
  | error error =>
    obtain ⟨sku, least, rfl⟩ := least_lacks built checked
    rw [checked] at opened
    exact .inl ⟨sku, least, opened⟩
  | ok _ =>
    have rowed := requireAll_eq_ok_iff.1 checked
    have complete : ∀ sku, ¬ inventory.Lacks items sku := by
      rintro sku ⟨asked, absent⟩
      have there := rowed sku ((Demand.mem_skus_iff built).2 asked)
      rw [absent] at there
      cases there
    refine .inr ⟨complete, ?_⟩
    simp only [checked] at opened
    cases went : adjustRows adjustment (inventory.rowsOf demand.skus) demand.lines with
    | error error =>
      obtain ⟨sku, least, refuses⟩ := least_refuses built rowed went
      rw [went] at opened
      exact .inl ⟨sku, error, least, refuses, opened⟩
    | ok rows =>
      have lets : inventory.Lets adjustment demand := by
        intro line member
        rw [← find?_rowsOf_line member]
        exact exists_of_adjustRows went line member
      rw [went] at opened
      have gained := (adjustedBy_eq_ok opened).2
      exact .inr ⟨lets.not_refuses built, _, opened, lets.adjusted built gained⟩

/-- Lines with the same sums adjust an inventory alike, or else neither add up. -/
theorem adjustedBy_congr (same : ∀ sku, Item.units sku others = Item.units sku items)
    (addUp : Item.AddUp items) :
    inventory.adjustedBy adjustment others = inventory.adjustedBy adjustment items := by
  obtain ⟨demand, built⟩ := Demand.exists_ofItems_iff.2 addUp
  rw [adjustedBy, adjustedBy, built, Demand.ofItems_congr same built]

/-- An adjustment is refused as an input that makes no sense exactly if its lines do not add up. -/
theorem adjustedBy_eq_invalidInput (inventory : Inventory) (adjustment : Adjustment) :
    (∃ reason, inventory.adjustedBy adjustment items = .error (.invalidInput reason)) ↔
      ¬ Item.AddUp items := by
  constructor
  · rintro ⟨reason, refused⟩ addUp
    rcases inventory.adjustedBy_cases adjustment addUp with
      ⟨sku, -, lacking⟩ | ⟨-, ⟨sku, error, -, ⟨-, row, -, refusedRow⟩, told⟩ | ⟨-, after, done, -⟩⟩
    · rw [lacking] at refused
      cases refused
    · rw [told] at refused
      cases refused
      exact Stock.adjust_ne_invalidInput adjustment row _ reason refusedRow
    · rw [done] at refused
      cases refused
  · intro excess
    obtain ⟨sku, refused⟩ := inventory.adjustedBy_of_not_addUp adjustment excess
    exact ⟨_, refused⟩

theorem adjustedBy_nil (inventory : Inventory) (adjustment : Adjustment) :
    inventory.adjustedBy adjustment [] = .ok inventory := rfl

end Inventory

namespace Booking

variable {cluster : Cluster} {booking : Booking}

/-- A booking on a healthy shard takes its answer from the inventory. -/
theorem perform_eq_error_iff {error : Error} (healthy : cluster.Healthy .inventory) :
    (booking.perform cluster).1 = .error error ↔
      cluster.inventory.adjustedBy booking.adjustment booking.items = .error error := by
  rw [perform_eq, Cluster.adjustStock_eq healthy]
  cases cluster.inventory.adjustedBy booking.adjustment booking.items <;> simp

theorem perform_of_error {error : Error} (healthy : cluster.Healthy .inventory)
    (failed : (booking.perform cluster).1 = .error error) :
    (booking.perform cluster).2 = cluster := by
  rw [perform_eq_error_iff healthy] at failed
  rw [perform_eq, Cluster.adjustStock_eq healthy, failed]

theorem perform_of_ok {inventory : Inventory} (healthy : cluster.Healthy .inventory)
    (done : cluster.inventory.adjustedBy booking.adjustment booking.items = .ok inventory) :
    booking.perform cluster = (.ok (), cluster.setInventory inventory) := by
  rw [perform_eq, Cluster.adjustStock_eq healthy, done]

theorem perform_congr {others : List Item} (healthy : cluster.Healthy .inventory)
    (same : ∀ sku, Item.units sku others = Item.units sku booking.items)
    (addUp : Item.AddUp booking.items) :
    (⟨booking.adjustment, others⟩ : Booking).perform cluster = booking.perform cluster := by
  rw [perform_eq, perform_eq, Cluster.adjustStock_eq healthy, Cluster.adjustStock_eq healthy,
    Inventory.adjustedBy_congr same addUp]

/-- A booking on a healthy shard, exactly. It is refused as an input that makes no sense exactly if
    the units of some article do not add up to a word. Without lines it succeeds and changes
    nothing. Otherwise, if an article that is asked for has no row, the smallest such article is
    reported, whatever else is wrong; and if every article has a row but some row refuses the sum of
    its lines, the answer is what the row of the smallest such article says. Otherwise it succeeds,
    and exactly the articles that are asked for change, each by its adjustment with the sum of its
    lines. An error leaves everything as it was. So lines in another order, or any others with the
    same sums, get the same answer and leave the same cluster, except that another article may be
    named if they do not add up. -/
theorem books_exactly (healthy : cluster.Healthy .inventory) (booking : Booking) :
    let stock := cluster.inventory
    let items := booking.items
    let answer := (booking.perform cluster).1
    let after := (booking.perform cluster).2
    ((∃ reason, answer = .error (.invalidInput reason)) ↔ ¬ Item.AddUp items) ∧
    (items = [] → answer = .ok () ∧ after = cluster) ∧
    (Item.AddUp items →
      ((∃ sku, stock.Lacks items sku) →
        ∃ sku, Sku.Least (stock.Lacks items) sku ∧ answer = .error (.stockNotFound sku)) ∧
      ((∀ sku, ¬ stock.Lacks items sku) →
        ((∃ sku error, stock.Refuses booking.adjustment items sku error) →
          ∃ sku error,
            Sku.Least (fun sku => ∃ error, stock.Refuses booking.adjustment items sku error) sku ∧
            stock.Refuses booking.adjustment items sku error ∧ answer = .error error) ∧
        ((∀ sku error, ¬ stock.Refuses booking.adjustment items sku error) →
          answer = .ok () ∧ ∃ inventory, after = cluster.setInventory inventory ∧
            stock.Adjusted booking.adjustment items inventory))) ∧
    (∀ error, answer = .error error → after = cluster) ∧
    ∀ others, (others.Perm items ∨ ∀ sku, Item.units sku others = Item.units sku items) →
      let other := (⟨booking.adjustment, others⟩ : Booking).perform cluster
      other = (answer, after) ∨
        (∃ sku, answer = .error (.invalidInput (.demandOverflow sku))) ∧
        (∃ sku, other.1 = .error (.invalidInput (.demandOverflow sku))) ∧
        after = cluster ∧ other.2 = cluster := by
  intro stock items answer after
  have refused : ∀ error, answer = .error error ↔
      stock.adjustedBy booking.adjustment items = .error error :=
    fun _ => perform_eq_error_iff healthy
  have booked : ∀ inventory, stock.adjustedBy booking.adjustment items = .ok inventory →
      answer = .ok () ∧ after = cluster.setInventory inventory :=
    fun _ done => Prod.mk.inj (perform_of_ok healthy done)
  refine ⟨?_, fun empty => ?_, fun addUp => ?_, fun _ => perform_of_error healthy, ?_⟩
  · simp only [refused]
    exact stock.adjustedBy_eq_invalidInput booking.adjustment
  · obtain ⟨fine, left⟩ := booked stock (empty ▸ stock.adjustedBy_nil booking.adjustment)
    exact ⟨fine, left.trans cluster.setInventory_self⟩
  · rcases stock.adjustedBy_cases booking.adjustment addUp with
      ⟨sku, least, failed⟩ |
        ⟨complete, ⟨sku, error, least, refuses, failed⟩ | ⟨lets, left, done, changed⟩⟩
    · exact ⟨fun _ => ⟨sku, least, (refused _).2 failed⟩,
        fun complete => absurd least.1 (complete sku)⟩
    · exact ⟨fun ⟨other, lacks⟩ => absurd lacks (complete other), fun _ =>
        ⟨fun _ => ⟨sku, error, least, refuses, (refused _).2 failed⟩,
          fun lets => absurd refuses (lets sku error)⟩⟩
    · obtain ⟨fine, became⟩ := booked left done
      exact ⟨fun ⟨other, lacks⟩ => absurd lacks (complete other), fun _ =>
        ⟨fun ⟨other, error, refuses⟩ => absurd refuses (lets other error),
          fun _ => ⟨fine, left, became, changed⟩⟩⟩
  · intro others alike other
    have same : ∀ sku, Item.units sku others = Item.units sku items :=
      alike.elim Item.units_eq_of_perm id
    by_cases addUp : Item.AddUp items
    · exact .inl (perform_congr healthy same addUp)
    · have excess : ¬ Item.AddUp others := fun fits => addUp fun sku => same sku ▸ fits sku
      obtain ⟨first, failed⟩ := stock.adjustedBy_of_not_addUp booking.adjustment addUp
      obtain ⟨second, failedOther⟩ := stock.adjustedBy_of_not_addUp booking.adjustment excess
      have answer := (refused _).2 failed
      have answerOther : other.1 = _ := (perform_eq_error_iff healthy).2 failedOther
      exact .inr ⟨⟨first, answer⟩, ⟨second, answerOther⟩, perform_of_error healthy answer,
        perform_of_error healthy answerOther⟩

/-- Article 7 is too short for its lines, and neither article 12 nor article 9 has a row. -/
theorem books_exactly_twoShards :
    let items : List Item := [⟨⟨12⟩, 1, by decide⟩, ⟨⟨7⟩, 2, by decide⟩, ⟨⟨9⟩, 1, by decide⟩,
      ⟨⟨7⟩, 2, by decide⟩]
    Cluster.twoShards.Healthy .inventory ∧
      (Cluster.twoShards.reserve items).1 = .error (.stockNotFound ⟨9⟩) ∧
      (Cluster.twoShards.reserve items).2 = Cluster.twoShards := by
  intro items
  have healthy := Cluster.allHealthy_twoShards.inventory
  obtain ⟨-, -, exactly, unchanged, -⟩ := books_exactly healthy ⟨.reserve, items⟩
  have addUp : Item.AddUp items := Demand.exists_ofItems_iff.1 ⟨_, rfl⟩
  have lacks : Cluster.twoShards.inventory.Lacks items ⟨9⟩ := ⟨by decide, by decide⟩
  obtain ⟨sku, ⟨⟨asked, absent⟩, least⟩, answer⟩ := (exactly addUp).1 ⟨_, lacks⟩
  have below := least ⟨9⟩ lacks
  have named : sku = ⟨9⟩ := by
    simp only [items, List.map_cons, List.map_nil, List.mem_cons, List.not_mem_nil,
      or_false] at asked
    rcases asked with rfl | rfl | rfl | rfl
    · exact absurd below (by decide)
    · cases absent
    · rfl
    · cases absent
  rw [named] at answer
  exact ⟨healthy, answer, unchanged _ answer⟩

end Booking

end OrderDesk
