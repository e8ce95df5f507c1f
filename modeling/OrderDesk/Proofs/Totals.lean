import Mathlib.Data.List.Dedup
import Mathlib.Data.List.Induction
import OrderDesk.Proofs.Aggregation

/-!
# What a demand totals

How order lines total, whatever lines there are. A line overflows if the units of its article, on it
and on the lines before it, no longer fit into a word; lines total exactly if none of them
overflows, and else the first that does is blamed. The demand of lines lists what they ask for
article by article, so it does not depend on the order of the lines, and the demand of two lists is
the sum of theirs.
-/

namespace OrderDesk

namespace Item

variable {sku : Sku} {item : Item} {items early : List Item}

/-- A line with which the units of its article no longer fit into a word, behind the lines given. -/
def Overflows (early : List Item) (item : Item) : Prop :=
  UInt32.size ≤ units item.sku (early ++ [item])

theorem units_concat_of_ne (apart : item.sku ≠ sku) :
    units sku (items ++ [item]) = units sku items := by
  rw [units_append, units_cons, units_nil, unitsOf, if_neg apart, Nat.add_zero]

/-- What adds up adds up to any line, and from any line. -/
theorem AddUp.of_append {late : List Item} (addUp : AddUp (early ++ late)) :
    AddUp early ∧ AddUp late := by
  have fits : ∀ sku, units sku early + units sku late < UInt32.size := by
    intro sku
    rw [← units_append]
    exact addUp sku
  exact ⟨fun sku => Nat.lt_of_le_of_lt (Nat.le_add_right _ _) (fits sku),
    fun sku => Nat.lt_of_le_of_lt (Nat.le_add_left _ _) (fits sku)⟩

/-- Lines that do not add up have a first one with which they stop adding up. -/
theorem exists_overflow (excess : ¬ AddUp items) :
    ∃ early item late, items = early ++ item :: late ∧ AddUp early ∧ Overflows early item := by
  -- The last line is the one looked for exactly if the lines before it add up.
  induction items using List.reverseRecOn with
  | nil => exact absurd (fun sku => by simp) excess
  | append_singleton front last ih =>
    by_cases fits : AddUp front
    · obtain ⟨sku, large⟩ := not_forall.1 excess
      have same : last.sku = sku := by
        by_contra apart
        rw [units_concat_of_ne apart] at large
        exact large (fits sku)
      subst same
      exact ⟨front, last, [], rfl, fits, Nat.le_of_not_lt large⟩
    · obtain ⟨early, item, late, rfl, addUp, overflows⟩ := ih fits
      exact ⟨early, item, late ++ [last], by simp, addUp, overflows⟩

/-- Lines add up exactly if no line overflows behind those before it. -/
theorem addUp_iff : AddUp items ↔
    ∀ early item late, items = early ++ item :: late → ¬ Overflows early item := by
  constructor
  · rintro addUp early item late rfl overflows
    rw [← List.singleton_append, ← List.append_assoc] at addUp
    exact Nat.not_lt.2 overflows (addUp.of_append.1 item.sku)
  · intro calm
    by_contra excess
    obtain ⟨early, item, late, split, -, overflows⟩ := exists_overflow excess
    exact calm early item late split overflows

end Item

namespace Demand

variable {sku : Sku} {word : UInt32} {demand first second total : Demand} {items more : List Item}
  {error : Error}

/-! ## Which line is blamed -/

theorem addAll_append (demand : Demand) (early late : List Item) :
    demand.addAll (early ++ late) = match demand.addAll early with
      | .error error => .error error
      | .ok demand => demand.addAll late := by
  induction early generalizing demand with
  | nil => rfl
  | cons item rest ih =>
    rw [List.cons_append, addAll, addAll]
    cases demand.add item with
    | error error => rfl
    | ok next => exact ih next

/-- The first line that overflows is blamed. -/
theorem ofItems_of_overflow {early late : List Item} {item : Item} (addUp : Item.AddUp early)
    (overflows : Item.Overflows early item) :
    ofItems (early ++ item :: late) = .error (.invalidInput (.demandOverflow item.sku)) := by
  obtain ⟨demand, built⟩ := exists_ofItems_iff.2 addUp
  have refused := (add_eq_error_iff (sumsUp_ofItems built)).2 ⟨overflows, rfl⟩
  unfold ofItems at built ⊢
  rw [addAll_append, built]
  simp only [addAll, refused]

theorem ofItems_eq_error_iff : ofItems items = .error error ↔
    ∃ early item late, items = early ++ item :: late ∧ Item.AddUp early ∧
      Item.Overflows early item ∧ error = .invalidInput (.demandOverflow item.sku) := by
  constructor
  · intro failed
    obtain ⟨early, item, late, rfl, addUp, overflows⟩ :=
      Item.exists_overflow (not_addUp_of_ofItems failed).1
    rw [ofItems_of_overflow addUp overflows] at failed
    exact ⟨early, item, late, rfl, addUp, overflows, (Except.error.inj failed).symm⟩
  · rintro ⟨early, item, late, rfl, addUp, overflows, rfl⟩
    exact ofItems_of_overflow addUp overflows

/-! ## What a demand lists -/

/-- An article that is listed once has the units of its line. -/
theorem get?_eq_some_iff (distinct : demand.skus.Nodup) :
    demand.get? sku = some word ↔ (sku, word) ∈ demand.lines := by
  rw [get?, Option.map_eq_some_iff]
  constructor
  · rintro ⟨line, found, rfl⟩
    have named : line.1 = sku := by simpa using List.find?_some found
    rw [← named]
    exact List.mem_of_find?_eq_some found
  · intro member
    have listed : (demand.lines.find? (·.1 = sku)).isSome := by
      rw [List.find?_isSome]
      exact ⟨_, member, by simp⟩
    obtain ⟨line, found⟩ := Option.isSome_iff_exists.1 listed
    have named : line.1 = sku := by simpa using List.find?_some found
    have same : line = (sku, word) :=
      List.inj_on_of_nodup_map distinct (List.mem_of_find?_eq_some found) member named
    exact ⟨line, found, by rw [same]⟩

theorem get?_eq_none_iff : demand.get? sku = none ↔ sku ∉ demand.skus := by
  rw [get?, Option.map_eq_none_iff, List.find?_eq_none, skus, List.mem_map]
  constructor
  · rintro absent ⟨line, member, named⟩
    exact absent line member (decide_eq_true named)
  · exact fun absent line member named => absent ⟨line, member, of_decide_eq_true named⟩

theorem get?_ofItems (built : ofItems items = .ok demand) (sku : Sku) :
    demand.get? sku = if sku ∈ items.map (·.sku) then some (Item.sum sku items) else none := by
  split
  · rename_i asked
    rw [get?_eq_some_iff (sumsUp_ofItems built).nodup_skus]
    exact mem_lines_of_asked built asked
  · rename_i unasked
    rw [get?_eq_none_iff, mem_skus_iff built]
    exact unasked

/-- Ascending demands that tell the same of every article are the same. -/
theorem eq_of_get? (rising : Ascending first.lines) (rises : Ascending second.lines)
    (same : ∀ sku, first.get? sku = second.get? sku) : first = second := by
  refine eq_of_mem_lines rising rises ?_
  rintro ⟨sku, word⟩
  rw [← get?_eq_some_iff (nodup_skus rising), same, get?_eq_some_iff (nodup_skus rises)]

/-- What a demand tells about order lines: the articles that they ask for, each once and ascending,
    and of each the units that all lines ask for together. -/
structure Totals (demand : Demand) (items : List Item) : Prop where
  get? : ∀ sku, (demand.get? sku).map UInt32.toNat =
    if sku ∈ items.map (·.sku) then some (Item.units sku items) else none
  ascending : demand.skus.Pairwise fun a b => a.num < b.num
  skus : ∀ sku, sku ∈ demand.skus ↔ sku ∈ items.map (·.sku)
  size : demand.size = (items.map (·.sku)).dedup.length
  filled : ∀ line ∈ demand.lines, 0 < line.2

theorem toNat_get?_ofItems (built : ofItems items = .ok demand) (sku : Sku) :
    (demand.get? sku).map UInt32.toNat =
      if sku ∈ items.map (·.sku) then some (Item.units sku items) else none := by
  rw [get?_ofItems built]
  split
  · rw [Option.map_some, Item.toNat_sum (sumsUp_ofItems built).addUp]
  · rfl

theorem totals_ofItems (built : ofItems items = .ok demand) : demand.Totals items := by
  have sums := sumsUp_ofItems built
  refine ⟨toNat_get?_ofItems built, List.pairwise_map.2 sums.ascending,
    fun sku => mem_skus_iff built, ?_, ?_⟩
  · have perm : demand.skus.Perm (items.map (·.sku)).dedup := by
      rw [List.perm_ext_iff_of_nodup sums.nodup_skus (List.nodup_dedup _)]
      intro sku
      rw [mem_skus_iff built, List.mem_dedup]
    rw [← perm.length_eq, skus, List.length_map, size]
  · intro line member
    have filled : Filled demand.lines := filled_addAll built fun line member => nomatch member
    exact UInt32.lt_iff_toNat_lt.2 (filled line member)

/-! ## Sums of demands -/

/-- The units of an article in two demands together, if either of them lists it. -/
def together (first second : Demand) (sku : Sku) : Option Nat :=
  match first.get? sku, second.get? sku with
  | none, none => none
  | some units, none => some units.toNat
  | none, some units => some units.toNat
  | some units, some more => some (units.toNat + more.toNat)

/-- A demand that lists article by article what two demands list together. -/
structure IsSum (first second total : Demand) : Prop where
  ascending : Ascending total.lines
  get? : ∀ sku, (total.get? sku).map UInt32.toNat = together first second sku

theorem together_eq (first second : Demand) (sku : Sku) :
    together first second sku =
      match (first.get? sku).map UInt32.toNat, (second.get? sku).map UInt32.toNat with
      | none, none => none
      | some units, none => some units
      | none, some units => some units
      | some units, some more => some (units + more) := by
  unfold together
  cases first.get? sku <;> cases second.get? sku <;> rfl

/-- What two lists ask for together is what the two demands list together. -/
theorem together_ofItems (left : ofItems items = .ok first) (right : ofItems more = .ok second)
    (sku : Sku) : together first second sku =
      if sku ∈ (items ++ more).map (·.sku) then some (Item.units sku (items ++ more))
      else none := by
  rw [together_eq, toNat_get?_ofItems left, toNat_get?_ofItems right, Item.units_append,
    List.map_append]
  have unasked : ∀ {lines : List Item}, sku ∉ lines.map (·.sku) → Item.units sku lines = 0 := by
    intro lines absent
    rwa [← Item.units_pos_iff, Nat.pos_iff_ne_zero, not_not] at absent
  by_cases here : sku ∈ items.map (·.sku) <;> by_cases there : sku ∈ more.map (·.sku)
  · simp [here, there]
  · simp [here, there, unasked there]
  · simp [here, there, unasked here]
  · simp [here, there]

/-- Sums of demands are unique. -/
theorem IsSum.unique {other : Demand} (sum : IsSum first second total)
    (sums : IsSum first second other) : total = other := by
  apply eq_of_get? sum.ascending sums.ascending
  intro sku
  have same := (sum.get? sku).trans (sums.get? sku).symm
  exact Option.map_injective (fun _ _ => UInt32.toNat_inj.1) same

/-- Two lists in a row make a demand exactly if each of them does, and no sum of the two exceeds a
    word. -/
theorem exists_ofItems_append_iff : (∃ total, ofItems (items ++ more) = .ok total) ↔
    ∃ first second, ofItems items = .ok first ∧ ofItems more = .ok second ∧
      ∀ sku units, together first second sku = some units → units < UInt32.size := by
  rw [exists_ofItems_iff]
  constructor
  · intro addUp
    obtain ⟨first, left⟩ := exists_ofItems_iff.2 addUp.of_append.1
    obtain ⟨second, right⟩ := exists_ofItems_iff.2 addUp.of_append.2
    refine ⟨first, second, left, right, ?_⟩
    intro sku units both
    rw [together_ofItems left right] at both
    split at both
    · rw [← Option.some.inj both]
      exact addUp sku
    · cases both
  · rintro ⟨first, second, left, right, fits⟩ sku
    by_cases asked : sku ∈ (items ++ more).map (·.sku)
    · apply fits sku
      rw [together_ofItems left right, if_pos asked]
    · rw [← Item.units_pos_iff, Nat.not_lt, Nat.le_zero] at asked
      rw [asked]
      decide

/-- The demand of two lists in a row is the sum of their demands. -/
theorem ofItems_append_iff : ofItems (items ++ more) = .ok total ↔
    ∃ first second, ofItems items = .ok first ∧ ofItems more = .ok second ∧
      IsSum first second total := by
  have isSum : ∀ {first second total}, ofItems items = .ok first → ofItems more = .ok second →
      ofItems (items ++ more) = .ok total → IsSum first second total := by
    intro first second total left right built
    refine ⟨(sumsUp_ofItems built).ascending, fun sku => ?_⟩
    rw [toNat_get?_ofItems built, together_ofItems left right]
  constructor
  · intro built
    obtain ⟨first, second, left, right, -⟩ := exists_ofItems_append_iff.1 ⟨total, built⟩
    exact ⟨first, second, left, right, isSum left right built⟩
  · rintro ⟨first, second, left, right, sum⟩
    have fits : ∀ sku units, together first second sku = some units → units < UInt32.size := by
      intro sku units both
      obtain ⟨word, -, rfl⟩ := Option.map_eq_some_iff.1 ((sum.get? sku).trans both)
      exact word.toNat_lt
    obtain ⟨other, built⟩ := exists_ofItems_append_iff.2 ⟨first, second, left, right, fits⟩
    rw [built, sum.unique (isSum left right built)]

/-- A line that asks for as many units as a word holds. -/
def fullLine (sku : Sku) : Item := ⟨sku, ⟨4294967295, by decide⟩⟩

/-- Two such lines of one article are too much. -/
theorem ofItems_fullLines (sku : Sku) (late : List Item) :
    ofItems ([fullLine sku, fullLine sku] ++ late) =
      .error (.invalidInput (.demandOverflow sku)) := by
  have size : (fullLine sku).count.num.toNat = 4294967295 := rfl
  have addUp : Item.AddUp [fullLine sku] := by
    intro other
    rw [Item.units_cons, Item.units_nil, Item.unitsOf, size]
    split <;> decide
  have overflows : Item.Overflows [fullLine sku] (fullLine sku) := by
    simp only [Item.Overflows, List.singleton_append, Item.units_cons, Item.units_nil, Item.unitsOf,
      size, if_true]
    decide
  exact ofItems_of_overflow addUp overflows

/-- Which of two articles is blamed may depend on the order of the lines. -/
theorem exists_blamed (a b : Sku) : ∃ items others : List Item, items.Perm others ∧
    ofItems items = .error (.invalidInput (.demandOverflow a)) ∧
    ofItems others = .error (.invalidInput (.demandOverflow b)) :=
  ⟨[fullLine a, fullLine a] ++ [fullLine b, fullLine b],
    [fullLine b, fullLine b] ++ [fullLine a, fullLine a], List.perm_append_comm,
    ofItems_fullLines a _, ofItems_fullLines b _⟩

/-- How order lines are aggregated. They make a demand exactly if for every article the units of its
    lines fit into a word together. Otherwise the first line is blamed with which the running sum of
    its article exceeds a word. A demand lists the articles that are asked for, ascending, and no
    others, each with the sum of its units, which is positive. Lines in another order make the same
    demand or fail like these, though another article may be blamed. And the lines of two lists make
    a demand exactly if each list does and their sums fit; then it is the sum of the two demands. -/
theorem aggregates_exactly (items : List Item) :
    ((∃ demand, ofItems items = .ok demand) ↔ ∀ sku, Item.units sku items ≤ 4294967295) ∧
    (∀ error, ofItems items = .error error ↔ ∃ early item late, items = early ++ item :: late ∧
      4294967295 < Item.units item.sku (early ++ [item]) ∧
      (∀ before other after, early = before ++ other :: after →
        Item.units other.sku (before ++ [other]) ≤ 4294967295) ∧
      error = .invalidInput (.demandOverflow item.sku)) ∧
    (∀ demand, ofItems items = .ok demand → demand.Totals items) ∧
    (∀ others, others.Perm items → ∀ demand,
      ofItems others = .ok demand ↔ ofItems items = .ok demand) ∧
    (∀ a b : Sku, ∃ items others : List Item, items.Perm others ∧
      ofItems items = .error (.invalidInput (.demandOverflow a)) ∧
      ofItems others = .error (.invalidInput (.demandOverflow b))) ∧
    (∀ more, (∃ total, ofItems (items ++ more) = .ok total) ↔
      ∃ first second, ofItems items = .ok first ∧ ofItems more = .ok second ∧
        ∀ sku units, together first second sku = some units → units ≤ 4294967295) ∧
    ∀ more total, ofItems (items ++ more) = .ok total ↔
      ∃ first second, ofItems items = .ok first ∧ ofItems more = .ok second ∧
        IsSum first second total := by
  have fits : ∀ n : Nat, n ≤ 4294967295 ↔ n < UInt32.size := fun n => Nat.lt_succ_iff.symm
  refine ⟨?_, ?_, fun demand => totals_ofItems, ?_, exists_blamed, ?_,
    fun more total => ofItems_append_iff⟩
  · simp only [fits]
    exact exists_ofItems_iff
  · intro error
    rw [ofItems_eq_error_iff]
    refine exists_congr fun early => exists_congr fun item => exists_congr fun late =>
      and_congr_right fun _ => ?_
    rw [Item.addUp_iff, and_left_comm]
    exact and_congr_right fun _ => and_congr_left fun _ => forall₄_congr fun _ _ _ _ => Nat.not_lt
  · intro others perm demand
    have same := fun sku => Item.units_eq_of_perm perm sku
    exact ⟨ofItems_congr fun sku => (same sku).symm, ofItems_congr same⟩
  · intro more
    simp only [fits]
    exact exists_ofItems_append_iff

/-- Two lines of one article are summed; a third one overflows, and it is the first that does. -/
theorem aggregates_exactly_threeLines :
    let items : List Item := [⟨⟨1⟩, ⟨2, by decide⟩⟩, ⟨⟨2⟩, ⟨1, by decide⟩⟩, ⟨⟨1⟩, ⟨3, by decide⟩⟩]
    (∃ demand, ofItems items = .ok demand ∧ (demand.get? ⟨1⟩).map UInt32.toNat = some 5 ∧
      demand.size = 2) ∧
    ofItems (items ++ [fullLine ⟨1⟩, fullLine ⟨2⟩]) =
      .error (.invalidInput (.demandOverflow ⟨1⟩)) := by
  intro items
  have built : ofItems items = .ok ⟨[(⟨1⟩, 5), (⟨2⟩, 1)]⟩ := by rfl
  constructor
  · obtain ⟨-, -, totals, -⟩ := aggregates_exactly items
    have lists := totals _ built
    exact ⟨_, built, lists.get? ⟨1⟩, lists.size⟩
  · obtain ⟨-, blames, -⟩ := aggregates_exactly (items ++ [fullLine ⟨1⟩, fullLine ⟨2⟩])
    have calm := Item.addUp_iff.1 (exists_ofItems_iff.1 ⟨_, built⟩)
    rw [blames]
    exact ⟨items, fullLine ⟨1⟩, [fullLine ⟨2⟩], rfl, by decide,
      fun before other after split => Nat.not_lt.1 (calm before other after split), rfl⟩

end Demand

end OrderDesk
