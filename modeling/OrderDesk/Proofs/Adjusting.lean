import OrderDesk.Proofs.Inventory
import OrderDesk.Stock.Writing

/-!
# What steps make of a row

A row holds two words, and nothing forces the promised units to be fewer than the held ones. A step
is compared with what it would be on unbounded numbers: it goes through exactly if those stay in
order, and then it changes them by exactly its units. So the books of any number of steps balance,
and a row that promises more than it holds is mended by the units that are given back and by nothing
else.
-/

namespace OrderDesk.Stock

variable {row : Stock} {step : Step} {units : UInt32}

/-- As unbounded numbers, the words of a row leave room for a step. -/
def Allows (row : Stock) (step : Step) : Prop :=
  match step.adjustment with
  | .reserve => row.reserved.toNat + step.units.toNat ≤ row.total.toNat
  | .remove => step.units.toNat ≤ row.reserved.toNat ∧ step.units.toNat ≤ row.total.toNat
  | .cancel => step.units.toNat ≤ row.reserved.toNat

/-- Why a row refuses a step. The numbers that are reported are exact. -/
inductive Refuses (row : Stock) : Step → Error → Prop where
  /-- More is promised than is held. -/
  | corrupt {units : UInt32} (excess : row.total.toNat < row.reserved.toNat) :
      Refuses row ⟨.reserve, units⟩ (.negativeAvailable row.sku row.total row.reserved)
  /-- Too little is left to promise. -/
  | short {units free : UInt32} (left : row.reserved.toNat + free.toNat = row.total.toNat)
      (less : free.toNat < units.toNat) :
      Refuses row ⟨.reserve, units⟩ (.insufficientStock row.sku units free)
  /-- Fewer units are promised than are to be taken out or given back. -/
  | unpromised {adjustment : Adjustment} {units : UInt32} (takes : adjustment ≠ .reserve)
      (less : row.reserved.toNat < units.toNat) :
      Refuses row ⟨adjustment, units⟩ (.negativeReserved row.sku row.reserved units)
  /-- So many units are promised, but they are not held. -/
  | unheld {units : UInt32} (promised : units.toNat ≤ row.reserved.toNat)
      (less : row.total.toNat < units.toNat) :
      Refuses row ⟨.remove, units⟩ (.insufficientStock row.sku units row.total)

/-- What comes of a step on a row: it goes through, and the row gains exactly its units, or it is
    refused for a reason, and the row is what it was. -/
inductive Taken (row : Stock) (step : Step) : Except Error Unit × Stock → Prop where
  | through {now : Stock} (allows : row.Allows step)
      (gained : Gained (step.adjustment.promised * step.units.toNat)
        (step.adjustment.held * step.units.toNat) row now) : Taken row step (.ok (), now)
  | refused {error : Error} (allows : ¬row.Allows step) (why : row.Refuses step error) :
      Taken row step (.error error, row)

/-! ## One step -/

/-- A row refuses no step that it allows. -/
theorem Refuses.not_allows {error : Error} (refuses : row.Refuses step error) :
    ¬row.Allows step := by
  intro allows
  cases refuses with
  | corrupt excess =>
    have fits := Nat.le_trans (Nat.le_add_right _ _) allows
    exact Nat.not_le.2 excess fits
  | short left less =>
    have fits := Nat.le_trans allows (Nat.le_of_eq left.symm)
    exact Nat.not_le.2 less (Nat.le_of_add_le_add_left fits)
  | @unpromised adjustment units takes less =>
    cases adjustment with
    | reserve => exact takes rfl
    | remove => exact Nat.not_le.2 less allows.1
    | cancel => exact Nat.not_le.2 less allows
  | unheld promised less => exact Nat.not_le.2 less allows.2

/-- Either a row allows an adjustment and lets it through, or it has a reason to refuse it. -/
theorem adjust_cases (row : Stock) (adjustment : Adjustment) (units : UInt32) :
    (∃ now, row.adjust adjustment units = .ok now ∧ row.Allows ⟨adjustment, units⟩) ∨
    ∃ error, row.adjust adjustment units = .error error ∧
      row.Refuses ⟨adjustment, units⟩ error := by
  cases adjustment with
  | reserve =>
    rcases reserve_cases row units with ⟨excess, refused⟩ | ⟨free, left, less, refused⟩ |
      ⟨fits, done⟩
    · exact .inr ⟨_, refused, .corrupt excess⟩
    · exact .inr ⟨_, refused, .short left less⟩
    · exact .inl ⟨_, done, fits⟩
  | remove =>
    rcases remove_cases row units with
      ⟨less, refused⟩ | ⟨promised, less, refused⟩ | ⟨promised, held, done⟩
    · exact .inr ⟨_, refused, .unpromised nofun less⟩
    · exact .inr ⟨_, refused, .unheld promised less⟩
    · exact .inl ⟨_, done, promised, held⟩
  | cancel =>
    rcases cancel_cases row units with ⟨less, refused⟩ | ⟨promised, done⟩
    · exact .inr ⟨_, refused, .unpromised nofun less⟩
    · exact .inl ⟨_, done, promised⟩

theorem refuses_of_adjust {adjustment : Adjustment} {error : Error}
    (refused : row.adjust adjustment units = .error error) :
    row.Refuses ⟨adjustment, units⟩ error := by
  rcases adjust_cases row adjustment units with ⟨now, done, -⟩ | ⟨reason, failed, refuses⟩
  · cases refused.symm.trans done
  · cases refused.symm.trans failed
    exact refuses

/-- What a row allows goes through. -/
theorem exists_adjust_of_allows {adjustment : Adjustment}
    (allows : row.Allows ⟨adjustment, units⟩) :
    ∃ now, row.adjust adjustment units = .ok now := by
  rcases adjust_cases row adjustment units with ⟨now, done, -⟩ | ⟨reason, failed, refuses⟩
  · exact ⟨now, done⟩
  · exact absurd allows refuses.not_allows

theorem taken_take (row : Stock) (step : Step) : Taken row step (row.take step) := by
  obtain ⟨adjustment, units⟩ := step
  unfold take
  rw [run_adjustStored]
  rcases adjust_cases row adjustment units with ⟨now, done, allows⟩ | ⟨error, refused, refuses⟩
  · rw [done]
    exact .through allows (gained_adjust done)
  · rw [refused]
    exact .refused refuses.not_allows refuses

/-! ## Any number of steps -/

/-- The units of a step, if it is of one kind and goes through. -/
def unitsOf (adjustment : Adjustment) (row : Stock) (step : Step) : Nat :=
  if step.adjustment = adjustment ∧ (row.take step).1.isOk then step.units.toNat else 0

/-- The units of the steps of one kind that go through, as steps are taken one after the other. -/
def unitsTaken (adjustment : Adjustment) (row : Stock) : List Step → Nat
  | [] => 0
  | step :: rest => unitsOf adjustment row step + unitsTaken adjustment (row.take step).2 rest

theorem after_append (row : Stock) (early late : List Step) :
    row.after (early ++ late) = (row.after early).after late :=
  List.foldl_append ..

/-- A row gains what a step promises, less what it takes out or gives back, as far as it goes
    through. -/
theorem gained_take (row : Stock) (step : Step) :
    Gained (unitsOf .reserve row step - unitsOf .remove row step - unitsOf .cancel row step)
      (-unitsOf .remove row step) row (row.take step).2 := by
  unfold unitsOf
  rcases came : row.take step with ⟨answer, now⟩
  have taken := taken_take row step
  rw [came] at taken
  cases taken with
  | through allows gained =>
    obtain ⟨adjustment, units⟩ := step
    cases adjustment <;>
      simpa [Except.isOk, Except.toBool, Adjustment.promised, Adjustment.held] using gained
  | refused allows why =>
    simpa [Except.isOk, Except.toBool] using Gained.refl row

theorem gained_after (row : Stock) (steps : List Step) :
    Gained (unitsTaken .reserve row steps - unitsTaken .remove row steps -
      unitsTaken .cancel row steps) (-unitsTaken .remove row steps) row (row.after steps) := by
  induction steps generalizing row with
  | nil => exact .refl row
  | cons step rest ih =>
    have both := (gained_take row step).trans (ih (row.take step).2)
    exact both.congr (by simp only [unitsTaken]; omega) (by simp only [unitsTaken]; omega)

/-- Units are promised on sound rows only. -/
theorem sound_of_promised (through : (row.take ⟨.reserve, units⟩).1.isOk) : row.Sound := by
  rcases came : row.take ⟨.reserve, units⟩ with ⟨answer, now⟩
  have taken := taken_take row ⟨.reserve, units⟩
  rw [came] at taken through
  cases taken with
  | through allows gained => exact sound_iff.2 (Nat.le_trans (Nat.le_add_right _ _) allows)
  | refused allows why => cases through

theorem unitsOf_reserve_of_unsound (unsound : ¬row.Sound) (step : Step) :
    unitsOf .reserve row step = 0 := by
  obtain ⟨adjustment, units⟩ := step
  refine if_neg ?_
  rintro ⟨rfl, through⟩
  exact unsound (sound_of_promised through)

/-- As long as a row is not sound, no units have been promised. -/
theorem unitsTaken_reserve_of_unsound {steps : List Step} (unsound : ¬(row.after steps).Sound) :
    unitsTaken .reserve row steps = 0 := by
  induction steps generalizing row with
  | nil => rfl
  | cons step rest ih =>
    have first : ¬row.Sound := mt (gained_after row (step :: rest)).sound unsound
    have later : unitsTaken .reserve (row.take step).2 rest = 0 := ih unsound
    rw [unitsTaken, unitsOf_reserve_of_unsound first, later]

/-- A row is sound exactly if the units that were given back make up for what was promised in
    excess. -/
theorem sound_after_iff (row : Stock) (steps : List Step) :
    (row.after steps).Sound ↔
      row.reserved.toNat ≤ row.total.toNat + unitsTaken .cancel row steps := by
  have gained := gained_after row steps
  have reserved := gained.reserved
  have total := gained.total
  constructor
  · intro sound
    have below := sound_iff.1 sound
    omega
  · intro restored
    refine Decidable.byContradiction fun unsound => ?_
    have promised := unitsTaken_reserve_of_unsound unsound
    have excess := mt sound_iff.2 unsound
    omega

/-- Steps on a row are exact, whatever the row holds. The next one after any steps goes through
    exactly if the row allows it, and then the row gains exactly its units; else the row is what it
    was. All in all the row gains what was promised, less what was taken out and given back. It
    never holds more than before, and once it is sound it stays so. A row that is not becomes sound
    exactly when enough units have been given back; no units are promised before. -/
theorem adjusts_exactly (row : Stock) (steps : List Step) :
    (∀ step, Taken (row.after steps) step ((row.after steps).take step)) ∧
    Gained (unitsTaken .reserve row steps - unitsTaken .remove row steps -
      unitsTaken .cancel row steps) (-unitsTaken .remove row steps) row (row.after steps) ∧
    (∀ more, (row.after (steps ++ more)).total ≤ (row.after steps).total) ∧
    (∀ more, (row.after steps).Sound → (row.after (steps ++ more)).Sound) ∧
    ((row.after steps).Sound ↔
      row.reserved.toNat ≤ row.total.toNat + unitsTaken .cancel row steps) ∧
    ∀ units, ((row.after steps).take ⟨.reserve, units⟩).1 = .ok () →
      row.reserved.toNat ≤ row.total.toNat + unitsTaken .cancel row steps := by
  refine ⟨fun step => taken_take _ step, gained_after row steps, ?_, ?_,
    sound_after_iff row steps, ?_⟩
  · intro more
    have held := (gained_after (row.after steps) more).total
    rw [after_append, UInt32.le_iff_toNat_le]
    omega
  · intro more sound
    rw [after_append]
    exact (gained_after (row.after steps) more).sound sound
  · intro units through
    have promised : ((row.after steps).take ⟨.reserve, units⟩).1.isOk := by rw [through]; rfl
    exact (sound_after_iff row steps).1 (sound_of_promised promised)

/-- A row that promises two units more than it holds: it is not sound before two have been given
    back, and only then a unit is promised. -/
theorem adjusts_exactly_corrupt :
    let row : Stock := ⟨⟨7⟩, 3, 5⟩
    let steps : List Step := [⟨.reserve, 0⟩, ⟨.cancel, 1⟩, ⟨.remove, 2⟩, ⟨.reserve, 4294967295⟩,
      ⟨.cancel, 4294967295⟩, ⟨.cancel, 1⟩]
    row.after steps = ⟨⟨7⟩, 1, 1⟩ ∧ ¬(row.after (steps.take 5)).Sound ∧ (row.after steps).Sound ∧
      (row.after (steps ++ [⟨.cancel, 1⟩])).Sound ∧
      ((row.after (steps ++ [⟨.cancel, 1⟩])).take ⟨.reserve, 1⟩).1 = .ok () ∧
      row.reserved.toNat ≤ row.total.toNat + unitsTaken .cancel row (steps ++ [⟨.cancel, 1⟩]) := by
  intro row steps
  have early : unitsTaken .cancel row (steps.take 5) = 1 := by decide
  have all : unitsTaken .cancel row steps = 2 := by decide
  obtain ⟨-, -, -, lasts, mended, -⟩ := adjusts_exactly row steps
  obtain ⟨-, -, -, -, before, -⟩ := adjusts_exactly row (steps.take 5)
  obtain ⟨-, -, -, -, -, promises⟩ := adjusts_exactly row (steps ++ [⟨.cancel, 1⟩])
  have sound : (row.after steps).Sound := mended.2 (by rw [all]; decide)
  have unsound : ¬(row.after (steps.take 5)).Sound := by
    rw [before, early]
    decide
  have free : row.after (steps ++ [⟨.cancel, 1⟩]) = ⟨⟨7⟩, 1, 0⟩ := by decide
  have promised : ((row.after (steps ++ [⟨.cancel, 1⟩])).take ⟨.reserve, 1⟩).1 = .ok () := by
    rw [free]
    rfl
  exact ⟨by decide, unsound, sound, lasts _ sound, promised, promises 1 promised⟩

end OrderDesk.Stock
