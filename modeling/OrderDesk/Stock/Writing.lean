import OrderDesk.Stock

/-!
# Adjusting a row where it is stored

A stored row is adjusted in place: its words are read, checked and overwritten one after the other.
Work that fails a check ends there, and whatever it has overwritten by then stays overwritten.
-/

namespace OrderDesk.Stock

/-- Work on a stored row. -/
abbrev Work := EStateM Error Stock

/-- Promises so many more units of the stored row. -/
def reserveStored (units : UInt32) : Work Unit := do
  let row ← get
  match row.available with
  | .error error => throw error
  | .ok available =>
    if available < units then throw (.insufficientStock row.sku units available)
    else modify fun row => { row with reserved := row.reserved + units }

/-- Takes so many promised units out of the stored row. -/
def removeStored (units : UInt32) : Work Unit := do
  let row ← get
  if row.reserved < units then throw (.negativeReserved row.sku row.reserved units)
  else if row.total < units then throw (.insufficientStock row.sku units row.total)
  else do
    modify fun row => { row with reserved := row.reserved - units }
    modify fun row => { row with total := row.total - units }

/-- Gives so many promised units of the stored row back. -/
def cancelStored (units : UInt32) : Work Unit := do
  let row ← get
  if row.reserved < units then throw (.negativeReserved row.sku row.reserved units)
  else modify fun row => { row with reserved := row.reserved - units }

/-- The adjustment of the stored row by so many units. -/
def adjustStored : Adjustment → UInt32 → Work Unit
  | .reserve => reserveStored
  | .remove => removeStored
  | .cancel => cancelStored

/-- An adjustment by so many units. -/
structure Step where
  adjustment : Adjustment
  units : UInt32
  deriving DecidableEq, Repr

/-- What a step on a stored row answers, and the row that is stored afterwards. -/
def take (row : Stock) (step : Step) : Except Error Unit × Stock :=
  match (adjustStored step.adjustment step.units).run row with
  | .ok () row => (.ok (), row)
  | .error error row => (.error error, row)

/-- The row that is stored after steps, whatever each of them answers. -/
def after (row : Stock) (steps : List Step) : Stock :=
  steps.foldl (fun row step => (row.take step).2) row

/-- How work on a stored row ends if it comes to an adjustment of the row as a value: one that is
    refused has overwritten nothing. -/
def ending (row : Stock) : Except Error Stock → EStateM.Result Error Stock Unit
  | .ok after => .ok () after
  | .error error => .error error row

theorem run_reserveStored (row : Stock) (units : UInt32) :
    (reserveStored units).run row = row.ending (row.reserve units) := by
  simp only [reserveStored, EStateM.run_bind, EStateM.run_get]
  unfold reserve
  cases row.available with
  | error error => rfl
  | ok available =>
    by_cases less : available < units <;> simp only [less, if_true, if_false] <;> rfl

theorem run_removeStored (row : Stock) (units : UInt32) :
    (removeStored units).run row = row.ending (row.remove units) := by
  simp only [removeStored, EStateM.run_bind, EStateM.run_get]
  unfold remove
  by_cases unreserved : row.reserved < units
  · simp only [unreserved, if_true]
    rfl
  · by_cases unheld : row.total < units <;>
      simp only [unreserved, unheld, if_true, if_false] <;> rfl

theorem run_cancelStored (row : Stock) (units : UInt32) :
    (cancelStored units).run row = row.ending (row.cancel units) := by
  simp only [cancelStored, EStateM.run_bind, EStateM.run_get]
  unfold cancel
  by_cases unreserved : row.reserved < units <;>
    simp only [unreserved, if_true, if_false] <;> rfl

/-- In place, a row is adjusted as it is as a value. -/
theorem run_adjustStored (row : Stock) (adjustment : Adjustment) (units : UInt32) :
    (adjustStored adjustment units).run row = row.ending (row.adjust adjustment units) := by
  cases adjustment with
  | reserve => exact run_reserveStored row units
  | remove => exact run_removeStored row units
  | cancel => exact run_cancelStored row units

end OrderDesk.Stock
