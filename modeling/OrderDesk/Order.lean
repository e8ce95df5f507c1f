import OrderDesk.Error

/-!
# Orders

An order is a list of lines that a user asked for, in the order in which they were submitted,
together with the state in which it stands.
-/

namespace OrderDesk

/-- One line of an order: so many units of an article. -/
structure Item where
  sku : Sku
  count : ItemCount
  deriving DecidableEq, Repr

/-- An order as it is stored. -/
structure Order where
  id : OrderId
  user : UserId
  state : OrderState
  items : List Item
  deriving DecidableEq, Repr

namespace Item

/-- The units of an article on one line. -/
def unitsOf (sku : Sku) (item : Item) : Nat := if item.sku = sku then item.count.num.toNat else 0

/-- The units of an article on a list of lines; lines of one article add up. -/
def units (sku : Sku) : List Item → Nat
  | [] => 0
  | item :: items => unitsOf sku item + units sku items

@[simp] theorem units_nil (sku : Sku) : units sku [] = 0 := rfl

@[simp] theorem units_cons (sku : Sku) (item : Item) (items : List Item) :
    units sku (item :: items) = unitsOf sku item + units sku items := rfl

@[simp] theorem units_append (sku : Sku) (a b : List Item) :
    units sku (a ++ b) = units sku a + units sku b := by
  induction a with
  | nil => simp
  | cons item a ih => simp [ih, Nat.add_assoc]

end Item

namespace Order

/-- Moves an order to another state, if its state allows it. The answer holds the state that it
    left and the order after the move. -/
def transition (order : Order) (next : OrderState) : Except Error (OrderState × Order) :=
  if order.state.allows next then .ok (order.state, { order with state := next })
  else .error (.invalidOrderState order.id order.state next)

end Order

end OrderDesk
