import OrderDesk.InvalidInput

/-!
# Order states

The states of an order and the moves between them. A new order waits for payment once its units
are reserved and has failed if they cannot be; an order that waits is paid or cancelled. The
states without a way out are the terminal ones.
-/

namespace OrderDesk

/-- Where an order stands. -/
inductive OrderState where
  /-- Stored, its units not yet reserved. -/
  | new
  /-- Its units are reserved. -/
  | awaitingPayment
  /-- Paid for: its units have left the stock. -/
  | payed
  /-- Given up: its units are free again. -/
  | cancelled
  /-- Its units could not be reserved. -/
  | failed
  deriving DecidableEq, Repr

namespace OrderState

/-- Every state, in the order in which they are listed to readers. -/
def all : List OrderState := [new, awaitingPayment, payed, cancelled, failed]

/-- The name under which a state is stored and sent. -/
def name : OrderState → String
  | new => "NEW"
  | awaitingPayment => "AWAITING_PAYMENT"
  | payed => "PAYED"
  | cancelled => "CANCELLED"
  | failed => "FAILED"

/-- The state of a name. -/
def ofName? (name : String) : Option OrderState := all.find? (·.name = name)

/-- The state of a name, or the reason why there is none. -/
def ofName (name : String) : Except InvalidInput OrderState :=
  match ofName? name with
  | none => .error (.unknownState name)
  | some state => .ok state

/-- Whether an order may move from one state to the other. -/
def allows : OrderState → OrderState → Bool
  | new, awaitingPayment | new, failed => true
  | awaitingPayment, payed | awaitingPayment, cancelled | awaitingPayment, failed => true
  | _, _ => false

/-- Whether no move leads out of a state. -/
def isTerminal : OrderState → Bool
  | payed | cancelled | failed => true
  | new | awaitingPayment => false

theorem mem_all (state : OrderState) : state ∈ all := by
  cases state <;> decide

@[simp] theorem ofName?_name (state : OrderState) : ofName? state.name = some state := by
  cases state <;> decide

theorem name_injective {a b : OrderState} (h : a.name = b.name) : a = b := by
  have same : ofName? a.name = ofName? b.name := congrArg ofName? h
  simpa using same

/-- The terminal states are those without a move. -/
theorem isTerminal_iff (state : OrderState) :
    state.isTerminal = true ↔ ∀ next, state.allows next = false := by
  constructor
  · intro terminal next
    cases state <;> cases next <;> simp_all [isTerminal, allows]
  · intro stuck
    have noFailing := stuck failed
    cases state <;> simp_all [isTerminal, allows]

instance : ToString OrderState := ⟨name⟩

end OrderState

end OrderDesk
