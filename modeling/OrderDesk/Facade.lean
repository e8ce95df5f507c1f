import OrderDesk.Checkout

/-!
# The facade

The public calls. Requests and answers carry 64-bit numbers; a request is checked field by field
before it reaches the desk. Every failure leaves as a status: a code and a text, where the text
of an internal failure tells nothing about it.
-/

namespace OrderDesk

/-- The codes of a failed call. -/
inductive Code where
  /-- The request is in order, but what is stored forbids it. -/
  | failedPrecondition
  /-- What the request names is missing, or in no state for it. -/
  | notFound
  | invalidArgument
  | internal
  deriving DecidableEq, Repr

namespace Code

/-- Every code. -/
def all : List Code := [failedPrecondition, notFound, invalidArgument, internal]

/-- The name under which a code is sent. -/
def name : Code → String
  | failedPrecondition => "FAILED_PRECONDITION"
  | notFound => "NOT_FOUND"
  | invalidArgument => "INVALID_ARGUMENT"
  | internal => "INTERNAL"

/-- The name of a code in texts. -/
def title : Code → String
  | failedPrecondition => "FailedPrecondition"
  | notFound => "NotFound"
  | invalidArgument => "InvalidArgument"
  | internal => "Internal"

/-- The code of a name. -/
def ofName? (name : String) : Option Code := all.find? (·.name = name)

/-- The code of an error's class. -/
def ofKind : ErrorKind → Code
  | .insufficientStock => failedPrecondition
  | .notFound | .invalidOrderState => notFound
  | .negativeCount | .invalidInput => invalidArgument
  | .internal => internal

end Code

/-- The outcome of a failed call. -/
structure Status where
  code : Code
  message : String
  deriving DecidableEq, Repr

namespace Status

/-- The status of an error. -/
def ofError (error : Error) : Status :=
  match Code.ofKind error.kind with
  | .internal => ⟨.internal, "internal server error"⟩
  | code => ⟨code, error.message⟩

/-- A status in one line. -/
def describe (status : Status) : String := s!"{status.code.title}: {status.message}"

end Status

/-- A line of an order in a request or an answer. -/
structure WireItem where
  sku : UInt64
  count : UInt64
  deriving DecidableEq, Repr

/-- A request to create an order. -/
structure CreateRequest where
  user : Int64
  items : List WireItem
  deriving DecidableEq, Repr

/-- A request about one order. -/
structure OrderRequest where
  order : Int64
  deriving DecidableEq, Repr

/-- A request about one article. -/
structure StockRequest where
  sku : UInt64
  deriving DecidableEq, Repr

/-- The answer to a request that created an order. -/
structure CreateResponse where
  order : Int64
  deriving DecidableEq, Repr

/-- What is told about an order. -/
structure InfoResponse where
  user : Int64
  status : String
  items : List WireItem
  deriving DecidableEq, Repr

/-- What is told about an article. -/
structure StockResponse where
  count : UInt64
  deriving DecidableEq, Repr

namespace WireItem

/-- The order line that a request asks for. -/
def toItem (item : WireItem) : Except InvalidInput Item :=
  match Sku.ofRaw item.sku with
  | .error reason => .error reason
  | .ok sku =>
    match ItemCount.ofRaw item.count with
    | .error reason => .error reason
    | .ok count => .ok ⟨sku, count⟩

/-- The order lines that a request asks for; the first one that is not in order is blamed. -/
def toItems : List WireItem → Except InvalidInput (List Item)
  | [] => .ok []
  | item :: rest =>
    match item.toItem with
    | .error reason => .error reason
    | .ok item =>
      match toItems rest with
      | .error reason => .error reason
      | .ok items => .ok (item :: items)

/-- A line of an order as it is told. -/
def ofItem (item : Item) : WireItem := ⟨item.sku.num.toUInt64, item.count.num.toUInt64⟩

end WireItem

namespace Facade

/-- Turns the outcome of a call on the desk into the outcome of a public call. -/
def answer {α β : Type} (tell : α → β) : Except Error α × Cluster → Except Status β × Cluster
  | (.error error, cluster) => (.error (.ofError error), cluster)
  | (.ok value, cluster) => (.ok (tell value), cluster)

/-- A request that is refused before it reaches the desk. -/
def refuse {β : Type} (reason : InvalidInput) (cluster : Cluster) : Except Status β × Cluster :=
  (.error (.ofError (.invalidInput reason)), cluster)

/-- Creates an order and reserves its units. -/
def createOrder (cluster : Cluster) (request : CreateRequest) :
    Except Status CreateResponse × Cluster :=
  match UserId.ofRaw request.user with
  | .error reason => refuse reason cluster
  | .ok user =>
    match WireItem.toItems request.items with
    | .error reason => refuse reason cluster
    | .ok items =>
      answer (fun id => ⟨Int64.ofInt id.num⟩) (cluster.checkout user items)

/-- Settles an order. -/
def settleOrder (settlement : Settlement) (cluster : Cluster) (request : OrderRequest) :
    Except Status Unit × Cluster :=
  match OrderId.ofRaw request.order with
  | .error reason => refuse reason cluster
  | .ok id => answer (fun _ => ()) (cluster.settle settlement id)

/-- Pays an order. -/
def payOrder (cluster : Cluster) (request : OrderRequest) : Except Status Unit × Cluster :=
  settleOrder .pay cluster request

/-- Cancels an order. -/
def cancelOrder (cluster : Cluster) (request : OrderRequest) : Except Status Unit × Cluster :=
  settleOrder .cancel cluster request

/-- What is told about a stored order. -/
def describe (order : Order) : InfoResponse :=
  ⟨Int64.ofInt order.user.num, order.state.name, order.items.map WireItem.ofItem⟩

/-- Tells about an order. -/
def orderInfo (cluster : Cluster) (request : OrderRequest) : Except Status InfoResponse :=
  match OrderId.ofRaw request.order with
  | .error reason => .error (.ofError (.invalidInput reason))
  | .ok id =>
    match cluster.lookUp id with
    | .error error => .error (.ofError error)
    | .ok order => .ok (describe order)

/-- Tells how many units of an article can still be promised. -/
def stockInfo (cluster : Cluster) (request : StockRequest) : Except Status StockResponse :=
  match Sku.ofRaw request.sku with
  | .error reason => .error (.ofError (.invalidInput reason))
  | .ok sku =>
    match cluster.available sku with
    | .error error => .error (.ofError error)
    | .ok units => .ok ⟨units.toUInt64⟩

end Facade

end OrderDesk
