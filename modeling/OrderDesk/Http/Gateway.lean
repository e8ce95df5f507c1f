import OrderDesk.Facade.Document
import OrderDesk.Http.MediaType
import OrderDesk.Http.Target

/-!
# The gateway

The facade behind HTTP. Every route takes a posted JSON document. A request is turned down before
it reaches the facade if its path is unknown, its method is not the one of the route, its content
is not declared as JSON, or its body is not the document that the route takes, checked in this
order.
-/

namespace OrderDesk.Http

/-- A request. -/
structure Request where
  method : String
  /-- The path or the whole address, with the query if there is one. -/
  target : String
  contentType : Option String
  body : List UInt8
  deriving DecidableEq, Repr

/-- The body of a response. -/
inductive Body where
  | empty
  /-- An explanation for humans. -/
  | text (value : String)
  | document (value : Json)
  deriving Repr

/-- A response. -/
structure Response where
  status : Nat
  body : Body
  deriving Repr

/-- The routes. -/
inductive Route where
  | createOrder
  | payOrder
  | cancelOrder
  | orderInfo
  | stockInfo
  deriving DecidableEq, Repr

namespace Route

/-- Every route. -/
def all : List Route := [createOrder, payOrder, cancelOrder, orderInfo, stockInfo]

/-- The path of a route. -/
def path : Route → String
  | createOrder => "/v1/order/create"
  | payOrder => "/v1/order/pay"
  | cancelOrder => "/v1/order/cancel"
  | orderInfo => "/v1/order/info"
  | stockInfo => "/v1/stock/info"

/-- The route of a path, which has to be that of the route to the letter. -/
def ofPath? (path : String) : Option Route := all.find? (·.path = path)

/-- The route that a target asks for. -/
def ofTarget? (target : String) : Option Route :=
  (Target.path? target.toList).bind fun path => ofPath? (String.ofList path)

end Route

/-- The status of a failed call. -/
def statusOf : Code → Nat
  | .failedPrecondition => 412
  | .notFound => 404
  | .invalidArgument => 400
  | .internal => 500

namespace Response

/-- The response to a failed call. -/
def failed (status : Status) : Response := ⟨statusOf status.code, .document (Wire.toJson status)⟩

/-- The response to a call that answers a document. -/
def answered {α : Type} [Wire α] : Except Status α → Response
  | .error status => failed status
  | .ok value => ⟨200, .document (Wire.toJson value)⟩

/-- The response to a call that answers nothing. -/
def done : Except Status Unit → Response
  | .error status => failed status
  | .ok () => ⟨200, .empty⟩

/-- The response to a body that is not the document that the route takes. -/
def unreadable : Json.ReadError → Response
  | .malformed => ⟨400, .text "the body is no JSON document"⟩
  | .mismatch => ⟨422, .text "the body is another JSON document than the one asked for"⟩

end Response

/-- Hands the document in a body to a call. -/
def withBody {α : Type} [Wire α] (body : List UInt8) (cluster : Cluster)
    (call : α → Response × Cluster) : Response × Cluster :=
  match Wire.read α body with
  | .error error => (.unreadable error, cluster)
  | .ok value => call value

/-- Serves a posted JSON document. -/
def serve (route : Route) (body : List UInt8) (cluster : Cluster) : Response × Cluster :=
  match route with
  | .createOrder => withBody body cluster fun request =>
    match Facade.createOrder cluster request with
    | (answer, cluster) => (.answered answer, cluster)
  | .payOrder => withBody body cluster fun request =>
    match Facade.payOrder cluster request with
    | (answer, cluster) => (.done answer, cluster)
  | .cancelOrder => withBody body cluster fun request =>
    match Facade.cancelOrder cluster request with
    | (answer, cluster) => (.done answer, cluster)
  | .orderInfo => withBody body cluster fun request =>
    (.answered (Facade.orderInfo cluster request), cluster)
  | .stockInfo => withBody body cluster fun request =>
    (.answered (Facade.stockInfo cluster request), cluster)

/-- Whether the content of a request is declared as JSON. -/
def declaresJson (request : Request) : Bool :=
  match request.contentType.bind MediaType.parse with
  | none => false
  | some media => media.isJson

/-- Answers a request. -/
def handle (request : Request) (cluster : Cluster) : Response × Cluster :=
  match Route.ofTarget? request.target with
  | none => (⟨404, .empty⟩, cluster)
  | some route =>
    if request.method != "POST" then (⟨405, .empty⟩, cluster)
    else if !declaresJson request then
      (⟨415, .text "the content type is not JSON"⟩, cluster)
    else serve route request.body cluster

end OrderDesk.Http
