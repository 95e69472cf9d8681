import Purse.Http.MediaType
import Purse.Http.Query
import Purse.Http.Route
import Purse.Json.Vocabulary
import Purse.OpenApi
import Purse.Service.Operation

/-!
# The API

A request is either answered at once or stands for one operation. What is wrong with a request is found in
a fixed order: the target as a whole, the path, the method, the encoding of the path, the query or body, and
last the identifiers. The outcome of the operation then decides the response.
-/
namespace Purse.Http

/-- The greatest length of a body in bytes. -/
def bodyLimit : Nat := 2097152

/-- The response to a request that a service refuses. Nobody waits for one that timed out. -/
def refusal (error : ServiceError) : Response :=
  match error with
  | .timedOut => { status := error.status }
  | _ =>
    .ofJson error.status (.object [("error", .text error.message), ("kind", .text error.kind),
      ("code", Json.int error.status)])

/-- The text of a part of the path. The words about one that is no text are left out. -/
def readPart (part : List Char) : Except Response String :=
  match percentDecode? part with
  | some text => .ok text
  | none => .error { status := 400 }

/-- The response to a request whose body has a flaw. The member that the flaw is in, which is named as well
in front of it, is left out. -/
def unreadable (body : String) (flaw : Json.Flaw) : Response :=
  if flaw.isMalformed then
    .ofComplaint 400
      ⟨"Failed to parse the request body as JSON: " ++ flaw.fault.message, flaw.position? body⟩
  else
    .ofComplaint 422
      ⟨"Failed to deserialize the JSON body into the target type: " ++ flaw.fault.message,
        flaw.position? body⟩

namespace Request

/-- The page that the query asks for. The words about a query that does not are left out. -/
def readPage (r : Request) : Except Response Page :=
  match pageQuery? r.query with
  | some query => .ok query.page
  | none => .error { status := 400 }

def readBody (r : Request) (α : Type) [Wire α] : Except Response α :=
  if !r.contentType.any isJsonMediaType then
    .error (.ofComplaint 415 ⟨"Expected request with `Content-Type: application/json`", none⟩)
  else if bodyLimit < r.body.utf8ByteSize then
    .error (.ofComplaint 413 ⟨"Failed to buffer the request body: length limit exceeded", none⟩)
  else
    match Wire.decode α r.body with
    | .ok a => .ok a
    | .error flaw => .error (unreadable r.body flaw)

end Request

def readUser (text : String) : Except Response UserId :=
  match UserId.ofText? text with
  | some user => .ok user
  | none => .error (refusal (.badRequest "Invalid user ID"))

def readPayment (text : String) : Except Response PaymentId :=
  match PaymentId.ofText? text with
  | some id => .ok id
  | none => .error (refusal (.badRequest "Invalid payment ID"))

/-- Checks that a text names a gateway. Which one does not matter. -/
def readProvider (text : String) : Except Response Unit :=
  if (PaymentMethod.ofName? text).any PaymentMethod.isExternal then .ok ()
  else .error (refusal (.notFound ("Unknown gateway " ++ text)))

def Route.resolve (r : Request) : Route → Except Response Operation
  | .health => .error (.ofJson 200 OpenApi.healthy)
  | .document => .error (.ofJson 200 OpenApi.document)
  | .wallet user => do return .wallet (← readUser (← readPart user))
  | .balance user => do return .balance (← readUser (← readPart user))
  | .deposit user => do
    let text ← readPart user
    let body ← r.readBody DepositRequest
    return .deposit (← readUser text) body.amount (body.description.getD "Wallet deposit")
  | .withdraw user => do
    let text ← readPart user
    let body ← r.readBody WithdrawRequest
    return .withdraw (← readUser text) body.amount (body.description.getD "Wallet withdrawal")
  | .history user => do
    let text ← readPart user
    let page ← r.readPage
    return .history (← readUser text) page
  | .userPayments user => do
    let text ← readPart user
    let page ← r.readPage
    return .payments (← readUser text) page
  | .payments => do
    let body ← r.readBody PaymentRequest
    return .requestPayment body.userId body.amount body.method body.bookingId
  | .payment id => do return .payment (← readPayment (← readPart id))
  | .checkout id => do return .checkout (← readPayment (← readPart id))
  | .refund id => do return .refundPayment (← readPayment (← readPart id))
  | .webhook provider => do
    let text ← readPart provider
    let verdict ← r.readBody Verdict
    readProvider text
    return .applyVerdict verdict

def Request.resolve (r : Request) : Except Response Operation :=
  match Route.ofPath? r.path with
  | none => .error { status := 404 }
  | some route => if route.accepts r.method then route.resolve r else .error { status := 405 }

def answerJson : Answer → Json
  | .wallet wallet => Wire.write wallet
  | .balance balance => Json.int balance
  | .entry entry => Wire.write entry
  | .entries entries => Wire.write entries
  | .payment payment => Wire.write payment
  | .payments payments => Wire.write payments
  | .checkout checkout => Wire.write checkout

/-- The acknowledgement of a verdict. -/
def acknowledged : Response := .ofJson 200 (Wire.write (Acknowledgement.mk true))

/-- The response to a request that stands for an operation with this outcome. Verdicts on unknown
references are acknowledged like any other. -/
def respond : Operation → Except ServiceError Answer → Response
  | .applyVerdict _, .ok _ => acknowledged
  | .applyVerdict _, .error (.paymentNotFound _) => acknowledged
  | _, .error error => refusal error
  | .balance user, .ok (.balance balance) => .ofJson 200 (Wire.write (BalanceReport.mk user balance))
  | .requestPayment .., .ok answer => .ofJson 201 (answerJson answer)
  | _, .ok answer => .ofJson 200 (answerJson answer)

/-- Serves a request of any method but one that only looks. -/
def serveFully (gateways : Gateways) (draws : Draws) (r : Request) (w : World) : Response × World :=
  match r.resolve with
  | .error response => (response, w)
  | .ok operation =>
    match operation.perform gateways draws w with
    | .ok answer w => (respond operation (.ok answer), w)
    | .error error w => (respond operation (.error error), w)

/-- Serves a request with a target that could be read. Only looking at something answers as getting it
would, without the body. -/
def serve (gateways : Gateways) (draws : Draws) (r : Request) (w : World) : Response × World :=
  let (response, w) := serveFully gateways draws r w
  (if r.method = .head then { response with content := none } else response, w)

/-- Receives a request and serves it, unless its target is too long or no address at all. -/
def receive (gateways : Gateways) (draws : Draws) (r : Request) (w : World) : Response × World :=
  if Uri.maxSize < r.target.utf8ByteSize then ({ status := 414 }, w)
  else if (Uri.ofText? r.target).isNone then ({ status := 400 }, w)
  else serve gateways draws r w

end Purse.Http
