import Purse.BaseUrl
import Purse.Http.Message
import Purse.Json.Parser
import Purse.Json.Vocabulary
import Purse.Service.Operation

/-!
# The client

A client makes calls. Each call is one request below a base address, and what the server answers is read
back: a granted request has to bring a value of the call's type, and everything else is an error with the
text of the server's complaint, or its whole body if it sent no complaint in the usual form. Asking for
health only looks at the status.
-/
namespace Purse

inductive Call where
  | health
  | wallet (user : UserId)
  | balance (user : UserId)
  | deposit (user : UserId) (amount : Int) (description : Option String)
  | withdraw (user : UserId) (amount : Int) (description : Option String)
  | history (user : UserId) (limit offset : Int)
  | payments (user : UserId) (limit offset : Int)
  | requestPayment (user : UserId) (amount : Int) (method : PaymentMethod) (booking : Option BookingId)
  | payment (id : PaymentId)
  | checkout (id : PaymentId)
  | refund (id : PaymentId)
  | sendVerdict (provider : PaymentMethod) (verdict : Verdict)
  deriving DecidableEq, Repr

/-- What a call answers. -/
inductive Reply where
  | health (isHealthy : Bool)
  | answer (answer : Answer)
  | acknowledgement (acknowledgement : Acknowledgement)
  deriving DecidableEq, Repr

/-- Why a call has no answer: the server refused it, or sent a body that is not one. -/
inductive ClientError where
  | refused (status : Nat) (kind : Option String) (complaint : String)
  | unreadable (body : String) (flaw : Json.Flaw)
  deriving DecidableEq, Repr

def ClientError.message : ClientError → String
  | .refused status _ complaint => "API error: " ++ Numeral.ofNat status ++ " - " ++ complaint
  | .unreadable body flaw => "JSON error: " ++ flaw.message body

/-- The message of what lies behind an error, if anything does. -/
def ClientError.cause? : ClientError → Option String
  | .refused .. => none
  | .unreadable body flaw => some (flaw.message body)

namespace Call

def userPath (user : UserId) (rest : String) : String := "/api/users/" ++ user.text ++ rest

def paymentPath (id : PaymentId) (rest : String) : String := "/api/payments/" ++ id.text ++ rest

def pageQuery (limit offset : Int) : String :=
  "?limit=" ++ Numeral.ofInt limit ++ "&offset=" ++ Numeral.ofInt offset

/-- What the call asks for, below the base address. -/
def path : Call → String
  | .health => "/health"
  | .wallet user => userPath user "/wallet"
  | .balance user => userPath user "/wallet/balance"
  | .deposit user _ _ => userPath user "/wallet/deposit"
  | .withdraw user _ _ => userPath user "/wallet/withdraw"
  | .history user limit offset => userPath user "/wallet/transactions" ++ pageQuery limit offset
  | .payments user limit offset => userPath user "/payments" ++ pageQuery limit offset
  | .requestPayment .. => "/api/payments"
  | .payment id => paymentPath id ""
  | .checkout id => paymentPath id "/checkout"
  | .refund id => paymentPath id "/refund"
  | .sendVerdict provider _ => "/api/webhooks/" ++ provider.name

def method : Call → Http.Method
  | .health | .wallet _ | .balance _ | .history .. | .payments .. | .payment _ => .get
  | .deposit .. | .withdraw .. | .requestPayment .. | .checkout _ | .refund _ | .sendVerdict .. => .post

def body? : Call → Option Json
  | .deposit _ amount description => some (Wire.write (DepositRequest.mk amount description))
  | .withdraw _ amount description => some (Wire.write (WithdrawRequest.mk amount description))
  | .requestPayment user amount method booking =>
    some (Wire.write (PaymentRequest.mk user amount method booking))
  | .sendVerdict _ verdict => some (Wire.write verdict)
  | _ => none

/-- The request that the call makes below a base address. -/
def request (base : String) (c : Call) : Http.Request where
  method := c.method
  target := targetOf (trimBase base ++ c.path)
  contentType := c.body?.map fun _ => "application/json"
  body := (c.body?.map Json.render).getD ""

def readAs (α : Type) [Wire α] (view : α → Reply) (body : String) : Except ClientError Reply :=
  match Wire.decode α body with
  | .ok a => .ok (view a)
  | .error flaw => .error (.unreadable body flaw)

def refusal (status : Nat) (body : String) : ClientError :=
  let said (key : String) : Option String := do (← (← Json.parse? body).member? key).text?
  .refused status (said "kind") ((said "error").getD body)

def readGranted (body : String) : Call → Except ClientError Reply
  | .health => .ok (.health true)
  | .wallet _ => readAs Wallet (.answer ∘ .wallet) body
  | .balance _ => readAs BalanceReport (.answer ∘ .balance ∘ BalanceReport.balance) body
  | .deposit .. | .withdraw .. => readAs Entry (.answer ∘ .entry) body
  | .history .. => readAs (List Entry) (.answer ∘ .entries) body
  | .payments .. => readAs (List Payment) (.answer ∘ .payments) body
  | .requestPayment .. | .payment _ | .refund _ => readAs Payment (.answer ∘ .payment) body
  | .checkout _ => readAs Checkout (.answer ∘ .checkout) body
  | .sendVerdict .. => readAs Acknowledgement .acknowledgement body

/-- Reads what the server answered. -/
def read (c : Call) (status : Nat) (body : String) : Except ClientError Reply :=
  if 200 ≤ status ∧ status < 300 then c.readGranted body
  else if c = .health then .ok (.health false)
  else .error (refusal status body)

/-- Makes the call: sends its request below a base address and reads what is answered. -/
def perform [Monad m] (send : Http.Request → m (Nat × String)) (base : String) (c : Call) :
    m (Except ClientError Reply) := do
  let (status, body) ← send (c.request base)
  return c.read status body

end Call
end Purse
