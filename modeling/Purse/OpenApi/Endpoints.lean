import Purse.OpenApi.Components

/-!
# The endpoints

Every path of the API with its parameters, its body and its answers.
-/
namespace Purse.OpenApi

/-- What an answer carries. -/
inductive Content where
  | schema (shape : Shape)
  | sample (value : Json)

structure Outcome where
  status : Nat
  description : String
  content : Option Content := none

structure Parameter where
  name : String
  place : String
  isRequired : Bool
  description : String
  shape : Shape
  sample : Option Json := none

structure Endpoint where
  path : String
  method : String
  name : String
  summary : String
  tag : String
  parameters : List Parameter := []
  body : Option String := none
  outcomes : List Outcome

/-- An answer that carries a value of a named schema. -/
def Outcome.of (status : Nat) (description schema : String) : Outcome :=
  ⟨status, description, some (.schema (.reference schema false))⟩

/-- An answer that carries a list. -/
def Outcome.listOf (status : Nat) (description schema : String) : Outcome :=
  ⟨status, description, some (.schema (.list schema))⟩

def Parameter.inPath (name description schema : String) : Parameter :=
  ⟨name, "path", true, description, .reference schema false, none⟩

/-- An optional number in the query. -/
def Parameter.inQuery (name description : String) (sample : Int) : Parameter :=
  ⟨name, "query", false, description, .basic .integer false, some (Json.int sample)⟩

def userParameter : Parameter := .inPath "user_id" "User ID (UUID)" "UserId"
def paymentParameter : Parameter := .inPath "id" "Payment ID (UUID)" "PaymentId"
def providerParameter : Parameter := .inPath "provider" "gateway_a or gateway_b" "PaymentMethod"

def pageParameters : List Parameter :=
  [.inQuery "limit" "Maximum number of items (1-100, default 20)" 20,
    .inQuery "offset" "Number of items to skip" 0]

/-- What the health endpoint answers. -/
def healthy : Json := .object [("status", .text "healthy")]

def endpoints : List Endpoint :=
  [{ path := "/health", method := "get", name := "health", summary := "Health check endpoint",
      tag := "health", outcomes := [⟨200, "Service is healthy", some (.sample healthy)⟩] },
    { path := "/api/users/\x7buser_id\x7d/wallet", method := "get", name := "get_wallet",
      summary := "Get a user's wallet, creating it on first access", tag := "wallet",
      parameters := [userParameter],
      outcomes := [.of 200 "Wallet" "Wallet", ⟨400, "Invalid user ID", none⟩] },
    { path := "/api/users/\x7buser_id\x7d/wallet/balance", method := "get", name := "get_balance",
      summary := "Get a user's balance (0 if the user has no wallet)", tag := "wallet",
      parameters := [userParameter],
      outcomes := [.of 200 "Current balance" "BalanceResponse"] },
    { path := "/api/users/\x7buser_id\x7d/wallet/deposit", method := "post", name := "deposit",
      summary := "Deposit money into a wallet", tag := "wallet", parameters := [userParameter],
      body := some "DepositRequest",
      outcomes := [.of 200 "Deposit recorded" "WalletTransaction",
        ⟨400, "Amount is not positive", none⟩] },
    { path := "/api/users/\x7buser_id\x7d/wallet/withdraw", method := "post", name := "withdraw",
      summary := "Withdraw money from a wallet", tag := "wallet", parameters := [userParameter],
      body := some "WithdrawRequest",
      outcomes := [.of 200 "Withdrawal recorded" "WalletTransaction",
        ⟨400, "Insufficient balance or invalid amount", none⟩] },
    { path := "/api/users/\x7buser_id\x7d/wallet/transactions", method := "get",
      name := "list_transactions", summary := "List wallet transactions, newest first",
      tag := "wallet", parameters := userParameter :: pageParameters,
      outcomes := [.listOf 200 "Ledger entries" "WalletTransaction"] },
    { path := "/api/users/\x7buser_id\x7d/payments", method := "get", name := "list_user_payments",
      summary := "List a user's payments, newest first", tag := "payments",
      parameters := userParameter :: pageParameters,
      outcomes := [.listOf 200 "Payments" "Payment"] },
    { path := "/api/payments", method := "post", name := "create_payment",
      summary := "Create a payment; wallet payments settle immediately", tag := "payments",
      body := some "CreatePaymentRequest",
      outcomes := [.of 201 "Payment created (wallet payments may come back failed)" "Payment",
        ⟨400, "Amount is not positive", none⟩] },
    { path := "/api/payments/\x7bid\x7d", method := "get", name := "get_payment",
      summary := "Get a payment", tag := "payments", parameters := [paymentParameter],
      outcomes := [.of 200 "Payment" "Payment", ⟨404, "Payment not found", none⟩] },
    { path := "/api/payments/\x7bid\x7d/checkout", method := "post", name := "checkout",
      summary := "Start gateway checkout for a pending payment", tag := "payments",
      parameters := [paymentParameter],
      outcomes := [.of 200 "Checkout reference and redirect" "CheckoutResponse",
        ⟨400, "Wallet payments have no checkout", none⟩, ⟨404, "Payment not found", none⟩,
        ⟨409, "Payment is not pending", none⟩] },
    { path := "/api/payments/\x7bid\x7d/refund", method := "post", name := "refund",
      summary := "Refund a completed payment into the payer's wallet", tag := "payments",
      parameters := [paymentParameter],
      outcomes := [.of 200 "Payment refunded (or already refunded)" "Payment",
        ⟨404, "Payment not found", none⟩, ⟨409, "Payment is not completed", none⟩] },
    { path := "/api/webhooks/\x7bprovider\x7d", method := "post", name := "gateway_callback",
      summary := "Gateway callback", tag := "webhooks", parameters := [providerParameter],
      body := some "GatewayCallbackRequest",
      outcomes := [.of 200 "Callback acknowledged" "CallbackAck", ⟨404, "Unknown gateway", none⟩,
        ⟨409, "Payment already settled the other way", none⟩] }]

def jsonContent (members : List (String × Json)) : Json :=
  .object [("application/json", .object members)]

def Content.json : Content → Json
  | .schema shape => jsonContent [("schema", shape.json none none)]
  | .sample value => jsonContent [("schema", .object []), ("example", value)]

def Outcome.json (o : Outcome) : Json :=
  .object (present [("description", some (.text o.description)), ("content", o.content.map Content.json)])

def Parameter.json (p : Parameter) : Json :=
  .object (present [("name", some (.text p.name)), ("in", some (.text p.place)),
    ("description", some (.text p.description)), ("required", some (.bool p.isRequired)),
    ("schema", some (p.shape.json none none)), ("example", p.sample)])

/-- The body that a request has to bring. -/
def bodyJson (schema : String) : Json :=
  .object [("content", (Content.schema (.reference schema false)).json), ("required", .bool true)]

def Endpoint.json (e : Endpoint) : Json :=
  .object (present [("tags", some (.array [.text e.tag])), ("summary", some (.text e.summary)),
    ("operationId", some (.text e.name)),
    ("parameters",
      if e.parameters.isEmpty then none else some (.array (e.parameters.map Parameter.json))),
    ("requestBody", e.body.map bodyJson),
    ("responses", some (.object (e.outcomes.map fun o => (Numeral.ofNat o.status, o.json))))])

end Purse.OpenApi
