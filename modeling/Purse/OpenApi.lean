import Purse.Json.Pointer
import Purse.OpenApi.Endpoints

/-!
# The API description

The document that describes the API to programs.
-/
namespace Purse.OpenApi

def info : Json :=
  .object [("title", .text "Wallet Ledger and Payments API"),
    ("description", .text
      ("User wallets with an append-only ledger, and payment settlement through the wallet or mock " ++
        "external gateways.\n\nAmounts are integers in minor currency units.")),
    ("license", .object [("name", .text "MIT")]), ("version", .text "1.0.0")]

/-- The groups of endpoints. -/
def tags : List (String × String) :=
  [("health", "Health check endpoints"), ("wallet", "Wallet balance and ledger"),
    ("payments", "Payment creation, checkout and refunds"), ("webhooks", "Gateway callbacks")]

def document : Json :=
  .object [("openapi", .text "3.1.0"), ("info", info),
    ("paths", .object (endpoints.map fun e => (e.path, .object [(e.method, e.json)]))),
    ("components", .object
      [("schemas", .object (schemas.map fun (name, schema) => (name, schema.json)))]),
    ("tags", .array (tags.map fun (name, description) =>
      .object [("name", .text name), ("description", .text description)]))]

end Purse.OpenApi
