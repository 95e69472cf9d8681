import Purse.Entry.Kind
import Purse.OpenApi.Schema
import Purse.Payment.Method
import Purse.Payment.Status

/-!
# The named schemas

The schemas of everything that goes over the wire.
-/
namespace Purse.OpenApi

def required (name : String) (type : Basic) (description : Option String := none)
    (sample : Option Json := none) : Field :=
  ⟨name, .basic type false, description, sample⟩

/-- A field that may be null. -/
def optional (name : String) (type : Basic) (description : Option String := none)
    (sample : Option Json := none) : Field :=
  ⟨name, .basic type true, description, sample⟩

def of (name schema : String) (description : Option String := none) : Field :=
  ⟨name, .reference schema false, description, none⟩

/-- A field of a type with a schema of its own that may be null. -/
def ofOptional (name schema : String) (description : Option String := none) : Field :=
  ⟨name, .reference schema true, description, none⟩

/-- The reference that stands in examples. -/
def sampleReference : String := "ga_9fK2mQ7xLp0aZc4RtY8bNw1e"

def walletSchema : Schema := .record
  [of "id" "WalletId" "Unique identifier",
    of "user_id" "UserId" "Owning user (unique across wallets)",
    required "balance" .integer "Current balance in minor units, never negative" (Json.int 1000),
    required "created_at" .time "When the wallet was created",
    required "updated_at" .time "When the balance last changed"]
  "A user's monetary balance. One per user, never deleted."

def entrySchema : Schema := .record
  [of "id" "WalletTransactionId" "Unique identifier",
    of "wallet_id" "WalletId" "Wallet the entry belongs to",
    of "kind" "TransactionKind" "Kind of entry, implies the sign",
    required "amount" .integer "Magnitude in minor units" (Json.int 500),
    required "description" .text "Free-text description",
    ofOptional "booking_id" "BookingId" "Booking the entry is attributed to",
    ofOptional "payment_id" "PaymentId" "Payment that caused the entry",
    required "created_at" .time "When the entry was written"]
  "A recorded ledger entry.\n\nTransactions are immutable once created; corrections are new entries."

def paymentSchema : Schema := .record
  [of "id" "PaymentId",
    of "user_id" "UserId",
    ofOptional "booking_id" "BookingId",
    required "amount" .integer none (Json.int 300),
    of "method" "PaymentMethod",
    of "status" "PaymentStatus",
    optional "external_id" .text "Reference issued to the external gateway",
    optional "redirect_url" .text "Checkout URL the payer is sent to",
    optional "error_message" .text "Why the payment failed",
    required "created_at" .time,
    required "updated_at" .time]
  "A single attempt to move money via a specific method."

def statusDescription : String :=
  "Status of a payment.\n\n\x60\x60\x60text\npending --success--> completed --refund--> refunded\n   \\--failure--> failed\n\x60\x60\x60"

def depositSchema : Schema := .record
  [required "amount" .integer "Amount to deposit in minor currency units" (Json.int 1000),
    optional "description" .text "Optional description for the ledger entry" (Json.text "top-up")]
  "Request to deposit money into a wallet."

def withdrawSchema : Schema := .record
  [required "amount" .integer "Amount to withdraw in minor currency units" (Json.int 500),
    optional "description" .text "Optional description for the ledger entry"]
  "Request to withdraw money from a wallet."

def balanceSchema : Schema := .record
  [of "user_id" "UserId",
    required "balance" .integer "Balance in minor currency units" (Json.int 1000)]
  "Current balance of a user's wallet."

def paymentRequestSchema : Schema := .record
  [of "user_id" "UserId" "Paying user",
    required "amount" .integer "Amount in minor currency units" (Json.int 300),
    of "method" "PaymentMethod",
    ofOptional "booking_id" "BookingId" "Booking the payment is for, if any"]
  "Request to create a payment."

def checkoutSchema : Schema := .record
  [of "payment_id" "PaymentId",
    of "method" "PaymentMethod",
    required "external_id" .text "Reference the gateway will quote in its callback"
      (Json.text sampleReference),
    required "redirect_url" .text "Where to send the payer"
      (Json.text ("https://checkout.gateway-a.test/pay/" ++ sampleReference ++ "?amount=300"))]
  "Gateway checkout details for a pending payment."

def verdictSchema : Schema := .record
  [required "external_id" .text "Reference issued at checkout" (Json.text sampleReference),
    required "success" .boolean "Whether the payer completed the payment"]
  "Callback body posted by a gateway."

def acknowledgementSchema : Schema := .record [required "received" .boolean]
  "Acknowledgement returned to a gateway."

def schemas : List (String × Schema) :=
  [("Wallet", walletSchema),
    ("WalletTransaction", entrySchema),
    ("Payment", paymentSchema),
    ("PaymentMethod", .choice ([.wallet, .gatewayA, .gatewayB].map PaymentMethod.name)
      "How a payment is funded."),
    ("PaymentStatus", .choice ([.pending, .completed, .failed, .refunded].map PaymentStatus.name)
      statusDescription),
    ("TransactionKind", .choice
      ([.deposit, .withdraw, .bookingCharge, .refund, .paymentToRestaurant].map EntryKind.name)
      "The kind of a ledger entry. The sign of the amount is implied by the kind."),
    ("UserId", .plain .uuid "Identifier of a platform user. Issued by the user subsystem."),
    ("WalletId", .plain .uuid "Unique identifier for a Wallet."),
    ("WalletTransactionId", .plain .uuid "Unique identifier for a WalletTransaction."),
    ("PaymentId", .plain .uuid "Unique identifier for a Payment."),
    ("BookingId", .plain .uuid "Identifier of a booking. Issued by the booking subsystem."),
    ("DepositRequest", depositSchema),
    ("WithdrawRequest", withdrawSchema),
    ("BalanceResponse", balanceSchema),
    ("CreatePaymentRequest", paymentRequestSchema),
    ("CheckoutResponse", checkoutSchema),
    ("GatewayCallbackRequest", verdictSchema),
    ("CallbackAck", acknowledgementSchema)]

end Purse.OpenApi
