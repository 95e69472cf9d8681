import Purse.Entry.Kind
import Purse.Numeral
import Purse.Payment.Method
import Purse.Payment.Status

/-!
# What can go wrong

Each layer has its own causes: the rules of the ledger, the store, the gateways, and the services that
use all three. A cause is a constructor, and its wording is one function. The conversions at the end
say which cause of a service stands for a cause below it.
-/
namespace Purse

/-- A rule of wallets and payments that a request would break. -/
inductive LedgerError where
  | invalidAmount (value : Int)
  | insufficientBalance (available requested : Int)
  | balanceOverflow
  | invalidPaymentStatus (status : PaymentStatus) (reason : String)
  | validation (reason : String)
  deriving DecidableEq, Repr

namespace LedgerError

/-- An unknown payment method, status or entry kind. -/
def unknownMethod (name : String) : LedgerError := .validation ("Unknown payment method: " ++ name)
def unknownStatus (name : String) : LedgerError := .validation ("Unknown payment status: " ++ name)
def unknownKind (name : String) : LedgerError := .validation ("Unknown transaction kind: " ++ name)

def message : LedgerError → String
  | .invalidAmount value => "Amount must be positive, got " ++ Numeral.ofInt value
  | .insufficientBalance available requested =>
    "Insufficient balance: available " ++ Numeral.ofInt available ++ ", requested " ++
      Numeral.ofInt requested
  | .balanceOverflow => "Balance overflow"
  | .invalidPaymentStatus status reason =>
    "Invalid payment status " ++ status.name ++ ": " ++ reason
  | .validation reason => "Validation error: " ++ reason

end LedgerError

/-- Why the store refused or could not serve a call. -/
inductive StoreError where
  | ledger (cause : LedgerError)
  | database (reason : String)
  | transaction (reason : String)
  | notFound
  | conflict (reason : String)
  deriving DecidableEq, Repr

def StoreError.message : StoreError → String
  | .ledger cause => cause.message
  | .database reason => "Database error: " ++ reason
  | .transaction reason => "Transaction error: " ++ reason
  | .notFound => "Entity not found"
  | .conflict reason => "Conflict: " ++ reason

/-- Why a gateway opened no checkout. -/
inductive GatewayError where
  | unsupported (method : PaymentMethod)
  | unavailable (reason : String)
  | silent
  deriving DecidableEq, Repr

def GatewayError.message : GatewayError → String
  | .unsupported method => "No gateway for payment method " ++ method.name
  | .unavailable reason => "Gateway unavailable: " ++ reason
  | .silent => "Gateway did not answer"

/-- Why a service refused or failed a request. `timedOut` is the end of a request that waited for a
gateway which never answered. -/
inductive ServiceError where
  | invalidAmount (value : Int)
  | insufficientBalance (available requested : Int)
  | invalidPaymentStatus (status : PaymentStatus) (reason : String)
  | paymentNotFound (what : String)
  | notFound (what : String)
  | badRequest (reason : String)
  | gateway (reason : String)
  | internal (reason : String)
  | timedOut
  deriving DecidableEq, Repr

namespace ServiceError

def message : ServiceError → String
  | .invalidAmount value => (LedgerError.invalidAmount value).message
  | .insufficientBalance available requested =>
    (LedgerError.insufficientBalance available requested).message
  | .invalidPaymentStatus status reason => (LedgerError.invalidPaymentStatus status reason).message
  | .paymentNotFound what => "Payment not found: " ++ what
  | .notFound what => "Not found: " ++ what
  | .badRequest reason => "Bad request: " ++ reason
  | .gateway reason => "Gateway error: " ++ reason
  | .internal reason => "Internal error: " ++ reason
  | .timedOut => "Request timed out"

/-- The short name that programs tell causes apart by. -/
def kind : ServiceError → String
  | .invalidAmount _ => "invalid_amount"
  | .insufficientBalance _ _ => "insufficient_balance"
  | .invalidPaymentStatus _ _ => "invalid_payment_status"
  | .paymentNotFound _ => "payment_not_found"
  | .notFound _ => "not_found"
  | .badRequest _ => "bad_request"
  | .gateway _ => "gateway_error"
  | .internal _ => "internal"
  | .timedOut => "timeout"

/-- The status code of the answer over HTTP. -/
def status : ServiceError → Nat
  | .invalidAmount _ | .insufficientBalance _ _ | .badRequest _ => 400
  | .invalidPaymentStatus _ _ => 409
  | .paymentNotFound _ | .notFound _ => 404
  | .gateway _ => 502
  | .internal _ => 500
  | .timedOut => 408

/-- Broken rules are passed on; an overflow or a failed validation is the caller's bad request. -/
def ofLedger : LedgerError → ServiceError
  | .invalidAmount value => .invalidAmount value
  | .insufficientBalance available requested => .insufficientBalance available requested
  | .balanceOverflow => .badRequest LedgerError.balanceOverflow.message
  | .invalidPaymentStatus status reason => .invalidPaymentStatus status reason
  | .validation reason => .badRequest reason

/-- A conflict is the caller's bad request; trouble with the store itself is internal. -/
def ofStore : StoreError → ServiceError
  | .ledger cause => ofLedger cause
  | .database reason => .internal reason
  | .transaction reason => .internal reason
  | .notFound => .notFound "Resource not found"
  | .conflict reason => .badRequest reason

/-- Asking for a method without a gateway is the caller's bad request. -/
def ofGateway : GatewayError → ServiceError
  | .unsupported method => .badRequest ("payment method " ++ method.name ++ " has no external gateway")
  | .unavailable reason => .gateway reason
  | .silent => .timedOut

end ServiceError
end Purse
