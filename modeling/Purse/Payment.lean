import Purse.Amount
import Purse.Identifier
import Purse.Timestamp

/-!
# Payments

A payment moves through its statuses and is otherwise fixed, except that a pending payment can be
given the reference and link of a gateway checkout, and a failed one carries the reason. Every accepted
step records when it was made; a refused one changes nothing.
-/
namespace Purse

structure Payment where
  id : PaymentId
  userId : UserId
  bookingId : Option BookingId
  amount : Amount
  method : PaymentMethod
  status : PaymentStatus
  externalId : Option String
  redirectUrl : Option String
  errorMessage : Option String
  createdAt : Timestamp
  updatedAt : Timestamp
  deriving DecidableEq, Repr

/-- Where to send the payer of a payment that a gateway settles. -/
structure Checkout where
  paymentId : PaymentId
  method : PaymentMethod
  externalId : String
  redirectUrl : String
  deriving DecidableEq, Repr

namespace Payment

/-- A new pending payment. -/
def requested (id : PaymentId) (userId : UserId) (amount : Amount) (method : PaymentMethod)
    (booking : Option BookingId) (now : Timestamp) : Payment :=
  ⟨id, userId, booking, amount, method, .pending, none, none, none, now, now⟩

/-- Moves the payment to another status, if the table of statuses allows the step. -/
def moveTo (p : Payment) (target : PaymentStatus) (now : Timestamp) : Except LedgerError Payment :=
  if p.status.canMoveTo target then .ok { p with status := target, updatedAt := now }
  else .error (.invalidPaymentStatus p.status
    ("cannot move payment from " ++ p.status.name ++ " to " ++ target.name))

def complete (p : Payment) (now : Timestamp) : Except LedgerError Payment := p.moveTo .completed now

def refund (p : Payment) (now : Timestamp) : Except LedgerError Payment := p.moveTo .refunded now

/-- Marks the payment failed and keeps the reason. -/
def fail (p : Payment) (reason : String) (now : Timestamp) : Except LedgerError Payment := do
  let failed ← p.moveTo .failed now
  .ok { failed with errorMessage := some reason }

/-- Gives a pending payment the reference and link of its checkout. -/
def attachGateway (p : Payment) (externalId redirectUrl : String) (now : Timestamp) :
    Except LedgerError Payment :=
  if p.status = .pending then
    .ok { p with externalId := some externalId, redirectUrl := some redirectUrl, updatedAt := now }
  else .error (.invalidPaymentStatus p.status "can only check out pending payments")

/-- The checkout of a payment that has both a reference and a link. -/
def checkout? (p : Payment) : Option Checkout := do
  let externalId ← p.externalId
  let redirectUrl ← p.redirectUrl
  some ⟨p.id, p.method, externalId, redirectUrl⟩

end Payment
end Purse
