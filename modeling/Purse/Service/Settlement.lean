import Purse.Message
import Purse.Service.Ledger

/-!
# The settlement services

A payment is stored pending. A wallet payment is charged at once; a gateway payment gets a checkout and
later the gateway's verdict; a completed one can be refunded. A change of status that moves money shares
its unit of work with the ledger entry. Asking again for a step that was already made is no error and
changes nothing.
-/
namespace Purse.Settlement

/-- A payment that has to be stored, inside a unit of work. -/
def locked (id : PaymentId) : Service Payment := do
  match ← World.lockPayment id with
  | some payment => return payment
  | none => throw (.paymentNotFound id.text)

def find (id : PaymentId) : Service Payment := do
  match ← World.getPayment id with
  | some payment => return payment
  | none => throw (.paymentNotFound id.text)

/-- A page of a user's payments, newest first. -/
def list (user : UserId) (page : Page) : Service (List Payment) := World.listPayments user page

/-- Marks a pending payment failed. A payment that is no longer pending stays as it is. -/
def markFailed (draws : Draws) (id : PaymentId) (reason : String) : Service Unit :=
  Service.unitOfWork do
    let payment ← locked id
    if payment.status ≠ .pending then return .discard ()
    World.savePayment (← payment.fail reason draws.movedAt)
    return .keep ()

/-- The posting that pays for a payment out of the payer's wallet. -/
def charge (payment : Payment) : Posting :=
  let posting : Posting :=
    match payment.bookingId with
    | some booking => .bookingCharge payment.amount booking
    | none => .withdraw payment.amount ("Payment " ++ payment.id.text)
  posting.forPayment payment.id

/-- The attempt to charge a pending wallet payment. A posting that is refused is given up and answered
as an error of the attempt. -/
def tryCharge (draws : Draws) (id : PaymentId) : Service (Except ServiceError Payment) :=
  Service.unitOfWork do
    let payment ← locked id
    if payment.method ≠ .wallet then
      throw (.badRequest ("payment " ++ payment.id.text ++ " is settled by " ++ payment.method.name))
    match payment.status with
    | .completed => return .discard (.ok payment)
    | .pending =>
      match ← Service.observe (Ledger.post draws payment.userId (charge payment)) with
      | .error error => return .discard (.error error)
      | .ok _ =>
        let payment ← payment.complete draws.movedAt
        World.savePayment payment
        return .keep (.ok payment)
    | status => throw (.invalidPaymentStatus status "can only settle pending payments")

/-- Charges the payer's wallet for a pending wallet payment. If the posting is refused, the payment is
marked failed with the reason, in a unit of work of its own. -/
def payFromWallet (draws : Draws) (id : PaymentId) : Service Payment := do
  match ← tryCharge draws id with
  | .ok payment => return payment
  | .error error =>
    markFailed draws id error.message
    throw error

/-- Stores a new payment. A wallet payment is charged before the answer; one that was declined is the
answer too, as a failed payment. -/
def request (draws : Draws) (user : UserId) (amount : Int) (method : PaymentMethod)
    (booking : Option BookingId) : Service Payment := do
  let amount ← Amount.ofInt amount
  let payment := Payment.requested draws.paymentId user amount method booking draws.createdAt
  World.insertPayment payment
  if method ≠ .wallet then return payment
  match ← Service.observe (payFromWallet draws payment.id) with
  | .ok settled => return settled
  | .error error =>
    let stored ← find payment.id
    if stored.status = .failed then return stored else throw error

/-- Opens a checkout for a pending gateway payment. A payment that has one already keeps it. -/
def checkout (gateways : Gateways) (draws : Draws) (id : PaymentId) : Service Checkout :=
  Service.unitOfWork do
    let payment ← locked id
    if !payment.method.isExternal then
      throw (.badRequest "wallet payments are settled without a gateway")
    if payment.status ≠ .pending then
      throw (.invalidPaymentStatus payment.status "can only check out pending payments")
    if let some checkout := payment.checkout? then return .discard checkout
    let redirect ←
      match gateways payment.method with
      | none => throw (.ofGateway (.unsupported payment.method))
      | some gateway => gateway.openCheckout payment draws.reference
    let payment ← payment.attachGateway redirect.externalId redirect.url draws.movedAt
    World.savePayment payment
    return .keep ⟨payment.id, payment.method, redirect.externalId, redirect.url⟩

/-- The status that a verdict asks for. -/
def target (success : Bool) : PaymentStatus := if success then .completed else .failed

/-- The posting that brings the money of a gateway payment into the payer's wallet. -/
def topUp (payment : Payment) : Posting :=
  ((Posting.deposit payment.amount ("Wallet top-up via " ++ payment.method.name)).forBooking
    payment.bookingId).forPayment payment.id

/-- Applies a gateway's verdict to the payment that carries its reference. -/
def applyVerdict (draws : Draws) (verdict : Verdict) : Service Payment :=
  Service.unitOfWork do
    let payment ←
      match ← World.lockPaymentOf verdict.externalId with
      | some payment => pure payment
      | none => throw (.paymentNotFound ("external reference " ++ verdict.externalId))
    if payment.status = target verdict.success then return .discard payment
    if payment.status ≠ .pending then
      throw (.invalidPaymentStatus payment.status
        ("cannot move payment to " ++ (target verdict.success).name))
    let payment ←
      if verdict.success then do
        let _ ← Ledger.post draws payment.userId (topUp payment)
        payment.complete draws.movedAt
      else payment.fail "payment declined by gateway" draws.movedAt
    World.savePayment payment
    return .keep payment

/-- The posting that gives the money of a payment back. -/
def refundPosting (payment : Payment) : Posting :=
  (Posting.refund payment.amount payment.bookingId
    ("Refund for payment " ++ payment.id.text)).forPayment payment.id

/-- Refunds a completed payment into the payer's wallet. -/
def refund (draws : Draws) (id : PaymentId) : Service Payment :=
  Service.unitOfWork do
    let payment ← locked id
    match payment.status with
    | .refunded => return .discard payment
    | .completed =>
      let _ ← Ledger.post draws payment.userId (refundPosting payment)
      let payment ← payment.refund draws.movedAt
      World.savePayment payment
      return .keep payment
    | status => throw (.invalidPaymentStatus status "can only refund completed payments")

end Purse.Settlement
