import Purse.Amount
import Purse.Identifier
import Purse.Timestamp

/-!
# Ledger entries

A posting says how much money is to move, why, and on account of which booking or payment. Applied to
a wallet it becomes a ledger entry, which is never changed again.
-/
namespace Purse

structure Posting where
  kind : EntryKind
  amount : Amount
  description : String
  bookingId : Option BookingId := none
  paymentId : Option PaymentId := none
  deriving DecidableEq, Repr

namespace Posting

def deposit (amount : Amount) (description : String) : Posting :=
  { kind := .deposit, amount, description }

def withdraw (amount : Amount) (description : String) : Posting :=
  { kind := .withdraw, amount, description }

def bookingCharge (amount : Amount) (booking : BookingId) : Posting :=
  { kind := .bookingCharge, amount, description := "Charge for booking " ++ booking.text,
    bookingId := some booking }

def refund (amount : Amount) (booking : Option BookingId) (reason : String) : Posting :=
  { kind := .refund, amount, description := reason, bookingId := booking }

/-- The same posting on account of this booking, or of none. -/
def forBooking (p : Posting) (booking : Option BookingId) : Posting := { p with bookingId := booking }

/-- The same posting on account of this payment. -/
def forPayment (p : Posting) (payment : PaymentId) : Posting := { p with paymentId := some payment }

/-- The change of balance that the posting stands for. -/
def signedAmount (p : Posting) : Int := p.kind.direction.signed p.amount.value

end Posting

structure Entry where
  id : EntryId
  walletId : WalletId
  kind : EntryKind
  amount : Amount
  description : String
  bookingId : Option BookingId
  paymentId : Option PaymentId
  createdAt : Timestamp
  deriving DecidableEq, Repr

namespace Entry

def record (id : EntryId) (wallet : WalletId) (p : Posting) (now : Timestamp) : Entry :=
  ⟨id, wallet, p.kind, p.amount, p.description, p.bookingId, p.paymentId, now⟩

/-- The change of balance that the entry stands for. -/
def signedAmount (e : Entry) : Int := e.kind.direction.signed e.amount.value

end Entry
end Purse
