import Purse.Identifier
import Purse.Page
import Purse.Payment.Method

/-!
# Messages

What clients send and receive besides wallets, entries, payments and checkouts. Sums in requests are
plain integers: whether they are amounts is for the services to say.
-/
namespace Purse

structure DepositRequest where
  amount : Int
  description : Option String
  deriving DecidableEq, Repr

structure WithdrawRequest where
  amount : Int
  description : Option String
  deriving DecidableEq, Repr

structure PaymentRequest where
  userId : UserId
  amount : Int
  method : PaymentMethod
  bookingId : Option BookingId
  deriving DecidableEq, Repr

/-- A gateway's verdict on the payment that carries its reference. -/
structure Verdict where
  externalId : String
  success : Bool
  deriving DecidableEq, Repr

structure BalanceReport where
  userId : UserId
  balance : Int
  deriving DecidableEq, Repr

structure Acknowledgement where
  received : Bool
  deriving DecidableEq, Repr

structure PageQuery where
  limit : Option Int
  offset : Option Int
  deriving DecidableEq, Repr

def PageQuery.page (q : PageQuery) : Page := Page.ofQuery q.limit q.offset

end Purse
