import Purse.Service.Settlement

/-!
# Operations

The services as data: what can be asked of the program, and what it can answer.
-/
namespace Purse

inductive Operation where
  | wallet (user : UserId)
  | balance (user : UserId)
  | history (user : UserId) (page : Page)
  | deposit (user : UserId) (amount : Int) (description : String)
  | withdraw (user : UserId) (amount : Int) (description : String)
  | chargeBooking (user : UserId) (amount : Int) (booking : BookingId)
  | refundBooking (user : UserId) (amount : Int) (booking : BookingId) (reason : String)
  | requestPayment (user : UserId) (amount : Int) (method : PaymentMethod) (booking : Option BookingId)
  | payFromWallet (id : PaymentId)
  | checkout (id : PaymentId)
  | applyVerdict (verdict : Verdict)
  | refundPayment (id : PaymentId)
  | payment (id : PaymentId)
  | payments (user : UserId) (page : Page)
  deriving DecidableEq, Repr

inductive Answer where
  | wallet (wallet : Wallet)
  | balance (balance : Int)
  | entry (entry : Entry)
  | entries (entries : List Entry)
  | payment (payment : Payment)
  | payments (payments : List Payment)
  | checkout (checkout : Checkout)
  deriving DecidableEq, Repr

def Operation.perform (gateways : Gateways) (draws : Draws) : Operation → Service Answer
  | .wallet user => .wallet <$> Ledger.wallet draws user
  | .balance user => .balance <$> Ledger.balance user
  | .history user page => .entries <$> Ledger.history user page
  | .deposit user amount description => .entry <$> Ledger.deposit draws user amount description
  | .withdraw user amount description => .entry <$> Ledger.withdraw draws user amount description
  | .chargeBooking user amount booking => .entry <$> Ledger.chargeBooking draws user amount booking
  | .refundBooking user amount booking reason =>
    .entry <$> Ledger.refundBooking draws user amount booking reason
  | .requestPayment user amount method booking =>
    .payment <$> Settlement.request draws user amount method booking
  | .payFromWallet id => .payment <$> Settlement.payFromWallet draws id
  | .checkout id => .checkout <$> Settlement.checkout gateways draws id
  | .applyVerdict verdict => .payment <$> Settlement.applyVerdict draws verdict
  | .refundPayment id => .payment <$> Settlement.refund draws id
  | .payment id => .payment <$> Settlement.find id
  | .payments user page => .payments <$> Settlement.list user page

end Purse
