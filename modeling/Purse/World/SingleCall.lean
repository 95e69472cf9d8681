import Purse.World

/-!
# Calls outside a unit of work

What can be asked of the store at once, as data. A wallet that is asked for comes with the identifier and
the time that it would be opened with.
-/
namespace Purse

/-- A call outside a unit of work. -/
inductive SingleCall where
  | openWallet (user : UserId) (id : WalletId) (now : Timestamp)
  | findWallet (user : UserId)
  | listEntries (wallet : WalletId) (page : Page)
  | insertPayment (payment : Payment)
  | getPayment (id : PaymentId)
  | listPayments (user : UserId) (page : Page)

/-- The answer to a call outside a unit of work. -/
inductive SingleReply where
  | wallet (wallet : Option Wallet)
  | entries (entries : List Entry)
  | payment (payment : Option Payment)
  | payments (payments : List Payment)
  | done

/-- Makes a call outside a unit of work. -/
def SingleCall.perform : SingleCall → StoreAction SingleReply
  | .openWallet user id now => return .wallet (some (← World.openWallet user id now))
  | .findWallet user => return .wallet (← World.findWallet user)
  | .listEntries wallet page => return .entries (← World.listEntries wallet page)
  | .insertPayment payment => do World.insertPayment payment; return .done
  | .getPayment id => return .payment (← World.getPayment id)
  | .listPayments user page => return .payments (← World.listPayments user page)

end Purse
