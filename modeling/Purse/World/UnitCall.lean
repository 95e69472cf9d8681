import Purse.World

/-!
# Calls inside a unit of work

What can be asked of the store between the beginning and the end of a unit of work, as data. Any call may
come with any argument, whether or not it was read from the store before.
-/
namespace Purse

/-- A call inside a unit of work. A lock of a wallet brings the identifier and the time that a wallet
opened by it would get. -/
inductive UnitCall where
  | lockWallet (user : UserId) (id : WalletId) (now : Timestamp)
  | saveWallet (wallet : Wallet)
  | appendEntry (entry : Entry)
  | lockPayment (id : PaymentId)
  | lockPaymentOf (externalId : String)
  | savePayment (payment : Payment)

/-- The answer to a call inside a unit of work. -/
inductive UnitReply where
  | wallet (wallet : Wallet)
  | payment (payment : Option Payment)
  | done

/-- Makes a call inside a unit of work. -/
def UnitCall.perform : UnitCall → StoreAction UnitReply
  | .lockWallet user id now => return .wallet (← World.lockWallet user id now)
  | .saveWallet wallet => do World.saveWallet wallet; return .done
  | .appendEntry entry => do World.appendEntry entry; return .done
  | .lockPayment id => return .payment (← World.lockPayment id)
  | .lockPaymentOf externalId => return .payment (← World.lockPaymentOf externalId)
  | .savePayment payment => do World.savePayment payment; return .done

end Purse
