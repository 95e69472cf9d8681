import Purse.Store
import Purse.Store.Fault

/-!
# The world of the services

Services see a store that may fail. Each call first consults the faults: a call that a fault hits has no
effect on the store, and neither has a call that the store refuses. A unit of work begins with the store
as it is; its writes stay if it is committed, and all of them go if it is given up, fails, or cannot be
committed. Faults that were used up on the way stay used up.
-/
namespace Purse

structure World where
  store : Store := {}
  faults : List Fault := []
  deriving DecidableEq, Repr

/-- What can be done with the store: an answer or an error, and the world afterwards. -/
abbrev StoreAction := EStateM StoreError World

namespace World

/-- One use of a call: `step` is what it does to the store if no fault hits it. -/
def attempt (call : StoreCall) (step : Store → Except StoreError (α × Store)) : StoreAction α :=
  fun w =>
    match Fault.consult call w.faults with
    | (some error, faults) => .error error { w with faults }
    | (none, faults) =>
      match step w.store with
      | .error error => .error error { w with faults }
      | .ok (a, store) => .ok a ⟨store, faults⟩

/-- A call that only looks. -/
def look (call : StoreCall) (query : Store → Except StoreError α) : StoreAction α :=
  attempt call fun s => (query s).map (·, s)

/-- A call that only writes. -/
def write (call : StoreCall) (change : Store → Except StoreError Store) : StoreAction Unit :=
  attempt call fun s => (change s).map ((), ·)

/-- A user's wallet, opened if there is none. -/
def openWallet (user : UserId) (id : WalletId) (now : Timestamp) : StoreAction Wallet :=
  attempt .openWallet (·.openWallet user id now)

def findWallet (user : UserId) : StoreAction (Option Wallet) := look .findWallet (·.findWallet user)

def listEntries (wallet : WalletId) (page : Page) : StoreAction (List Entry) :=
  look .listEntries (·.listEntries wallet page)

def insertPayment (p : Payment) : StoreAction Unit := write .insertPayment (·.insertPayment p)

def getPayment (id : PaymentId) : StoreAction (Option Payment) := look .getPayment (·.findPayment id)

def listPayments (user : UserId) (page : Page) : StoreAction (List Payment) :=
  look .listPayments (·.listPayments user page)

/-- A user's wallet, opened if there is none, as part of a unit of work. -/
def lockWallet (user : UserId) (id : WalletId) (now : Timestamp) : StoreAction Wallet :=
  attempt .lockWallet (·.openWallet user id now)

def saveWallet (w : Wallet) : StoreAction Unit := write .saveWallet (·.saveWallet w)

def appendEntry (e : Entry) : StoreAction Unit := write .appendEntry (·.appendEntry e)

def lockPayment (id : PaymentId) : StoreAction (Option Payment) :=
  look .lockPayment (·.findPayment id)

def lockPaymentOf (externalId : String) : StoreAction (Option Payment) :=
  look .lockPaymentOf (·.findPaymentOf externalId)

def savePayment (p : Payment) : StoreAction Unit := write .savePayment (·.savePayment p)

/-- Begins a unit of work. The answer is the store to go back to if it is given up. -/
def begin : StoreAction Store := look .begin .ok

/-- Goes back to a store. -/
def restore (base : Store) (w : World) : World := { w with store := base }

/-- Commits a unit of work that began with the given store. -/
def commit (base : Store) : StoreAction Unit := fun w =>
  match look .commit (fun _ => .ok ()) w with
  | .ok _ w => .ok () w
  | .error error w => .error error (w.restore base)

end World

end Purse
