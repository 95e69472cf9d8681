import Purse.Service

/-!
# The ledger services

Every change of a balance goes through `post`: the wallet is opened if need be, its balance is moved and
saved, and one entry is appended, all in one unit of work. An amount is checked before the store is
touched.
-/
namespace Purse.Ledger

/-- Applies a posting to a user's wallet, inside a unit of work. -/
def post (draws : Draws) (user : UserId) (posting : Posting) : Service Entry := do
  let wallet ← World.lockWallet user draws.walletId draws.openedAt
  let wallet ← wallet.move posting.kind.direction posting.amount draws.balanceAt
  World.saveWallet wallet
  let entry := Entry.record draws.entryId wallet.id posting draws.recordedAt
  World.appendEntry entry
  return entry

/-- Applies a posting as a unit of work of its own. -/
def postAlone (draws : Draws) (user : UserId) (posting : Posting) : Service Entry :=
  Service.unitOfWork do return .keep (← post draws user posting)

/-- A user's wallet, which is opened on first use. -/
def wallet (draws : Draws) (user : UserId) : Service Wallet :=
  World.openWallet user draws.walletId draws.openedAt

/-- A user's balance, which is zero without a wallet. -/
def balance (user : UserId) : Service Int := do
  match ← World.findWallet user with
  | some wallet => return wallet.balance
  | none => return 0

/-- A page of a user's entries, newest first. -/
def history (user : UserId) (page : Page) : Service (List Entry) := do
  match ← World.findWallet user with
  | some wallet => World.listEntries wallet.id page
  | none => return []

def deposit (draws : Draws) (user : UserId) (amount : Int) (description : String) : Service Entry := do
  let amount ← Amount.ofInt amount
  postAlone draws user (.deposit amount description)

def withdraw (draws : Draws) (user : UserId) (amount : Int) (description : String) :
    Service Entry := do
  let amount ← Amount.ofInt amount
  postAlone draws user (.withdraw amount description)

def chargeBooking (draws : Draws) (user : UserId) (amount : Int) (booking : BookingId) :
    Service Entry := do
  let amount ← Amount.ofInt amount
  postAlone draws user (.bookingCharge amount booking)

def refundBooking (draws : Draws) (user : UserId) (amount : Int) (booking : BookingId)
    (reason : String) : Service Entry := do
  let amount ← Amount.ofInt amount
  postAlone draws user (.refund amount (some booking) reason)

end Purse.Ledger
