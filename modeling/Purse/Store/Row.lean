import Purse.Entry
import Purse.Payment
import Purse.Wallet

/-!
# Rows

The store keeps plain rows: names as text and sums as integers. A row that was written for a wallet, an
entry or a payment is read back as the same one. Any other row is read only if its names are names and
its sums are in range; otherwise it is reported as corrupt, with the rule that it breaks.
-/
namespace Purse

/-- The refusal to read a row that breaks a rule. -/
def StoreError.corrupt (cause : LedgerError) : StoreError :=
  .database ("corrupt row: " ++ cause.message)

/-- The result of a rule for a column: a broken rule makes the row corrupt. -/
def readColumn : Except LedgerError α → Except StoreError α
  | .ok a => .ok a
  | .error cause => .error (.corrupt cause)

/-- The value of a name in a column, or the complaint about it. -/
def readColumnName (ofName? : String → Option α) (unknown : String → LedgerError) (name : String) :
    Except StoreError α :=
  match ofName? name with
  | some a => .ok a
  | none => .error (.corrupt (unknown name))

structure WalletRow where
  id : WalletId
  userId : UserId
  balance : Int
  createdAt : Timestamp
  updatedAt : Timestamp
  deriving DecidableEq, Repr

namespace WalletRow

def ofWallet (w : Wallet) : WalletRow := ⟨w.id, w.userId, w.balance, w.createdAt, w.updatedAt⟩

def read (r : WalletRow) : Except StoreError Wallet :=
  readColumn (Wallet.ofParts r.id r.userId r.balance r.createdAt r.updatedAt)

end WalletRow

structure EntryRow where
  id : EntryId
  walletId : WalletId
  kind : String
  amount : Int
  description : String
  bookingId : Option BookingId
  paymentId : Option PaymentId
  createdAt : Timestamp
  deriving DecidableEq, Repr

namespace EntryRow

def ofEntry (e : Entry) : EntryRow :=
  ⟨e.id, e.walletId, e.kind.name, e.amount.value, e.description, e.bookingId, e.paymentId, e.createdAt⟩

def read (r : EntryRow) : Except StoreError Entry := do
  let kind ← readColumnName EntryKind.ofName? LedgerError.unknownKind r.kind
  let amount ← readColumn (Amount.ofInt r.amount)
  .ok ⟨r.id, r.walletId, kind, amount, r.description, r.bookingId, r.paymentId, r.createdAt⟩

end EntryRow

structure PaymentRow where
  id : PaymentId
  userId : UserId
  bookingId : Option BookingId
  amount : Int
  method : String
  status : String
  externalId : Option String
  redirectUrl : Option String
  errorMessage : Option String
  createdAt : Timestamp
  updatedAt : Timestamp
  deriving DecidableEq, Repr

namespace PaymentRow

def ofPayment (p : Payment) : PaymentRow :=
  ⟨p.id, p.userId, p.bookingId, p.amount.value, p.method.name, p.status.name, p.externalId,
    p.redirectUrl, p.errorMessage, p.createdAt, p.updatedAt⟩

def read (r : PaymentRow) : Except StoreError Payment := do
  let method ← readColumnName PaymentMethod.ofName? LedgerError.unknownMethod r.method
  let status ← readColumnName PaymentStatus.ofName? LedgerError.unknownStatus r.status
  let amount ← readColumn (Amount.ofInt r.amount)
  .ok ⟨r.id, r.userId, r.bookingId, amount, method, status, r.externalId, r.redirectUrl,
    r.errorMessage, r.createdAt, r.updatedAt⟩

end PaymentRow
end Purse
