import Purse.Page
import Purse.Store.Row

/-!
# The store

The store keeps three tables, each with the newest row first. A call either answers and gives the new
store, or is refused and changes nothing. Identifiers are unique in their table, a user has at most one
wallet, and a gateway reference belongs to at most one payment. A wallet is opened the first time it is
asked for; saving a wallet or a payment changes only what can change about it, and never its place.

What a database engine adds of its own (values it cannot hold, other wording, a transaction given up) is
described in `Purse.World.Engine`.
-/
namespace Purse

/-- How much of a point in time a store keeps. -/
inductive Precision where
  | nanosecond
  | microsecond
  deriving DecidableEq, Repr

/-- A point in time as it is kept. -/
def Precision.cut : Precision → Timestamp → Timestamp
  | .nanosecond, t => t
  | .microsecond, t => t.toMicrosecond

structure Store where
  precision : Precision := .nanosecond
  wallets : List WalletRow := []
  entries : List EntryRow := []
  payments : List PaymentRow := []
  deriving DecidableEq, Repr

/-- The refusal of a second row with the same key. -/
def StoreError.duplicate (column : String) : StoreError :=
  .conflict ("UNIQUE constraint failed: " ++ column)

/-- The refusal of a row that a constraint of its table rules out. -/
def StoreError.violation (code : Nat) (constraint : String) : StoreError :=
  .database ("error returned from database: (code: " ++ Numeral.ofNat code ++ ") " ++ constraint)

namespace Store

def walletOf? (s : Store) (user : UserId) : Option WalletRow := s.wallets.find? (·.userId = user)

def payment? (s : Store) (id : PaymentId) : Option PaymentRow := s.payments.find? (·.id = id)

/-- The row of the payment that carries a gateway reference. -/
def paymentOf? (s : Store) (externalId : String) : Option PaymentRow :=
  s.payments.find? (·.externalId = some externalId)

def readFound (read : ρ → Except StoreError α) : Option ρ → Except StoreError (Option α)
  | none => .ok none
  | some row => (read row).map some

def findWallet (s : Store) (user : UserId) : Except StoreError (Option Wallet) :=
  readFound WalletRow.read (s.walletOf? user)

/-- A user's wallet, which is opened under the given identifier if there is none. -/
def openWallet (s : Store) (user : UserId) (id : WalletId) (now : Timestamp) :
    Except StoreError (Wallet × Store) :=
  match s.walletOf? user with
  | some row => (row.read).map (·, s)
  | none =>
    if s.wallets.any (·.id = id) then .error (.duplicate "wallets.id")
    else
      let wallet := Wallet.opened id user (s.precision.cut now)
      .ok (wallet, { s with wallets := WalletRow.ofWallet wallet :: s.wallets })

/-- Changes every row that satisfies the condition. -/
def updateWhere (here : ρ → Bool) (change : ρ → ρ) (rows : List ρ) : List ρ :=
  rows.map fun row => if here row then change row else row

/-- Keeps the balance of a stored wallet. -/
def saveWallet (s : Store) (w : Wallet) : Except StoreError Store :=
  if !s.wallets.any (·.id = w.id) then .error .notFound
  else if w.balance < 0 then
    .error (.violation 275 "CHECK constraint failed: balance >= 0")
  else
    .ok { s with
      wallets := updateWhere (·.id = w.id)
        (fun row => { row with balance := w.balance, updatedAt := s.precision.cut w.updatedAt })
        s.wallets }

/-- Adds an entry to the ledger of a stored wallet. -/
def appendEntry (s : Store) (e : Entry) : Except StoreError Store :=
  if s.entries.any (·.id = e.id) then .error (.duplicate "wallet_transactions.id")
  else if !s.wallets.any (·.id = e.walletId) then .error (.violation 787 "FOREIGN KEY constraint failed")
  else
    .ok { s with
      entries := EntryRow.ofEntry { e with createdAt := s.precision.cut e.createdAt } :: s.entries }

/-- A page of a wallet's entries, newest first. -/
def listEntries (s : Store) (wallet : WalletId) (page : Page) : Except StoreError (List Entry) :=
  (page.slice (s.entries.filter (·.walletId = wallet))).mapM EntryRow.read

/-- Whether a payment other than the given one carries this reference. -/
def referenceTaken (s : Store) (id : PaymentId) (externalId : Option String) : Bool :=
  externalId.isSome && s.payments.any fun row => row.id ≠ id && row.externalId = externalId

/-- Adds a payment. A reference that is taken is noticed before an identifier that is. -/
def insertPayment (s : Store) (p : Payment) : Except StoreError Store :=
  if p.externalId.isSome && s.payments.any (·.externalId = p.externalId) then
    .error (.duplicate "payments.external_id")
  else if s.payments.any (·.id = p.id) then .error (.duplicate "payments.id")
  else
    .ok { s with
      payments := PaymentRow.ofPayment
        { p with createdAt := s.precision.cut p.createdAt, updatedAt := s.precision.cut p.updatedAt }
        :: s.payments }

def findPayment (s : Store) (id : PaymentId) : Except StoreError (Option Payment) :=
  readFound PaymentRow.read (s.payment? id)

/-- The payment that carries a gateway reference, if there is one. -/
def findPaymentOf (s : Store) (externalId : String) : Except StoreError (Option Payment) :=
  readFound PaymentRow.read (s.paymentOf? externalId)

/-- Keeps what can change about a stored payment. -/
def savePayment (s : Store) (p : Payment) : Except StoreError Store :=
  if !s.payments.any (·.id = p.id) then .error .notFound
  else if s.referenceTaken p.id p.externalId then .error (.duplicate "payments.external_id")
  else
    .ok { s with
      payments := updateWhere (·.id = p.id)
        (fun row =>
          { row with
            status := p.status.name
            externalId := p.externalId
            redirectUrl := p.redirectUrl
            errorMessage := p.errorMessage
            updatedAt := s.precision.cut p.updatedAt })
        s.payments }

/-- A page of a user's payments, newest first. -/
def listPayments (s : Store) (user : UserId) (page : Page) : Except StoreError (List Payment) :=
  (page.slice (s.payments.filter (·.userId = user))).mapM PaymentRow.read

end Store
end Purse
