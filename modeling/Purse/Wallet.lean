import Purse.Amount
import Purse.Identifier
import Purse.Timestamp

/-!
# Wallets

A wallet holds one user's balance. Credits and debits either change the balance by the whole amount,
and record when, or change nothing: a balance never exceeds the limit of sums, and a debit needs the
money to be there.
-/
namespace Purse

structure Wallet where
  id : WalletId
  userId : UserId
  balance : Int
  createdAt : Timestamp
  updatedAt : Timestamp
  deriving DecidableEq, Repr

namespace Wallet

/-- The empty wallet of a user. -/
def opened (id : WalletId) (userId : UserId) (now : Timestamp) : Wallet :=
  ⟨id, userId, 0, now, now⟩

/-- A wallet from its parts. A negative balance is refused. -/
def ofParts (id : WalletId) (userId : UserId) (balance : Int) (createdAt updatedAt : Timestamp) :
    Except LedgerError Wallet :=
  if balance < 0 then
    .error (.validation ("wallet " ++ id.text ++ " has negative balance " ++ Numeral.ofInt balance))
  else .ok ⟨id, userId, balance, createdAt, updatedAt⟩

/-- Whether a debit of this amount would be accepted. -/
def hasSufficientBalance (w : Wallet) (a : Amount) : Bool := a.value ≤ w.balance

/-- Adds an amount to the balance. -/
def credit (w : Wallet) (a : Amount) (now : Timestamp) : Except LedgerError Wallet :=
  if maxSum < w.balance + a.value then .error .balanceOverflow
  else .ok { w with balance := w.balance + a.value, updatedAt := now }

/-- Takes an amount from the balance. -/
def debit (w : Wallet) (a : Amount) (now : Timestamp) : Except LedgerError Wallet :=
  if w.hasSufficientBalance a then
    .ok { w with balance := w.balance - a.value, updatedAt := now }
  else .error (.insufficientBalance w.balance a.value)

/-- Moves an amount in the given direction. -/
def move (w : Wallet) (d : Direction) (a : Amount) (now : Timestamp) : Except LedgerError Wallet :=
  match d with
  | .credit => w.credit a now
  | .debit => w.debit a now

end Wallet
end Purse
