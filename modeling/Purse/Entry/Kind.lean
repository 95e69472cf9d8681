/-!
# Kinds of ledger entries

The kind of an entry says why money moved, and with that whether it came into the wallet or left it.
-/
namespace Purse

/-- Which way money moves, as seen from the wallet. -/
inductive Direction where
  | credit
  | debit
  deriving DecidableEq, Repr

def Direction.name : Direction → String
  | .credit => "credit"
  | .debit => "debit"

/-- A sum with the sign of its direction: credits add to a balance, debits take away from it. -/
def Direction.signed (d : Direction) (sum : Int) : Int :=
  match d with
  | .credit => sum
  | .debit => -sum

inductive EntryKind where
  | deposit
  | withdraw
  | bookingCharge
  | refund
  | paymentToRestaurant
  deriving DecidableEq, Repr

namespace EntryKind

/-- All kinds, in the order in which messages list them. -/
def all : List EntryKind := [.deposit, .withdraw, .bookingCharge, .refund, .paymentToRestaurant]

/-- The name that stands in documents and stored rows. -/
def name : EntryKind → String
  | .deposit => "deposit"
  | .withdraw => "withdraw"
  | .bookingCharge => "booking_charge"
  | .refund => "refund"
  | .paymentToRestaurant => "payment_to_restaurant"

/-- The kind of a name, letter case included. -/
def ofName? (s : String) : Option EntryKind :=
  if s = "deposit" then some .deposit
  else if s = "withdraw" then some .withdraw
  else if s = "booking_charge" then some .bookingCharge
  else if s = "refund" then some .refund
  else if s = "payment_to_restaurant" then some .paymentToRestaurant
  else none

theorem ofName?_name (k : EntryKind) : ofName? k.name = some k := by cases k <;> decide

/-- Deposits and refunds bring money in; every other kind takes money out. -/
def direction : EntryKind → Direction
  | .deposit | .refund => .credit
  | .withdraw | .bookingCharge | .paymentToRestaurant => .debit

end EntryKind
end Purse
