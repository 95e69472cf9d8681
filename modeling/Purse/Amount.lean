import Purse.Error

/-!
# Amounts of money

An amount is a positive number of minor units (hundredths) that fits in 64 bits. Balances share the
upper limit, so no sum the ledger handles ever needs more.
-/
namespace Purse

/-- The most that an amount or a balance can be. -/
def maxSum : Int := Numeral.maxWord

structure Amount where
  value : Int
  pos : 0 < value
  le_max : value ≤ maxSum
  deriving DecidableEq, Repr

namespace Amount

/-- The amount of a number of minor units. Integers of 64 bits are refused exactly when they are not
positive. -/
def ofInt (n : Int) : Except LedgerError Amount :=
  if h : 0 < n ∧ n ≤ maxSum then .ok ⟨n, h.1, h.2⟩ else .error (.invalidAmount n)

/-- The amount in major units with two decimal places. -/
def display (a : Amount) : String :=
  Numeral.ofNat (a.value.toNat / 100) ++ "." ++
    String.ofList (Numeral.padded 2 (a.value.toNat % 100))

end Amount
end Purse
