import Purse.Error

/-!
# Faults

A store can be told to fail: a fault names a call, lets the next few uses of it pass, and then makes some
or all of the following ones fail without touching the store. Of several faults on one call the oldest
is consulted alone, until it is used up.
-/
namespace Purse

inductive StoreCall where
  | begin
  | lockWallet
  | saveWallet
  | appendEntry
  | lockPayment
  | lockPaymentOf
  | savePayment
  | commit
  | openWallet
  | findWallet
  | listEntries
  | insertPayment
  | getPayment
  | listPayments
  deriving DecidableEq, Repr

/-- A fault on a call. `times` is the number of uses that fail; without it all do. -/
structure Fault where
  call : StoreCall
  error : StoreError
  skip : Nat := 0
  times : Option Nat := some 1
  deriving DecidableEq, Repr

namespace Fault

/-- Whether the fault has no effect any more. -/
def isSpent (f : Fault) : Bool := f.skip = 0 && f.times = some 0

/-- What the fault makes of one use of its call, and what is left of it. -/
def use (f : Fault) : Option StoreError × Fault :=
  match f.skip with
  | n + 1 => (none, { f with skip := n })
  | 0 =>
    match f.times with
    | none => (some f.error, f)
    | some 0 => (none, f)
    | some (n + 1) => (some f.error, { f with times := some n })

/-- What the faults make of one use of a call, and what is left of them. -/
def consult (call : StoreCall) : List Fault → Option StoreError × List Fault
  | [] => (none, [])
  | f :: fs =>
    if f.call = call && !f.isSpent then
      let (outcome, f) := f.use
      (outcome, if f.isSpent then fs else f :: fs)
    else
      let (outcome, fs) := consult call fs
      (outcome, f :: fs)

end Fault
end Purse
