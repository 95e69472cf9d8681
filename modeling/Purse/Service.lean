import Purse.Gateway
import Purse.World

/-!
# Services

A service does something to the world and answers, or fails with its own kind of error; errors of the
layers below are turned into those. Everything that it draws from outside is handed to it beforehand. In
a unit of work either everything that is written stays, or nothing.
-/
namespace Purse

abbrev Service := EStateM ServiceError World

/-- What one use of a service draws from outside: identifiers for the wallet, entry and payment that it
may create, a gateway reference, and the times at which a wallet is opened, a payment is created, a
balance is changed, an entry is recorded, and a payment is moved on. -/
structure Draws where
  walletId : WalletId
  entryId : EntryId
  paymentId : PaymentId
  reference : Reference
  openedAt : Timestamp
  createdAt : Timestamp
  balanceAt : Timestamp
  recordedAt : Timestamp
  movedAt : Timestamp
  deriving DecidableEq, Repr

instance : MonadLift StoreAction Service := ⟨EStateM.adaptExcept ServiceError.ofStore⟩

instance : MonadLift (Except LedgerError) Service where
  monadLift
    | .ok a => pure a
    | .error cause => throw (.ofLedger cause)

instance : MonadLift (Except GatewayError) Service where
  monadLift
    | .ok a => pure a
    | .error cause => throw (.ofGateway cause)

namespace Service

/-- Goes on after an error, with the error as the answer. -/
def observe (service : Service α) : Service (Except ServiceError α) := fun w =>
  match service w with
  | .ok a w => .ok (.ok a) w
  | .error error w => .ok (.error error) w

/-- How a unit of work ends that did not fail: what it wrote is kept, or given up. -/
inductive Ending (α : Type) where
  | keep (answer : α)
  | discard (answer : α)

def unitOfWork (body : Service (Ending α)) : Service α := do
  let base ← World.begin
  fun w =>
    match body w with
    | .error error w => .error error (w.restore base)
    | .ok (.discard answer) w => .ok answer (w.restore base)
    | .ok (.keep answer) w => (do World.commit base; return answer : Service α) w

end Service
end Purse
