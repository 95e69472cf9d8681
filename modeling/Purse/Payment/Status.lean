/-!
# Payment statuses

A payment starts pending. It then completes or fails, and only a completed payment can be refunded.
Failed and refunded are final.
-/
namespace Purse

inductive PaymentStatus where
  | pending
  | completed
  | failed
  | refunded
  deriving DecidableEq, Repr

namespace PaymentStatus

/-- All statuses, in the order in which messages list them. -/
def all : List PaymentStatus := [.pending, .completed, .failed, .refunded]

/-- The name that stands in messages, documents and stored rows. -/
def name : PaymentStatus → String
  | .pending => "pending"
  | .completed => "completed"
  | .failed => "failed"
  | .refunded => "refunded"

/-- The status of a name, letter case included. -/
def ofName? (s : String) : Option PaymentStatus :=
  if s = "pending" then some .pending
  else if s = "completed" then some .completed
  else if s = "failed" then some .failed
  else if s = "refunded" then some .refunded
  else none

theorem ofName?_name (s : PaymentStatus) : ofName? s.name = some s := by cases s <;> decide

/-- The statuses that a payment may take next. -/
def successors : PaymentStatus → List PaymentStatus
  | .pending => [.completed, .failed]
  | .completed => [.refunded]
  | .failed | .refunded => []

/-- Whether a payment may move from one status to the other. -/
def canMoveTo (s t : PaymentStatus) : Bool := s.successors.contains t

/-- Whether no status can follow. -/
def isFinal (s : PaymentStatus) : Bool := s.successors.isEmpty

end PaymentStatus
end Purse
