/-!
# Payment methods

A payment is settled from the payer's own wallet or by one of two external gateways.
-/
namespace Purse

inductive PaymentMethod where
  | wallet
  | gatewayA
  | gatewayB
  deriving DecidableEq, Repr

namespace PaymentMethod

/-- All methods, in the order in which messages list them. -/
def all : List PaymentMethod := [.wallet, .gatewayA, .gatewayB]

/-- The name that stands in messages, documents and stored rows. -/
def name : PaymentMethod → String
  | .wallet => "wallet"
  | .gatewayA => "gateway_a"
  | .gatewayB => "gateway_b"

/-- The method of a name, letter case included. -/
def ofName? (s : String) : Option PaymentMethod :=
  if s = "wallet" then some .wallet
  else if s = "gateway_a" then some .gatewayA
  else if s = "gateway_b" then some .gatewayB
  else none

/-- Whether a gateway settles the payment. -/
def isExternal : PaymentMethod → Bool
  | .wallet => false
  | .gatewayA | .gatewayB => true

theorem ofName?_name (m : PaymentMethod) : ofName? m.name = some m := by cases m <;> decide

end PaymentMethod
end Purse
