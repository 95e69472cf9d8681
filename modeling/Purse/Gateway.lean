import Purse.BaseUrl
import Purse.Payment
import Purse.Reference

/-!
# Gateways

A gateway opens a checkout for a payment: it answers with a reference that its verdict will carry, and a
link for the payer. The two hosted gateways open checkouts for payments of their own method only. They
draw the reference and write it, with the amount, into a link below their base address.
-/
namespace Purse

/-- The reference and the link of a checkout. -/
structure Redirect where
  externalId : String
  url : String
  deriving DecidableEq, Repr

structure Gateway where
  openCheckout : Payment → Reference → Except GatewayError Redirect

/-- The gateway that serves each method, if there is one. -/
abbrev Gateways := PaymentMethod → Option Gateway

namespace Gateway

/-- The link of gateway A, which has the reference in its path. -/
def linkA (base externalId : String) (amount : Amount) : String :=
  trimBase base ++ "/pay/" ++ externalId ++ "?amount=" ++ Numeral.ofInt amount.value

/-- The link of gateway B, which has the reference in its query. -/
def linkB (base externalId : String) (amount : Amount) : String :=
  trimBase base ++ "/checkout?order=" ++ externalId ++ "&amount=" ++ Numeral.ofInt amount.value

/-- A gateway that serves one method, marks its references, and links to its own pages. -/
def hosted (method : PaymentMethod) (mark : String) (link : String → Amount → String) : Gateway where
  openCheckout payment reference :=
    if payment.method = method then
      let externalId := mark ++ "_" ++ reference.text
      .ok ⟨externalId, link externalId payment.amount⟩
    else .error (.unsupported payment.method)

/-- Gateway A with its pages below a base address. -/
def a (base : String) : Gateway := hosted .gatewayA "ga" (linkA base)

/-- Gateway B with its pages below a base address. -/
def b (base : String) : Gateway := hosted .gatewayB "gb" (linkB base)

/-- Where the pages of the gateways are unless it is said otherwise. -/
def defaultBaseA : String := "https://checkout.gateway-a.test"
def defaultBaseB : String := "https://pay.gateway-b.test"

end Gateway

def Gateways.hosted (baseA baseB : String) : Gateways
  | .wallet => none
  | .gatewayA => some (Gateway.a baseA)
  | .gatewayB => some (Gateway.b baseB)

end Purse
