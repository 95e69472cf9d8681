import Purse.Http.Message
import Purse.Http.Percent

/-!
# Routes

The paths that are served. A path is matched as it was sent, part by part between its slashes; a part that
names something may be anything, but at the end of the path it may not be empty. It stays encoded here.
-/
namespace Purse.Http

inductive Route where
  | health
  | document
  | wallet (user : List Char)
  | balance (user : List Char)
  | deposit (user : List Char)
  | withdraw (user : List Char)
  | history (user : List Char)
  | userPayments (user : List Char)
  | payments
  | payment (id : List Char)
  | checkout (id : List Char)
  | refund (id : List Char)
  | webhook (provider : List Char)
  deriving DecidableEq, Repr

namespace Route

def ofUser? (user : List Char) (rest : List String) : Option Route :=
  if rest = ["wallet"] then some (.wallet user)
  else if rest = ["wallet", "balance"] then some (.balance user)
  else if rest = ["wallet", "deposit"] then some (.deposit user)
  else if rest = ["wallet", "withdraw"] then some (.withdraw user)
  else if rest = ["wallet", "transactions"] then some (.history user)
  else if rest = ["payments"] then some (.userPayments user)
  else none

def ofPayment? (id : List Char) (rest : List String) : Option Route :=
  if rest = [] then some (.payment id)
  else if rest = ["checkout"] then some (.checkout id)
  else if rest = ["refund"] then some (.refund id)
  else none

def ofApi? (group : String) (rest : List (List Char)) : Option Route :=
  match rest with
  | [] => if group = "payments" then some .payments else none
  | name :: rest =>
    if name.isEmpty && rest.isEmpty then none
    else if group = "users" then ofUser? name (rest.map String.ofList)
    else if group = "payments" then ofPayment? name (rest.map String.ofList)
    else if group = "webhooks" ∧ rest = [] then some (.webhook name)
    else none

def ofPath? (path : List Char) : Option Route :=
  match splitAt '/' path with
  | [] :: first :: rest =>
    let first := String.ofList first
    match rest with
    | [] => if first = "health" then some .health else none
    | second :: rest =>
      if first = "api" then ofApi? (String.ofList second) rest
      else if first = "api-docs" ∧ String.ofList second = "openapi.json" ∧ rest = [] then some .document
      else none
  | _ => none

def method : Route → Method
  | .health | .document | .wallet _ | .balance _ | .history _ | .userPayments _ | .payment _ => .get
  | .deposit _ | .withdraw _ | .payments | .checkout _ | .refund _ | .webhook _ => .post

/-- Whether a route is served for a method. What can be got can also be looked at. -/
def accepts (route : Route) (m : Method) : Bool :=
  m = route.method || (m = .head && route.method = .get)

end Route
end Purse.Http
