import Purse.Config
import Purse.DatabaseAddress
import Purse.Http.Uri

/-!
# Starting a server

A server starts if its settings are in order, the collector of its traces has an address, and its database
can be opened. They are looked at in this order, and the first that is wrong is reported.
-/
namespace Purse

inductive StartError where
  | config (error : ConfigError)
  | collector
  | database
  deriving DecidableEq, Repr

/-- The settings under which a server runs that was given these variables. -/
def startUp (lookup : String → Option String) : Except StartError Config := do
  let config ←
    match Config.ofVariables lookup with
    | .ok config => .ok config
    | .error error => .error (.config error)
  if config.collector.any fun address => (Http.Uri.ofText? address).isNone then .error .collector
  else if !DatabaseAddress.opens config.databaseUrl then .error .database
  else .ok config

end Purse
