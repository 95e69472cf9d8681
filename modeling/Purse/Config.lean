import Purse.Gateway

/-!
# Settings

The settings of a server come from named variables. Two have to be numerals and one has to be there; the
first that is not as it should be, in a fixed order, is reported. Everything else has a default.
-/
namespace Purse

structure Config where
  listenAt : Nat
  databaseUrl : String
  gatewayA : String
  gatewayB : String
  requestTimeout : Nat
  collector : Option String
  deriving DecidableEq, Repr

inductive ConfigError where
  | listenAt (fault : Numeral.Fault)
  | databaseMissing
  | timeout (fault : Numeral.Fault)
  | timeoutZero
  deriving DecidableEq, Repr

def ConfigError.message : ConfigError → String
  | .listenAt fault => "invalid PORT: " ++ fault.message
  | .databaseMissing => "DATABASE_URL environment variable is required"
  | .timeout fault => "invalid REQUEST_TIMEOUT_SECS: " ++ fault.message
  | .timeoutZero => "REQUEST_TIMEOUT_SECS must be greater than zero"

namespace Config

/-- Reads a number that has a default and an upper limit. -/
def readNumber (limit : Nat) (otherwise : String) (complain : Numeral.Fault → ConfigError)
    (value : Option String) : Except ConfigError Nat :=
  match Numeral.bounded limit (value.getD otherwise).toList with
  | .ok n => .ok n
  | .error fault => .error (complain fault)

/-- The settings that the variables give. -/
def ofVariables (lookup : String → Option String) : Except ConfigError Config := do
  let listenAt ← readNumber 65535 "3000" .listenAt (lookup "PORT")
  let databaseUrl ←
    match lookup "DATABASE_URL" with
    | some url => .ok url
    | none => .error .databaseMissing
  let requestTimeout ←
    readNumber 18446744073709551615 "30" .timeout (lookup "REQUEST_TIMEOUT_SECS")
  if requestTimeout = 0 then .error .timeoutZero
  else
    .ok {
      listenAt
      databaseUrl
      gatewayA := (lookup "GATEWAY_A_CHECKOUT_URL").getD Gateway.defaultBaseA
      gatewayB := (lookup "GATEWAY_B_CHECKOUT_URL").getD Gateway.defaultBaseB
      requestTimeout
      collector := (lookup "OTEL_EXPORTER_OTLP_ENDPOINT").filter (· ≠ "") }

/-- The gateways that the settings place. -/
def gateways (c : Config) : Gateways := Gateways.hosted c.gatewayA c.gatewayB

end Config
end Purse
