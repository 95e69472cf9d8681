import Purse.Client
import Purse.CommandLine.Command

/-!
# The command line

A line is answered at once, because it is no command, asks about the program or names nothing with its
arguments, or it makes exactly one call. What the server answers to that call decides what is printed. Nothing
is printed besides an error.
-/
namespace Purse.CommandLine

/-- How a command ends. -/
structure Outcome where
  code : Nat
  output : String := ""
  complaint : String := ""
  deriving DecidableEq, Repr

inductive Plan where
  | finish (outcome : Outcome)
  | call (server : Option String) (call : Call)
  deriving DecidableEq, Repr

/-- The end of a command that failed. -/
def failure (text : String) : Outcome := { code := 1, complaint := "Error: " ++ text ++ "\n" }

/-- A text with all its lines but the first indented. -/
def hang (text : String) : String :=
  String.ofList (text.toList.flatMap fun c => if c = '\n' then "\n    ".toList else [c])

/-- The end of a command whose call failed. What lies behind the error follows in a paragraph. -/
def failedCall (error : ClientError) : Outcome :=
  match error.cause? with
  | none => failure error.message
  | some cause => failure (error.message ++ "\n\nCaused by:\n    " ++ hang cause)

def readNamed (ofText? : String → Option α) (what text : String) : Except String α :=
  match ofText? text with
  | some a => .ok a
  | none => .error ("Invalid " ++ what ++ " ID: " ++ text)

def readUser (text : String) : Except String UserId := readNamed UserId.ofText? "user" text

def readPayment (text : String) : Except String PaymentId :=
  readNamed PaymentId.ofText? "payment" text

def readBooking (text : String) : Except String BookingId :=
  readNamed BookingId.ofText? "booking" text

def readBooking? : Option String → Except String (Option BookingId)
  | none => .ok none
  | some text => (readBooking text).map some

/-- Reads the name of a method in any letter case. -/
def readMethod (text : String) : Except String PaymentMethod :=
  match PaymentMethod.ofName? (text.map Char.toLower) with
  | some method => .ok method
  | none =>
    .error ("Unknown payment method: " ++ text ++ ". Supported: wallet, gateway_a, gateway_b")

/-- Reads the name of a method that a gateway serves. -/
def readProvider (text : String) : Except String PaymentMethod := do
  let method ← readMethod text
  if method.isExternal then .ok method
  else .error ("Callbacks come from gateway_a or gateway_b, not " ++ method.name)

/-- The call that a command makes, or what is wrong with its arguments. -/
def Command.call : Command → Except String Call
  | .health => .ok .health
  | .wallet user => return .wallet (← readUser user)
  | .balance user => return .balance (← readUser user)
  | .deposit user amount description => return .deposit (← readUser user) amount description
  | .withdraw user amount description => return .withdraw (← readUser user) amount description
  | .history user limit offset => return .history (← readUser user) limit offset
  | .requestPayment user amount method booking => do
    let booking ← readBooking? booking
    let user ← readUser user
    return .requestPayment user amount (← readMethod method) booking
  | .payment id => return .payment (← readPayment id)
  | .payments user limit offset => return .payments (← readUser user) limit offset
  | .checkout id => return .checkout (← readPayment id)
  | .refund id => return .refund (← readPayment id)
  | .sendVerdict provider externalId declined =>
    return .sendVerdict (← readProvider provider) ⟨externalId, !declined⟩

def program : String := "wallet"

/-- How a line ends that is not carried out. -/
def Stop.outcome : Stop → Outcome
  | .misuse => { code := 2, complaint := "error: not a command line of this program\n" }
  | .help page => { code := 0, output := page.text program }
  | .version => { code := 0, output := program ++ " 0.1.0\n" }

def plan (args : List String) : Plan :=
  match readLine args with
  | .error stop => .finish stop.outcome
  | .ok line =>
    match line.command.call with
    | .ok call => .call line.server call
    | .error text => .finish (failure text)

def answerText : Answer → String
  | .wallet wallet => (Wire.write wallet).renderWide
  | .balance balance => Numeral.ofInt balance
  | .entry entry => (Wire.write entry).renderWide
  | .entries entries => (Wire.write entries).renderWide
  | .payment payment => (Wire.write payment).renderWide
  | .payments payments => (Wire.write payments).renderWide
  | .checkout checkout => (Wire.write checkout).renderWide

/-- How a command ends whose call was answered. -/
def conclude : Except ClientError Reply → Outcome
  | .ok (.health true) => { code := 0, output := "✓ API is healthy\n" }
  | .ok (.health false) => { code := 1, output := "✗ API is not healthy\n" }
  | .ok (.answer answer) => { code := 0, output := answerText answer ++ "\n" }
  | .ok (.acknowledgement acknowledgement) =>
    { code := 0, output := (Wire.write acknowledgement).renderWide ++ "\n" }
  | .error error => failedCall error

/-- Runs a line. The call that it makes, if any, goes to the usual server unless it chooses another. -/
def run [Monad m] (send : Http.Request → m (Nat × String)) (usual : String) (args : List String) :
    m Outcome :=
  match plan args with
  | .finish outcome => return outcome
  | .call server call => return conclude (← call.perform send (server.getD usual))

end Purse.CommandLine
