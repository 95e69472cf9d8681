import Purse.CommandLine.Menu

/-!
# Commands

What can be asked for on the command line. Numbers are read here; identifiers and names of methods are
still text. In front of the command a line may choose the server, ask for help or ask for the version.
-/
namespace Purse.CommandLine

inductive Command where
  | health
  | wallet (user : String)
  | balance (user : String)
  | deposit (user : String) (amount : Int) (description : Option String)
  | withdraw (user : String) (amount : Int) (description : Option String)
  | history (user : String) (limit offset : Int)
  | requestPayment (user : String) (amount : Int) (method : String) (booking : Option String)
  | payment (id : String)
  | payments (user : String) (limit offset : Int)
  | checkout (id : String)
  | refund (id : String)
  | sendVerdict (provider externalId : String) (declined : Bool)
  deriving DecidableEq, Repr

/-- A command, perhaps against a server of its own choice. -/
structure Line where
  server : Option String
  command : Command
  deriving DecidableEq, Repr

namespace Command

def userParameter : Parameter := { name := "user", isRequired := true }

def amountParameter : Parameter := { name := "amount", kind := .number, isRequired := true }

/-- What names a user, and what names a payment. -/
def userOperand : Operand := ⟨"user", "User ID (UUID)"⟩
def paymentOperand : Operand := ⟨"id", "Payment ID (UUID)"⟩

/-- What a change of balance takes. -/
def moveSignature : Signature where
  parameters := [userParameter, amountParameter, { name := "description" }]

/-- Makes a change of balance. -/
def ofMove (command : String → Int → Option String → Command) (a : Arguments) : Option Command := do
  some (command (← a.value? "user") (← a.number? "amount") (a.value? "description"))

def listSignature : Signature where
  parameters := [userParameter, { name := "limit", kind := .number, usual? := some "20" },
    { name := "offset", kind := .number, usual? := some "0" }]

def ofList (command : String → Int → Int → Command) (a : Arguments) : Option Command := do
  some (command (← a.value? "user") (← a.number? "limit") (← a.number? "offset"))

def walletGroup : Group Command where
  name := "wallet"
  about := "Wallet and ledger operations"
  choices := [
    { name := "get"
      about := "Get (or create) a user's wallet"
      signature := { operand? := some userOperand }
      build a := a.operand?.map .wallet },
    { name := "balance"
      about := "Show a user's balance"
      signature := { operand? := some userOperand }
      build a := a.operand?.map .balance },
    { name := "deposit"
      about := "Deposit funds into a wallet"
      signature := moveSignature
      build := ofMove .deposit },
    { name := "withdraw"
      about := "Withdraw funds from a wallet"
      signature := moveSignature
      build := ofMove .withdraw },
    { name := "history"
      about := "List ledger entries, newest first"
      signature := listSignature
      build := ofList .history }]

def paymentGroup : Group Command where
  name := "payment"
  about := "Payment operations"
  choices := [
    { name := "create"
      about := "Create a payment"
      signature :=
        { parameters := [userParameter, amountParameter,
            { name := "method", about := "wallet, gateway_a or gateway_b", usual? := some "wallet" },
            { name := "booking" }] }
      build a := do
        some (.requestPayment (← a.value? "user") (← a.number? "amount") (← a.value? "method")
          (a.value? "booking")) },
    { name := "get"
      about := "Get payment details"
      signature := { operand? := some paymentOperand }
      build a := a.operand?.map .payment },
    { name := "list"
      about := "List a user's payments"
      signature := listSignature
      build := ofList .payments },
    { name := "checkout"
      about := "Start gateway checkout for a pending payment"
      signature := { operand? := some paymentOperand }
      build a := a.operand?.map .checkout },
    { name := "refund"
      about := "Refund a completed payment"
      signature := { operand? := some paymentOperand }
      build a := a.operand?.map .refund }]

def verdictChoice : Choice Command where
  name := "simulate-callback"
  about := "Post a gateway callback, as the provider would"
  signature :=
    { parameters := [
        { name := "provider", isRequired := true, about := "Gateway (gateway_a or gateway_b)" },
        { name := "external-id", isRequired := true, about := "Reference returned by checkout" },
        { name := "declined", kind := .flag, about := "Report the payment as declined" }] }
  build a := do
    some (.sendVerdict (← a.value? "provider") (← a.value? "external-id")
      (a.flags.contains "declined"))

def healthChoice : Choice Command where
  name := "health"
  about := "Check API health"
  build _ := some .health

def menu : List (Branch Command) :=
  [.group walletGroup, .group paymentGroup, .choice verdictChoice, .choice healthChoice]

def branch? (name : String) : Option (Branch Command) := menu.find? (·.name = name)

def serverParameter : Parameter where
  name := "api-url"
  about := "Base URL of the wallet API"
  setting? := some "WALLET_API_URL"
  usual? := some "http://localhost:3000"

def page : Help where
  about := "Wallet and payments API CLI client"
  usage := ["[OPTIONS]", "<COMMAND>"]
  commands := (menu.map fun branch => (branch.name, branch.about)) ++ [Help.ofCommands]
  parameters :=
    [("    " ++ serverParameter.spelling, serverParameter.remark), Help.forHelp, Help.forVersion]

/-- What words lead to when help is asked for. -/
def helpOn : List String → Stop
  | [] => .help page
  | name :: names =>
    if name = Help.ofCommands.1 then helpOnHelp [] names
    else
      match branch? name with
      | some branch => branch.helpOn names
      | none => .misuse

end Command

/-- Reads a line. `server` is the server that was chosen already, and `isRepeated` says that it was chosen
once more in an argument of its own; that is noticed with the next parameter, or at the end. -/
def readFrom (server : Option String) (isRepeated : Bool) : List String → Except Stop Line
  | [] => .error .misuse
  | arg :: rest =>
    if arg = Help.ofCommands.1 then .error (Command.helpOn rest)
    else
      match Command.branch? arg with
      | some branch => do
        let command ← branch.read rest
        if isRepeated then .error .misuse else .ok ⟨server, command⟩
      | none =>
        if isRepeated then .error .misuse
        else if asksForHelp arg then .error (.help Command.page)
        else if arg = "--version" || arg.startsWith "-V" then .error .version
        else
          match named? arg with
          | some ("api-url", some value) =>
            if server.isSome then .error .misuse else readFrom (some value) false rest
          | some ("api-url", none) =>
            match rest with
            | [] => .error .misuse
            | value :: rest =>
              if looksLikeParameter value then .error .misuse
              else readFrom (some value) server.isSome rest
          | _ => .error .misuse

def readLine (args : List String) : Except Stop Line := readFrom none false args

end Purse.CommandLine
