import Purse.CommandLine
import Purse.Http.Api
import Std.Time.DateTime

/-!
# The program

The command line over a ledger of its own, which lives in memory as long as the program runs. With a
single hyphen for its arguments it takes every line of its input for a command line; otherwise its
arguments are the one it runs. Only here the clock is read and random numbers are drawn.
-/
namespace Purse.Main

/-- A random number of 128 bits. -/
def drawBits : IO Nat := do
  let bytes ← IO.getRandomBytes 16
  return bytes.toList.foldl (fun n b => 256 * n + b.toNat) 0

/-- A random number that is wide enough for a reference. -/
def drawReference : IO Reference := do
  return .ofRandom ((← drawBits) * Nat.pow 2 128 + (← drawBits))

def readClock : IO Timestamp := do
  let now ← Std.Time.Timestamp.now
  match Timestamp.ofEpoch? now.toNanosecondsSinceUnixEpoch.toInt.toNat with
  | some t => return t
  | none => throw (IO.userError "the clock is out of range")

/-- What one operation needs from outside. -/
def draw : IO Draws := do
  let now ← readClock
  return {
    walletId := ⟨.ofRandom (← drawBits)⟩
    entryId := ⟨.ofRandom (← drawBits)⟩
    paymentId := ⟨.ofRandom (← drawBits)⟩
    reference := ← drawReference
    openedAt := now
    createdAt := now
    balanceAt := now
    recordedAt := now
    movedAt := now }

def gateways : Gateways := Gateways.hosted Gateway.defaultBaseA Gateway.defaultBaseB

/-- Serves a request on the ledger. -/
def serve (request : Http.Request) : StateT World IO (Nat × String) := do
  let (response, w) := Http.serve gateways (← draw) request (← get)
  set w
  return (response.status, response.text)

/-- Runs a command line and prints what it says. The answer is its exit code and the world after it. -/
def run (args : List String) (w : World) : IO (Nat × World) := do
  let (outcome, w) ← (CommandLine.run serve "http://localhost:3000" args).run w
  (← IO.getStdout).putStr outcome.output
  (← IO.getStderr).putStr outcome.complaint
  return (outcome.code, w)

/-- Runs every line of the input. -/
partial def runLines (input : IO.FS.Stream) (w : World) : IO Unit := do
  let line ← input.getLine
  if line.isEmpty then return ()
  let args := (line.splitToList Char.isWhitespace).filter fun arg => !arg.isEmpty
  let (_, w) ← run args w
  runLines input w

end Purse.Main

def main (args : List String) : IO UInt32 := do
  if args = ["-"] then
    Purse.Main.runLines (← IO.getStdin) {}
    return 0
  else
    let (code, _) ← Purse.Main.run args {}
    return code.toUInt32
