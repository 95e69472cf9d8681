import Purse.Http.Percent

/-!
# Addresses of files

A file can be named by an address: `file:`, perhaps the server after two slashes, which can only be this
one, then a path, and options behind a question mark. What follows a number sign does not count. In the path
and in every name and value of an option percent encoding is undone, and a zero byte ends the part.
-/
namespace Purse

/-- A path and options. The characters of both have the codes of the bytes that are meant. -/
structure FileAddress where
  path : List Char
  options : List (String × String) := []
  deriving DecidableEq, Repr

namespace FileAddress

def scheme : List Char := "file:".toList

/-- The rest of an address behind its server, if that is this one. -/
def afterServer? : List Char → Option (List Char)
  | '/' :: '/' :: rest =>
    let server := rest.takeWhile (· ≠ '/')
    if server.isEmpty || server = "localhost".toList then some (rest.drop server.length) else none
  | cs => some cs

/-- A part of an address without its percent signs, up to the first zero byte. -/
def plain (cs : List Char) : List Char :=
  ((Http.percentBytes cs).takeWhile (· ≠ 0)).map fun byte => Char.ofNat byte.toNat

def option (cs : List Char) : String × String :=
  (String.ofList (plain (cs.takeWhile (· ≠ '='))),
    String.ofList (plain ((cs.dropWhile (· ≠ '=')).drop 1)))

/-- Reads what follows the scheme. An option without a name is passed over. -/
def ofChars? (cs : List Char) : Option FileAddress := do
  let cs := (← afterServer? cs).takeWhile (· ≠ '#')
  let options := (Http.splitAt '&' ((cs.dropWhile (· ≠ '?')).drop 1)).map option
  some ⟨plain (cs.takeWhile (· ≠ '?')), options.filter fun option => option.1 ≠ ""⟩

/-- The values given for an option. -/
def given (a : FileAddress) (name : String) : List String :=
  (a.options.filter (·.1 = name)).map (·.2)

/-- Whether a value switches something on: a number other than zero, or a word for yes. -/
def isOn (value : String) : Bool :=
  let cs := value.toList
  if (cs.take 1).any Char.isDigit then
    let n := Nat.ofDigitChars 10 (cs.takeWhile Char.isDigit) 0
    n < 2147483648 && n % 256 ≠ 0
  else ["on", "yes", "true"].contains (String.ofList (cs.map Char.toLower))

end FileAddress
end Purse
