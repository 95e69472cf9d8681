import Purse.Json.Number
import Purse.Uuid

/-!
# JSON values and how they are written

Members of an object keep their order. Writing puts no blanks between tokens; the wide form puts every
item and member on a line of its own, indented by two blanks for each level. In a string the quote, the
backslash and control characters are escaped, and every other character stands for itself.
-/
namespace Purse

inductive Json where
  | null
  | bool (b : Bool)
  | number (n : Json.Number)
  | text (s : String)
  | array (items : List Json)
  | object (members : List (String × Json))

namespace Json

/-- An integer as a JSON value. -/
def int (n : Int) : Json := .number (Number.ofInt n)

/-- A value that may be missing, as `null` or what it holds. -/
def ofOption (write : α → Json) : Option α → Json
  | none => .null
  | some a => write a

/-- A character as it is written inside a string. -/
def escape (c : Char) : List Char :=
  if c = '"' then ['\\', '"']
  else if c = '\\' then ['\\', '\\']
  else if c.toNat = 8 then ['\\', 'b']
  else if c = '\t' then ['\\', 't']
  else if c = '\n' then ['\\', 'n']
  else if c.toNat = 12 then ['\\', 'f']
  else if c = '\r' then ['\\', 'r']
  else if c.toNat < 32 then
    ['\\', 'u', '0', '0', hexChar (lastHexDigit (c.toNat / 16)), hexChar (lastHexDigit c.toNat)]
  else [c]

def quoted (s : String) : List Char := '"' :: s.toList.flatMap escape ++ ['"']

mutual

def chars : Json → List Char
  | .null => "null".toList
  | .bool true => "true".toList
  | .bool false => "false".toList
  | .number n => n.chars
  | .text s => quoted s
  | .array items => '[' :: itemChars items ++ [']']
  | .object members => '\x7b' :: memberChars members ++ ['\x7d']

/-- Items with commas between them. -/
def itemChars : List Json → List Char
  | [] => []
  | [v] => chars v
  | v :: w :: rest => chars v ++ ',' :: itemChars (w :: rest)

/-- Members with commas between them. -/
def memberChars : List (String × Json) → List Char
  | [] => []
  | [(key, v)] => quoted key ++ ':' :: chars v
  | (key, v) :: m :: rest => quoted key ++ ':' :: chars v ++ ',' :: memberChars (m :: rest)

end

def render (v : Json) : String := String.ofList v.chars

/-- A new line, indented for the given level. -/
def newline (level : Nat) : List Char := '\n' :: List.replicate (2 * level) ' '

mutual

def wideChars (level : Nat) : Json → List Char
  | .array [] => ['[', ']']
  | .array items => '[' :: wideItems (level + 1) items ++ newline level ++ [']']
  | .object [] => ['\x7b', '\x7d']
  | .object members => '\x7b' :: wideMembers (level + 1) members ++ newline level ++ ['\x7d']
  | .null => "null".toList
  | .bool true => "true".toList
  | .bool false => "false".toList
  | .number n => n.chars
  | .text s => quoted s

def wideItems (level : Nat) : List Json → List Char
  | [] => []
  | [v] => newline level ++ wideChars level v
  | v :: w :: rest => newline level ++ wideChars level v ++ ',' :: wideItems level (w :: rest)

def wideMembers (level : Nat) : List (String × Json) → List Char
  | [] => []
  | [(key, v)] => newline level ++ quoted key ++ ':' :: ' ' :: wideChars level v
  | (key, v) :: m :: rest =>
    newline level ++ quoted key ++ ':' :: ' ' :: wideChars level v ++
      ',' :: wideMembers level (m :: rest)

end

def renderWide (v : Json) : String := String.ofList (wideChars 0 v)

/-- The value of the last member with this key. -/
def member? (v : Json) (key : String) : Option Json :=
  match v with
  | .object members => (members.reverse.find? fun m => m.1 = key).map Prod.snd
  | _ => none

def text? : Json → Option String
  | .text s => some s
  | _ => none

end Json
end Purse
