import Purse.Error
import Purse.Json.Number
import Purse.Numeral.Shortest
import Purse.Text.Quoted
import Purse.Timestamp
import Purse.Uuid.Flaw

/-!
# What is wrong with a text

A text that should be the JSON form of a value can be malformed, so that it is no JSON at all, or it can
hold something else than was asked for. A flaw says which, and where it was noticed. A place is kept as
the number of bytes that were still unread, which a reader knows without the text it started from. Some
flaws have no place of their own: they get the place where the object or array around them goes on, and
none if there is nothing around them.
-/
namespace Purse.Json

inductive Malformation where
  | endInList
  | endInObject
  | endInText
  | endInValue
  | noColon
  | noCommaInList
  | noCommaInObject
  | badWord
  | noValue
  | badEscape
  | badNumber
  | numberTooLarge
  | controlCharacter
  | keyNotText
  | loneSurrogate
  | halfSurrogate
  | trailingComma
  | trailingText
  deriving DecidableEq, Repr

def Malformation.message : Malformation → String
  | .endInList => "EOF while parsing a list"
  | .endInObject => "EOF while parsing an object"
  | .endInText => "EOF while parsing a string"
  | .endInValue => "EOF while parsing a value"
  | .noColon => "expected `:`"
  | .noCommaInList => "expected `,` or `]`"
  | .noCommaInObject => "expected `,` or `\x7d`"
  | .badWord => "expected ident"
  | .noValue => "expected value"
  | .badEscape => "invalid escape"
  | .badNumber => "invalid number"
  | .numberTooLarge => "number out of range"
  | .controlCharacter => "control character (\\u0000-\\u001F) found while parsing a string"
  | .keyNotText => "key must be a string"
  | .loneSurrogate => "lone leading surrogate in hex escape"
  | .halfSurrogate => "unexpected end of hex escape"
  | .trailingComma => "trailing comma"
  | .trailingText => "trailing characters"

/-- What a text holds in a place where something else was asked for. -/
inductive Found where
  | null
  | truth (b : Bool)
  | number (n : Number)
  | text (s : String)
  | list
  | object
  deriving DecidableEq, Repr

def Found.message : Found → String
  | .null => "null"
  | .truth true => "boolean `true`"
  | .truth false => "boolean `false`"
  | .number n =>
    match n.kept? with
    | some i => "integer `" ++ Numeral.ofInt i ++ "`"
    | none => "floating point `" ++ Numeral.ofFloat n.toDouble ++ "`"
  | .text s => "string " ++ Text.quoted s
  | .list => "sequence"
  | .object => "map"

/-- Why a JSON text is not the form of the value that was asked for. -/
inductive Mismatch where
  | kind (found : Found) (expected : String)
  | range (found : Found) (expected : String)
  | tooShort (found : Nat) (record : String) (expected : Nat)
  | missing (field : String)
  | repeated (field : String)
  | unknownName (name : String) (known : List String)
  | identifier (flaw : Uuid.Flaw)
  | time (flaw : Timestamp.Flaw)
  | refused (cause : LedgerError)
  deriving DecidableEq, Repr

/-- Names in a sentence that offers them. -/
def offered : List String → String
  | [] => ""
  | [a] => "`" ++ a ++ "`"
  | [a, b] => "`" ++ a ++ "` or `" ++ b ++ "`"
  | names => "one of " ++ ", ".intercalate (names.map fun name => "`" ++ name ++ "`")

def Mismatch.message : Mismatch → String
  | .kind found expected => "invalid type: " ++ found.message ++ ", expected " ++ expected
  | .range found expected => "invalid value: " ++ found.message ++ ", expected " ++ expected
  | .tooShort found record expected =>
    "invalid length " ++ Numeral.ofNat found ++ ", expected struct " ++ record ++ " with " ++
      Numeral.ofNat expected ++ (if expected = 1 then " element" else " elements")
  | .missing field => "missing field `" ++ field ++ "`"
  | .repeated field => "duplicate field `" ++ field ++ "`"
  | .unknownName name known => "unknown variant `" ++ name ++ "`, expected " ++ offered known
  | .identifier flaw => "UUID parsing failed: " ++ flaw.message
  | .time flaw => flaw.message
  | .refused cause => cause.message

inductive Fault where
  | malformed (cause : Malformation)
  | mismatch (cause : Mismatch)
  deriving DecidableEq, Repr

def Fault.message : Fault → String
  | .malformed cause => cause.message
  | .mismatch cause => cause.message

/-- Where a flaw was noticed: with so many bytes unread, or in front of a rest, without a place yet. -/
inductive Place where
  | settled (left : Nat)
  | unsettled (rest : List Char)
  deriving DecidableEq, Repr

structure Flaw where
  fault : Fault
  place : Place
  deriving DecidableEq, Repr

namespace Flaw

/-- The text is malformed where the rest begins. -/
def before (cause : Malformation) (rest : List Char) : Flaw :=
  ⟨.malformed cause, .settled (Text.size rest)⟩

/-- The text is malformed in the first byte of the rest, if there is one. -/
def within (cause : Malformation) (rest : List Char) : Flaw :=
  ⟨.malformed cause, .settled (Text.size rest - 1)⟩

/-- What was read is not what was asked for, and the rest comes after it. -/
def after (cause : Mismatch) (rest : List Char) : Flaw :=
  ⟨.mismatch cause, .settled (Text.size rest)⟩

/-- What was read is not what was asked for, which the surroundings are to place. -/
def unplaced (cause : Mismatch) (rest : List Char) : Flaw := ⟨.mismatch cause, .unsettled rest⟩

/-- Gives a flaw without a place the place that reading on from its rest comes to. -/
def settle (readOn : List Char → List Char) (flaw : Flaw) : Flaw :=
  match flaw.place with
  | .settled _ => flaw
  | .unsettled rest => { flaw with place := .settled (Text.size (readOn rest)) }

/-- Whether the text is no JSON at all. -/
def isMalformed (flaw : Flaw) : Bool :=
  match flaw.fault with
  | .malformed _ => true
  | .mismatch _ => false

end Flaw

/-- The line, counted from one, and the bytes in front on that line, of the place after so many bytes. -/
def position (line column : Nat) : Nat → List Char → Nat × Nat
  | _, [] => (line, column)
  | bytes, c :: cs =>
    if bytes < c.utf8Size then (line, column + bytes)
    else if c = '\n' then position (line + 1) 0 (bytes - c.utf8Size) cs
    else position line (column + c.utf8Size) (bytes - c.utf8Size) cs

/-- The line and the column of a flaw in a text. -/
def Flaw.position? (text : String) (flaw : Flaw) : Option (Nat × Nat) :=
  match flaw.place with
  | .unsettled _ => none
  | .settled left =>
    let cs := text.toList
    some (position 1 0 (Text.size cs - left) cs)

/-- A line and a column at the end of a sentence. -/
def located : Option (Nat × Nat) → String
  | none => ""
  | some (line, column) => " at line " ++ Numeral.ofNat line ++ " column " ++ Numeral.ofNat column

def Flaw.message (text : String) (flaw : Flaw) : String :=
  flaw.fault.message ++ located (flaw.position? text)

end Purse.Json
