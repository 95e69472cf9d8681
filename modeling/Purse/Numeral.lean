/-!
# Decimal numerals

How whole numbers are written and read outside JSON: in messages, query strings, command lines and
settings. Writing uses a minus sign and no leading zero. The readers take ASCII digits only, allow
leading zeros, and never form a number beyond their limit.
-/
namespace Purse.Numeral

/-- The digits of a number, without leading zeros. -/
def digits (n : Nat) : List Char := Nat.toDigits 10 n

/-- The numeral of an integer, with a minus sign below zero. -/
def signed : Int → List Char
  | .ofNat n => digits n
  | .negSucc n => '-' :: digits (n + 1)

def ofInt (n : Int) : String := String.ofList (signed n)

/-- The numeral of a natural number as text. -/
def ofNat (n : Nat) : String := String.ofList (digits n)

/-- The numeral of `n` with zeros in front of it, up to `width` digits. -/
def padded (width n : Nat) : List Char :=
  List.replicate (width - (digits n).length) '0' ++ digits n

/-- Reads a nonempty run of digits that is the whole text. -/
def natural? (cs : List Char) : Option Nat :=
  if cs.isEmpty || !cs.all Char.isDigit then none else some (Nat.ofDigitChars 10 cs 0)

/-- Why a numeral was refused. -/
inductive Fault where
  | empty
  | badDigit
  | tooLarge
  deriving DecidableEq, Repr

/-- The wording of a refusal. -/
def Fault.message : Fault → String
  | .empty => "cannot parse integer from empty string"
  | .badDigit => "invalid digit found in string"
  | .tooLarge => "number too large to fit in target type"

/-- Adds digits to the number read so far. The first position that is no digit, or that takes the
number beyond the limit, decides. -/
def accumulate (limit : Nat) : Nat → List Char → Except Fault Nat
  | read, [] => .ok read
  | read, c :: rest =>
    if c.isDigit then
      let next := 10 * read + (c.toNat - '0'.toNat)
      if limit < next then .error .tooLarge else accumulate limit next rest
    else .error .badDigit

/-- Reads an unsigned numeral of at most `limit`: an optional plus sign and at least one digit. -/
def bounded (limit : Nat) : List Char → Except Fault Nat
  | [] => .error .empty
  | '+' :: [] => .error .badDigit
  | '+' :: rest => accumulate limit 0 rest
  | cs => accumulate limit 0 cs

/-- The least integer of 64 bits. -/
def minWord : Int := -9223372036854775808

/-- The greatest integer of 64 bits. -/
def maxWord : Int := 9223372036854775807

/-- Whether an integer fits in 64 bits. -/
def isWord (n : Int) : Bool := minWord ≤ n && n ≤ maxWord

/-- Reads an integer of 64 bits: an optional sign and at least one digit. -/
def word? (cs : List Char) : Option Int :=
  let value : Option Int :=
    match cs with
    | '-' :: rest => (natural? rest).map fun n => -(n : Int)
    | '+' :: rest => (natural? rest).map fun n => (n : Int)
    | _ => (natural? cs).map fun n => (n : Int)
  value.filter isWord

end Purse.Numeral
