import Purse.Numeral

/-!
# JSON numbers

A number is kept as it was spelled: sign, digits before and after the point, exponent. Two questions
are asked of it. Is it the spelling of an integer? Is it beyond the range of double precision? The
second is answered in exact arithmetic on the leading digits that fit in 64 bits, which is all that a
reader of doubles keeps; digits it drops count only as powers of ten. The double that such a reader makes
of them is at times a neighbour of the nearest one; it matters only where a message names it.
-/
namespace Purse.Json

/-- The digits of an exponent and whether a minus sign stands in front of them. -/
structure Exponent where
  negative : Bool
  digits : List Char
  deriving DecidableEq, Repr

structure Number where
  negative : Bool := false
  whole : List Char
  fraction : List Char := []
  exponent : Option Exponent := none
  deriving DecidableEq, Repr

namespace Number

/-- The usual spelling of an integer. -/
def ofInt (n : Int) : Number := { negative := decide (n < 0), whole := Numeral.digits n.natAbs }

/-- The number as it is written. -/
def chars (n : Number) : List Char :=
  (if n.negative then ['-'] else []) ++ n.whole ++
    (if n.fraction.isEmpty then [] else '.' :: n.fraction) ++
    match n.exponent with
    | none => []
    | some e => 'e' :: (if e.negative then ['-'] else []) ++ e.digits

/-- The integer that is spelled, if there is neither a fraction nor an exponent. Minus zero spells no
integer. -/
def integer? (n : Number) : Option Int :=
  if n.fraction.isEmpty && n.exponent.isNone then
    let size := Nat.ofDigitChars 10 n.whole 0
    if n.negative then if size = 0 then none else some (-(size : Int)) else some (size : Int)
  else none

/-- The first number that does not fit in 64 bits. -/
def wordLimit : Nat := 18446744073709551616

/-- Takes up digits while the number they spell fits in 64 bits: the number, and how many digits were
left over. -/
def takeDigits : Nat → List Char → Nat × Nat
  | kept, [] => (kept, 0)
  | kept, c :: rest =>
    let next := 10 * kept + (c.toNat - '0'.toNat)
    if next < wordLimit then takeDigits next rest else (kept, rest.length + 1)

/-- The number rounded to 53 binary digits, a tie going to the even neighbour. -/
def roundToDouble (n : Nat) : Nat :=
  let size := n.log2 + 1
  if size ≤ 53 then n
  else
    let unit := Nat.pow 2 (size - 53)
    let low := n / unit
    let rest := n % unit
    let up := unit < 2 * rest || (2 * rest == unit && low % 2 == 1)
    (if up then low + 1 else low) * unit

/-- The least power of two beyond every double. -/
def doubleLimit : Nat := Nat.pow 2 1024

/-- The leading digits that fit in 64 bits as one number, and the power of ten that belongs to it. -/
def significand (n : Number) : Nat × Int :=
  let (kept, dropped) := takeDigits 0 n.whole
  let (kept, left) := takeDigits kept n.fraction
  let written : Int :=
    match n.exponent with
    | none => 0
    | some e =>
      let size : Int := Nat.ofDigitChars 10 e.digits 0
      if e.negative then -size else size
  (kept, (dropped : Int) - ((n.fraction.length - left : Nat) : Int) + written)

/-- Whether the number is read as an infinite double. -/
def overflows (n : Number) : Bool :=
  let (kept, scale) := n.significand
  if kept = 0 || scale < 0 then false
  else if 308 < scale then true
  else
    doubleLimit ≤ roundToDouble (roundToDouble kept * roundToDouble (Nat.pow 10 scale.toNat))

/-- A double times a power of ten. A power below the least that doubles have is taken in steps. -/
def scaleDouble : Nat → Float → Int → Float
  | 0, x, _ => x
  | steps + 1, x, scale =>
    if 0 ≤ scale then x * Float.ofScientific 1 false scale.toNat
    else if -308 ≤ scale then x / Float.ofScientific 1 false scale.natAbs
    else scaleDouble steps (x / Float.ofScientific 1 false 308) (scale + 308)

/-- The double that the number is read as, if that is not infinite. After four steps down nothing is
left of any number. -/
def toDouble (n : Number) : Float :=
  let (kept, scale) := n.significand
  let size := if kept = 0 then 0.0 else scaleDouble 4 (Float.ofNat kept) scale
  if n.negative then -size else size

/-- The integer that is spelled, if it is kept as one of 64 bits, with or without a sign. -/
def kept? (n : Number) : Option Int :=
  n.integer?.filter fun i => Numeral.minWord ≤ i && i < wordLimit

/-- How many digits of a positive exponent come after the one with which it leaves 32 bits. -/
def exponentExcess (n : Number) : Nat :=
  match n.exponent with
  | none => 0
  | some e =>
    let fits (size : Nat) : Bool := Nat.ofDigitChars 10 (e.digits.take size) 0 ≤ 2147483647
    ((List.range (e.digits.length + 1)).filter fun size => !fits size).length - 1

end Number
end Purse.Json
