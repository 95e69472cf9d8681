import Purse.Text

/-!
# Universally unique identifiers

An identifier is thirty-two hexadecimal digits. It has one written form, in lower case with hyphens,
and four spellings that are read: with hyphens, without, with hyphens in braces, and with hyphens
after `urn:uuid:`. Letter case never matters.
-/
namespace Purse

/-- The last hexadecimal digit of a number. -/
def lastHexDigit (n : Nat) : Fin 16 := Fin.ofNat 16 n

/-- The value of a hexadecimal digit, in either case. -/
def hexDigit? (c : Char) : Option (Fin 16) :=
  if '0' ≤ c ∧ c ≤ '9' then some (lastHexDigit (c.toNat - '0'.toNat))
  else if 'a' ≤ c ∧ c ≤ 'f' then some (lastHexDigit (c.toNat - 'a'.toNat + 10))
  else if 'A' ≤ c ∧ c ≤ 'F' then some (lastHexDigit (c.toNat - 'A'.toNat + 10))
  else none

/-- A hexadecimal digit in lower case. -/
def hexChar (d : Fin 16) : Char :=
  if d.val < 10 then Char.ofNat ('0'.toNat + d.val) else Char.ofNat ('a'.toNat + (d.val - 10))

structure Uuid where
  digits : List (Fin 16)
  length_eq : digits.length = 32
  deriving DecidableEq, Repr

namespace Uuid

/-- The sizes of the groups between the hyphens. -/
def groups : List Nat := [8, 4, 4, 4, 12]

/-- Hexadecimal digits in groups of the given sizes, with a hyphen between two groups. -/
def grouped : List Nat → List (Fin 16) → List Char
  | [], _ => []
  | [n], ds => (ds.take n).map hexChar
  | n :: ns, ds => (ds.take n).map hexChar ++ '-' :: grouped ns (ds.drop n)

/-- The written form. -/
def chars (u : Uuid) : List Char := grouped groups u.digits

/-- The written form as text. -/
def text (u : Uuid) : String := String.ofList u.chars

/-- Reads exactly `n` hexadecimal digits off the front. -/
def hexRun? : Nat → List Char → Option (List (Fin 16) × List Char)
  | 0, cs => some ([], cs)
  | _ + 1, [] => none
  | n + 1, c :: cs => do
    let d ← hexDigit? c
    let (ds, rest) ← hexRun? n cs
    some (d :: ds, rest)

/-- Reads hexadecimal digits in groups of the given sizes with a hyphen between two groups, and
nothing after them. -/
def ungrouped? : List Nat → List Char → Option (List (Fin 16))
  | [], [] => some []
  | [], _ :: _ => none
  | [n], cs => do
    let (ds, rest) ← hexRun? n cs
    if rest.isEmpty then some ds else none
  | n :: m :: ns, cs => do
    let (ds, rest) ← hexRun? n cs
    match rest with
    | '-' :: rest => (ungrouped? (m :: ns) rest).map (ds ++ ·)
    | _ => none

/-- An identifier from its digits, if there are thirty-two. -/
def ofDigits? (ds : List (Fin 16)) : Option Uuid :=
  if h : ds.length = 32 then some ⟨ds, h⟩ else none

/-- Takes a spelling apart down to its bare or hyphenated digits: the braces or the name space of the
two longer forms go. Both of them require hyphens. -/
def unwrap? (cs : List Char) : Option (List Nat × List Char) :=
  match Text.size cs with
  | 32 => some ([32], cs)
  | 36 => some (groups, cs)
  | 38 =>
    if cs.head? = some '\x7b' ∧ cs.getLast? = some '\x7d' then some (groups, (cs.drop 1).dropLast)
    else none
  | 45 =>
    if (cs.take 9).map Char.toLower = "urn:uuid:".toList then some (groups, cs.drop 9) else none
  | _ => none

/-- Reads any accepted spelling. -/
def ofChars? (cs : List Char) : Option Uuid := do
  let (sizes, body) ← unwrap? cs
  let ds ← ungrouped? sizes body
  ofDigits? ds

/-- Reads any accepted spelling from text. -/
def ofText? (s : String) : Option Uuid := ofChars? s.toList

/-- The last `n` hexadecimal digits of a number. -/
def hexOfNat : Nat → Nat → List (Fin 16)
  | 0, _ => []
  | n + 1, value => hexOfNat n (value / 16) ++ [lastHexDigit value]

theorem length_hexOfNat (n value : Nat) : (hexOfNat n value).length = n := by
  induction n generalizing value with
  | zero => rfl
  | succ n ih => simp [hexOfNat, ih]

/-- A random identifier of version 4 from 128 random bits: the thirteenth digit is the version, and
the two high bits of the seventeenth mark the layout. -/
def ofRandom (bits : Nat) : Uuid where
  digits := ((hexOfNat 32 bits).set 12 4).modify 16 fun d => lastHexDigit (8 + d.val % 4)
  length_eq := by simp [length_hexOfNat]

def version (u : Uuid) : Nat := (u.digits.getD 12 0).val

/-- Whether all digits are zero. -/
def isNil (u : Uuid) : Bool := u.digits.all (· == 0)

end Uuid
end Purse
