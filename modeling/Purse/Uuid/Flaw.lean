import Purse.Numeral
import Purse.Uuid

/-!
# Why a text is no identifier

The complaint about a text that spells no identifier. A text longer than every spelling is not looked at.
Otherwise the first character that no spelling holds is named with its place, then the number of groups,
then the first group that has not its length.
-/
namespace Purse.Uuid

inductive Flaw where
  | character (c : Char) (place : Nat)
  | length (found : Nat)
  | groupCount (found : Nat)
  | groupLength (group expected found : Nat)
  deriving DecidableEq, Repr

def Flaw.message : Flaw → String
  | .character c place =>
    "invalid character: found `" ++ String.ofList [c] ++ "` at " ++ Numeral.ofNat place
  | .length found => "invalid length: found " ++ Numeral.ofNat found
  | .groupCount found => "invalid group count: expected 5, found " ++ Numeral.ofNat found
  | .groupLength group expected found =>
    "invalid group length in group " ++ Numeral.ofNat group ++ ": expected " ++ Numeral.ofNat expected ++
      ", found " ++ Numeral.ofNat found

/-- The first character that is neither a hexadecimal digit nor a hyphen, and its place when the first
byte is at the given one. -/
def stranger? : Nat → List Char → Option (Char × Nat)
  | _, [] => none
  | place, c :: cs =>
    if c = '-' || (hexDigit? c).isSome then stranger? (place + c.utf8Size) cs else some (c, place)

/-- The lengths of the parts between hyphens. -/
def partLengths : List Char → List Nat
  | [] => [0]
  | c :: cs =>
    match partLengths cs with
    | [] => [1]
    | n :: ns => if c = '-' then 0 :: n :: ns else (n + 1) :: ns

/-- The first of the groups that does not have its length. If none is found, the last one is named. -/
def oddGroup (total : Nat) : Nat → List Nat → List Nat → Flaw
  | group, size :: sizes, n :: ns =>
    if sizes.isEmpty || n ≠ size then
      .groupLength group size (if sizes.isEmpty then total - 24 else n)
    else oddGroup total (group + 1) sizes ns
  | group, _, _ => .groupLength group 0 0

/-- What is wrong with a text, of which the braces or the name space have been taken off. Their length
is `shift`; without them, and without hyphens, only the length can be wrong. -/
def flawOf (wrapped : Bool) (shift total : Nat) (body : List Char) : Flaw :=
  match stranger? shift body with
  | some (c, place) => .character c place
  | none =>
    let lengths := partLengths body
    if lengths.length = 1 && !wrapped then .length total
    else if lengths.length ≠ 5 then .groupCount lengths.length
    else oddGroup total 0 groups lengths

/-- The length of the longest spelling in bytes. -/
def maxSize : Nat := 45

/-- What is wrong with a text that spells no identifier. Where the length already tells that it is
wrapped, only what is inside is looked at. -/
def flaw (cs : List Char) : Flaw :=
  let inside :=
    match unwrap? cs with
    | some (_, body) => body
    | none => cs
  let total := Text.size inside
  if maxSize < total then .length total
  else if inside.head? = some '\x7b' ∧ inside.getLast? = some '\x7d' ∧ 2 ≤ inside.length then
    flawOf true 1 total (inside.drop 1).dropLast
  else if (inside.take 9).map Char.toLower = "urn:uuid:".toList then flawOf true 9 total (inside.drop 9)
  else flawOf false 0 total inside

end Purse.Uuid
