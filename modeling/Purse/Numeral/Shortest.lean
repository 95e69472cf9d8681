import Purse.Numeral

/-!
# Doubles as decimals

A double is written with the fewest digits that read back to it, and of those with the nearest. All reals
that round to a double lie between the points halfway to its neighbours; the ends count if the mantissa
is even. A decimal is tested against these ends in exact arithmetic, and for every number of digits only
the two decimals around the double need a test.
-/
namespace Purse.Numeral

/-- A positive double, `mantissa * 2 ^ exponent`. Above a power of two the neighbours are twice as far
apart as below it; `narrow` says that the double is such a power. -/
structure Double where
  mantissa : Nat
  exponent : Int
  narrow : Bool
  deriving DecidableEq, Repr

namespace Double

/-- The double of some bits, of which the sign does not count. -/
def ofBits (bits : Nat) : Double :=
  let exponent : Nat := bits / Nat.pow 2 52 % Nat.pow 2 11
  let fraction : Nat := bits % Nat.pow 2 52
  if exponent = 0 then ⟨fraction, -1074, false⟩
  else ⟨Nat.pow 2 52 + fraction, (exponent : Int) - 1075, decide (fraction = 0 ∧ 1 < exponent)⟩

/-- Compares `a * 10 ^ i` with `n * 2 ^ j`. -/
def compareScaled (a : Nat) (i : Int) (n : Nat) (j : Int) : Ordering :=
  compare (a * Nat.pow 10 i.toNat * Nat.pow 2 (-j).toNat)
    (n * Nat.pow 2 j.toNat * Nat.pow 10 (-i).toNat)

/-- Whether `digits * 10 ^ scale` rounds to the double. -/
def readsBack (x : Double) (digits : Nat) (scale : Int) : Bool :=
  let low := if x.narrow then 4 * x.mantissa - 1 else 4 * x.mantissa - 2
  let above := compareScaled digits scale low (x.exponent - 2)
  let below := compareScaled digits scale (4 * x.mantissa + 2) (x.exponent - 2)
  let ends := x.mantissa % 2 == 0
  (above == .gt || (ends && above == .eq)) && (below == .lt || (ends && below == .eq))

/-- How many whole units of `10 ^ scale` the double holds. -/
def units (x : Double) (scale : Int) : Nat :=
  x.mantissa * Nat.pow 2 x.exponent.toNat * Nat.pow 10 (-scale).toNat /
    (Nat.pow 2 (-x.exponent).toNat * Nat.pow 10 scale.toNat)

/-- The multiple of `10 ^ scale` that reads back to the double and is nearest to it. A tie goes to the
even one. -/
def nearest? (x : Double) (scale : Int) : Option Nat :=
  let low := x.units scale
  match x.readsBack low scale, x.readsBack (low + 1) scale with
  | true, true =>
    match compareScaled (2 * low + 1) scale (2 * x.mantissa) x.exponent with
    | .lt => some (low + 1)
    | .gt => some low
    | .eq => some (if low % 2 = 0 then low else low + 1)
  | true, false => some low
  | false, true => some (low + 1)
  | false, false => none

/-- The number of digits in front of the point, which is negative for zeros behind it. -/
def size (x : Double) : Int :=
  let isBelow (k : Nat) : Bool := compareScaled 1 ((k : Int) - 330) x.mantissa x.exponent == .gt
  (((List.range 640).find? isBelow).getD 640 : Nat) - 330

/-- Takes zeros off the end of a number and counts them. -/
def stripZeros : Nat → Nat → Nat × Nat
  | 0, n => (n, 0)
  | steps + 1, n =>
    if n % 10 = 0 && n ≠ 0 then
      let (m, zeros) := stripZeros steps (n / 10)
      (m, zeros + 1)
    else (n, 0)

/-- The digits that identify the double, as a number without zeros at its end, and the power of ten that
belongs to them. -/
def shortest (x : Double) : Nat × Int :=
  let size := x.size
  let found := (List.range 17).findSome? fun n =>
    let scale := size - (n + 1 : Nat)
    (x.nearest? scale).map fun digits => (digits, scale)
  let (digits, scale) := found.getD (x.units (size - 17), size - 17)
  let (digits, zeros) := stripZeros 20 digits
  (digits, scale + zeros)

/-- Lays digits out: with a point if it is at most sixteen digits behind the first one or four zeros in
front of it, otherwise with an exponent that has a sign. -/
def layOut (digits : Nat) (scale : Int) : List Char :=
  let ds := Numeral.digits digits
  let point : Int := ds.length + scale
  let zeros (n : Int) : List Char := List.replicate n.toNat '0'
  if 0 ≤ scale ∧ point ≤ 16 then ds ++ zeros scale ++ ['.', '0']
  else if 0 < point ∧ point ≤ 16 then ds.take point.toNat ++ '.' :: ds.drop point.toNat
  else if -5 < point ∧ point ≤ 0 then '0' :: '.' :: zeros (-point) ++ ds
  else
    let exponent := point - 1
    ds.take 1 ++ (if ds.length = 1 then [] else '.' :: ds.drop 1) ++
      'e' :: (if exponent < 0 then '-' else '+') :: Numeral.digits exponent.natAbs

end Double

/-- The text of a finite double. -/
def ofFloat (x : Float) : String :=
  let bits := x.toBits.toNat
  let sign := if Nat.pow 2 63 ≤ bits then ['-'] else []
  let size := bits % Nat.pow 2 63
  if size = 0 then String.ofList (sign ++ ['0', '.', '0'])
  else
    let (digits, scale) := (Double.ofBits size).shortest
    String.ofList (sign ++ Double.layOut digits scale)

end Purse.Numeral
