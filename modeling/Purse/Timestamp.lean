import Purse.Calendar
import Purse.Numeral
import Purse.Text

/-!
# Points in time

A point in time is kept as its date and time of day in universal time, to the nanosecond. A leap
second is second 60 of its minute.

The written form ends in `Z` and has no fraction or one of three, six or nine digits, the fewest that
are exact. The readable forms are wider: white space in front of every number, mark and zone, a
lower-case or blank separator, numbers of one digit, any number of fraction digits (those after the
ninth are dropped), and `UTC` or an offset from universal time, which is carried over into the date. A
year outside 0 to 9999 has a sign. The first problem met from left to right is the one reported; that
the date exists is asked last.
-/
namespace Purse

structure Timestamp where
  date : Date
  hour : Nat
  minute : Nat
  second : Nat
  nanosecond : Nat
  hour_lt : hour < 24
  minute_lt : minute < 60
  second_le : second ≤ 60
  nanosecond_lt : nanosecond < 1000000000
  deriving DecidableEq, Repr

namespace Timestamp

/-- The four digits of an ordinary year, or a sign and at least four digits. -/
def yearChars (year : Int) : List Char :=
  if 0 ≤ year ∧ year ≤ 9999 then Numeral.padded 4 year.toNat
  else if year < 0 then '-' :: Numeral.padded 4 year.natAbs
  else '+' :: Numeral.padded 4 year.natAbs

/-- The fraction of a second, with its point, in the fewest groups of three digits. -/
def fractionChars (nanosecond : Nat) : List Char :=
  if nanosecond = 0 then []
  else if nanosecond % 1000000 = 0 then '.' :: Numeral.padded 3 (nanosecond / 1000000)
  else if nanosecond % 1000 = 0 then '.' :: Numeral.padded 6 (nanosecond / 1000)
  else '.' :: Numeral.padded 9 nanosecond

/-- The written form. -/
def chars (t : Timestamp) : List Char :=
  yearChars t.date.year ++ '-' :: Numeral.padded 2 t.date.month ++ '-' :: Numeral.padded 2 t.date.day ++
    'T' :: Numeral.padded 2 t.hour ++ ':' :: Numeral.padded 2 t.minute ++
    ':' :: Numeral.padded 2 t.second ++ fractionChars t.nanosecond ++ ['Z']

/-- The written form as text. -/
def text (t : Timestamp) : String := String.ofList t.chars

/-- Why a text is no point in time. -/
inductive Flaw where
  | outOfRange
  | impossible
  | badCharacter
  | tooShort
  | trailing
  deriving DecidableEq, Repr

def Flaw.message : Flaw → String
  | .outOfRange => "input is out of range"
  | .impossible => "no possible date and time matching input"
  | .badCharacter => "input contains invalid characters"
  | .tooShort => "premature end of input"
  | .trailing => "trailing input"

/-- Reads a number of one to `width` digits. -/
def readNumber (width : Nat) (cs : List Char) : Except Flaw (Nat × List Char) :=
  let run := (cs.take width).takeWhile Char.isDigit
  if cs.isEmpty then .error .tooShort
  else if run.isEmpty then .error .badCharacter
  else .ok (Nat.ofDigitChars 10 run 0, cs.drop run.length)

/-- Reads a number of one or two digits that lies in a range, after white space. -/
def readPart (least greatest : Nat) (cs : List Char) : Except Flaw (Nat × List Char) := do
  let (n, rest) ← readNumber 2 (Text.afterBlanks cs)
  if least ≤ n && n ≤ greatest then .ok (n, rest) else .error .outOfRange

/-- Reads one given character, after white space. -/
def readMark (c : Char) (cs : List Char) : Except Flaw (List Char) :=
  match Text.afterBlanks cs with
  | [] => .error .tooShort
  | d :: rest => if d = c then .ok rest else .error .badCharacter

/-- Whether a number fits in 32 bits, as a year has to before it is looked at more closely. -/
def isHalfWord (n : Int) : Bool := -2147483648 ≤ n && n ≤ 2147483647

/-- Reads a year after white space: up to four digits, or a sign and any number of digits. -/
def readYear (cs : List Char) : Except Flaw (Int × List Char) := do
  let (year, rest) ←
    match Text.afterBlanks cs with
    | '-' :: rest => (readNumber rest.length rest).map fun (n, rest) => (-(n : Int), rest)
    | '+' :: rest => (readNumber rest.length rest).map fun (n, rest) => ((n : Int), rest)
    | rest => (readNumber 4 rest).map fun (n, rest) => ((n : Int), rest)
  if isHalfWord year then .ok (year, rest) else .error .outOfRange

/-- Reads the separator of date and time. -/
def readSeparator : List Char → Except Flaw (List Char)
  | [] => .error .tooShort
  | c :: rest => if c = 'T' || c = 't' || c = ' ' then .ok rest else .error .badCharacter

/-- Reads an optional fraction of a second as nanoseconds. -/
def readFraction (cs : List Char) : Except Flaw (Nat × List Char) :=
  match cs with
  | '.' :: rest =>
    let run := rest.takeWhile Char.isDigit
    if rest.isEmpty then .error .tooShort
    else if run.isEmpty then .error .badCharacter
    else
      let kept := run.take 9
      .ok (Nat.ofDigitChars 10 (kept ++ List.replicate (9 - kept.length) '0') 0,
        rest.drop run.length)
  | _ => .ok (0, cs)

/-- Reads exactly two digits. -/
def readTwoDigits (cs : List Char) : Except Flaw (Nat × List Char) :=
  match cs with
  | a :: b :: rest =>
    if a.isDigit && b.isDigit then .ok (Nat.ofDigitChars 10 [a, b] 0, rest) else .error .badCharacter
  | _ => .error (if Text.size cs < 2 then .tooShort else .badCharacter)

/-- Reads the hours and minutes of an offset. Between them colons and white space do not count. -/
def readDistance (cs : List Char) : Except Flaw (Nat × List Char) := do
  let (hours, rest) ← readTwoDigits cs
  let (minutes, rest) ← readTwoDigits (rest.dropWhile fun c => c = ':' || Text.isBlank c)
  if minutes < 60 then .ok (60 * hours + minutes, rest) else .error .outOfRange

/-- Reads an offset from universal time in minutes, or a word that stands for none. -/
def readOffset (cs : List Char) : Except Flaw (Int × List Char) :=
  match cs with
  | [] => .error .tooShort
  | c :: rest =>
    if (cs.take 3).map Char.toLower = ['u', 't', 'c'] then .ok (0, cs.drop 3)
    else if c = 'Z' || c = 'z' then .ok (0, rest)
    else if c = '+' then (readDistance rest).map fun (n, rest) => ((n : Int), rest)
    else if c = '-' || c = '\u2212' then (readDistance rest).map fun (n, rest) => (-(n : Int), rest)
    else .error .badCharacter

/-- The point in time with this date and time of day, `offset` minutes ahead of universal time. -/
def ofLocal? (date : Date) (hour minute second nanosecond : Nat) (offset : Int) :
    Option Timestamp := do
  let minutes : Int := 60 * hour + minute - offset
  let date ←
    if minutes < 0 then date.previous? else if 1440 ≤ minutes then date.next? else some date
  let ofDay := (minutes % 1440).toNat
  if h : ofDay / 60 < 24 ∧ ofDay % 60 < 60 ∧ second ≤ 60 ∧ nanosecond < 1000000000 then
    some ⟨date, ofDay / 60, ofDay % 60, second, nanosecond, h.1, h.2.1, h.2.2.1, h.2.2.2⟩
  else none

/-- Reads any accepted form. -/
def read (cs : List Char) : Except Flaw Timestamp := do
  let (year, cs) ← readYear cs
  let (month, cs) ← readPart 1 12 (← readMark '-' cs)
  let (day, cs) ← readPart 1 31 (← readMark '-' cs)
  let (hour, cs) ← readPart 0 23 (← readSeparator cs)
  let (minute, cs) ← readPart 0 59 (← readMark ':' cs)
  let (second, cs) ← readPart 0 60 (← readMark ':' cs)
  let (nanosecond, cs) ← readFraction cs
  let (offset, cs) ← readOffset (Text.afterBlanks cs)
  if !(Text.afterBlanks cs).isEmpty then .error .trailing
  else
    match Date.of? year month day with
    | none => .error .outOfRange
    | some date =>
      if offset.natAbs < 1440 then
        match ofLocal? date hour minute second nanosecond offset with
        | none => .error .impossible
        | some t => .ok t
      else .error .outOfRange

/-- Reads any accepted form from text. -/
def ofText? (s : String) : Option Timestamp := (read s.toList).toOption

/-- The point in time that many seconds after the start of a day, which may lie in the next day. -/
def ofDay? (date : Date) (seconds nanosecond : Nat) : Option Timestamp := do
  let date ← if seconds < 86400 then some date else date.next?
  if h : nanosecond < 1000000000 then
    let seconds := seconds % 86400
    some ⟨date, seconds / 3600, seconds % 3600 / 60, seconds % 60, nanosecond,
      by omega, by omega, by omega, h⟩
  else none

/-- The seconds since the start of the day. -/
def secondOfDay (t : Timestamp) : Nat := 3600 * t.hour + 60 * t.minute + t.second

/-- The same point in time on a clock without leap seconds, where each of them is the second after it. -/
def smoothed? (t : Timestamp) : Option Timestamp := ofDay? t.date t.secondOfDay t.nanosecond

/-- The point in time that many nanoseconds after the first of January 1970, leap seconds apart. -/
def ofEpoch? (nanoseconds : Nat) : Option Timestamp := do
  let seconds := nanoseconds / 1000000000
  ofDay? (← Date.ofEpochDay? (seconds / 86400)) (seconds % 86400) (nanoseconds % 1000000000)

/-- The point in time as a count of whole microseconds before or after the start of the year 2000, where
leap seconds are not counted. What is less than a microsecond is dropped from the distance. -/
def toMicrosecond (t : Timestamp) : Timestamp :=
  let counted? := do
    let t ← t.smoothed?
    let micros := if t.date.year < 2000 then (t.nanosecond + 999) / 1000 else t.nanosecond / 1000
    ofDay? t.date (t.secondOfDay + micros / 1000000) (micros % 1000000 * 1000)
  counted?.getD t

end Timestamp
end Purse
