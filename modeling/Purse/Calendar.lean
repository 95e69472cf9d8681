/-!
# Calendar dates

Dates of the proleptic Gregorian calendar, with year zero and negative years, in the range of years
that a date may hold. Only existing dates can be formed. The one computation that time zones need is
the step to the next or the previous day.
-/
namespace Purse

/-- Every fourth year is a leap year, except three centuries in four. -/
def isLeapYear (year : Int) : Bool :=
  year % 4 == 0 && (year % 100 != 0 || year % 400 == 0)

/-- The number of days in a month; zero for a number that names no month. -/
def daysInMonth (year : Int) : Nat → Nat
  | 2 => if isLeapYear year then 29 else 28
  | 4 | 6 | 9 | 11 => 30
  | 1 | 3 | 5 | 7 | 8 | 10 | 12 => 31
  | _ => 0

structure Date where
  year : Int
  month : Nat
  day : Nat
  day_pos : 1 ≤ day
  day_le : day ≤ daysInMonth year month
  year_ge : -262143 ≤ year
  year_le : year ≤ 262142
  deriving DecidableEq, Repr

namespace Date

/-- The date with these parts, if it exists and its year is in range. -/
def of? (year : Int) (month day : Nat) : Option Date :=
  if h : (1 ≤ day ∧ day ≤ daysInMonth year month) ∧ -262143 ≤ year ∧ year ≤ 262142 then
    some ⟨year, month, day, h.1.1, h.1.2, h.2.1, h.2.2⟩
  else none

/-- The date that many days after the first of January 1970. Years are counted from March, so that the
leap day is the last of its year, and in eras of four hundred years, which are all of one length. -/
def ofEpochDay? (day : Nat) : Option Date :=
  let day := day + 719468
  let era := day / 146097
  let ofEra := day % 146097
  let yearOfEra := (ofEra - ofEra / 1460 + ofEra / 36524 - ofEra / 146096) / 365
  let ofYear := ofEra - (365 * yearOfEra + yearOfEra / 4 - yearOfEra / 100)
  let monthFromMarch := (5 * ofYear + 2) / 153
  let ofMonth := ofYear - (153 * monthFromMarch + 2) / 5 + 1
  let month := if monthFromMarch < 10 then monthFromMarch + 3 else monthFromMarch - 9
  of? (400 * era + yearOfEra + if month ≤ 2 then 1 else 0) month ofMonth

/-- The day after, unless it is out of range. -/
def next? (d : Date) : Option Date :=
  if d.day < daysInMonth d.year d.month then of? d.year d.month (d.day + 1)
  else if d.month < 12 then of? d.year (d.month + 1) 1
  else of? (d.year + 1) 1 1

/-- The day before, unless it is out of range. -/
def previous? (d : Date) : Option Date :=
  if 1 < d.day then of? d.year d.month (d.day - 1)
  else if 1 < d.month then of? d.year (d.month - 1) (daysInMonth d.year (d.month - 1))
  else of? (d.year - 1) 12 31

end Date
end Purse
