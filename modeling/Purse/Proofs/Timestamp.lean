import Mathlib.Tactic.Common
import Purse.Proofs.Numeral
import Purse.Timestamp

/-!
# Points in time that are read back

The written form of a point in time is read as that point in time, whatever its year, also a leap second.
Counted in whole microseconds it is one that such a count gives back.
-/
namespace Purse

theorem Text.afterBlanks_cons {c : Char} (h : isBlank c = false) (cs : List Char) :
    afterBlanks (c :: cs) = c :: cs := by
  rw [afterBlanks, List.dropWhile_cons_of_neg (by simp [h])]

theorem Text.not_isBlank_of_isDigit {c : Char} (h : c.isDigit) : isBlank c = false := by
  have hrange := Char.isDigit_iff_toNat.1 h
  simp only [isBlank, inRanges, blankRanges, List.any_cons, List.any_nil, Bool.or_false,
    Bool.or_eq_false_iff, Bool.and_eq_false_iff, decide_eq_false_iff_not]
  simp only [Char.reduceToNat] at hrange
  omega

/-- Digits are not blank, and there is at least one of them. -/
theorem Text.afterBlanks_padded (width n : Nat) (rest : List Char) :
    afterBlanks (Numeral.padded width n ++ rest) = Numeral.padded width n ++ rest := by
  cases h : Numeral.padded width n with
  | nil => exact absurd h (Numeral.padded_ne_nil width n)
  | cons d ds =>
      have hdigit : d.isDigit := Numeral.isDigit_of_mem_padded (h ▸ List.mem_cons_self)
      exact afterBlanks_cons (not_isBlank_of_isDigit hdigit) _

theorem Date.of?_eq (d : Date) : Date.of? d.year d.month d.day = some d := by
  rw [Date.of?, dif_pos ⟨⟨d.day_pos, d.day_le⟩, d.year_ge, d.year_le⟩]

/-- A month with a day in it is one of the twelve, and has at most thirty-one days. -/
theorem Date.month_range (d : Date) : 1 ≤ d.month ∧ d.month ≤ 12 ∧ d.day ≤ 31 := by
  have hpos := d.day_pos
  have hle := d.day_le
  unfold daysInMonth at hle
  split at hle
  · split_ifs at hle <;> omega
  all_goals omega

namespace Timestamp

/-- A number is read up to the given width or the first character that is no digit. -/
theorem readNumber_digits {width : Nat} {ds rest : List Char} (hne : ds ≠ [])
    (hdigits : ∀ c ∈ ds, c.isDigit) (hwidth : ds.length ≤ width)
    (hstop : ds.length = width ∨ ∀ c cs, rest = c :: cs → c.isDigit = false) :
    readNumber width (ds ++ rest) = .ok (Nat.ofDigitChars 10 ds 0, rest) := by
  have hrun : ((ds ++ rest).take width).takeWhile Char.isDigit = ds := by
    rw [List.take_append, List.take_of_length_le hwidth, List.takeWhile_append_of_pos hdigits]
    rcases hstop with hlength | hrest
    · simp [hlength]
    · cases rest with
      | nil => simp
      | cons c cs =>
          have hc := hrest c cs rfl
          cases width - ds.length <;> simp [hc]
  have hempty : (ds ++ rest).isEmpty = false := by simp [hne]
  have hds : ds.isEmpty = false := by simp [hne]
  simp only [readNumber, hrun, hempty, hds, Bool.false_eq_true, if_false, List.drop_left]

theorem readNumber_padded {digits width n : Nat} (rest : List Char)
    (hwidth : (Numeral.padded digits n).length ≤ width)
    (hstop : (Numeral.padded digits n).length = width ∨ ∀ c cs, rest = c :: cs → c.isDigit = false) :
    readNumber width (Numeral.padded digits n ++ rest) = .ok (n, rest) := by
  rw [readNumber_digits (Numeral.padded_ne_nil digits n) (fun c hc => Numeral.isDigit_of_mem_padded hc)
    hwidth hstop, Numeral.ofDigitChars_padded]

theorem readPart_padded {least greatest n : Nat} (rest : List Char) (hleast : least ≤ n)
    (hgreatest : n ≤ greatest) (hn : n < 10 ^ 2) :
    readPart least greatest (Numeral.padded 2 n ++ rest) = .ok (n, rest) := by
  have hlength := Numeral.length_padded (by decide) hn
  have hread := readNumber_padded rest (Nat.le_of_eq hlength) (.inl hlength)
  simp [readPart, Text.afterBlanks_padded, hread, bind, Except.bind, hleast, hgreatest]

theorem readMark_cons {c : Char} (h : Text.isBlank c = false) (rest : List Char) :
    readMark c (c :: rest) = .ok rest := by
  simp [readMark, Text.afterBlanks_cons h]

/-- Behind a sign all digits are read. -/
theorem readNumber_signed (n : Nat) (rest : List Char) :
    readNumber (Numeral.padded 4 n ++ '-' :: rest).length (Numeral.padded 4 n ++ '-' :: rest) =
      .ok (n, '-' :: rest) := by
  refine readNumber_padded _ ?_ (.inr ?_)
  · rw [List.length_append]
    exact Nat.le_add_right _ _
  · rintro c cs ⟨⟩
    rfl

/-- What does not begin with a sign is a year of up to four digits. -/
theorem readYear_unsigned {cs : List Char} {c : Char} (h : c.isDigit) :
    readYear (c :: cs) = (do
      let (n, rest) ← readNumber 4 (c :: cs)
      if isHalfWord n then .ok ((n : Int), rest) else .error .outOfRange) := by
  have hblank := Text.afterBlanks_cons (Text.not_isBlank_of_isDigit h) cs
  unfold readYear
  rw [hblank]
  split
  · rename_i hcons
    cases hcons
    cases h
  · rename_i hcons
    cases hcons
    cases h
  · cases readNumber 4 (c :: cs) <;> rfl

theorem readYear_chars {year : Int} (rest : List Char) (hge : -262143 ≤ year) (hle : year ≤ 262142) :
    readYear (yearChars year ++ '-' :: rest) = .ok (year, '-' :: rest) := by
  have hhalf : isHalfWord year := by
    simp only [isHalfWord, Bool.and_eq_true, decide_eq_true_eq]
    omega
  unfold yearChars
  split_ifs with hplain hnegative
  · have hlength : (Numeral.padded 4 year.toNat).length = 4 :=
      Numeral.length_padded (by decide) (by omega)
    have hread := readNumber_padded ('-' :: rest) (Nat.le_of_eq hlength) (.inl hlength)
    have hyear : (year.toNat : Int) = year := by omega
    cases hdigits : Numeral.padded 4 year.toNat with
    | nil => exact absurd hdigits (Numeral.padded_ne_nil 4 year.toNat)
    | cons d ds =>
        rw [hdigits, List.cons_append] at hread
        have hdigit : d.isDigit := Numeral.isDigit_of_mem_padded (hdigits ▸ List.mem_cons_self)
        rw [List.cons_append, readYear_unsigned hdigit, hread]
        simp [bind, Except.bind, hyear, hhalf]
  · have hyear : -(year.natAbs : Int) = year := by omega
    rw [List.cons_append, readYear, Text.afterBlanks_cons (by decide)]
    simp only [readNumber_signed, Except.map, bind, Except.bind, hyear, hhalf, if_true]
  · have hyear : (year.natAbs : Int) = year := by omega
    rw [List.cons_append, readYear, Text.afterBlanks_cons (by decide)]
    simp only [readNumber_signed, Except.map, bind, Except.bind, hyear, hhalf, if_true]

theorem readFraction_group {width m n : Nat} (hwidth : 0 < width) (hle : width ≤ 9) (hm : m < 10 ^ width)
    (hscale : 10 ^ (9 - width) * m = n) :
    readFraction ('.' :: Numeral.padded width m ++ ['Z']) = .ok (n, ['Z']) := by
  have hlength := Numeral.length_padded hwidth hm
  have hrun : (Numeral.padded width m ++ ['Z']).takeWhile Char.isDigit = Numeral.padded width m := by
    rw [List.takeWhile_append_of_pos fun c hc => Numeral.isDigit_of_mem_padded hc]
    simp
  have hkept : (Numeral.padded width m).take 9 = Numeral.padded width m :=
    List.take_of_length_le (by omega)
  have hvalue : Nat.ofDigitChars 10 (Numeral.padded width m ++ List.replicate (9 - width) '0') 0 = n := by
    rw [Nat.ofDigitChars_append, Numeral.ofDigitChars_padded, Nat.ofDigitChars_replicate_zero, hscale]
  have hempty : (Numeral.padded width m).isEmpty = false := by simp [Numeral.padded_ne_nil]
  have hrest : (Numeral.padded width m ++ ['Z']).isEmpty = false := by simp
  simp only [List.cons_append, readFraction, hrun, hkept, hvalue, hempty, hrest, hlength,
    Bool.false_eq_true, if_false, List.drop_left' hlength]

theorem readFraction_chars {n : Nat} (hn : n < 1000000000) :
    readFraction (fractionChars n ++ ['Z']) = .ok (n, ['Z']) := by
  unfold fractionChars
  split_ifs with hzero hmillis hmicros
  · simp [readFraction, hzero]
  · exact readFraction_group (by decide) (by decide) (by omega) (by omega)
  · exact readFraction_group (by decide) (by decide) (by omega) (by omega)
  · exact readFraction_group (by decide) (by decide) (by omega) (by omega)

theorem ofLocal?_eq (t : Timestamp) :
    ofLocal? t.date t.hour t.minute t.second t.nanosecond 0 = some t := by
  have hhour := t.hour_lt
  have hminute := t.minute_lt
  have hminutes : ((60 : Int) * t.hour + t.minute - 0 : Int) = ((60 * t.hour + t.minute : Nat) : Int) := by
    omega
  have hofDay : (((60 * t.hour + t.minute : Nat) : Int) % 1440).toNat = 60 * t.hour + t.minute := by omega
  have hhourOf : (60 * t.hour + t.minute) / 60 = t.hour := by omega
  have hminuteOf : (60 * t.hour + t.minute) % 60 = t.minute := by omega
  unfold ofLocal?
  simp only [hminutes, hofDay, hhourOf, hminuteOf]
  rw [if_neg (by omega), if_neg (by omega)]
  simp only [bind, Option.bind_some]
  rw [dif_pos ⟨hhour, hminute, t.second_le, t.nanosecond_lt⟩]

theorem read_chars (t : Timestamp) : read t.chars = .ok t := by
  obtain ⟨hmonth, hmonth', hday⟩ := t.date.month_range
  have hhour := t.hour_lt
  have hminute := t.minute_lt
  have hsecond := t.second_le
  have hdayPos := t.date.day_pos
  have hdash (rest : List Char) : readMark '-' ('-' :: rest) = .ok rest := readMark_cons (by decide) rest
  have hcolon (rest : List Char) : readMark ':' (':' :: rest) = .ok rest := readMark_cons (by decide) rest
  have hmonths (rest : List Char) := readPart_padded rest hmonth hmonth' (by omega)
  have hdays (rest : List Char) := readPart_padded rest hdayPos hday (by omega)
  have hhours (rest : List Char) : readPart 0 23 (Numeral.padded 2 t.hour ++ rest) = .ok (t.hour, rest) :=
    readPart_padded rest (by omega) (by omega) (by omega)
  have hminutes (rest : List Char) :
      readPart 0 59 (Numeral.padded 2 t.minute ++ rest) = .ok (t.minute, rest) :=
    readPart_padded rest (by omega) (by omega) (by omega)
  have hseconds (rest : List Char) :
      readPart 0 60 (Numeral.padded 2 t.second ++ rest) = .ok (t.second, rest) :=
    readPart_padded rest (by omega) hsecond (by omega)
  have hseparator (rest : List Char) : readSeparator ('T' :: rest) = .ok rest := rfl
  have hend : readOffset (Text.afterBlanks ['Z']) = .ok (0, []) := by decide
  simp only [read, chars, List.append_assoc, List.cons_append,
    readYear_chars _ t.date.year_ge t.date.year_le, bind, Except.bind, hdash, hcolon, hmonths, hdays,
    hseparator, hhours, hminutes, hseconds, readFraction_chars t.nanosecond_lt, hend]
  have hdone : (Text.afterBlanks []).isEmpty := rfl
  simp [hdone, t.date.of?_eq, ofLocal?_eq]

/-! ## Whole microseconds -/

theorem of_ofDay? {date : Date} {seconds nanosecond : Nat} {t : Timestamp}
    (h : ofDay? date seconds nanosecond = some t) : t.second < 60 ∧ t.nanosecond = nanosecond := by
  simp only [ofDay?, bind] at h
  split at h
  all_goals
    obtain ⟨day, -, h⟩ := Option.bind_eq_some_iff.1 h
    split_ifs at h
    cases h
    exact ⟨Nat.mod_lt _ (by decide), rfl⟩

/-- Outside a leap second a point in time is given by its date and the time since the start of the day. -/
theorem ofDay?_secondOfDay {t : Timestamp} (h : t.second < 60) :
    ofDay? t.date t.secondOfDay t.nanosecond = some t := by
  have hhour := t.hour_lt
  have hminute := t.minute_lt
  have hday : t.secondOfDay < 86400 := by
    unfold secondOfDay
    omega
  have hparts : t.secondOfDay / 3600 = t.hour ∧ t.secondOfDay % 3600 / 60 = t.minute ∧
      t.secondOfDay % 60 = t.second := by
    unfold secondOfDay
    omega
  simp [ofDay?, hday, Nat.mod_eq_of_lt hday, hparts, t.nanosecond_lt]

theorem toMicrosecond_eq_self {t : Timestamp} (hsecond : t.second < 60) (hwhole : t.nanosecond % 1000 = 0) :
    t.toMicrosecond = t := by
  have hlt := t.nanosecond_lt
  have hup : (t.nanosecond + 999) / 1000 = t.nanosecond / 1000 := by omega
  have hcarry : t.nanosecond / 1000 / 1000000 = 0 := by omega
  have hrest : t.nanosecond / 1000 % 1000000 * 1000 = t.nanosecond := by omega
  have hday := ofDay?_secondOfDay hsecond
  simp [toMicrosecond, smoothed?, hday, hup, hcarry, hrest]

/-- What is counted in whole microseconds has none of them in part, and is outside a leap second. -/
theorem toMicrosecond_toMicrosecond (t : Timestamp) : t.toMicrosecond.toMicrosecond = t.toMicrosecond := by
  generalize hcut : t.toMicrosecond = u
  rcases Option.getD_eq_iff.1 hcut with hcounted | ⟨-, rfl⟩
  · obtain ⟨v, -, hday⟩ := Option.bind_eq_some_iff.1 hcounted
    obtain ⟨hsecond, hnanosecond⟩ := of_ofDay? hday
    exact toMicrosecond_eq_self hsecond (hnanosecond ▸ Nat.mul_mod_left _ 1000)
  · exact hcut

end Timestamp
end Purse
