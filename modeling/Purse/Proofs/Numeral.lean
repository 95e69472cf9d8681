import Mathlib.Algebra.Ring.Nat
import Mathlib.Tactic.Common
import Purse.Numeral

/-!
# Numerals that are read back

The digits of a number stand for it, with or without zeros in front, and the first of them is a zero for
zero only. The numeral of an integer of 64 bits is read as that integer.
-/
namespace Purse.Numeral

variable {c : Char} {n : Nat}

theorem isDigit_of_mem_digits (h : c ∈ digits n) : c.isDigit :=
  Nat.isDigit_of_mem_toDigits (by decide) (by decide) h

theorem digits_ne_nil (n : Nat) : digits n ≠ [] := Nat.toDigits_ne_nil

theorem ofDigitChars_digits (n : Nat) : Nat.ofDigitChars 10 (digits n) 0 = n :=
  Nat.ofDigitChars_ten_toDigits

/-- No digit takes anything off a number. -/
theorem le_ofDigitChars (ds : List Char) (read : Nat) : read ≤ Nat.ofDigitChars 10 ds read := by
  rw [Nat.ofDigitChars_eq_ofDigitChars_zero]
  have := Nat.le_mul_of_pos_left read (Nat.pow_pos (n := ds.length) (show 0 < 10 by decide))
  omega

/-- Only zero begins with a zero. -/
theorem eq_zero_of_digits {cs : List Char} (h : digits n = '0' :: cs) : n = 0 := by
  induction n using Nat.strongRecOn generalizing cs with
  | ind n ih =>
      by_cases hn : n < 10
      · rw [digits, Nat.toDigits_of_lt_base hn] at h
        have hchar : n.digitChar = '0' := (List.cons.inj h).1
        clear ih h
        revert hchar
        decide +revert
      · rw [digits, Nat.toDigits_of_base_le (by decide) (Nat.le_of_not_lt hn)] at h
        cases hq : Nat.toDigits 10 (n / 10) with
        | nil => exact absurd hq Nat.toDigits_ne_nil
        | cons d ds =>
            rw [hq, List.cons_append] at h
            have hzero := ih (n / 10) (by omega) (hq.trans (congrArg (· :: ds) (List.cons.inj h).1))
            omega

/-! ## Zeros in front -/

theorem isDigit_of_mem_padded {width : Nat} (h : c ∈ padded width n) : c.isDigit := by
  rcases List.mem_append.1 h with hzero | hdigit
  · rw [List.eq_of_mem_replicate hzero]
    decide
  · exact isDigit_of_mem_digits hdigit

theorem ofDigitChars_padded (width n : Nat) : Nat.ofDigitChars 10 (padded width n) 0 = n := by
  rw [padded, Nat.ofDigitChars_append, Nat.ofDigitChars_replicate_zero, Nat.mul_zero,
    ofDigitChars_digits]

theorem length_padded {width : Nat} (hwidth : 0 < width) (h : n < 10 ^ width) :
    (padded width n).length = width := by
  have hdigits : (digits n).length ≤ width := (Nat.length_toDigits_le_iff (by decide) hwidth).2 h
  simp only [padded, List.length_append, List.length_replicate]
  omega

theorem padded_ne_nil (width n : Nat) : padded width n ≠ [] := by
  simp [padded, digits_ne_nil]

/-! ## Integers of 64 bits -/

theorem natural?_digits (n : Nat) : natural? (digits n) = some n := by
  have hall : (digits n).all Char.isDigit := List.all_eq_true.2 fun c hc => isDigit_of_mem_digits hc
  simp [natural?, hall, digits_ne_nil, ofDigitChars_digits]

theorem mem_signed {i : Int} (h : c ∈ signed i) : c.isDigit ∨ c = '-' := by
  cases i with
  | ofNat n => exact .inl (isDigit_of_mem_digits h)
  | negSucc n =>
      rcases List.mem_cons.1 h with rfl | h
      · exact .inr rfl
      · exact .inl (isDigit_of_mem_digits h)

/-- The numeral of an integer begins with a digit or a minus sign. -/
theorem signed_eq_cons (i : Int) : ∃ c cs, signed i = c :: cs ∧ (c.isDigit ∨ c = '-') := by
  cases i with
  | ofNat n =>
      obtain ⟨c, cs, hdigits⟩ := List.exists_cons_of_ne_nil (digits_ne_nil n)
      exact ⟨c, cs, hdigits, .inl (isDigit_of_mem_digits (hdigits ▸ List.mem_cons_self))⟩
  | negSucc n => exact ⟨'-', digits (n + 1), rfl, .inr rfl⟩

theorem isWord_iff {i : Int} : isWord i ↔ -9223372036854775808 ≤ i ∧ i ≤ 9223372036854775807 := by
  rw [isWord, Bool.and_eq_true, decide_eq_true_eq, decide_eq_true_eq]
  exact Iff.rfl

theorem word?_signed {i : Int} (h : isWord i) : word? (signed i) = some i := by
  have hnatural (n : Nat) : word? (digits n) = ((some (n : Int)).filter isWord) := by
    cases hd : digits n with
    | nil => exact absurd hd (digits_ne_nil n)
    | cons d ds =>
        have hdigit : d.isDigit := isDigit_of_mem_digits (hd ▸ List.mem_cons_self)
        have hminus : d ≠ '-' := by
          rintro rfl
          cases hdigit
        have hplus : d ≠ '+' := by
          rintro rfl
          cases hdigit
        unfold word?
        split
        · simp_all
        · simp_all
        · rw [← hd, natural?_digits]
          rfl
  cases i with
  | ofNat n =>
      rw [signed, hnatural]
      simpa using h
  | negSucc n =>
      simp only [signed, word?, natural?_digits]
      simpa [Int.negSucc_eq] using h

end Purse.Numeral
