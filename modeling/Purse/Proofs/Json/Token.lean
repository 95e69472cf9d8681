import Mathlib.Tactic.Common
import Purse.Json
import Purse.Json.Lexeme
import Purse.Proofs.Numeral
import Purse.Proofs.Uuid

/-!
# Tokens that are read back

A string that was written with its escapes is read as the characters that it was written for. A number
that was written for an integer of 64 bits is read as written, if no digit, point or exponent follows it.
-/
namespace Purse.Json

/-- Whether a text may follow a value: it is empty, or begins with a comma or a closing bracket or brace. -/
def Closes : List Char → Prop
  | [] => True
  | c :: _ => c = ',' ∨ c = ']' ∨ c = '\x7d'

theorem afterBlanks_cons {c : Char} (h : isBlank c = false) (cs : List Char) :
    afterBlanks (c :: cs) = c :: cs := by
  rw [afterBlanks, List.dropWhile_cons_of_neg (by simp [h])]

theorem Closes.afterBlanks_eq {rest : List Char} (h : Closes rest) : afterBlanks rest = rest := by
  cases rest with
  | nil => rfl
  | cons c cs =>
      refine afterBlanks_cons ?_ cs
      rcases h with rfl | rfl | rfl <;> decide

theorem afterColon_colon (cs : List Char) : afterColon (':' :: cs) = .ok cs := by
  simp [afterColon, afterBlanks_cons (by decide : isBlank ':' = false)]

/-- What follows a value does not go on with a number. -/
theorem Closes.not_numeral {rest : List Char} (h : Closes rest) {c : Char} {cs : List Char}
    (hrest : rest = c :: cs) : c.isDigit = false ∧ c ≠ '.' ∧ c ≠ 'e' ∧ c ≠ 'E' := by
  subst hrest
  rcases h with rfl | rfl | rfl <;> decide

/-! ## Strings -/

theorem hexWord?_hexChar (a b c d : Fin 16) :
    hexWord? (hexChar a) (hexChar b) (hexChar c) (hexChar d) =
      some (((a.val * 16 + b.val) * 16 + c.val) * 16 + d.val) := by
  simp only [hexWord?, hexDigit?_hexChar, bind, Option.bind_some]

/-! The escape of a control character is its number, which is no half of a surrogate pair. -/

section Control
variable {n : Nat} (h : n < 32)
include h

theorem hexWord?_control :
    hexWord? '0' '0' (hexChar (lastHexDigit (n / 16))) (hexChar (lastHexDigit n)) = some n := by
  have hhex := hexWord?_hexChar 0 0 (lastHexDigit (n / 16)) (lastHexDigit n)
  have hvalue : ((0 * 16 + 0) * 16 + n / 16 % 16) * 16 + n % 16 = n := by omega
  exact hhex.trans (congrArg some hvalue)

theorem isLowSurrogate_control : isLowSurrogate n = false := by
  simp only [isLowSurrogate, Bool.and_eq_false_iff, decide_eq_false_iff_not]
  omega

theorem isHighSurrogate_control : isHighSurrogate n = false := by
  simp only [isHighSurrogate, Bool.and_eq_false_iff, decide_eq_false_iff_not]
  omega

end Control

theorem readString_escape (c : Char) (read rest : List Char) :
    readString read (escape c ++ rest) = readString (c :: read) rest := by
  unfold escape
  split_ifs with hquote hbackslash hbackspace htab hnewline hfeed hreturn hcontrol
  · subst hquote
    simp [readString, shortEscape?]
  · subst hbackslash
    simp [readString, shortEscape?]
  · obtain rfl : c = Char.ofNat 8 := by rw [← hbackspace, Char.ofNat_toNat]
    simp [readString, shortEscape?]
  · subst htab
    simp [readString, shortEscape?]
  · subst hnewline
    simp [readString, shortEscape?]
  · obtain rfl : c = Char.ofNat 12 := by rw [← hfeed, Char.ofNat_toNat]
    simp [readString, shortEscape?]
  · subst hreturn
    simp [readString, shortEscape?]
  · simp only [List.cons_append, List.nil_append, readString, hexWord?_control hcontrol,
      isLowSurrogate_control hcontrol, isHighSurrogate_control hcontrol, Bool.false_eq_true, if_false,
      Char.ofNat_toNat]
  · rw [List.singleton_append, readString]
    · rw [if_neg hbackslash, if_neg hcontrol]
    all_goals simp_all

theorem readString_escaped (cs read rest : List Char) :
    readString read (cs.flatMap escape ++ '"' :: rest) = .ok (read.reverse ++ cs, rest) := by
  induction cs generalizing read with
  | nil => simp [readString]
  | cons c cs ih =>
      rw [List.flatMap_cons, List.append_assoc, readString_escape, ih]
      simp

theorem readString_quoted (s : String) (rest : List Char) :
    readString [] (s.toList.flatMap escape ++ '"' :: rest) = .ok (s.toList, rest) :=
  readString_escaped s.toList [] rest

/-! ## Numbers -/

theorem takeWhile_digits {ds rest : List Char} (hdigits : ∀ c ∈ ds, c.isDigit)
    (hrest : ∀ c cs, rest = c :: cs → c.isDigit = false) :
    (ds ++ rest).takeWhile Char.isDigit = ds := by
  rw [List.takeWhile_append_of_pos hdigits]
  cases rest with
  | nil => simp
  | cons c cs => simp [hrest c cs rfl]

theorem readWhole_digits (n : Nat) {rest : List Char} (hrest : Closes rest) (atEnd : Malformation) :
    readWhole atEnd (Numeral.digits n ++ rest) = .ok (Numeral.digits n, rest) := by
  have hstop (c : Char) (cs : List Char) (h : rest = c :: cs) := (hrest.not_numeral h).1
  have hrun := takeWhile_digits (fun _ => Numeral.isDigit_of_mem_digits (n := n)) hstop
  cases hd : Numeral.digits n with
  | nil => exact absurd hd (Numeral.digits_ne_nil n)
  | cons d ds =>
      by_cases hzero : d = '0'
      · subst hzero
        obtain rfl := Numeral.eq_zero_of_digits hd
        obtain rfl : [] = ds := (List.cons.inj hd).2
        have hnext : (rest.head?.map Char.isDigit).getD false = false := by
          cases rest with
          | nil => rfl
          | cons c cs => exact hstop c cs rfl
        simp [readWhole, hnext]
      · rw [hd] at hrun
        have hread : readWhole atEnd (d :: ds ++ rest) =
            if (d :: ds).isEmpty then .error (noDigit atEnd (d :: ds ++ rest))
            else .ok (d :: ds, (d :: ds ++ rest).drop (d :: ds).length) := by
          rw [List.cons_append] at hrun ⊢
          rw [readWhole, hrun]
          exact fun _ h => hzero (List.cons.inj h).1
        rw [hread, List.drop_left]
        rfl

theorem chars_ofInt (n : Int) : (Number.ofInt n).chars = Numeral.signed n := by
  cases n with
  | ofNat n => simp [Number.chars, Number.ofInt, Numeral.signed]
  | negSucc n => simp [Number.chars, Number.ofInt, Numeral.signed]

theorem readNumeral_signed (n : Int) {rest : List Char} (hrest : Closes rest) (atEnd : Malformation) :
    readNumeral atEnd (Numeral.signed n ++ rest) = .ok (Number.ofInt n, rest) := by
  have hfraction : readFraction atEnd rest = .ok ([], rest) := by
    cases rest with
    | nil => rfl
    | cons c cs =>
        rw [readFraction]
        exact fun _ h => (hrest.not_numeral rfl).2.1 (List.cons.inj h).1
  have hexponent : readExponent atEnd rest = .ok (none, rest) := by
    cases rest with
    | nil => rfl
    | cons c cs =>
        have hnot := hrest.not_numeral rfl
        simp [readExponent, hnot.2.2.1, hnot.2.2.2]
  have hwhole := readWhole_digits n.natAbs hrest atEnd
  cases n with
  | ofNat n =>
      change readWhole atEnd (Numeral.digits n ++ rest) = .ok (Numeral.digits n, rest) at hwhole
      cases hd : Numeral.digits n with
      | nil => exact absurd hd (Numeral.digits_ne_nil n)
      | cons d ds =>
          have hminus : d ≠ '-' := by
            rintro rfl
            cases Numeral.isDigit_of_mem_digits (hd ▸ List.mem_cons_self)
          rw [hd] at hwhole
          simp only [Numeral.signed, hd]
          rw [List.cons_append] at hwhole ⊢
          simp [readNumeral, hminus, hwhole, hfraction, hexponent, bind, Except.bind, Number.ofInt, hd]
  | negSucc n =>
      change readWhole atEnd (Numeral.digits (n + 1) ++ rest) = _ at hwhole
      simp only [readNumeral, Numeral.signed, List.cons_append, hwhole]
      simp [hfraction, hexponent, bind, Except.bind, Number.ofInt]

/-! An integer of 64 bits is in the range of doubles. -/

namespace Number

theorem takeDigits_of_lt {ds : List Char} {kept : Nat} (h : Nat.ofDigitChars 10 ds kept < wordLimit) :
    takeDigits kept ds = (Nat.ofDigitChars 10 ds kept, 0) := by
  induction ds generalizing kept with
  | nil => rfl
  | cons d ds ih =>
      rw [Nat.ofDigitChars_cons] at h ⊢
      rw [takeDigits, if_pos (Nat.lt_of_le_of_lt (Numeral.le_ofDigitChars ds _) h)]
      exact ih h

theorem roundToDouble_le (n : Nat) : roundToDouble n ≤ 2 * n := by
  unfold roundToDouble
  dsimp only
  split_ifs with hsmall hup
  · omega
  all_goals
    have hn : n ≠ 0 := by
      rintro rfl
      exact hsmall (by decide)
    have hunit : Nat.pow 2 (n.log2 + 1 - 53) ≤ n := by
      have hexponent : n.log2 + 1 - 53 ≤ n.log2 := by omega
      exact Nat.le_trans (Nat.pow_le_pow_right (by decide) hexponent) (Nat.log2_self_le hn)
    have hlow := Nat.div_mul_le_self n (Nat.pow 2 (n.log2 + 1 - 53))
  · rw [Nat.add_mul]
    omega
  · omega

theorem significand_ofInt {n : Int} (h : n.natAbs < wordLimit) : (ofInt n).significand = (n.natAbs, 0) := by
  have hvalue := Numeral.ofDigitChars_digits n.natAbs
  have htake : takeDigits 0 (Numeral.digits n.natAbs) = (n.natAbs, 0) := by
    rw [takeDigits_of_lt (hvalue.symm ▸ h), hvalue]
  simp [significand, ofInt, htake, takeDigits]

theorem overflows_ofInt {n : Int} (h : n.natAbs < wordLimit) : (ofInt n).overflows = false := by
  have hround : roundToDouble (roundToDouble n.natAbs * roundToDouble 1) ≤ 4 * n.natAbs := by
    have hone : roundToDouble 1 = 1 := rfl
    rw [hone, Nat.mul_one]
    have h₁ := roundToDouble_le n.natAbs
    have h₂ := roundToDouble_le (roundToDouble n.natAbs)
    omega
  have hlimit : 4 * wordLimit ≤ doubleLimit := by decide +kernel
  have hbelow : ¬ doubleLimit ≤ roundToDouble (roundToDouble n.natAbs * roundToDouble 1) :=
    Nat.not_le.2 (Nat.lt_of_le_of_lt hround (Nat.lt_of_lt_of_le (by omega) hlimit))
  unfold overflows
  rw [significand_ofInt h]
  change (if _ then false else if _ then true else decide (doubleLimit ≤
    roundToDouble (roundToDouble n.natAbs * roundToDouble 1))) = false
  rw [decide_eq_false hbelow, if_neg (by decide : ¬ (308 : Int) < 0), ite_self]

theorem integer?_ofInt (n : Int) : (ofInt n).integer? = some n := by
  have hvalue := Numeral.ofDigitChars_digits n.natAbs
  simp only [integer?, ofInt, hvalue, List.isEmpty_nil, Option.isNone_none, Bool.and_self, if_true]
  by_cases hn : n < 0
  · have hsize : n.natAbs ≠ 0 := by omega
    have hminus : -(n.natAbs : Int) = n := by omega
    simp only [hn, decide_true, if_true, if_neg hsize, hminus]
  · have hplus : (n.natAbs : Int) = n := by omega
    simp only [hn, decide_false, Bool.false_eq_true, if_false, hplus]

theorem kept?_ofInt {n : Int} (h : Numeral.isWord n) : (ofInt n).kept? = some n := by
  rw [Numeral.isWord_iff] at h
  rw [kept?, integer?_ofInt, Option.filter_some, if_pos]
  rw [Bool.and_eq_true, decide_eq_true_eq, decide_eq_true_eq, Numeral.minWord, wordLimit]
  omega

end Number

theorem readNumber_signed {n : Int} (h : Numeral.isWord n) {rest : List Char} (hrest : Closes rest) :
    readNumber (Numeral.signed n ++ rest) = .ok (Number.ofInt n, rest) := by
  have hsize : n.natAbs < Number.wordLimit := by
    rw [Numeral.isWord_iff] at h
    rw [Number.wordLimit]
    omega
  simp [readNumber, readNumeral_signed n hrest, bind, Except.bind, Number.overflows_ofInt hsize]

end Purse.Json
