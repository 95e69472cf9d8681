import Purse.Json.Skip
import Purse.Proofs.Json.Token

/-!
# The grammar of JSON texts

What a JSON text is, without any reader: blanks may stand between all tokens, a string may hold any
escape that is well formed, a number may have any size, and values may be nested to any depth. The text
of a value has no blanks around it.

Every such text is passed over as one value, whatever follows it, if that does not go on with a number.
-/
namespace Purse.Json

/-- Any number of blanks. -/
def Blanks (bs : List Char) : Prop := ∀ c ∈ bs, isBlank c = true

theorem blanks_nil : Blanks [] := fun _ h => nomatch h

/-- Whether a text may follow a value or a key, blanks included. -/
def Ends : List Char → Prop
  | [] => True
  | c :: _ => isBlank c = true ∨ c = ',' ∨ c = ':' ∨ c = ']' ∨ c = '\x7d'

/-! ## Strings and numbers -/

/-- Stands for itself in a string. -/
def IsBare (c : Char) : Prop := c ≠ '"' ∧ c ≠ '\\' ∧ 32 ≤ c.toNat

instance : DecidablePred IsBare := fun _ => inferInstanceAs (Decidable (_ ∧ _))

theorem bare_of_all {cs : List Char} (h : (cs.all fun c => decide (IsBare c)) = true) : ∀ c ∈ cs, IsBare c :=
  fun c hc => of_decide_eq_true (List.all_eq_true.1 h c hc)

/-- What may stand between the quotes of a string. -/
inductive IsText : List Char → Prop
  | nil : IsText []
  | plain {c : Char} {cs : List Char} : IsBare c → IsText cs → IsText (c :: cs)
  | short {c : Char} {cs : List Char} : (shortEscape? c).isSome → IsText cs → IsText ('\\' :: c :: cs)
  | hex {a b c d : Char} {cs : List Char} : (hexWord? a b c d).isSome → IsText cs →
      IsText ('\\' :: 'u' :: a :: b :: c :: d :: cs)

/-- One digit or more. -/
def IsDigits (ds : List Char) : Prop := ds ≠ [] ∧ ∀ d ∈ ds, d.isDigit = true

/-- The digits before the point, without leading zeros. -/
inductive IsWhole : List Char → Prop
  | zero : IsWhole ['0']
  | digits {d : Char} {ds : List Char} : IsDigits (d :: ds) → d ≠ '0' → IsWhole (d :: ds)

inductive IsFraction : List Char → Prop
  | none : IsFraction []
  | point {ds : List Char} : IsDigits ds → IsFraction ('.' :: ds)

inductive IsExponent : List Char → Prop
  | none : IsExponent []
  | unsigned {e : Char} {ds : List Char} : e = 'e' ∨ e = 'E' → IsDigits ds → IsExponent (e :: ds)
  | signed {e sign : Char} {ds : List Char} : e = 'e' ∨ e = 'E' → sign = '+' ∨ sign = '-' → IsDigits ds →
      IsExponent (e :: sign :: ds)

inductive IsUnsigned : List Char → Prop
  | intro {whole fraction exponent : List Char} : IsWhole whole → IsFraction fraction →
      IsExponent exponent → IsUnsigned (whole ++ (fraction ++ exponent))

inductive IsNumber : List Char → Prop
  | positive {cs : List Char} : IsUnsigned cs → IsNumber cs
  | negative {cs : List Char} : IsUnsigned cs → IsNumber ('-' :: cs)

/-! ## Values -/

/-- What a part of a text is: a value, or the items of an array, or the members of an object. -/
inductive Part where
  | value
  | items
  | members

/-- The texts of each sort. Items and members end where the last value ends. -/
inductive Written : Part → List Char → Prop
  | wordNull : Written .value ['n', 'u', 'l', 'l']
  | wordTrue : Written .value ['t', 'r', 'u', 'e']
  | wordFalse : Written .value ['f', 'a', 'l', 's', 'e']
  | number {cs : List Char} : IsNumber cs → Written .value cs
  | text {cs : List Char} : IsText cs → Written .value ('"' :: (cs ++ ['"']))
  | emptyArray {bs : List Char} : Blanks bs → Written .value ('[' :: (bs ++ [']']))
  | array {cs bs : List Char} : Written .items cs → Blanks bs → Written .value ('[' :: (cs ++ (bs ++ [']'])))
  | emptyObject {bs : List Char} : Blanks bs → Written .value ('\x7b' :: (bs ++ ['\x7d']))
  | object {cs bs : List Char} : Written .members cs → Blanks bs →
      Written .value ('\x7b' :: (cs ++ (bs ++ ['\x7d'])))
  | lastItem {bs v : List Char} : Blanks bs → Written .value v → Written .items (bs ++ v)
  | item {bs v as cs : List Char} : Blanks bs → Written .value v → Blanks as → Written .items cs →
      Written .items (bs ++ (v ++ (as ++ ',' :: cs)))
  | lastMember {bs key as ds v : List Char} : Blanks bs → IsText key → Blanks as → Blanks ds →
      Written .value v → Written .members (bs ++ '"' :: (key ++ '"' :: (as ++ ':' :: (ds ++ v))))
  | member {bs key as ds v es cs : List Char} : Blanks bs → IsText key → Blanks as → Blanks ds →
      Written .value v → Blanks es → Written .members cs →
      Written .members (bs ++ '"' :: (key ++ '"' :: (as ++ ':' :: (ds ++ (v ++ (es ++ ',' :: cs))))))

/-- The text of one value of any sort. -/
abbrev IsValue : List Char → Prop := Written .value

/-! ## Blanks -/

theorem afterBlanks_append {bs : List Char} (h : Blanks bs) (cs : List Char) :
    afterBlanks (bs ++ cs) = afterBlanks cs := by
  induction bs with
  | nil => rfl
  | cons b bs ih =>
      rw [List.cons_append, afterBlanks, List.dropWhile_cons_of_pos (h b List.mem_cons_self)]
      exact ih fun c hc => h c (List.mem_cons_of_mem b hc)

theorem afterBlanks_of_append {bs : List Char} (h : Blanks bs) {c : Char} (hc : isBlank c = false)
    (cs : List Char) : afterBlanks (bs ++ c :: cs) = c :: cs := by
  rw [afterBlanks_append h, afterBlanks_cons hc]

theorem afterColon_append {bs : List Char} (h : Blanks bs) (cs : List Char) :
    afterColon (bs ++ ':' :: cs) = .ok cs := by
  simp [afterColon, afterBlanks_of_append h (by decide : isBlank ':' = false)]

theorem ends_append {bs : List Char} (h : Blanks bs) {cs : List Char} (hcs : Ends cs) : Ends (bs ++ cs) := by
  cases bs with
  | nil => exact hcs
  | cons b bs => exact .inl (h b List.mem_cons_self)

/-- What follows a value does not go on with a number. -/
theorem Ends.not_numeral {c : Char} {cs : List Char} (h : Ends (c :: cs)) :
    c.isDigit = false ∧ c ≠ '.' ∧ c ≠ 'e' ∧ c ≠ 'E' := by
  rcases h with h | rfl | rfl | rfl | rfl
  · simp only [isBlank, Bool.or_eq_true, decide_eq_true_eq] at h
    rcases h with ((rfl | rfl) | rfl) | rfl <;> decide
  all_goals decide

theorem Ends.not_digit {rest : List Char} (h : Ends rest) : ∀ c cs, rest = c :: cs → c.isDigit = false := by
  rintro c cs rfl
  exact h.not_numeral.1

/-! ## Tokens -/

theorem shortEscape?_isSome {c : Char} (h : (shortEscape? c).isSome) :
    c = '"' ∨ c = '\\' ∨ c = '/' ∨ c = 'b' ∨ c = 'f' ∨ c = 'n' ∨ c = 'r' ∨ c = 't' := by
  unfold shortEscape? at h
  split at h <;> simp_all

theorem afterString_text {cs : List Char} (h : IsText cs) (rest : List Char) :
    afterString (cs ++ '"' :: rest) = .ok rest := by
  induction h with
  | nil => rfl
  | @plain c cs hplain _ ih =>
      rw [List.cons_append, afterString]
      · rw [if_neg hplain.2.1, if_neg (Nat.not_lt.2 hplain.2.2), ih]
      all_goals simp_all [IsBare]
  | @short c cs hshort _ ih =>
      rcases shortEscape?_isSome hshort with rfl | rfl | rfl | rfl | rfl | rfl | rfl | rfl <;>
        simpa [afterString, shortEscape?] using ih
  | @hex a b c d cs hhex _ ih =>
      obtain ⟨n, hn⟩ := Option.isSome_iff_exists.1 hhex
      simpa [afterString, hn] using ih

section Numbers
variable {ds rest : List Char} {atEnd : Malformation}

theorem readWhole_whole (h : IsWhole ds) (hrest : ∀ c cs, rest = c :: cs → c.isDigit = false)
    (atEnd : Malformation) : readWhole atEnd (ds ++ rest) = .ok (ds, rest) := by
  cases h with
  | zero =>
      have hnext : (rest.head?.map Char.isDigit).getD false = false := by
        cases rest with
        | nil => rfl
        | cons c cs => exact hrest c cs rfl
      simp [readWhole, hnext]
  | @digits d ds hdigits hzero =>
      have hrun := takeWhile_digits hdigits.2 hrest
      rw [List.cons_append] at hrun ⊢
      rw [readWhole, hrun]
      · have hdrop : (d :: (ds ++ rest)).drop (d :: ds).length = rest := List.drop_left
        rw [hdrop]
        rfl
      · exact fun _ heq => hzero (List.cons.inj heq).1

/-- A run of digits is taken as a whole. -/
theorem takeRun (h : IsDigits ds) (hrest : ∀ c cs, rest = c :: cs → c.isDigit = false) :
    (ds ++ rest).takeWhile Char.isDigit = ds ∧ ds.isEmpty = false ∧ (ds ++ rest).drop ds.length = rest :=
  ⟨takeWhile_digits h.2 hrest, List.isEmpty_eq_false_iff.2 h.1, List.drop_left⟩

theorem readFraction_fraction (h : IsFraction ds)
    (hrest : ∀ c cs, rest = c :: cs → c.isDigit = false ∧ c ≠ '.') (atEnd : Malformation) :
    readFraction atEnd (ds ++ rest) = .ok (ds.tail, rest) := by
  cases h with
  | none =>
      cases rest with
      | nil => rfl
      | cons c cs =>
          rw [List.nil_append, readFraction]
          · rfl
          · exact fun _ heq => (hrest c cs rfl).2 (List.cons.inj heq).1
  | @point ds hdigits =>
      obtain ⟨hrun, hempty, hdrop⟩ := takeRun hdigits fun c cs heq => (hrest c cs heq).1
      simp [readFraction, hrun, hempty, hdrop]

theorem readExponent_exponent (h : IsExponent ds) :
    ∃ exponent, ∀ rest, Ends rest → ∀ atEnd, readExponent atEnd (ds ++ rest) = .ok (exponent, rest) := by
  cases h with
  | none =>
      refine ⟨none, fun rest hrest atEnd => ?_⟩
      cases rest with
      | nil => rfl
      | cons c cs =>
          have hnot := hrest.not_numeral
          simp [readExponent, hnot.2.2.1, hnot.2.2.2]
  | @unsigned e ds he hdigits =>
      refine ⟨some ⟨false, ds⟩, fun rest hrest atEnd => ?_⟩
      obtain ⟨hrun, hempty, hdrop⟩ := takeRun hdigits hrest.not_digit
      -- A digit is no sign.
      obtain ⟨d, ds, rfl⟩ := List.exists_cons_of_ne_nil hdigits.1
      have hd := hdigits.2 d List.mem_cons_self
      have hplus : d ≠ '+' := by rintro rfl; cases hd
      have hminus : d ≠ '-' := by rintro rfl; cases hd
      rw [List.cons_append] at hrun hdrop
      rcases he with rfl | rfl <;> simp [readExponent, hplus, hminus, hrun]
  | @signed e sign ds he hsign hdigits =>
      refine ⟨some ⟨decide (sign = '-'), ds⟩, fun rest hrest atEnd => ?_⟩
      obtain ⟨hrun, hempty, hdrop⟩ := takeRun hdigits hrest.not_digit
      rcases he with rfl | rfl <;> rcases hsign with rfl | rfl <;>
        simp [readExponent, hrun, hempty, hdrop]

/-- The fraction and the exponent do not begin with a digit, and the exponent not with a point. -/
theorem IsExponent.not_numeral (h : IsExponent ds) (hrest : Ends rest) :
    ∀ c cs, ds ++ rest = c :: cs → c.isDigit = false ∧ c ≠ '.' := by
  intro c cs heq
  cases h with
  | none =>
      rw [List.nil_append] at heq
      have hnot := (heq ▸ hrest : Ends (c :: cs)).not_numeral
      exact ⟨hnot.1, hnot.2.1⟩
  | unsigned he _ =>
      obtain rfl := (List.cons.inj heq).1
      rcases he with rfl | rfl <;> decide
  | signed he _ _ =>
      obtain rfl := (List.cons.inj heq).1
      rcases he with rfl | rfl <;> decide

theorem IsFraction.not_digit (h : IsFraction ds)
    (hrest : ∀ c cs, rest = c :: cs → c.isDigit = false ∧ c ≠ '.') :
    ∀ c cs, ds ++ rest = c :: cs → c.isDigit = false := by
  intro c cs heq
  cases h with
  | none => exact (hrest c cs heq).1
  | point _ =>
      obtain rfl := (List.cons.inj heq).1
      decide

theorem IsUnsigned.cons (h : IsUnsigned ds) : ∃ d cs, ds = d :: cs ∧ d.isDigit = true := by
  obtain ⟨hwhole, -, -⟩ := h
  cases hwhole with
  | zero => exact ⟨'0', _, rfl, by decide⟩
  | digits hdigits _ => exact ⟨_, _, rfl, hdigits.2 _ List.mem_cons_self⟩

theorem IsUnsigned.read (h : IsUnsigned ds) : ∃ whole fraction exponent, ∀ rest, Ends rest → ∀ atEnd,
    ∃ cs₁ cs₂, readWhole atEnd (ds ++ rest) = .ok (whole, cs₁) ∧
      readFraction atEnd cs₁ = .ok (fraction, cs₂) ∧ readExponent atEnd cs₂ = .ok (exponent, rest) := by
  obtain @⟨whole, fraction, exponent, hwhole, hfraction, hexponent⟩ := h
  obtain ⟨e, he⟩ := readExponent_exponent hexponent
  refine ⟨whole, fraction.tail, e, fun rest hrest atEnd => ?_⟩
  refine ⟨fraction ++ (exponent ++ rest), exponent ++ rest, ?_, ?_, he rest hrest atEnd⟩
  · rw [List.append_assoc, List.append_assoc]
    exact readWhole_whole hwhole (hfraction.not_digit (hexponent.not_numeral hrest)) atEnd
  · exact readFraction_fraction hfraction (hexponent.not_numeral hrest) atEnd

/-- A number is read as the same one whatever follows it. -/
theorem IsNumber.read (h : IsNumber ds) :
    ∃ n, ∀ rest, Ends rest → ∀ atEnd, readNumeral atEnd (ds ++ rest) = .ok (n, rest) := by
  cases h with
  | positive h =>
      obtain ⟨d, cs, rfl, hd⟩ := h.cons
      have hminus : d ≠ '-' := by rintro rfl; cases hd
      obtain ⟨whole, fraction, exponent, hread⟩ := h.read
      refine ⟨⟨false, whole, fraction, exponent⟩, fun rest hrest atEnd => ?_⟩
      obtain ⟨cs₁, cs₂, hwhole, hfraction, hexponent⟩ := hread rest hrest atEnd
      rw [List.cons_append] at hwhole ⊢
      simp [readNumeral, hminus, hwhole, hfraction, hexponent, bind, Except.bind]
  | negative h =>
      obtain ⟨whole, fraction, exponent, hread⟩ := h.read
      refine ⟨⟨true, whole, fraction, exponent⟩, fun rest hrest atEnd => ?_⟩
      obtain ⟨cs₁, cs₂, hwhole, hfraction, hexponent⟩ := hread rest hrest atEnd
      simp [readNumeral, hwhole, hfraction, hexponent, bind, Except.bind]

theorem IsNumber.cons (h : IsNumber ds) : ∃ c cs, ds = c :: cs ∧ (c = '-' ∨ c.isDigit = true) := by
  cases h with
  | positive h =>
      obtain ⟨d, cs, rfl, hd⟩ := h.cons
      exact ⟨d, cs, rfl, .inr hd⟩
  | negative h => exact ⟨'-', _, rfl, .inl rfl⟩

end Numbers

/-! ## Passing over a value -/

/-- What the first character of a number is not. -/
theorem ne_of_numeral {c : Char} (h : c = '-' ∨ c.isDigit = true) :
    isBlank c = false ∧ c ≠ 'n' ∧ c ≠ 't' ∧ c ≠ 'f' ∧ c ≠ '"' ∧ c ≠ '[' ∧ c ≠ ']' ∧ c ≠ '\x7b' ∧
      c ≠ '\x7d' ∧ c ≠ ',' := by
  rcases h with rfl | hd
  · decide
  · refine ⟨?_, ?_, ?_, ?_, ?_, ?_, ?_, ?_, ?_, ?_⟩
    · rw [Bool.eq_false_iff]
      intro hblank
      simp only [isBlank, Bool.or_eq_true, decide_eq_true_eq] at hblank
      rcases hblank with ((rfl | rfl) | rfl) | rfl <;> cases hd
    all_goals
      rintro rfl
      cases hd

/-- A value begins with something that is no blank and closes nothing. -/
theorem Written.value_cons {v : List Char} (h : IsValue v) :
    ∃ c cs, v = c :: cs ∧ isBlank c = false ∧ c ≠ ']' ∧ c ≠ '\x7d' ∧ c ≠ ',' := by
  cases h with
  | number h =>
      obtain ⟨c, cs, rfl, hc⟩ := h.cons
      have hnot := ne_of_numeral hc
      exact ⟨c, cs, rfl, hnot.1, hnot.2.2.2.2.2.2.1, hnot.2.2.2.2.2.2.2.2⟩
  | wordNull | wordTrue | wordFalse | text | emptyArray | array | emptyObject | object =>
      exact ⟨_, _, rfl, by decide⟩

theorem Written.afterBlanks_value {v : List Char} (h : IsValue v) (rest : List Char) :
    afterBlanks (v ++ rest) = v ++ rest := by
  obtain ⟨c, cs, rfl, hc, -⟩ := h.value_cons
  exact afterBlanks_cons hc _

/-- Items begin with those blanks and then with the first value. -/
theorem Written.items_cons {cs : List Char} (h : Written .items cs) (rest : List Char) :
    ∃ c ds, afterBlanks (cs ++ rest) = c :: ds ∧ c ≠ ']' := by
  cases h with
  | lastItem hbs hv | item hbs hv _ _ =>
      rw [List.append_assoc, afterBlanks_append hbs]
      obtain ⟨c, ds, rfl, hc, hne, -⟩ := hv.value_cons
      exact ⟨c, _, afterBlanks_cons hc _, hne⟩

theorem Written.members_cons {cs : List Char} (h : Written .members cs) (rest : List Char) :
    ∃ ds, afterBlanks (cs ++ rest) = '"' :: ds := by
  cases h with
  | lastMember hbs | member hbs =>
      rw [List.append_assoc, afterBlanks_append hbs]
      exact ⟨_, afterBlanks_cons (by decide) _⟩

/-- Whether the part is passed over with enough steps, whatever follows it. -/
def Part.Skips : Part → List Char → Prop
  | .value, v => ∀ steps rest, 2 * v.length ≤ steps → Ends rest → skipValue steps (v ++ rest) = .ok rest
  | .items, cs => ∀ steps bs rest, 2 * cs.length < steps → Blanks bs →
      skipItems steps (cs ++ (bs ++ ']' :: rest)) = .ok rest
  | .members, cs => ∀ steps bs rest, 2 * cs.length < steps → Blanks bs →
      skipMembers steps (cs ++ (bs ++ '\x7d' :: rest)) = .ok rest

section Shapes
variable {bs key as ds v es cs : List Char}

theorem skipValue_append (h : Blanks bs) {steps : Nat} (hsteps : 0 < steps) (cs : List Char) :
    skipValue steps (bs ++ cs) = skipValue steps cs := by
  obtain ⟨n, rfl⟩ := Nat.exists_eq_add_of_lt hsteps
  rw [skipValue, skipValue, afterBlanks_append h]

theorem Written.length_pos (h : IsValue v) : 0 < v.length := by
  obtain ⟨c, cs, rfl, -⟩ := h.value_cons
  exact Nat.succ_pos _

/-- One of the steps is taken, and the part that is left for the others is shorter. -/
theorem exists_step {n steps : Nat} (h : n < steps) : ∃ k, steps = k + 1 ∧ n ≤ k :=
  ⟨steps - 1, by omega, by omega⟩

theorem IsNumber.skips (h : IsNumber cs) : Part.value.Skips cs := by
  intro steps rest hsteps hrest
  obtain ⟨n, hn⟩ := h.read
  obtain ⟨c, ds, rfl, hc⟩ := h.cons
  obtain ⟨k, rfl, -⟩ := exists_step (Nat.lt_of_lt_of_le (by simp) hsteps : 0 < steps)
  have hnot := ne_of_numeral hc
  have hread := hn rest hrest .badNumber
  rw [List.cons_append] at hread ⊢
  rw [skipValue, afterBlanks_cons hnot.1]
  simp [hnot, hc, hread, Except.map]

theorem IsText.skips (h : IsText cs) : Part.value.Skips ('"' :: (cs ++ ['"'])) := by
  intro steps rest hsteps _
  obtain ⟨k, rfl, -⟩ := exists_step (Nat.lt_of_lt_of_le (by simp) hsteps : 0 < steps)
  have hstring := afterString_text h rest
  rw [List.cons_append, List.append_assoc, skipValue, afterBlanks_cons (by decide)]
  simpa using hstring

theorem skips_emptyArray (hbs : Blanks bs) : Part.value.Skips ('[' :: (bs ++ [']'])) := by
  intro steps rest hsteps _
  obtain ⟨k, rfl, -⟩ := exists_step (Nat.lt_of_lt_of_le (by simp) hsteps : 0 < steps)
  have hclose := afterBlanks_of_append hbs (by decide : isBlank ']' = false) rest
  rw [List.cons_append, List.append_assoc, skipValue, afterBlanks_cons (by decide)]
  simp [hclose]

theorem skips_emptyObject (hbs : Blanks bs) : Part.value.Skips ('\x7b' :: (bs ++ ['\x7d'])) := by
  intro steps rest hsteps _
  obtain ⟨k, rfl, -⟩ := exists_step (Nat.lt_of_lt_of_le (by simp) hsteps : 0 < steps)
  have hclose := afterBlanks_of_append hbs (by decide : isBlank '\x7d' = false) rest
  rw [List.cons_append, List.append_assoc, skipValue, afterBlanks_cons (by decide)]
  simp [hclose]

theorem skips_array (hitems : Written .items cs) (hbs : Blanks bs) (h : Part.items.Skips cs) :
    Part.value.Skips ('[' :: (cs ++ (bs ++ [']']))) := by
  intro steps rest hsteps _
  simp only [List.length_cons, List.length_append] at hsteps
  obtain ⟨k, rfl, hk⟩ := exists_step (by omega : 2 * cs.length + 1 < steps)
  obtain ⟨c, ds, hopen, hc⟩ := hitems.items_cons (bs ++ ']' :: rest)
  have hskip := h k bs rest hk hbs
  simp only [List.cons_append, List.append_assoc, List.nil_append]
  rw [skipValue, afterBlanks_cons (by decide)]
  simp [hopen, hc, hskip]

theorem skips_object (hmembers : Written .members cs) (hbs : Blanks bs) (h : Part.members.Skips cs) :
    Part.value.Skips ('\x7b' :: (cs ++ (bs ++ ['\x7d']))) := by
  intro steps rest hsteps _
  simp only [List.length_cons, List.length_append] at hsteps
  obtain ⟨k, rfl, hk⟩ := exists_step (by omega : 2 * cs.length + 1 < steps)
  obtain ⟨ds, hopen⟩ := hmembers.members_cons (bs ++ '\x7d' :: rest)
  have hskip := h k bs rest hk hbs
  simp only [List.cons_append, List.append_assoc, List.nil_append]
  rw [skipValue, afterBlanks_cons (by decide)]
  simp [hopen, hskip]

theorem skips_lastItem (hbs : Blanks bs) (hv : IsValue v) (h : Part.value.Skips v) :
    Part.items.Skips (bs ++ v) := by
  intro steps es rest hsteps hes
  simp only [List.length_append] at hsteps
  obtain ⟨k, rfl, hk⟩ := exists_step hsteps
  have hvalue := h k (es ++ ']' :: rest) (by omega) (ends_append hes (.inr (.inr (.inr (.inl rfl)))))
  have hclose := afterBlanks_of_append hes (by decide : isBlank ']' = false) rest
  have hpos := hv.length_pos
  rw [List.append_assoc, skipItems, skipValue_append hbs (by omega), hvalue]
  simp [bind, Except.bind, hclose]

theorem skips_item (hbs : Blanks bs) (hv : IsValue v) (has : Blanks as) (h : Part.value.Skips v)
    (hcs : Part.items.Skips cs) : Part.items.Skips (bs ++ (v ++ (as ++ ',' :: cs))) := by
  intro steps es rest hsteps hes
  simp only [List.length_append, List.length_cons] at hsteps
  obtain ⟨k, rfl, hk⟩ := exists_step hsteps
  have hvalue := h k (as ++ ',' :: (cs ++ (es ++ ']' :: rest))) (by omega)
    (ends_append has (.inr (.inl rfl)))
  have hcomma := afterBlanks_of_append has (by decide : isBlank ',' = false) (cs ++ (es ++ ']' :: rest))
  have hskip := hcs k es rest (by omega) hes
  have hpos := hv.length_pos
  simp only [List.append_assoc, List.cons_append]
  rw [skipItems, skipValue_append hbs (by omega), hvalue]
  simp [bind, Except.bind, hcomma, hskip]

theorem skips_lastMember (hbs : Blanks bs) (hkey : IsText key) (has : Blanks as) (hds : Blanks ds)
    (hv : IsValue v) (h : Part.value.Skips v) :
    Part.members.Skips (bs ++ '"' :: (key ++ '"' :: (as ++ ':' :: (ds ++ v)))) := by
  intro steps es rest hsteps hes
  simp only [List.length_append, List.length_cons] at hsteps
  obtain ⟨k, rfl, hk⟩ := exists_step hsteps
  have hvalue := h k (es ++ '\x7d' :: rest) (by omega) (ends_append hes (.inr (.inr (.inr (.inr rfl)))))
  have hclose := afterBlanks_of_append hes (by decide : isBlank '\x7d' = false) rest
  have hpos := hv.length_pos
  simp only [List.append_assoc, List.cons_append]
  rw [skipMembers, afterBlanks_of_append hbs (by decide)]
  simp [bind, Except.bind, afterString_text hkey, afterColon_append has,
    skipValue_append hds (by omega : 0 < k), hvalue, hclose]

theorem skips_member (hbs : Blanks bs) (hkey : IsText key) (has : Blanks as) (hds : Blanks ds)
    (hv : IsValue v) (hes : Blanks es) (h : Part.value.Skips v) (hcs : Part.members.Skips cs) :
    Part.members.Skips (bs ++ '"' :: (key ++ '"' :: (as ++ ':' :: (ds ++ (v ++ (es ++ ',' :: cs)))))) := by
  intro steps fs rest hsteps hfs
  simp only [List.length_append, List.length_cons] at hsteps
  obtain ⟨k, rfl, hk⟩ := exists_step hsteps
  have hvalue := h k (es ++ ',' :: (cs ++ (fs ++ '\x7d' :: rest))) (by omega)
    (ends_append hes (.inr (.inl rfl)))
  have hcomma := afterBlanks_of_append hes (by decide : isBlank ',' = false)
    (cs ++ (fs ++ '\x7d' :: rest))
  have hskip := hcs k fs rest (by omega) hfs
  have hpos := hv.length_pos
  simp only [List.append_assoc, List.cons_append]
  rw [skipMembers, afterBlanks_of_append hbs (by decide)]
  simp [bind, Except.bind, afterString_text hkey, afterColon_append has,
    skipValue_append hds (by omega : 0 < k), hvalue, hcomma, hskip]

end Shapes

/-- By induction on the text: every part takes a step, and the parts in it have fewer characters. -/
theorem Written.skips {part : Part} {cs : List Char} (h : Written part cs) : part.Skips cs := by
  induction h with
  | wordNull | wordTrue | wordFalse =>
      intro steps rest hsteps _
      obtain ⟨k, rfl, -⟩ := exists_step (Nat.lt_of_lt_of_le (by decide) hsteps : 0 < steps)
      rfl
  | number h => exact h.skips
  | text h => exact h.skips
  | emptyArray hbs => exact skips_emptyArray hbs
  | array hitems hbs ih => exact skips_array hitems hbs ih
  | emptyObject hbs => exact skips_emptyObject hbs
  | object hmembers hbs ih => exact skips_object hmembers hbs ih
  | lastItem hbs hv ih => exact skips_lastItem hbs hv ih
  | item hbs hv has _ ihv ih => exact skips_item hbs hv has ihv ih
  | lastMember hbs hkey has hds hv ih => exact skips_lastMember hbs hkey has hds hv ih
  | member hbs hkey has hds hv hes _ ihv ih => exact skips_member hbs hkey has hds hv hes ihv ih

/-- One value is passed over whatever follows it, blanks in front of it included. -/
theorem afterValue_append {bs v rest : List Char} (hbs : Blanks bs) (hv : IsValue v) (hrest : Ends rest) :
    afterValue (bs ++ (v ++ rest)) = .ok rest := by
  rw [afterValue, skipValue_append hbs (by omega)]
  refine hv.skips _ rest ?_ hrest
  simp only [List.length_append]
  omega

end Purse.Json
