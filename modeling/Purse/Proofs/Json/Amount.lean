import Purse.Proofs.Json.Among
import Purse.Proofs.Json.Wide

/-!
# What an amount is read from

An amount is read from the literal of a number from one up to the most that a sum can be: digits only,
without a leading zero, with no sign in front and neither a point nor an exponent behind. There is one such
literal for each amount, the one that is written for it. It is all that can stand for the amount of an entry
or a payment in a text that is read.
-/
namespace Purse

/-! ## Literals -/

namespace Numeral

variable {c d : Char} {ds : List Char}

theorem toNat_sub_lt (hc : c.isDigit) : c.toNat - '0'.toNat < 10 := by
  have hnine : '9'.toNat = 57 := rfl
  have hzero : '0'.toNat = 48 := rfl
  rw [Char.isDigit_iff_toNat] at hc
  omega

theorem digitChar_sub (hc : c.isDigit) : Nat.digitChar (c.toNat - '0'.toNat) = c := by
  rw [← Char.toNat_inj, Nat.toNat_digitChar_of_lt_ten (toNat_sub_lt hc)]
  exact Nat.add_sub_cancel' (Char.isDigit_iff_toNat.1 hc).1

/-- Digits without a leading zero are those of the number they spell. By induction from the last one on. -/
theorem digits_ofDigitChars (hdigits : ∀ c ∈ d :: ds, c.isDigit = true) (hd : d ≠ '0') :
    digits (Nat.ofDigitChars 10 (d :: ds) 0) = d :: ds := by
  induction ds using List.reverseRecOn with
  | nil =>
      have hdigit := hdigits d List.mem_cons_self
      rw [Nat.ofDigitChars_cons, Nat.ofDigitChars_nil, Nat.mul_zero, Nat.zero_add, digits,
        Nat.toDigits_of_lt_base (toNat_sub_lt hdigit), digitChar_sub hdigit]
  | append_singleton ds c ih =>
      have hfront := ih fun e he => hdigits e (List.mem_append_left [c] he)
      have hdigit := hdigits c (List.mem_append_right (d :: ds) List.mem_cons_self)
      have hlast := toNat_sub_lt hdigit
      have hpos : Nat.ofDigitChars 10 (d :: ds) 0 ≠ 0 := fun hzero => by
        rw [hzero] at hfront
        exact hd (List.cons.inj hfront).1.symm
      rw [← List.cons_append, Nat.ofDigitChars_append, Nat.ofDigitChars_cons, Nat.ofDigitChars_nil, digits,
        Nat.toDigits_of_base_le (by decide) (by omega), Nat.mul_add_div (by decide), Nat.div_eq_of_lt hlast,
        Nat.mul_add_mod, Nat.mod_eq_of_lt hlast, Nat.add_zero, digitChar_sub hdigit]
      exact congrArg (· ++ [c]) hfront

end Numeral

namespace Json

theorem IsWhole.digits_eq {cs : List Char} (h : IsWhole cs) :
    Numeral.digits (Nat.ofDigitChars 10 cs 0) = cs := by
  cases h with
  | zero => rfl
  | digits hdigits hd => exact Numeral.digits_ofDigitChars hdigits.2 hd

/-- The literal of a number that an amount can be: digits only, without a leading zero. -/
structure IsAmount (n : Int) (cs : List Char) : Prop where
  whole : IsWhole cs
  value : (Nat.ofDigitChars 10 cs 0 : Int) = n
  pos : 1 ≤ n
  le_max : n ≤ 9223372036854775807

variable {n : Int} {a x : Amount} {v cs rest : List Char} {t : String}

/-- There is no other literal than the usual one. -/
theorem IsAmount.eq_signed (h : IsAmount n cs) : cs = Numeral.signed n := by
  obtain ⟨hwhole, rfl, -, -⟩ := h
  exact hwhole.digits_eq.symm

theorem IsAmount.exists_amount (h : IsAmount n cs) : ∃ a : Amount, a.value = n := ⟨⟨n, h.pos, h.le_max⟩, rfl⟩

theorem isAmount_signed (a : Amount) : IsAmount a.value (Numeral.signed a.value) := by
  obtain ⟨value, hpos, hmax⟩ := a
  cases value with
  | ofNat n => exact ⟨isWhole_digits n, congrArg Int.ofNat (Numeral.ofDigitChars_digits n), hpos, hmax⟩
  | negSucc n => cases hpos

theorem toList_encode_amount (a : Amount) : (Wire.encode a).toList = Numeral.signed a.value := by
  rw [Wire.encode, render, String.toList_ofList]
  exact chars_int a.value

/-- What is written for an amount is its literal, and nothing else is. -/
theorem isAmount_iff : IsAmount a.value cs ↔ cs = (Wire.encode a).toList := by
  rw [toList_encode_amount]
  constructor
  · exact IsAmount.eq_signed
  · rintro rfl
    exact isAmount_signed a

/-! ## Reading an amount -/

/-- A positive integer has neither a sign nor a fraction nor an exponent. -/
theorem Number.ReadFrom.isWhole {m : Number} (h : m.ReadFrom v) (hkept : m.kept? = some n) (hpos : 0 < n) :
    IsWhole v ∧ (Nat.ofDigitChars 10 v 0 : Int) = n := by
  have hinteger : m.integer? = some n := (Option.filter_eq_some_iff.1 hkept).1
  unfold Number.integer? at hinteger
  dsimp only at hinteger
  split_ifs at hinteger with hplain hnegative
  · have hvalue := Option.some.inj hinteger
    omega
  · simp only [Bool.and_eq_true, List.isEmpty_iff, Option.isNone_iff_eq_none] at hplain
    obtain ⟨hwhole, hdigits⟩ := h.integer (by simpa using hnegative) hplain.1 hplain.2
    exact ⟨hwhole, hdigits ▸ Option.some.inj hinteger⟩

theorem isAmount_of_readAmount (h : readAmount cs = .ok (a, rest)) :
    ∃ v, IsAmount a.value v ∧ afterBlanks cs = v ++ rest := by
  obtain ⟨m, v, hv, hkept, hcs⟩ := of_readAmount h
  obtain ⟨hwhole, hvalue⟩ := hv.isWhole hkept a.pos
  exact ⟨v, ⟨hwhole, hvalue, a.pos, a.le_max⟩, hcs⟩

theorem IsAmount.isValue (h : IsAmount n v) : IsValue v := .number (h.eq_signed ▸ isNumber_signed n)

theorem IsAmount.shows (h : IsAmount a.value v) : Shows readAmount a v where
  isValue := h.isValue
  decides := by
    obtain ⟨o, ho⟩ := judges_readAmount.decides h.isValue
    have hread : readAmount (v ++ []) = .ok (a, []) := by
      rw [h.eq_signed, ← chars_int]
      exact a.roundTrips.reads trivial
    have hnil := ho [] trivial
    rw [hread] at hnil
    obtain ⟨b, rfl, hb⟩ := map_eq_ok.1 hnil.symm
    cases hb
    exact ho

/-- An amount is read from its literal with blanks around it, and from nothing else. -/
theorem decode_amount_iff : Wire.decode Amount t = .ok a ↔ Holds (IsAmount a.value) t := by
  constructor
  · intro h
    obtain ⟨es, hes, hread⟩ := of_decode h
    obtain ⟨v, hv, hcs⟩ := isAmount_of_readAmount hread
    obtain ⟨bs, hbs, ht⟩ := exists_blanks hcs
    exact ⟨bs, v, es, hbs, hv, hes, ht⟩
  · rintro ⟨bs, v, es, hbs, hv, hes, ht⟩
    have hread := hv.shows.decode hes
    simp only [Json.decode, String.toList_ofList] at hread
    rw [Wire.decode, Json.decode, ht]
    simp only [Wire.read, judges_readAmount.blanks hbs]
    exact hread

/-- A zero, a sign, a zero in front, a fraction, an exponent and one more than the largest sum. -/
example : ["0", "-5", "+5", "05", "5.0", "5e2", "9223372036854775808"].all
    (fun t => !(Wire.decode Amount t).isOk) := by decide +kernel

/-- The same literals are taken by a field for an amount. -/
theorem verdict_amount_iff (name : String) (hv : IsValue v) :
    (Field.required name Amount).verdict v = .ok x ↔ IsAmount x.value v := by
  constructor
  · intro h
    obtain ⟨⟨y, rest⟩, hread, rfl⟩ := map_eq_ok.1 h
    obtain ⟨v', hv', hcs⟩ := isAmount_of_readAmount (forget_eq_ok.1 hread)
    obtain ⟨o, ho⟩ := judges_readAmount.decides hv
    -- Of the text of a value nothing is left.
    have htaken := ho [] trivial
    rw [List.append_nil] at htaken
    obtain ⟨b, -, hb⟩ := map_eq_ok.1 (htaken.symm.trans hread)
    cases hb
    have hfront := hv.afterBlanks_value []
    rw [List.append_nil, hcs, List.append_nil] at hfront
    exact hfront ▸ hv'
  · intro h
    exact (h.shows.decides).verdict (f := Field.required name Amount)

end Json

/-! ## Amounts in records -/

open Json

/-- What is read as the amount of a record, and what is written for it. -/
structure Record.GatesAmount (α : Type) [Record α] (amount : α → Amount) (withAmount : α → Amount → α) :
    Prop where
  /-- A record that is read has the literal of its amount in the place of the amount: in the one member of
  that name of an object, or among the items of an array. -/
  spelled {t : String} {a : α} : Wire.decode α t = .ok a →
    (∃ ms v, Holds (IsObject ms) t ∧ IsAmount (amount a).value v ∧ ∀ w, ("amount", w) ∈ ms ↔ w = v) ∨
    ∃ vs v, Holds (IsArray vs) t ∧ IsAmount (amount a).value v ∧ ("amount", v) ∈ (names α).zip vs
  /-- In an object that is read with some amount, exactly the literals of amounts can stand for it, and then
  the record is the same but for the amount. -/
  swapped {before after : List Member} {v w : List Char} {t t' : String} {a : α} :
    Holds (IsObject (before ++ ("amount", w) :: after)) t → Wire.decode α t = .ok a →
    Holds (IsObject (before ++ ("amount", v) :: after)) t' → ∀ b, Wire.decode α t' = .ok b ↔
      ∃ x : Amount, IsAmount x.value v ∧ b = withAmount a x
  /-- Whatever stands behind the colon of the amount, in an object that is read it begins with the literal of
  the amount, and that is all there is up to the next member or the end. -/
  behind {front : List Member} {bs opening cs : List Char} {t : String} {a : α} :
    Wire.decode α t = .ok a → Blanks bs → LeadsTo "amount" front opening →
    t.toList = bs ++ '\x7b' :: (opening ++ cs) → ∃ v, IsAmount (amount a).value v ∧ GoesOn v cs
  /-- A record is written as an object with its amount as it is written by itself, and is read from that. -/
  written (a : α) : Wire.decode α (Wire.encode a) = .ok a ∧ ∃ ms, Holds (IsObject ms) (Wire.encode a) ∧
    ∀ w, ("amount", w) ∈ ms ↔ w = (Wire.encode (amount a)).toList

section Gate
variable {α : Type} [Record α] [Record.Judged α]
  (accessor : Record.Accessor α (Field.required "amount" Amount)) {t t' : String} {a : α}

theorem Record.Accessor.isAmount_of_mem {ms : List Member} (ht : Holds (IsObject ms) t)
    (h : Wire.decode α t = .ok a) {v : List Char} (hv : ("amount", v) ∈ ms) :
    IsAmount (accessor.get a).value v := by
  have hverdict := accessor.verdict_of_decode ht h hv
  obtain ⟨cs, hobject⟩ := ht.exists_text
  exact (verdict_amount_iff "amount" (hobject.isValue_mem _ hv)).1 hverdict

/-- An amount must be given, and its literal is the only one. -/
theorem Record.Accessor.exists_amount_member {ms : List Member} (ht : Holds (IsObject ms) t)
    (h : Wire.decode α t = .ok a) :
    ∃ v, IsAmount (accessor.get a).value v ∧ ∀ w, ("amount", w) ∈ ms ↔ w = v := by
  have hgiven : "amount" ∈ ms.map Prod.fst := by
    by_contra hmissing
    exact Record.indifferent.missing accessor.place.mem rfl hmissing ht a h
  obtain ⟨⟨_, v⟩, hv, rfl⟩ := List.mem_map.1 hgiven
  have hamount := accessor.isAmount_of_mem ht h hv
  refine ⟨v, hamount, fun w => ⟨fun hw => ?_, fun hw => hw ▸ hv⟩⟩
  rw [hamount.eq_signed, (accessor.isAmount_of_mem ht h hw).eq_signed]

theorem Record.Accessor.exists_amount_item {vs : List (List Char)} (ht : Holds (IsArray vs) t)
    (h : Wire.decode α t = .ok a) :
    ∃ v, IsAmount (accessor.get a).value v ∧ ("amount", v) ∈ (Record.names α).zip vs := by
  obtain ⟨v, hv, hverdict⟩ := accessor.exists_item_of_decode rfl ht h
  obtain ⟨cs, harray⟩ := ht.exists_text
  have hvalue := harray.isValue_mem v (List.of_mem_zip hv).2
  exact ⟨v, (verdict_amount_iff "amount" hvalue).1 hverdict, hv⟩

theorem Record.Accessor.decode_swap_amount {before after : List Member} {v w : List Char}
    (ht : Holds (IsObject (before ++ ("amount", w) :: after)) t) (h : Wire.decode α t = .ok a)
    (ht' : Holds (IsObject (before ++ ("amount", v) :: after)) t') (b : α) :
    Wire.decode α t' = .ok b ↔ ∃ x : Amount, IsAmount x.value v ∧ b = accessor.put x a := by
  have hv : IsValue v := by
    obtain ⟨cs, hobject⟩ := ht'.exists_text
    exact hobject.isValue_mem ("amount", v) (by simp)
  rw [← forget_eq_ok, accessor.decode_swap ht h ht', map_eq_ok]
  exact exists_congr fun x => and_congr (verdict_amount_iff "amount" hv) eq_comm

theorem Record.Accessor.gatesAmount [Record.Strict α] [Record.IsFlat α]
    (hkept : ∀ a : α, Wire.RoundTrips a) :
    Record.GatesAmount α accessor.get fun a x => accessor.put x a where
  spelled h := by
    rcases Record.holds_of_decode h with ⟨ms, ht⟩ | ⟨vs, ht⟩
    · obtain ⟨v, hv⟩ := accessor.exists_amount_member ht h
      exact .inl ⟨ms, v, ht, hv⟩
    · obtain ⟨v, hv⟩ := accessor.exists_amount_item ht h
      exact .inr ⟨vs, v, ht, hv⟩
  swapped := accessor.decode_swap_amount
  behind h hbs hopening ht := by
    obtain ⟨v, ms, hgoesOn, hobject⟩ := Record.goesOn_of_decode h hbs hopening ht
    exact ⟨v, accessor.isAmount_of_mem hobject h (by simp), hgoesOn⟩
  written a := by
    have hread := (hkept a).decode_encode
    have ht := Record.holds_encode a
    obtain ⟨v, hv, hmem⟩ := accessor.exists_amount_member ht hread
    exact ⟨hread, _, ht, isAmount_iff.1 hv ▸ hmem⟩

end Gate

/-- The amount of an entry, and of a payment. -/
def Entry.amountAccessor : Record.Accessor Entry (Field.required "amount" Amount) where
  place := .there (.there (.there .here))
  get := Entry.amount
  put x e := { e with amount := x }
  get_ofValues _ := rfl
  put_ofValues _ _ := rfl

def Payment.amountAccessor : Record.Accessor Payment (Field.required "amount" Amount) where
  place := .there (.there (.there .here))
  get := Payment.amount
  put x p := { p with amount := x }
  get_ofValues _ := rfl
  put_ofValues _ _ := rfl

/-- An amount is read from the literals of the numbers from one up to the largest sum, by itself and as the
amount of an entry or a payment, and from nothing else. -/
theorem amounts_gated :
    (∀ (t : String) (n : Int), (∃ a, Wire.decode Amount t = .ok a ∧ a.value = n) ↔ Holds (IsAmount n) t) ∧
    (∀ (a : Amount) (cs : List Char), IsAmount a.value cs ↔ cs = (Wire.encode a).toList) ∧
    Record.GatesAmount Entry Entry.amount (fun e x => { e with amount := x }) ∧
    Record.GatesAmount Payment Payment.amount (fun p x => { p with amount := x }) := by
  refine ⟨fun t n => ⟨?_, fun h => ?_⟩, fun _ _ => isAmount_iff,
    Entry.amountAccessor.gatesAmount fun e => e.kept.roundTrips,
    Payment.amountAccessor.gatesAmount fun p => p.kept.roundTrips⟩
  · rintro ⟨a, h, rfl⟩
    exact decode_amount_iff.1 h
  · obtain ⟨a, rfl⟩ : ∃ a : Amount, a.value = n := by
      obtain ⟨cs, hn⟩ := h.exists_text
      exact hn.exists_amount
    exact ⟨a, decode_amount_iff.2 h, rfl⟩

end Purse
