import Mathlib.Data.List.TakeWhile
import Purse.Proofs.Json.Faithful
import Purse.Proofs.Json.Members

/-!
# What is accepted is JSON

A reader that accepts has taken the text of one value, with blanks in front of it, and a value that is passed
over is one as well. A string that is read spells its characters, and an integer was read from a number.

This holds of every reader of the vocabulary and of a member that may be `null`.
-/
namespace Purse.Json

variable {α : Type} {cs ds rest : List Char}

/-! ## Tokens -/

theorem exists_blanks (h : afterBlanks cs = ds) : ∃ bs, Blanks bs ∧ cs = bs ++ ds :=
  ⟨cs.takeWhile isBlank, fun _ hc => List.mem_takeWhile_imp hc,
    h ▸ List.takeWhile_append_dropWhile.symm⟩

theorem Blanks.append (hcs : Blanks cs) (hds : Blanks ds) : Blanks (cs ++ ds) := fun c hc =>
  (List.mem_append.1 hc).elim (hcs c) (hds c)

theorem of_afterWord {word : List Char} (h : afterWord word cs = .ok rest) : cs = word ++ rest := by
  induction word generalizing cs with
  | nil => exact Except.ok.inj h
  | cons w word ih =>
      cases cs with
      | nil => cases h
      | cons c cs =>
          rw [afterWord] at h
          split_ifs at h with hw
          rw [ih h, hw]
          rfl

theorem of_afterColon (h : afterColon cs = .ok rest) : ∃ bs, Blanks bs ∧ cs = bs ++ ':' :: rest := by
  unfold afterColon at h
  split at h
  · rename_i hcolon
    cases h
    exact exists_blanks hcolon
  · cases h
  · cases h

theorem of_afterString (h : afterString cs = .ok rest) : ∃ ts, IsText ts ∧ cs = ts ++ '"' :: rest := by
  fun_induction afterString cs with
  | case1 | case3 | case5 | case6 | case8 | case9 => cases h
  | case2 =>
      cases h
      exact ⟨[], .nil, rfl⟩
  | case4 a b c d cs n hn ih =>
      obtain ⟨ts, hts, rfl⟩ := ih h
      exact ⟨_, .hex (by simp [hn]) hts, rfl⟩
  | case7 c cs _ _ e he ih =>
      obtain ⟨ts, hts, rfl⟩ := ih h
      exact ⟨_, .short (by simp [he]) hts, rfl⟩
  | case10 c cs hquote _ _ _ hslash hcontrol ih =>
      obtain ⟨ts, hts, rfl⟩ := ih h
      exact ⟨_, .plain ⟨hquote, hslash, Nat.not_lt.1 hcontrol⟩ hts, rfl⟩

theorem of_readString {read s : List Char} (h : readString read cs = .ok (s, rest)) :
    ∃ ts s', SpellsText ts s' ∧ s = read.reverse ++ s' ∧ cs = ts ++ '"' :: rest := by
  fun_induction readString read cs with
  | case1 | case3 | case4 | case5 | case7 | case8 | case10 | case11 | case13 | case14 => cases h
  | case2 =>
      cases h
      exact ⟨[], [], .nil, (List.append_nil _).symm, rfl⟩
  | case6 read a b c d high hn _ hhigh e f g i cs low hm hlow ih =>
      obtain ⟨ts, s', hts, rfl, rfl⟩ := ih h
      exact ⟨_, _, .pair hn hhigh hm hlow hts, by simp, rfl⟩
  | case9 read a b c d cs n hn hlow hhigh ih =>
      obtain ⟨ts, s', hts, rfl, rfl⟩ := ih h
      exact ⟨_, _, .unit hn (by simpa using hlow) (by simpa using hhigh) hts, by simp, rfl⟩
  | case12 read c cs _ _ e he ih =>
      obtain ⟨ts, s', hts, rfl, rfl⟩ := ih h
      exact ⟨_, _, .short he hts, by simp, rfl⟩
  | case15 read c cs hquote _ _ _ hslash hcontrol ih =>
      obtain ⟨ts, s', hts, rfl, rfl⟩ := ih h
      exact ⟨_, _, .plain ⟨hquote, hslash, Nat.not_lt.1 hcontrol⟩ hts, by simp, rfl⟩

/-! ## Numbers -/

section Numbers
variable {atEnd : Malformation}

/-- The digits that stand in front. -/
theorem isDigits_takeWhile (h : ¬ (cs.takeWhile Char.isDigit).isEmpty) :
    IsDigits (cs.takeWhile Char.isDigit) ∧
      cs = cs.takeWhile Char.isDigit ++ cs.drop (cs.takeWhile Char.isDigit).length :=
  ⟨⟨by simpa using h, fun _ hd => List.mem_takeWhile_imp hd⟩,
    List.prefix_iff_eq_append.1 (List.takeWhile_prefix _) |>.symm⟩

theorem of_readWhole (h : readWhole atEnd cs = .ok (ds, rest)) : IsWhole ds ∧ cs = ds ++ rest := by
  unfold readWhole at h
  split at h
  · split_ifs at h
    cases h
    exact ⟨.zero, rfl⟩
  · rename_i hzero
    dsimp only at h
    split_ifs at h with hempty
    cases h
    obtain ⟨hdigits, hsplit⟩ := isDigits_takeWhile hempty
    refine ⟨?_, hsplit⟩
    cases hrun : cs.takeWhile Char.isDigit with
    | nil => exact absurd hrun hdigits.1
    | cons d ds =>
        rw [hrun] at hdigits hsplit
        refine .digits hdigits fun hd => ?_
        rw [hd, List.cons_append] at hsplit
        exact hzero _ hsplit

theorem of_readFraction (h : readFraction atEnd cs = .ok (ds, rest)) :
    ∃ fs, IsFraction fs ∧ cs = fs ++ rest ∧ ds = fs.tail := by
  unfold readFraction at h
  split at h
  · dsimp only at h
    split_ifs at h with hempty
    cases h
    obtain ⟨hdigits, hsplit⟩ := isDigits_takeWhile hempty
    exact ⟨_, .point hdigits, congrArg ('.' :: ·) hsplit, rfl⟩
  · cases h
    exact ⟨[], .none, rfl, rfl⟩

theorem of_readExponent {e : Option Exponent} (h : readExponent atEnd cs = .ok (e, rest)) :
    ∃ es, IsExponent es ∧ cs = es ++ rest ∧ (e = none → es = []) := by
  unfold readExponent at h
  dsimp only at h
  split at h
  case' h_1 => have hmark : 'e' = 'e' ∨ 'e' = 'E' := .inl rfl
  case' h_2 => have hmark : 'E' = 'e' ∨ 'E' = 'E' := .inr rfl
  case h_1 | h_2 =>
    split at h
    case h_1 =>
      split_ifs at h with hempty
      cases h
      obtain ⟨hdigits, hsplit⟩ := isDigits_takeWhile hempty
      exact ⟨_, .signed hmark (.inl rfl) hdigits, congrArg (_ :: '+' :: ·) hsplit, nofun⟩
    case h_2 =>
      split_ifs at h with hempty
      cases h
      obtain ⟨hdigits, hsplit⟩ := isDigits_takeWhile hempty
      exact ⟨_, .signed hmark (.inr rfl) hdigits, congrArg (_ :: '-' :: ·) hsplit, nofun⟩
    case h_3 =>
      split_ifs at h with hempty
      cases h
      obtain ⟨hdigits, hsplit⟩ := isDigits_takeWhile hempty
      exact ⟨_, .unsigned hmark hdigits, congrArg (_ :: ·) hsplit, nofun⟩
  case h_3 =>
    cases h
    exact ⟨[], .none, rfl, fun _ => rfl⟩

/-- The text that a number was read from. -/
structure Number.ReadFrom (n : Number) (v : List Char) : Prop where
  isNumber : IsNumber v
  integer : n.negative = false → n.fraction = [] → n.exponent = none → IsWhole v ∧ n.whole = v

theorem of_readNumeral {n : Number} (h : readNumeral atEnd cs = .ok (n, rest)) :
    ∃ v, n.ReadFrom v ∧ cs = v ++ rest := by
  unfold readNumeral at h
  obtain ⟨⟨whole, cs₁⟩, hwhole, h⟩ := bind_eq_ok.1 h
  obtain ⟨⟨fraction, cs₂⟩, hfraction, h⟩ := bind_eq_ok.1 h
  obtain ⟨⟨exponent, cs₃⟩, hexponent, h⟩ := bind_eq_ok.1 h
  cases h
  obtain ⟨es, hes, rfl, hnone⟩ := of_readExponent hexponent
  obtain ⟨fs, hfs, rfl, rfl⟩ := of_readFraction hfraction
  obtain ⟨hds, hsplit⟩ := of_readWhole hwhole
  have hunsigned : IsUnsigned (whole ++ (fs ++ es)) := .intro hds hfs hes
  have hparts : whole ++ (fs ++ (es ++ rest)) = (whole ++ (fs ++ es)) ++ rest := by simp
  have hinteger : fs.tail = [] → exponent = none → IsWhole (whole ++ (fs ++ es)) ∧
      whole = whole ++ (fs ++ es) := fun hfraction hexponent => by
    have hfs' : fs = [] := by
      cases hfs with
      | none => rfl
      | point hdigits => exact absurd hfraction hdigits.1
    rw [hfs', hnone hexponent, List.append_nil, List.append_nil]
    exact ⟨hds, rfl⟩
  split at hsplit
  · rename_i cs'
    dsimp only at hsplit
    exact ⟨'-' :: (whole ++ (fs ++ es)), ⟨.negative hunsigned, nofun⟩, by rw [hsplit, hparts]; rfl⟩
  · exact ⟨whole ++ (fs ++ es), ⟨.positive hunsigned, fun _ => hinteger⟩, hsplit.trans hparts⟩

theorem of_readNumber {n : Number} (h : readNumber cs = .ok (n, rest)) :
    ∃ v, n.ReadFrom v ∧ cs = v ++ rest := by
  obtain ⟨⟨m, cs'⟩, hread, h⟩ := bind_eq_ok.1 h
  dsimp only at h
  split_ifs at h
  cases h
  exact of_readNumeral hread

end Numbers

/-! ## Values that are passed over -/

/-- What was taken in front of the rest: the text of a value and the blanks in front of it, or items or
members with the mark that closes them. -/
def Part.Taken : Part → List Char → List Char → Prop
  | .value, cs, rest => ∃ bs v, Blanks bs ∧ IsValue v ∧ cs = bs ++ (v ++ rest)
  | .items, cs, rest => ∃ is bs, Written .items is ∧ Blanks bs ∧ cs = is ++ (bs ++ ']' :: rest)
  | .members, cs, rest => ∃ ms bs, Written .members ms ∧ Blanks bs ∧ cs = ms ++ (bs ++ '\x7d' :: rest)

theorem IsNumber.taken {v : List Char} (h : IsNumber v) (hcs : cs = v ++ rest) :
    Part.value.Taken cs rest :=
  ⟨[], v, blanks_nil, .number h, hcs⟩

/-- Behind blanks, a value is taken as it is. -/
theorem Part.Taken.behind {bs : List Char} (hbs : Blanks bs) (h : Part.value.Taken cs rest) :
    Part.value.Taken (bs ++ cs) rest := by
  obtain ⟨bs', v, hbs', hv, rfl⟩ := h
  exact ⟨bs ++ bs', v, hbs.append hbs', hv, by simp⟩

theorem Part.Taken.of_afterBlanks (h : afterBlanks cs = ds) (htaken : Part.value.Taken ds rest) :
    Part.value.Taken cs rest := by
  obtain ⟨bs, hbs, rfl⟩ := exists_blanks h
  exact htaken.behind hbs

theorem taken_word {c : Char} {word : List Char} (hvalue : IsValue (c :: word))
    (h : afterWord word cs = .ok rest) : Part.value.Taken (c :: cs) rest :=
  ⟨[], _, blanks_nil, hvalue, congrArg (c :: ·) (of_afterWord h)⟩

section Steps
variable {steps : Nat}

theorem taken_skipValue
    (hitems : ∀ {cs rest}, skipItems steps cs = .ok rest → Part.items.Taken cs rest)
    (hmembers : ∀ {cs rest}, skipMembers steps cs = .ok rest → Part.members.Taken cs rest)
    (h : skipValue (steps + 1) cs = .ok rest) : Part.value.Taken cs rest := by
  rw [skipValue] at h
  split at h <;> rename_i hstart <;> refine .of_afterBlanks hstart ?_
  · cases h
  · exact taken_word .wordNull h
  · exact taken_word .wordTrue h
  · exact taken_word .wordFalse h
  · obtain ⟨ts, hts, rfl⟩ := of_afterString h
    exact ⟨[], _, blanks_nil, .text hts, by simp⟩
  · split at h
    · cases h
    · rename_i hclose
      obtain ⟨bs, hbs, rfl⟩ := exists_blanks hclose
      cases h
      exact ⟨[], _, blanks_nil, .emptyArray hbs, by simp⟩
    · obtain ⟨is, bs, his, hbs, rfl⟩ := hitems h
      exact ⟨[], _, blanks_nil, .array his hbs, by simp⟩
  · split at h
    · rename_i hclose
      obtain ⟨bs, hbs, rfl⟩ := exists_blanks hclose
      cases h
      exact ⟨[], _, blanks_nil, .emptyObject hbs, by simp⟩
    · obtain ⟨ms, bs, hms, hbs, rfl⟩ := hmembers h
      exact ⟨[], _, blanks_nil, .object hms hbs, by simp⟩
  · split_ifs at h
    obtain ⟨⟨n, rest'⟩, hread, rfl⟩ := map_eq_ok.1 h
    obtain ⟨v, hv, hcs⟩ := of_readNumeral hread
    exact hv.isNumber.taken hcs

theorem taken_skipItems
    (hvalue : ∀ {cs rest}, skipValue steps cs = .ok rest → Part.value.Taken cs rest)
    (hitems : ∀ {cs rest}, skipItems steps cs = .ok rest → Part.items.Taken cs rest)
    (h : skipItems (steps + 1) cs = .ok rest) : Part.items.Taken cs rest := by
  rw [skipItems] at h
  obtain ⟨cs', hskip, hmark⟩ := bind_eq_ok.1 h
  clear h
  obtain ⟨bs, v, hbs, hv, rfl⟩ := hvalue hskip
  split at hmark
  · rename_i hcomma
    obtain ⟨es, hes, rfl⟩ := exists_blanks hcomma
    obtain ⟨is, ds, his, hds, rfl⟩ := hitems hmark
    exact ⟨_, ds, .item hbs hv hes his, hds, by simp⟩
  · rename_i hclose
    obtain ⟨es, hes, rfl⟩ := exists_blanks hclose
    cases hmark
    exact ⟨_, es, .lastItem hbs hv, hes, by simp⟩
  · cases hmark
  · cases hmark

theorem taken_skipMembers
    (hvalue : ∀ {cs rest}, skipValue steps cs = .ok rest → Part.value.Taken cs rest)
    (hmembers : ∀ {cs rest}, skipMembers steps cs = .ok rest → Part.members.Taken cs rest)
    (h : skipMembers (steps + 1) cs = .ok rest) : Part.members.Taken cs rest := by
  rw [skipMembers] at h
  split at h
  · rename_i hquote
    obtain ⟨bs, hbs, rfl⟩ := exists_blanks hquote
    obtain ⟨cs₁, hstring, h⟩ := bind_eq_ok.1 h
    obtain ⟨cs₂, hcolon, h⟩ := bind_eq_ok.1 h
    obtain ⟨cs₃, hskip, hmark⟩ := bind_eq_ok.1 h
    clear h
    obtain ⟨ds, v, hds, hv, rfl⟩ := hvalue hskip
    obtain ⟨as, has, rfl⟩ := of_afterColon hcolon
    obtain ⟨key, hkey, rfl⟩ := of_afterString hstring
    split at hmark
    · rename_i hcomma
      obtain ⟨es, hes, rfl⟩ := exists_blanks hcomma
      obtain ⟨ms, fs, hms, hfs, rfl⟩ := hmembers hmark
      exact ⟨_, fs, .member hbs hkey has hds hv hes hms, hfs, by simp⟩
    · rename_i hclose
      obtain ⟨es, hes, rfl⟩ := exists_blanks hclose
      cases hmark
      exact ⟨_, es, .lastMember hbs hkey has hds hv, hes, by simp⟩
    · cases hmark
    · cases hmark
  · cases h
  · cases h

end Steps

/-- By induction on the steps, for all three sorts of parts at once. -/
theorem taken_skip (steps : Nat) :
    (∀ {cs rest}, skipValue steps cs = .ok rest → Part.value.Taken cs rest) ∧
    (∀ {cs rest}, skipItems steps cs = .ok rest → Part.items.Taken cs rest) ∧
    ∀ {cs rest}, skipMembers steps cs = .ok rest → Part.members.Taken cs rest := by
  induction steps with
  | zero => exact ⟨nofun, nofun, nofun⟩
  | succ steps ih =>
      obtain ⟨hvalue, hitems, hmembers⟩ := ih
      exact ⟨taken_skipValue hitems hmembers, taken_skipItems hvalue hitems,
        taken_skipMembers hvalue hmembers⟩

theorem taken_afterValue (h : afterValue cs = .ok rest) : Part.value.Taken cs rest :=
  (taken_skip _).1 h

/-! ## The readers of the vocabulary -/

/-- Whatever the reader accepts, it has taken the text of one value. -/
def TakesValues (read : Reader α) : Prop :=
  ∀ {cs : List Char} {a : α} {rest : List Char}, read cs = .ok (a, rest) → Part.value.Taken cs rest

theorem IsText.taken {ts : List Char} (h : IsText ts) (hcs : afterBlanks cs = '"' :: (ts ++ '"' :: rest)) :
    Part.value.Taken cs rest :=
  .of_afterBlanks hcs ⟨[], _, blanks_nil, .text h, by simp⟩

theorem of_readTextFor {expected s : String} (h : readTextFor expected cs = .ok (s, rest)) :
    ∃ ts, IsText ts ∧ afterBlanks cs = '"' :: (ts ++ '"' :: rest) := by
  unfold readTextFor at h
  split at h
  · rename_i hquote
    obtain ⟨⟨s', rest'⟩, hread, hs⟩ := map_eq_ok.1 h
    cases hs
    obtain ⟨ts, s, hts, -, rfl⟩ := of_readString hread
    exact ⟨ts, hts.isText, hquote⟩
  · cases h

theorem of_readSpelled {expected : String} {ofText? : String → Option α} {complain : String → Mismatch}
    {a : α} (h : readSpelled expected ofText? complain cs = .ok (a, rest)) :
    ∃ ts, IsText ts ∧ afterBlanks cs = '"' :: (ts ++ '"' :: rest) := by
  obtain ⟨⟨s, rest'⟩, hread, hs⟩ := bind_eq_ok.1 h
  dsimp only at hs
  split at hs
  · cases hs
  · cases hs
    exact of_readTextFor hread

theorem takes_readTextFor (expected : String) : TakesValues (readTextFor expected) := fun h => by
  obtain ⟨ts, hts, hcs⟩ := of_readTextFor h
  exact hts.taken hcs

theorem takes_readIdentifier (ofText? : String → Option α) : TakesValues (readIdentifier ofText?) :=
  fun h => by
    obtain ⟨ts, hts, hcs⟩ := of_readSpelled h
    exact hts.taken hcs

theorem takes_readTime : TakesValues readTime := fun h => by
  obtain ⟨⟨s, rest⟩, hread, hs⟩ := bind_eq_ok.1 h
  dsimp only at hs
  split at hs
  · cases hs
  · cases hs
    exact takes_readTextFor _ hread

/-- An integer was read from a number that it is kept as. -/
theorem of_readInt {n : Int} (h : readInt cs = .ok (n, rest)) :
    ∃ (m : Number) (v : List Char), m.ReadFrom v ∧ m.kept? = some n ∧ afterBlanks cs = v ++ rest := by
  unfold readInt at h
  split at h
  · cases h
  · rename_i hstart
    split_ifs at h
    obtain ⟨⟨m, rest'⟩, hread, hm⟩ := bind_eq_ok.1 h
    obtain ⟨v, hv, hcs⟩ := of_readNumber hread
    dsimp only at hm
    split at hm
    · cases hm
    · rename_i hkept
      split_ifs at hm
      cases hm
      exact ⟨m, v, hv, hkept, hstart.trans hcs⟩

theorem of_readAmount {a : Amount} (h : readAmount cs = .ok (a, rest)) :
    ∃ (m : Number) (v : List Char), m.ReadFrom v ∧ m.kept? = some a.value ∧ afterBlanks cs = v ++ rest := by
  obtain ⟨⟨n, rest'⟩, hread, hn⟩ := bind_eq_ok.1 h
  dsimp only at hn
  split at hn
  · cases hn
  · rename_i hvalue
    cases hn
    rw [Amount.value_of_ofInt hvalue]
    exact of_readInt hread

theorem takes_readAmount : TakesValues readAmount := fun h => by
  obtain ⟨m, v, hv, -, hcs⟩ := of_readAmount h
  exact .of_afterBlanks hcs (hv.isNumber.taken rfl)

theorem takes_readNull : TakesValues readNull := fun h => by
  unfold readNull at h
  split at h
  · rename_i hstart
    obtain ⟨rest', hword, hrest⟩ := bind_eq_ok.1 h
    cases hrest
    exact .of_afterBlanks hstart (taken_word .wordNull hword)
  · cases h

theorem takes_readOption {read : Reader α} (hread : TakesValues read) : TakesValues (readOption read) :=
  fun h => by
    unfold readOption at h
    split at h
    · rename_i hstart
      obtain ⟨rest', hword, hrest⟩ := bind_eq_ok.1 h
      cases hrest
      exact .of_afterBlanks hstart (taken_word .wordNull hword)
    · obtain ⟨⟨a, rest'⟩, htaken, hrest⟩ := bind_eq_ok.1 h
      cases hrest
      exact .of_afterBlanks rfl (hread htaken)

/-- A name that is a key takes an object of one member. -/
theorem takes_readName (known : List String) (ofName? : String → Option α) :
    TakesValues (readName known ofName?) := fun {cs a rest} h => by
  unfold readName at h
  dsimp only at h
  split at h
  · cases h
  · rename_i hstart
    obtain ⟨ts, hts, hcs⟩ := of_readSpelled h
    exact .of_afterBlanks hstart (hts.taken hcs)
  · rename_i cs' hstart
    split at h
    · cases h
    · cases h
    · rename_i cs'' hquote
      obtain ⟨⟨a', cs₁⟩, hname, h⟩ := bind_eq_ok.1 h
      obtain ⟨cs₂, hcolon, h⟩ := bind_eq_ok.1 h
      obtain ⟨⟨_, cs₃⟩, hnull, hmark⟩ := bind_eq_ok.1 h
      clear h
      dsimp only at hcolon hmark
      obtain ⟨ts, hts, hkey⟩ := of_readSpelled hname
      obtain ⟨as, has, rfl⟩ := of_afterColon hcolon
      obtain ⟨ds, v, hds, hv, rfl⟩ := takes_readNull hnull
      split at hmark
      · rename_i hclose
        obtain ⟨es, hes, rfl⟩ := exists_blanks hclose
        cases hmark
        rw [afterBlanks_cons (by decide), ← hquote] at hkey
        obtain ⟨bs, hbs, hcs'⟩ := exists_blanks hkey
        refine .of_afterBlanks hstart
          ⟨[], _, blanks_nil, .object (.lastMember hbs hts has hds hv) hes, ?_⟩
        simp [hcs']
      · cases hmark
      · cases hmark
    · cases h
  · cases h

/-- A type of the vocabulary that is read from the text of a value. -/
class Strict (α : Type) [Wire α] : Prop where
  takes : TakesValues (Wire.read : Reader α)

instance : Strict String := ⟨takes_readTextFor _⟩
instance : Strict Amount := ⟨takes_readAmount⟩
instance : Strict Timestamp := ⟨takes_readTime⟩
instance : Strict UserId := ⟨takes_readIdentifier UserId.ofText?⟩
instance : Strict BookingId := ⟨takes_readIdentifier BookingId.ofText?⟩
instance : Strict WalletId := ⟨takes_readIdentifier WalletId.ofText?⟩
instance : Strict EntryId := ⟨takes_readIdentifier EntryId.ofText?⟩
instance : Strict PaymentId := ⟨takes_readIdentifier PaymentId.ofText?⟩
instance : Strict PaymentMethod := ⟨takes_readName _ _⟩
instance : Strict PaymentStatus := ⟨takes_readName _ _⟩
instance : Strict EntryKind := ⟨takes_readName _ _⟩

end Purse.Json
