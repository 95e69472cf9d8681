import Purse.Proofs.Json.Judgement

/-!
# Objects and arrays as lists of texts

The text of an object is a list of members, each a name and the text of a value, in any layout: blanks
between the tokens and any spelling of the names. The text of an array is a list of such values. What a
record is read as depends on these lists alone: each field judges the text of its own member, a member of
another name is passed over, and of all complaints the first one in the order of the members counts.
-/
namespace Purse.Json

/-! ## Layouts -/

/-- A string that spells characters: as themselves, as escapes of one letter or of four digits, and as
surrogate pairs. -/
inductive SpellsText : List Char → List Char → Prop
  | nil : SpellsText [] []
  | plain {c : Char} {cs s : List Char} : IsBare c → SpellsText cs s → SpellsText (c :: cs) (c :: s)
  | short {e c : Char} {cs s : List Char} : shortEscape? e = some c → SpellsText cs s →
      SpellsText ('\\' :: e :: cs) (c :: s)
  | unit {a b c d : Char} {n : Nat} {cs s : List Char} : hexWord? a b c d = some n →
      isLowSurrogate n = false → isHighSurrogate n = false → SpellsText cs s →
      SpellsText ('\\' :: 'u' :: a :: b :: c :: d :: cs) (Char.ofNat n :: s)
  | pair {a b c d e f g h : Char} {high low : Nat} {cs s : List Char} : hexWord? a b c d = some high →
      isHighSurrogate high = true → hexWord? e f g h = some low → isLowSurrogate low = true →
      SpellsText cs s →
      SpellsText ('\\' :: 'u' :: a :: b :: c :: d :: '\\' :: 'u' :: e :: f :: g :: h :: cs)
        (pairChar high low :: s)

/-- A name and the text of a value. -/
abbrev Member : Type := String × List Char

inductive IsMember : Member → List Char → Prop
  | intro {name : String} {bs key as ds v : List Char} : Blanks bs → SpellsText key name.toList →
      Blanks as → Blanks ds → IsValue v →
      IsMember (name, v) (bs ++ '"' :: (key ++ '"' :: (as ++ ':' :: (ds ++ v))))

/-- One or more members with commas between them. -/
inductive AreMembers : List Member → List Char → Prop
  | last {m : Member} {cs : List Char} : IsMember m cs → AreMembers [m] cs
  | more {m : Member} {ms : List Member} {cs es ds : List Char} : IsMember m cs → Blanks es →
      AreMembers ms ds → AreMembers (m :: ms) (cs ++ (es ++ ',' :: ds))

inductive IsObject : List Member → List Char → Prop
  | empty {bs : List Char} : Blanks bs → IsObject [] ('\x7b' :: (bs ++ ['\x7d']))
  | members {ms : List Member} {cs bs : List Char} : AreMembers ms cs → Blanks bs →
      IsObject ms ('\x7b' :: (cs ++ (bs ++ ['\x7d'])))

/-- One or more values with commas between them. -/
inductive AreItems : List (List Char) → List Char → Prop
  | last {v bs : List Char} : Blanks bs → IsValue v → AreItems [v] (bs ++ v)
  | more {v bs es cs : List Char} {vs : List (List Char)} : Blanks bs → IsValue v → Blanks es →
      AreItems vs cs → AreItems (v :: vs) (bs ++ (v ++ (es ++ ',' :: cs)))

inductive IsArray : List (List Char) → List Char → Prop
  | empty {bs : List Char} : Blanks bs → IsArray [] ('[' :: (bs ++ [']']))
  | items {vs : List (List Char)} {cs bs : List Char} : AreItems vs cs → Blanks bs →
      IsArray vs ('[' :: (cs ++ (bs ++ [']'])))

/-- The members with nothing in between but what has to be there. -/
def compactMembers : List Member → List Char
  | [] => []
  | [m] => '"' :: (m.1.toList ++ '"' :: ':' :: m.2)
  | m :: ms => '"' :: (m.1.toList ++ '"' :: ':' :: m.2) ++ ',' :: compactMembers ms

def compact (ms : List Member) : String := String.ofList ('\x7b' :: (compactMembers ms ++ ['\x7d']))

/-- A text that is one thing of some sort, with blanks around it. -/
def Holds (sort : List Char → Prop) (t : String) : Prop :=
  ∃ bs cs es, Blanks bs ∧ sort cs ∧ Blanks es ∧ t.toList = bs ++ (cs ++ es)

theorem SpellsText.of_plain {cs : List Char} (h : ∀ c ∈ cs, IsBare c) : SpellsText cs cs := by
  induction cs with
  | nil => exact .nil
  | cons c cs ih =>
      exact .plain (h c List.mem_cons_self) (ih fun d hd => h d (List.mem_cons_of_mem c hd))

theorem IsMember.of_plain {m : Member} (hname : ∀ c ∈ m.1.toList, IsBare c) (hv : IsValue m.2) :
    IsMember m ('"' :: (m.1.toList ++ '"' :: ':' :: m.2)) :=
  .intro blanks_nil (.of_plain hname) blanks_nil blanks_nil hv

theorem compactMembers_areMembers {m : Member} {ms : List Member}
    (h : ∀ m' ∈ m :: ms, (∀ c ∈ m'.1.toList, IsBare c) ∧ IsValue m'.2) :
    AreMembers (m :: ms) (compactMembers (m :: ms)) := by
  obtain ⟨hname, hv⟩ := h m List.mem_cons_self
  induction ms generalizing m with
  | nil => exact .last (.of_plain hname hv)
  | cons m' ms ih =>
      have hlater := fun m'' hm'' => h m'' (List.mem_cons_of_mem m hm'')
      obtain ⟨hname', hv'⟩ := hlater m' List.mem_cons_self
      exact .more (.of_plain hname hv) blanks_nil (ih hlater hname' hv')

theorem compact_isObject {ms : List Member} (h : ∀ m ∈ ms, (∀ c ∈ m.1.toList, IsBare c) ∧ IsValue m.2) :
    IsObject ms ('\x7b' :: (compactMembers ms ++ ['\x7d'])) := by
  cases ms with
  | nil => exact .empty blanks_nil
  | cons m ms => exact .members (compactMembers_areMembers h) blanks_nil

theorem holds_compact {ms : List Member} (h : ∀ m ∈ ms, (∀ c ∈ m.1.toList, IsBare c) ∧ IsValue m.2) :
    Holds (IsObject ms) (compact ms) :=
  ⟨[], _, [], blanks_nil, compact_isObject h, blanks_nil, by
    rw [compact, String.toList_ofList, List.append_nil]
    rfl⟩

/-! ## Verdicts -/

/-- What a field makes of the text of a value. -/
def Field.verdict (f : Field) (v : List Char) : Except Fault f.Carrier := (forget (f.read v)).map Prod.fst

/-- A field that goes by the text of its value alone. What stands for it when it is missing is what it reads
from `null`. -/
structure Field.Judged (f : Field) : Prop where
  judges : Judges f.read
  null : ∀ v, f.missing = some v → f.verdict ['n', 'u', 'l', 'l'] = .ok v

/-- Takes up a member. -/
def take : (fs : List Field) → Slots fs → Member → Except Fault (Slots fs)
  | [], slots, _ => .ok slots
  | f :: fs, (slot, slots), m =>
    if f.name = m.1 then
      match slot with
      | some _ => .error (.mismatch (.repeated m.1))
      | none => (f.verdict m.2).map fun v => (some v, slots)
    else (take fs slots m).map fun slots => (slot, slots)

def takeAll (fs : List Field) : Slots fs → List Member → Except Fault (Slots fs)
  | slots, [] => .ok slots
  | slots, m :: ms => take fs slots m >>= fun slots => takeAll fs slots ms

/-- What the members of an object are as the values of the fields. -/
def judge (fs : List Field) (ms : List Member) : Except Fault (Values fs) :=
  takeAll fs (.empty fs) ms >>= fun slots => forget (fill [] fs slots)

/-- What items are as the values of the fields, from the one that so many were read before. -/
def judgeItems (tooShort : Nat → Mismatch) :
    (fs : List Field) → Nat → List (List Char) → Except Fault (Values fs)
  | [], _, [] => .ok ()
  | [], _, _ :: _ => .error (.malformed .trailingText)
  | f :: fs, read, [] =>
    match f.cut with
    | none => .error (.mismatch (tooShort read))
    | some v => (judgeItems tooShort fs (read + 1) []).map fun vs => (v, vs)
  | f :: fs, read, v :: vs =>
    f.verdict v >>= fun v => (judgeItems tooShort fs (read + 1) vs).map fun vs => (v, vs)

theorem Decides.verdict {f : Field} {v : List Char} {o : Except Fault f.Carrier} (h : Decides f.read v o) :
    f.verdict v = o := by
  have hread := h [] trivial
  rw [List.append_nil] at hread
  rw [Field.verdict, hread]
  cases o <;> rfl

theorem Judges.forget_read {f : Field} (h : Judges f.read) {v : List Char} (hv : IsValue v)
    {rest : List Char} (hrest : Ends rest) :
    forget (f.read (v ++ rest)) = (f.verdict v).map (·, rest) := by
  obtain ⟨o, ho⟩ := h.decides hv
  rw [ho rest hrest, ho.verdict]

theorem forget_fill (rest : List Char) (fs : List Field) (slots : Slots fs) :
    forget (fill rest fs slots) = forget (fill [] fs slots) := by
  induction fs with
  | nil => rfl
  | cons f fs ih =>
      obtain ⟨slot, slots⟩ := slots
      simp only [fill]
      cases slot.or f.missing with
      | none => rfl
      | some v => simp only [forget_bind, ih]

/-! ## Reading an object -/

theorem SpellsText.isText {cs s : List Char} (h : SpellsText cs s) : IsText cs := by
  induction h with
  | nil => exact .nil
  | plain hplain _ ih => exact .plain hplain ih
  | short hshort _ ih => exact .short (by simp [hshort]) ih
  | unit hn _ _ _ ih => exact .hex (by simp [hn]) ih
  | pair hhigh _ hlow _ _ ih => exact .hex (by simp [hhigh]) (.hex (by simp [hlow]) ih)

theorem SpellsText.readString {cs s : List Char} (h : SpellsText cs s) (read rest : List Char) :
    readString read (cs ++ '"' :: rest) = .ok (read.reverse ++ s, rest) := by
  induction h generalizing read with
  | nil => simp [Json.readString]
  | @plain c cs s hplain _ ih =>
      have hstep : Json.readString read (c :: cs ++ '"' :: rest) =
          Json.readString (c :: read) (cs ++ '"' :: rest) := by
        rw [List.cons_append, Json.readString]
        · rw [if_neg hplain.2.1, if_neg (Nat.not_lt.2 hplain.2.2)]
        all_goals simp_all [IsBare]
      rw [hstep, ih]
      simp
  | @short e c cs s hshort _ ih =>
      have hsome : (shortEscape? e).isSome := by simp [hshort]
      have hstep : Json.readString read ('\\' :: e :: cs ++ '"' :: rest) =
          Json.readString (c :: read) (cs ++ '"' :: rest) := by
        rcases shortEscape?_isSome hsome with rfl | rfl | rfl | rfl | rfl | rfl | rfl | rfl <;>
          simp [Json.readString, hshort]
      rw [hstep, ih]
      simp
  | unit hn hlow hhigh _ ih => simp [Json.readString, hn, hlow, hhigh, ih]
  | @pair _ _ _ _ _ _ _ _ high low _ _ hn hhigh hm hlow _ ih =>
      have hfirst : isLowSurrogate high = false := by
        simp only [isHighSurrogate, isLowSurrogate, Bool.and_eq_true, decide_eq_true_eq,
          Bool.and_eq_false_iff, decide_eq_false_iff_not] at hhigh ⊢
        omega
      simp [Json.readString, hn, hhigh, hm, hlow, hfirst, ih]

section Reading
variable {fs : List Field} (hfs : ∀ f ∈ fs, Judges f.read)

include hfs in
theorem forget_readMember (slots : Slots fs) (name : String) {as ds v rest : List Char} (has : Blanks as)
    (hds : Blanks ds) (hv : IsValue v) (hrest : Ends rest) :
    forget (readMember fs slots name (as ++ ':' :: (ds ++ (v ++ rest)))) =
      (take fs slots (name, v)).map (·, rest) := by
  induction fs with
  | nil =>
      simp only [readMember, afterColon_append has]
      change forget ((afterValue (ds ++ (v ++ rest))) >>= fun rest => .ok (slots, rest)) = _
      rw [afterValue_append hds hv hrest]
      rfl
  | cons f fs ih =>
      obtain ⟨slot, slots⟩ := slots
      have hf := hfs f List.mem_cons_self
      simp only [readMember, take]
      split_ifs with hname
      · cases slot with
        | some taken => rfl
        | none =>
            simp only [afterColon_append has, forget_bind, forget_ok]
            change forget (f.read (ds ++ (v ++ rest))) >>= _ = _
            rw [hf.blanks hds, hf.forget_read hv hrest]
            cases f.verdict v <;> rfl
      · rw [forget_bind, ih (fun g hg => hfs g (List.mem_cons_of_mem f hg))]
        cases take fs slots (name, v) <;> rfl

/-- Nothing in front of the first member, or a comma in front of a later one. -/
inductive Leads : Bool → List Char → Prop
  | first : Leads true []
  | later {es : List Char} : Blanks es → Leads false (es ++ [','])

theorem Leads.nextKey {first : Bool} {pre : List Char} (h : Leads first pre) {bs : List Char}
    (hbs : Blanks bs) (cs : List Char) :
    nextKey first (pre ++ (bs ++ '"' :: cs)) = .ok (some cs) := by
  have hquote := afterBlanks_of_append hbs (by decide : isBlank '"' = false) cs
  cases h with
  | first => simp [Json.nextKey, hquote]
  | later hes =>
      have hcomma := afterBlanks_of_append hes (by decide : isBlank ',' = false) (bs ++ '"' :: cs)
      simp [Json.nextKey, hcomma, hquote]

theorem nextKey_close {bs : List Char} (hbs : Blanks bs) (first : Bool) (rest : List Char) :
    nextKey first (bs ++ '\x7d' :: rest) = .ok none := by
  simp [nextKey, afterBlanks_of_append hbs (by decide : isBlank '\x7d' = false)]

include hfs in
theorem IsMember.readMembersOf {m : Member} {cs : List Char} (h : IsMember m cs) {first : Bool}
    {pre : List Char} (hpre : Leads first pre) (steps : Nat) (slots : Slots fs) {rest : List Char}
    (hrest : Ends rest) :
    forget (readMembersOf fs (steps + 1) first slots (pre ++ (cs ++ rest))) =
      take fs slots m >>= fun slots => forget (readMembersOf fs steps false slots rest) := by
  obtain @⟨name, bs, key, as, ds, v, hbs, hkey, has, hds, hv⟩ := h
  have hstring := hkey.readString [] (as ++ ':' :: (ds ++ (v ++ rest)))
  rw [List.reverse_nil, List.nil_append] at hstring
  have hstep : Json.readMembersOf fs (steps + 1) first slots
      (pre ++ (bs ++ '"' :: (key ++ '"' :: (as ++ ':' :: (ds ++ (v ++ rest)))))) =
      readMember fs slots name (as ++ ':' :: (ds ++ (v ++ rest))) >>= fun read =>
        Json.readMembersOf fs steps false read.1 read.2 := by
    simp only [Json.readMembersOf, hpre.nextKey hbs, bind, Except.bind, hstring, String.ofList_toList]
  simp only [List.append_assoc, List.cons_append]
  rw [hstep, forget_bind, forget_readMember hfs slots name has hds hv hrest]
  cases take fs slots (name, v) <;> rfl

include hfs in
/-- By induction on the members; the closing brace is left. -/
theorem AreMembers.readMembersOf {ms : List Member} {cs : List Char} (h : AreMembers ms cs) {first : Bool}
    {pre : List Char} (hpre : Leads first pre) {steps : Nat} (hsteps : ms.length < steps)
    (slots : Slots fs) {bs : List Char} (hbs : Blanks bs) (rest : List Char) :
    forget (Json.readMembersOf fs steps first slots (pre ++ (cs ++ (bs ++ '\x7d' :: rest)))) =
      (takeAll fs slots ms).map (·, bs ++ '\x7d' :: rest) := by
  have hends : Ends (bs ++ '\x7d' :: rest) := ends_append hbs (.inr (.inr (.inr (.inr rfl))))
  obtain ⟨k, rfl⟩ := Nat.exists_eq_add_of_lt (Nat.zero_lt_of_lt hsteps)
  rw [Nat.zero_add]
  induction h generalizing first pre slots k with
  | @last m cs hm =>
      rw [hm.readMembersOf hfs hpre k slots hends, takeAll]
      cases take fs slots m with
      | error fault => rfl
      | ok slots =>
          cases k with
          | zero => simp at hsteps
          | succ k =>
              change forget (Json.readMembersOf fs (k + 1) false slots (bs ++ '\x7d' :: rest)) = _
              simp only [Json.readMembersOf, nextKey_close hbs, bind, Except.bind]
              rfl
  | @more m ms cs es ds hm hes _ ih =>
      have hcomma : Ends (es ++ ',' :: (ds ++ (bs ++ '\x7d' :: rest))) := ends_append hes (.inr (.inl rfl))
      simp only [List.append_assoc, List.cons_append]
      rw [hm.readMembersOf hfs hpre k slots hcomma, takeAll]
      cases take fs slots m with
      | error fault => rfl
      | ok slots =>
          cases k with
          | zero => simp at hsteps
          | succ k =>
              have hlater := ih (.later hes) slots k (by simpa using hsteps)
              rwa [List.append_assoc, List.singleton_append] at hlater

theorem AreMembers.length_le {ms : List Member} {cs : List Char} (h : AreMembers ms cs) :
    ms.length ≤ cs.length := by
  induction h with
  | last hm =>
      obtain ⟨-, -, -, -, -⟩ := hm
      simp only [List.length_append, List.length_cons, List.length_nil]
      omega
  | more hm _ _ ih =>
      simp only [List.length_append, List.length_cons]
      omega

include hfs in
/-- The members of an object decide what it is read as. -/
theorem IsObject.readValues {ms : List Member} {cs : List Char} (h : IsObject ms cs) (record : String)
    (rest : List Char) :
    forget (Json.readValues record fs (cs ++ rest)) = (judge fs ms).map (·, rest) := by
  obtain ⟨body, bs, hbs, rfl, hread⟩ : ∃ body bs, Blanks bs ∧ cs = '\x7b' :: (body ++ (bs ++ ['\x7d'])) ∧
      forget (readMembersOf fs ((body ++ (bs ++ '\x7d' :: rest)).length + 1) true (Slots.empty fs)
        (body ++ (bs ++ '\x7d' :: rest))) = (takeAll fs (.empty fs) ms).map (·, bs ++ '\x7d' :: rest) := by
    cases h with
    | @empty bs hbs =>
        refine ⟨[], bs, hbs, rfl, ?_⟩
        simp only [List.nil_append, readMembersOf, nextKey_close hbs, bind, Except.bind]
        rfl
    | @members _ body bs hms hbs =>
        have hlength := hms.length_le
        refine ⟨body, bs, hbs, rfl, hms.readMembersOf hfs .first ?_ _ hbs rest⟩
        simp only [List.length_append]
        omega
  have hclose : closeObject (bs ++ '\x7d' :: rest) = .ok rest := by
    simp [closeObject, afterBlanks_of_append hbs (by decide : isBlank '\x7d' = false)]
  simp only [List.cons_append, List.append_assoc, List.nil_append]
  simp only [Json.readValues, afterBlanks_cons (by decide : isBlank '\x7b' = false), readFromObject]
  simp only [forget_bind, forget_settle, hread, judge]
  cases takeAll fs (.empty fs) ms with
  | error fault => rfl
  | ok slots =>
      simp only [Except.map, bind, Except.bind]
      rw [forget_fill]
      cases forget (fill [] fs slots) with
      | error fault => rfl
      | ok values => simp [hclose]

/-! ## Reading an array -/

/-- What stands in front of an item is taken with the comma in front of it. -/
theorem Leads.nextItem {first : Bool} {pre : List Char} (h : Leads first pre) {bs v : List Char}
    (hbs : Blanks bs) (hv : IsValue v) (rest : List Char) :
    nextItem first (pre ++ (bs ++ (v ++ rest))) = .ok (some (v ++ rest)) := by
  have hvalue := hv.afterBlanks_value rest
  obtain ⟨c, cs, rfl, hblank, hbracket, -, -⟩ := hv.value_cons
  have hopen : afterBlanks (bs ++ (c :: (cs ++ rest))) = c :: (cs ++ rest) := by
    rw [afterBlanks_append hbs, afterBlanks_cons hblank]
  cases h with
  | first => simp [Json.nextItem, hopen]
  | later hes =>
      have hcomma := afterBlanks_of_append hes (by decide : isBlank ',' = false) (bs ++ (c :: (cs ++ rest)))
      simp [Json.nextItem, hcomma, hopen, hbracket]

/-- Reads the remaining items of an array and its closing bracket. -/
def readClosed (tooShort : Nat → Mismatch) (fs : List Field) (read : Nat) (cs : List Char) :
    Except Flaw (Values fs × List Char) :=
  readItemsOf tooShort fs read cs >>= fun taken => (closeArray taken.2).map fun rest => (taken.1, rest)

/-- A value in front of the others. -/
def before {f : Field} (v : f.Carrier) (taken : Values fs × List Char) : Values (f :: fs) × List Char :=
  ((v, taken.1), taken.2)

theorem forget_readClosed_close {tooShort : Nat → Mismatch} {read : Nat} {bs : List Char} (hbs : Blanks bs)
    (rest : List Char) :
    forget (readClosed tooShort fs read (bs ++ ']' :: rest)) =
      (judgeItems tooShort fs read []).map (·, rest) := by
  have hclose := afterBlanks_of_append hbs (by decide : isBlank ']' = false) rest
  induction fs generalizing read with
  | nil =>
      have hbracket : closeArray (bs ++ ']' :: rest) = .ok rest := by simp [closeArray, hclose]
      simp [readClosed, readItemsOf, bind, Except.bind, Except.map, judgeItems, hbracket]
  | cons f fs ih =>
      have hnone : Json.nextItem (read == 0) (bs ++ ']' :: rest) = .ok none := by simp [nextItem, hclose]
      cases hcut : f.cut with
      | none =>
          simp only [readClosed, readItemsOf, hnone, hcut, judgeItems, bind, Except.bind]
          rfl
      | some v =>
          have hstep : readClosed tooShort (f :: fs) read (bs ++ ']' :: rest) =
              (readClosed tooShort fs (read + 1) (bs ++ ']' :: rest)).map (before v) := by
            simp only [readClosed, readItemsOf, hnone, hcut, bind, Except.bind]
            cases readItemsOf tooShort fs (read + 1) (bs ++ ']' :: rest) with
            | error flaw => rfl
            | ok taken =>
                dsimp only
                cases closeArray taken.2 <;> rfl
          simp only [hstep, forget_map, ih, judgeItems, hcut]
          cases judgeItems tooShort fs (read + 1) [] <;> rfl

theorem forget_readClosed_item {f : Field} (hf : Judges f.read) (tooShort : Nat → Mismatch) {read : Nat}
    {pre : List Char} (hpre : Leads (read == 0) pre) {bs v rest : List Char} (hbs : Blanks bs)
    (hv : IsValue v) (hrest : Ends rest) :
    forget (readClosed tooShort (f :: fs) read (pre ++ (bs ++ (v ++ rest)))) =
      f.verdict v >>= fun a => (forget (readClosed tooShort fs (read + 1) rest)).map (before a) := by
  have hstep : readClosed tooShort (f :: fs) read (pre ++ (bs ++ (v ++ rest))) =
      f.read (v ++ rest) >>= fun taken =>
        (readClosed tooShort fs (read + 1) taken.2).map (before taken.1) := by
    simp only [readClosed, readItemsOf, hpre.nextItem hbs hv, bind, Except.bind]
    cases f.read (v ++ rest) with
    | error flaw => rfl
    | ok taken =>
        dsimp only
        cases readItemsOf tooShort fs (read + 1) taken.2 with
        | error flaw => rfl
        | ok later =>
            dsimp only
            cases closeArray later.2 <;> rfl
  rw [hstep, forget_bind, hf.forget_read hv hrest]
  cases f.verdict v with
  | error fault => rfl
  | ok a => exact forget_map _ _

/-- An item more than there are fields. -/
theorem forget_readClosed_extra (tooShort : Nat → Mismatch) {read : Nat} {first : Bool} {pre : List Char}
    (hpre : Leads first pre) {bs v : List Char} (hbs : Blanks bs) (hv : IsValue v) (rest : List Char) :
    forget (readClosed tooShort [] read (pre ++ (bs ++ (v ++ rest)))) =
      .error (.malformed .trailingText) := by
  obtain ⟨c, cs, rfl, hblank, hbracket, -, hcomma⟩ := hv.value_cons
  have hopen : afterBlanks (bs ++ (c :: (cs ++ rest))) = c :: (cs ++ rest) := by
    rw [afterBlanks_append hbs, afterBlanks_cons hblank]
  cases hpre with
  | first =>
      simp [readClosed, readItemsOf, closeArray, hopen, hbracket, hcomma, bind, Except.bind, Except.map,
        Flaw.within]
  | later hes =>
      have hafter := afterBlanks_of_append hes (by decide : isBlank ',' = false) (bs ++ (c :: (cs ++ rest)))
      simp [readClosed, readItemsOf, closeArray, hafter, hopen, hbracket, bind, Except.bind, Except.map,
        Flaw.within]

include hfs in
/-- By induction on the items; the fields may be fewer or more. -/
theorem AreItems.forget_readClosed {vs : List (List Char)} {cs : List Char} (h : AreItems vs cs)
    (tooShort : Nat → Mismatch) {read : Nat} {pre : List Char} (hpre : Leads (read == 0) pre)
    {bs : List Char} (hbs : Blanks bs) (rest : List Char) :
    forget (readClosed tooShort fs read (pre ++ (cs ++ (bs ++ ']' :: rest)))) =
      (judgeItems tooShort fs read vs).map (·, rest) := by
  have hends : Ends (bs ++ ']' :: rest) := ends_append hbs (.inr (.inr (.inr (.inl rfl))))
  induction h generalizing fs read pre with
  | @last v es hes hv =>
      rw [List.append_assoc]
      cases fs with
      | nil => rw [forget_readClosed_extra tooShort hpre hes hv]; rfl
      | cons f fs =>
          rw [forget_readClosed_item (hfs f List.mem_cons_self) tooShort hpre hes hv hends,
            forget_readClosed_close hbs, judgeItems]
          cases f.verdict v with
          | error fault => rfl
          | ok a => cases judgeItems tooShort fs (read + 1) [] <;> rfl
  | @more v es ds cs vs hes hv hds _ ih =>
      simp only [List.append_assoc, List.cons_append]
      cases fs with
      | nil => rw [forget_readClosed_extra tooShort hpre hes hv]; rfl
      | cons f fs =>
          have hcomma : Ends (ds ++ ',' :: (cs ++ (bs ++ ']' :: rest))) := ends_append hds (.inr (.inl rfl))
          have hnext : Leads (read + 1 == 0) (ds ++ [',']) := .later hds
          have hlater := ih (fun g hg => hfs g (List.mem_cons_of_mem f hg)) hnext
          rw [List.append_assoc, List.singleton_append] at hlater
          rw [forget_readClosed_item (hfs f List.mem_cons_self) tooShort hpre hes hv hcomma, hlater,
            judgeItems]
          cases f.verdict v with
          | error fault => rfl
          | ok a => cases judgeItems tooShort fs (read + 1) vs <;> rfl

include hfs in
/-- The values in an array decide what it is read as. -/
theorem IsArray.readValues {vs : List (List Char)} {cs : List Char} (h : IsArray vs cs) (record : String)
    (rest : List Char) :
    forget (Json.readValues record fs (cs ++ rest)) =
      (judgeItems (fun read => .tooShort read record fs.length) fs 0 vs).map (·, rest) := by
  obtain ⟨body, bs, hbs, rfl, hread⟩ : ∃ body bs, Blanks bs ∧ cs = '[' :: (body ++ (bs ++ [']'])) ∧
      forget (readClosed (fun read => .tooShort read record fs.length) fs 0 (body ++ (bs ++ ']' :: rest))) =
        (judgeItems (fun read => .tooShort read record fs.length) fs 0 vs).map (·, rest) := by
    cases h with
    | @empty bs hbs => exact ⟨[], bs, hbs, rfl, forget_readClosed_close hbs rest⟩
    | @items _ body bs hvs hbs =>
        have hpre : Leads (0 == 0) [] := .first
        exact ⟨body, bs, hbs, rfl, hvs.forget_readClosed hfs _ hpre hbs rest⟩
  rw [← hread]
  simp only [List.cons_append, List.append_assoc, List.nil_append]
  simp only [Json.readValues, afterBlanks_cons (by decide : isBlank '[' = false), forget_bind, forget_settle,
    readClosed, forget_map]
  cases forget (readItemsOf (fun read => .tooShort read record fs.length) fs 0
    (body ++ (bs ++ ']' :: rest))) with
  | error fault => rfl
  | ok taken => cases closeArray taken.2 <;> rfl

end Reading
end Json

/-- The name of each field. -/
def Record.names (α : Type) [Record α] : List String := (fields α).map Json.Field.name

/-- A record whose fields have different names and judge values by their text. -/
class Record.Judged (α : Type) [Record α] : Prop where
  names : (names α).Nodup
  fields : ∀ f ∈ fields α, f.Judged

namespace Record

open Json

variable {α : Type} [Record α]

theorem readValues_blanks {record : String} {fs : List Field} {bs : List Char} (hbs : Blanks bs)
    (cs : List Char) : readValues record fs (bs ++ cs) = readValues record fs cs := by
  simp only [readValues, afterBlanks_append hbs]

/-- A text that holds something with this outcome and nothing else. -/
theorem forget_decode {t : String} {bs cs es : List Char} (hbs : Blanks bs) (hes : Blanks es)
    (ht : t.toList = bs ++ (cs ++ es)) {o : Except Json.Fault (Values (fields α))}
    (hread : forget (readValues (Record.name α) (fields α) (cs ++ es)) = o.map (·, es)) :
    forget (Wire.decode α t) = o.map ofValues := by
  have hend : afterBlanks es = [] := by
    have := afterBlanks_append hes []
    rwa [List.append_nil] at this
  rw [Wire.decode, decode, ht]
  simp only [Wire.read, readValues_blanks hbs, forget_bind, hread]
  cases o with
  | error fault => rfl
  | ok values => simp [Except.map, bind, Except.bind, hend]

variable [Judged α]

theorem decode_object {t : String} {ms : List Member} (h : Holds (IsObject ms) t) :
    forget (Wire.decode α t) = (judge (fields α) ms).map ofValues := by
  obtain ⟨bs, cs, es, hbs, hobject, hes, ht⟩ := h
  exact forget_decode hbs hes ht (hobject.readValues (fun f hf => (Judged.fields f hf).judges) _ es)

theorem decode_array {t : String} {vs : List (List Char)} (h : Holds (IsArray vs) t) :
    forget (Wire.decode α t) =
      (judgeItems (fun read => .tooShort read (Record.name α) (fields α).length) (fields α) 0 vs).map
        ofValues := by
  obtain ⟨bs, cs, es, hbs, harray, hes, ht⟩ := h
  exact forget_decode hbs hes ht (harray.readValues (fun f hf => (Judged.fields f hf).judges) _ es)

end Record
end Purse
