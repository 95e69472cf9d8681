import Purse.Proofs.Json.Presentation

/-!
# Values on several lines

The wide text of a record is that of an object with the same members as its compact text: it differs in
blanks only, since no member of a record has parts of its own. So it is read as the same record, and a
list of records is read from its wide text as well.
-/
namespace Purse
namespace Json

variable {α : Type}

/-- A value without parts. -/
inductive Flat : Json → Prop
  | null : Flat .null
  | bool (b : Bool) : Flat (.bool b)
  | int (n : Int) : Flat (.int n)
  | text (s : String) : Flat (.text s)

/-! ## The text of a value without parts -/

theorem isWhole_digits (n : Nat) : IsWhole (Numeral.digits n) := by
  obtain ⟨d, ds, hd⟩ := List.exists_cons_of_ne_nil (Numeral.digits_ne_nil n)
  by_cases hzero : d = '0'
  · obtain rfl := Numeral.eq_zero_of_digits (hzero ▸ hd)
    exact .zero
  · have hdigits : IsDigits (d :: ds) :=
      ⟨List.cons_ne_nil d ds, fun c hc => Numeral.isDigit_of_mem_digits (n := n) (hd ▸ hc)⟩
    exact hd ▸ .digits hdigits hzero

theorem isNumber_signed (n : Int) : IsNumber (Numeral.signed n) := by
  have hunsigned (n : Nat) : IsUnsigned (Numeral.digits n) := by
    simpa using IsUnsigned.intro (isWhole_digits n) .none .none
  cases n with
  | ofNat n => exact .positive (hunsigned n)
  | negSucc n => exact .negative (hunsigned (n + 1))

theorem SpellsText.escape {cs s : List Char} (h : SpellsText cs s) (c : Char) :
    SpellsText (escape c ++ cs) (c :: s) := by
  unfold Json.escape
  split_ifs with hquote hbackslash hbackspace htab hnewline hfeed hreturn hcontrol
  · exact .short (by rw [hquote]; rfl) h
  · exact .short (by rw [hbackslash]; rfl) h
  · exact .short (by rw [← Char.ofNat_toNat c, hbackspace]; rfl) h
  · exact .short (by rw [htab]; rfl) h
  · exact .short (by rw [hnewline]; rfl) h
  · exact .short (by rw [← Char.ofNat_toNat c, hfeed]; rfl) h
  · exact .short (by rw [hreturn]; rfl) h
  · have hunit := SpellsText.unit (hexWord?_control hcontrol) (isLowSurrogate_control hcontrol)
      (isHighSurrogate_control hcontrol) h
    rwa [Char.ofNat_toNat] at hunit
  · exact .plain ⟨hquote, hbackslash, Nat.le_of_not_lt hcontrol⟩ h

theorem spellsText_escape (s : List Char) : SpellsText (s.flatMap escape) s := by
  induction s with
  | nil => exact .nil
  | cons c s ih => exact ih.escape c

theorem Flat.isValue {v : Json} (h : Flat v) : IsValue v.chars := by
  cases h with
  | null => exact .wordNull
  | bool b =>
      cases b with
      | false => exact .wordFalse
      | true => exact .wordTrue
  | int n => exact chars_int n ▸ .number (isNumber_signed n)
  | text s => exact .text (spellsText_escape s.toList).isText

theorem Flat.wideChars_eq {v : Json} (h : Flat v) (level : Nat) : wideChars level v = v.chars := by
  cases h with
  | bool b => cases b <;> rfl
  | null | int | text => rfl

/-! ## The text of an object -/

/-- The members of an object, each by its text. -/
def texts (ms : List (String × Json)) : List Member := ms.map fun m => (m.1, m.2.chars)

/-- Members with some blanks in front of each, and some between a name and its value. -/
def spread (lead gap : List Char) : List Member → List Char
  | [] => []
  | [m] => lead ++ (quoted m.1 ++ ':' :: (gap ++ m.2))
  | m :: m' :: ms => lead ++ (quoted m.1 ++ ':' :: (gap ++ m.2)) ++ ',' :: spread lead gap (m' :: ms)

section Spread
variable {lead gap : List Char} (hlead : Blanks lead) (hgap : Blanks gap)
include hlead hgap

theorem isMember_spread {m : Member} (h : IsValue m.2) :
    IsMember m (lead ++ (quoted m.1 ++ ':' :: (gap ++ m.2))) := by
  have hmember := IsMember.intro hlead (spellsText_escape m.1.toList) blanks_nil hgap h
  simpa [quoted] using hmember

theorem areMembers_spread {ms : List Member} (hne : ms ≠ []) (h : ∀ m ∈ ms, IsValue m.2) :
    AreMembers ms (spread lead gap ms) := by
  induction ms with
  | nil => exact absurd rfl hne
  | cons m ms ih =>
      have hfirst := isMember_spread hlead hgap (h m List.mem_cons_self)
      cases ms with
      | nil => exact .last hfirst
      | cons m' ms =>
          exact .more hfirst blanks_nil
            (ih (List.cons_ne_nil m' ms) fun m'' hm'' => h m'' (List.mem_cons_of_mem m hm''))

end Spread

theorem memberChars_eq (ms : List (String × Json)) : memberChars ms = spread [] [] (texts ms) := by
  induction ms with
  | nil => rfl
  | cons m ms ih =>
      cases ms with
      | nil => rfl
      | cons m' ms => simp only [memberChars, ih, texts, List.map_cons, spread, List.nil_append]

theorem wideMembers_eq {ms : List (String × Json)} (h : ∀ m ∈ ms, Flat m.2) (level : Nat) :
    wideMembers level ms = spread (newline level) [' '] (texts ms) := by
  induction ms with
  | nil => rfl
  | cons m ms ih =>
      have hfirst := (h m List.mem_cons_self).wideChars_eq level
      have hlater := ih fun m' hm' => h m' (List.mem_cons_of_mem m hm')
      cases ms with
      | nil => simp [wideMembers, texts, spread, hfirst]
      | cons m' ms =>
          rw [wideMembers, hlater, hfirst]
          simp [texts, spread]

theorem blanks_newline (level : Nat) : Blanks (newline level) := by
  intro c hc
  rcases List.mem_cons.1 hc with rfl | hc
  · decide
  · rw [List.eq_of_mem_replicate hc]
    decide

theorem isValue_texts {ms : List (String × Json)} (h : ∀ m ∈ ms, Flat m.2) :
    ∀ m ∈ texts ms, IsValue m.2 := by
  intro m hm
  obtain ⟨m', hm', rfl⟩ := List.mem_map.1 hm
  exact (h m' hm').isValue

/-- The compact and the wide text of a record are two presentations of one object. -/
theorem isObject_chars {ms : List (String × Json)} (h : ∀ m ∈ ms, Flat m.2) :
    IsObject (texts ms) (object ms).chars := by
  cases ms with
  | nil => exact .empty blanks_nil
  | cons m ms =>
      rw [chars, memberChars_eq]
      exact .members (areMembers_spread blanks_nil blanks_nil (List.cons_ne_nil _ _) (isValue_texts h))
        blanks_nil

theorem isObject_wideChars {ms : List (String × Json)} (h : ∀ m ∈ ms, Flat m.2) (level : Nat) :
    IsObject (texts ms) (wideChars level (object ms)) := by
  cases ms with
  | nil => exact .empty blanks_nil
  | cons m ms =>
      have hgap : Blanks [' '] := by simp [Blanks, isBlank]
      have hmembers := areMembers_spread (blanks_newline (level + 1)) hgap (List.cons_ne_nil _ _)
        (isValue_texts h)
      have htext : wideChars level (object (m :: ms)) =
          '{' :: (spread (newline (level + 1)) [' '] (texts (m :: ms)) ++
            (newline level ++ ['}'])) := by
        simp [wideChars, wideMembers_eq h]
      rw [htext]
      exact .members hmembers (blanks_newline level)

theorem AreMembers.written {ms : List Member} {cs : List Char} (h : AreMembers ms cs) :
    Written .members cs := by
  induction h with
  | last hm =>
      obtain ⟨hbs, hkey, has, hds, hv⟩ := hm
      exact .lastMember hbs hkey.isText has hds hv
  | more hm hes _ ih =>
      obtain ⟨hbs, hkey, has, hds, hv⟩ := hm
      simpa using Written.member hbs hkey.isText has hds hv hes ih

theorem IsObject.isValue {ms : List Member} {cs : List Char} (h : IsObject ms cs) : IsValue cs := by
  cases h with
  | empty hbs => exact .emptyObject hbs
  | members hms hbs => exact .object hms.written hbs

/-! ## Reading -/

/-- The text of one value that is read as the given one, whatever follows it. -/
structure Shows (read : Reader α) (a : α) (v : List Char) : Prop where
  isValue : IsValue v
  decides : Decides read v (.ok a)

theorem Shows.read_eq {read : Reader α} {a : α} {v : List Char} (h : Shows read a v) {rest : List Char}
    (hrest : Ends rest) : read (v ++ rest) = .ok (a, rest) :=
  forget_eq_ok.1 (h.decides rest hrest)

theorem Shows.decode {read : Reader α} {a : α} {v es : List Char} (h : Shows read a v) (hes : Blanks es) :
    decode read (String.ofList (v ++ es)) = .ok a := by
  have hends : Ends es := by
    have hnil : Ends [] := trivial
    have hafter := ends_append hes hnil
    rwa [List.append_nil] at hafter
  have hend : afterBlanks es = [] := by
    have hafter := afterBlanks_append hes []
    rwa [List.append_nil] at hafter
  simp [Json.decode, h.read_eq hends, bind, Except.bind, hend]

/-- Items are read one after the other, whatever blanks stand between them. -/
theorem AreItems.readItemsWith {read : Reader α} {vs : List (List Char)} {cs : List Char}
    (h : AreItems vs cs) {as : List α} (hshows : List.Forall₂ (Shows read) as vs) {first : Bool}
    {pre : List Char} (hpre : Leads first pre) {steps : Nat} (hsteps : vs.length < steps)
    {bs : List Char} (hbs : Blanks bs) (rest : List Char) :
    readItemsWith read steps first (pre ++ (cs ++ (bs ++ ']' :: rest))) =
      .ok (as, bs ++ ']' :: rest) := by
  have hends : Ends (bs ++ ']' :: rest) := ends_append hbs (.inr (.inr (.inr (.inl rfl))))
  have hclose (first : Bool) : nextItem first (bs ++ ']' :: rest) = .ok none := by
    simp [nextItem, afterBlanks_of_append hbs (by decide : isBlank ']' = false)]
  induction h generalizing as first pre steps with
  | @last v es hes hv =>
      obtain _ | ⟨hitem, hnone⟩ := hshows
      cases hnone
      obtain ⟨k, rfl, hk⟩ := exists_step hsteps
      obtain ⟨k, rfl, -⟩ := exists_step hk
      rw [List.append_assoc, Json.readItemsWith, hpre.nextItem hes hv]
      simp [hitem.read_eq hends, Json.readItemsWith, hclose, bind, Except.bind]
  | @more v es ds cs vs hes hv hds _ ih =>
      obtain _ | ⟨hitem, hothers⟩ := hshows
      have hcomma : Ends (ds ++ ',' :: (cs ++ (bs ++ ']' :: rest))) := ends_append hds (.inr (.inl rfl))
      obtain ⟨k, rfl, hk⟩ := exists_step hsteps
      have hlater := ih hothers (.later hds) hk
      rw [List.append_assoc, List.singleton_append] at hlater
      simp only [List.append_assoc, List.cons_append]
      rw [Json.readItemsWith, hpre.nextItem hes hv]
      simp [hitem.read_eq hcomma, hlater, bind, Except.bind]

theorem AreItems.length_le {vs : List (List Char)} {cs : List Char} (h : AreItems vs cs) :
    vs.length ≤ cs.length := by
  induction h with
  | last _ hv =>
      have hpos := hv.length_pos
      simp only [List.length_append, List.length_cons, List.length_nil]
      omega
  | more _ hv _ _ ih =>
      simp only [List.length_append, List.length_cons]
      omega

theorem AreItems.written {vs : List (List Char)} {cs : List Char} (h : AreItems vs cs) :
    Written .items cs := by
  induction h with
  | last hbs hv => exact .lastItem hbs hv
  | more hbs hv hes _ ih => exact .item hbs hv hes ih

theorem AreItems.shows {read : Reader α} {vs : List (List Char)} {cs : List Char} (h : AreItems vs cs)
    {as : List α} (hshows : List.Forall₂ (Shows read) as vs) {bs : List Char} (hbs : Blanks bs) :
    Shows (readList read) as ('[' :: (cs ++ (bs ++ [']']))) where
  isValue := .array h.written hbs
  decides rest _ := by
    have hsteps : vs.length < (cs ++ (bs ++ ']' :: rest)).length + 1 := by
      have hlength := h.length_le
      rw [List.length_append]
      omega
    have hread := h.readItemsWith hshows .first hsteps hbs rest
    have hclose : closeArray (bs ++ ']' :: rest) = .ok rest := by
      simp [closeArray, afterBlanks_of_append hbs (by decide : isBlank ']' = false)]
    rw [List.nil_append] at hread
    simp only [List.cons_append, List.append_assoc, List.nil_append]
    simp only [readList, afterBlanks_cons (by decide : isBlank '[' = false), hread]
    simp [hclose, Except.mapError, Except.map, bind, Except.bind]

theorem shows_empty (read : Reader α) : Shows (readList read) [] ['[', ']'] where
  isValue := .emptyArray blanks_nil
  decides _ _ := rfl

/-- The items of an array on lines of their own. -/
theorem areItems_wide {level : Nat} {vs : List Json} (hne : vs ≠ [])
    (h : ∀ v ∈ vs, IsValue (wideChars level v)) :
    AreItems (vs.map (wideChars level)) (wideItems level vs) := by
  induction vs with
  | nil => exact absurd rfl hne
  | cons v vs ih =>
      have hfirst := h v List.mem_cons_self
      cases vs with
      | nil => exact .last (blanks_newline level) hfirst
      | cons w vs =>
          have hlater := ih (List.cons_ne_nil w vs) fun u hu => h u (List.mem_cons_of_mem v hu)
          simpa [wideItems] using AreItems.more (blanks_newline level) hfirst blanks_nil hlater

/-- A list is read from its wide text if each of its items is. -/
theorem shows_wide_list {read : Reader α} {write : α → Json} {level : Nat} {as : List α}
    (h : ∀ a ∈ as, Shows read a (wideChars (level + 1) (write a))) :
    Shows (readList read) as (wideChars level (.array (as.map write))) := by
  cases as with
  | nil => exact shows_empty read
  | cons a as =>
      have hvalues : ∀ v ∈ (a :: as).map write, IsValue (wideChars (level + 1) v) := by
        intro v hv
        obtain ⟨b, hb, rfl⟩ := List.mem_map.1 hv
        exact (h b hb).isValue
      have hitems := areItems_wide (List.cons_ne_nil _ _) hvalues
      have hshows : List.Forall₂ (Shows read) (a :: as)
          (((a :: as).map write).map (wideChars (level + 1))) := by
        rw [List.map_map, List.forall₂_map_right_iff, List.forall₂_same]
        exact h
      simpa [wideChars] using hitems.shows hshows (blanks_newline level)

/-! ## Records -/

/-- A field that is written without parts. -/
def Field.IsFlat (f : Field) : Prop := ∀ v json, f.write v = some json → Flat json

theorem flat_writeValues {fs : List Field} (h : ∀ f ∈ fs, f.IsFlat) (vs : Values fs) :
    ∀ m ∈ writeValues fs vs, Flat m.2 := by
  induction fs with
  | nil => exact fun m hm => nomatch hm
  | cons f fs ih =>
      obtain ⟨v, vs⟩ := vs
      have hlater := ih (fun g hg => h g (List.mem_cons_of_mem f hg)) vs
      cases hwrite : f.write v with
      | none => simpa [writeValues, hwrite] using hlater
      | some json =>
          have hfirst := h f List.mem_cons_self v json hwrite
          simp only [writeValues, hwrite, List.forall_mem_cons]
          exact ⟨hfirst, hlater⟩

/-- Every type of the vocabulary whose values are written without parts. -/
class WritesFlat (α : Type) [Wire α] : Prop where
  flat : ∀ a : α, Flat (Wire.write a)

instance : WritesFlat Int := ⟨.int⟩
instance : WritesFlat Bool := ⟨.bool⟩
instance : WritesFlat String := ⟨.text⟩
instance : WritesFlat Amount := ⟨fun a => .int a.value⟩
instance : WritesFlat Timestamp := ⟨fun t => .text t.text⟩
instance : WritesFlat UserId := ⟨fun id => .text id.text⟩
instance : WritesFlat BookingId := ⟨fun id => .text id.text⟩
instance : WritesFlat WalletId := ⟨fun id => .text id.text⟩
instance : WritesFlat EntryId := ⟨fun id => .text id.text⟩
instance : WritesFlat PaymentId := ⟨fun id => .text id.text⟩
instance : WritesFlat PaymentMethod := ⟨fun m => .text m.name⟩
instance : WritesFlat PaymentStatus := ⟨fun s => .text s.name⟩
instance : WritesFlat EntryKind := ⟨fun k => .text k.name⟩

section Fields
variable (name : String) [Wire α] [WritesFlat α]

@[simp] theorem Field.isFlat_required : (Field.required name α).IsFlat := by
  intro a json hwrite
  obtain rfl := Option.some.inj hwrite
  exact WritesFlat.flat (α := α) a

@[simp] theorem Field.isFlat_optional : (Field.optional name α).IsFlat := by
  intro a json hwrite
  obtain rfl := Option.some.inj hwrite
  cases a with
  | none => exact .null
  | some a => exact WritesFlat.flat a

end Fields
end Json

open Json

/-- A record all of whose members are written without parts. -/
class Record.IsFlat (α : Type) [Record α] : Prop where
  fields : ∀ f ∈ Record.fields α, f.IsFlat

instance : Record.IsFlat Wallet := ⟨by simp [Record.fields]⟩
instance : Record.IsFlat Entry := ⟨by simp [Record.fields]⟩
instance : Record.IsFlat Payment := ⟨by simp [Record.fields]⟩
instance : Record.IsFlat Checkout := ⟨by simp [Record.fields]⟩
instance : Record.IsFlat Acknowledgement := ⟨by simp [Record.fields]⟩

section Wide
variable {α : Type}

theorem Record.holds_encode [Record α] [Record.IsFlat α] (a : α) :
    Holds (IsObject (texts (writeValues (Record.fields α) (Record.toValues a)))) (Wire.encode a) :=
  ⟨[], _, [], blanks_nil, isObject_chars (flat_writeValues (Record.IsFlat.fields (α := α)) _), blanks_nil, by
    simp [Wire.encode, render, Wire.write]⟩

/-- A record that is read back from its compact text is read from its wide text, on any level. -/
theorem Record.shows_wide [Record α] [Record.Judged α] [Record.IsFlat α] {a : α}
    (h : Wire.RoundTrips a) (level : Nat) : Shows Wire.read a (wideChars level (Wire.write a)) := by
  have hflat := flat_writeValues (Record.IsFlat.fields (α := α)) (Record.toValues a)
  -- Both texts have these members, so they are judged alike.
  have hwide := isObject_wideChars hflat level
  have hcompact := Record.holds_encode a
  obtain ⟨values, hjudge, hvalues⟩ := Record.exists_judge_of_decode hcompact h.decode_encode
  refine ⟨hwide.isValue, fun rest _ => ?_⟩
  have hfields : ∀ f ∈ Record.fields α, Judges f.read := fun f hf => (Record.Judged.fields f hf).judges
  have hread := hwide.readValues hfields (Record.name α) rest
  rw [hjudge] at hread
  have hread := forget_eq_ok.1 hread
  simp only [Wire.write, Wire.read]
  rw [hread]
  simp [bind, Except.bind, Except.map, hvalues]

/-- What is shown of a value is read as that value. -/
theorem Wire.decode_renderWide [Wire α] {a : α} (h : Shows Wire.read a (wideChars 0 (Wire.write a))) :
    Wire.decode α ((Wire.write a).renderWide ++ "\n") = .ok a := by
  have hend : Blanks ['\n'] := by simp [Blanks, isBlank]
  have hdecode := h.decode hend
  rwa [String.ofList_append] at hdecode

end Wide
end Purse
