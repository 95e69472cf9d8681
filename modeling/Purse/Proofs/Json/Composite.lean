import Purse.Proofs.Json.Accepted

/-!
# What a record is read from

Nothing but the text of an object or an array is read as a record. If the beginning of an object is given, up
to the colon of one of its members, then whatever stands behind it, the text goes on with a value there and
then as an object. Together with what members and items are judged to be, this tells of every text what record
it is read as.
-/
namespace Purse
namespace Json

variable {α : Type} {cs ds rest : List Char}

/-! ## Objects -/

/-- The members that are left, with the comma in front of them if there were others; there may be none. -/
inductive MembersLeft (first : Bool) : List Member → List Char → Prop
  | none : MembersLeft first [] []
  | some {pre cs : List Char} {ms : List Member} : Leads first pre → AreMembers ms cs →
      MembersLeft first ms (pre ++ cs)

theorem MembersLeft.cons {first : Bool} {pre : List Char} {m : Member} {ms : List Member}
    (hpre : Leads first pre) (hm : IsMember m cs) (h : MembersLeft false ms ds) :
    MembersLeft first (m :: ms) (pre ++ (cs ++ ds)) := by
  cases h with
  | none => exact .some hpre ((List.append_nil cs).symm ▸ .last hm)
  | some hnext hms =>
      cases hnext with
      | later hes =>
          rw [List.append_assoc, List.singleton_append]
          exact .some hpre (.more hm hes hms)

theorem of_nextKey_some {first : Bool} (h : nextKey first cs = .ok (some rest)) :
    ∃ pre bs, Leads first pre ∧ Blanks bs ∧ cs = pre ++ (bs ++ '"' :: rest) := by
  unfold nextKey at h
  split at h
  · cases h
  · cases h
  · rename_i hstart
    obtain ⟨bs, hbs, rfl⟩ := exists_blanks hstart
    split_ifs at h with hfirst hquote hcomma
    · cases h
      exact ⟨[], bs, hfirst ▸ .first, hbs, by rw [hquote]; rfl⟩
    · rw [Bool.not_eq_true] at hfirst
      split at h
      · cases h
      · rename_i hkey
        cases h
        obtain ⟨ds, hds, rfl⟩ := exists_blanks hkey
        exact ⟨bs ++ [','], ds, hfirst ▸ .later hbs, hds, by simp [hcomma]⟩
      · cases h
      · cases h

theorem of_nextKey_none {first : Bool} (h : nextKey first cs = .ok none) :
    ∃ bs rest, Blanks bs ∧ cs = bs ++ '\x7d' :: rest := by
  unfold nextKey at h
  split at h
  · cases h
  · rename_i hstart
    obtain ⟨bs, hbs, rfl⟩ := exists_blanks hstart
    exact ⟨bs, _, hbs, rfl⟩
  · split_ifs at h
    · cases h
    · split at h <;> cases h

section Fields
variable {fs : List Field} (hfs : ∀ f ∈ fs, TakesValues f.read)

include hfs in
theorem of_readMember {slots slots' : Slots fs} {name : String}
    (h : readMember fs slots name cs = .ok (slots', rest)) :
    ∃ cs', afterColon cs = .ok cs' ∧ Part.value.Taken cs' rest := by
  induction fs generalizing cs with
  | nil =>
      obtain ⟨cs', hcolon, h⟩ := bind_eq_ok.1 h
      obtain ⟨cs'', hskip, hrest⟩ := bind_eq_ok.1 h
      cases hrest
      exact ⟨cs', hcolon, taken_afterValue hskip⟩
  | cons f fs ih =>
      obtain ⟨slot, slots⟩ := slots
      simp only [readMember] at h
      split_ifs at h
      · split at h
        · cases h
        · obtain ⟨cs', hcolon, h⟩ := bind_eq_ok.1 h
          obtain ⟨⟨a, cs''⟩, hread, hrest⟩ := bind_eq_ok.1 h
          cases hrest
          exact ⟨cs', hcolon, hfs f List.mem_cons_self hread⟩
      · obtain ⟨⟨slots'', cs'⟩, hread, hrest⟩ := bind_eq_ok.1 h
        cases hrest
        exact ih (fun g hg => hfs g (List.mem_cons_of_mem f hg)) hread

include hfs in
/-- By induction on the steps. -/
theorem of_readMembersOf {steps : Nat} {first : Bool} {slots slots' : Slots fs}
    (h : readMembersOf fs steps first slots cs = .ok (slots', rest)) :
    ∃ ms body bs rest', MembersLeft first ms body ∧ Blanks bs ∧ rest = bs ++ '\x7d' :: rest' ∧
      cs = body ++ rest := by
  induction steps generalizing first slots cs with
  | zero => cases h
  | succ steps ih =>
      obtain ⟨next, hnext, h⟩ := bind_eq_ok.1 h
      cases next with
      | none =>
          cases h
          obtain ⟨bs, rest', hbs, rfl⟩ := of_nextKey_none hnext
          exact ⟨[], [], bs, rest', .none, hbs, rfl, rfl⟩
      | some cs₁ =>
          obtain ⟨⟨key, cs₂⟩, hstring, h⟩ := bind_eq_ok.1 h
          obtain ⟨⟨slots₁, cs₃⟩, hmember, hlater⟩ := bind_eq_ok.1 h
          clear h
          obtain ⟨ms, body, bs, rest', hleft, hbs, rfl, rfl⟩ := ih hlater
          obtain ⟨cs', hcolon, ds, v, hds, hv, rfl⟩ := of_readMember hfs hmember
          obtain ⟨as, has, rfl⟩ := of_afterColon hcolon
          obtain ⟨ts, _, hts, rfl, rfl⟩ := of_readString hstring
          obtain ⟨pre, es, hpre, hes, rfl⟩ := of_nextKey_some hnext
          have hm : IsMember (String.ofList key, v) (es ++ '"' :: (ts ++ '"' :: (as ++ ':' :: (ds ++ v)))) :=
            .intro hes (by rwa [String.toList_ofList]) has hds hv
          exact ⟨_, _, bs, rest', hleft.cons hpre hm, hbs, rfl, by simp⟩

/-! ## Arrays -/

/-- The items that are left, with the comma in front of them if there were others; there may be none. -/
inductive ItemsLeft (first : Bool) : List (List Char) → List Char → Prop
  | none : ItemsLeft first [] []
  | some {pre cs : List Char} {vs : List (List Char)} : Leads first pre → AreItems vs cs →
      ItemsLeft first vs (pre ++ cs)

theorem ItemsLeft.cons {first : Bool} {pre bs v : List Char} {vs : List (List Char)}
    (hpre : Leads first pre) (hbs : Blanks bs) (hv : IsValue v) (h : ItemsLeft false vs cs) :
    ItemsLeft first (v :: vs) (pre ++ (bs ++ (v ++ cs))) := by
  cases h with
  | none => exact .some hpre ((List.append_nil v).symm ▸ .last hbs hv)
  | some hnext hvs =>
      cases hnext with
      | later hes =>
          rw [List.append_assoc, List.singleton_append]
          exact .some hpre (.more hbs hv hes hvs)

theorem of_nextItem_some {first : Bool} (h : nextItem first cs = .ok (some rest)) :
    ∃ pre bs, Leads first pre ∧ Blanks bs ∧ cs = pre ++ (bs ++ rest) := by
  unfold nextItem at h
  split at h
  · cases h
  · cases h
  · rename_i hstart
    obtain ⟨bs, hbs, rfl⟩ := exists_blanks hstart
    split_ifs at h with hfirst hcomma
    · cases h
      exact ⟨[], bs, hfirst ▸ .first, hbs, rfl⟩
    · rw [Bool.not_eq_true] at hfirst
      split at h
      · cases h
      · cases h
      · cases h
        obtain ⟨ds, hds, hrest⟩ := exists_blanks (rfl : afterBlanks _ = _)
        exact ⟨bs ++ [','], ds, hfirst ▸ .later hbs, hds, by rw [List.append_assoc, ← hrest, hcomma]; rfl⟩

theorem of_nextItem_none {first : Bool} (h : nextItem first cs = .ok none) :
    ∃ bs rest, Blanks bs ∧ cs = bs ++ ']' :: rest := by
  unfold nextItem at h
  split at h
  · cases h
  · rename_i hstart
    obtain ⟨bs, hbs, rfl⟩ := exists_blanks hstart
    exact ⟨bs, _, hbs, rfl⟩
  · split_ifs at h
    · cases h
    · split at h <;> cases h

/-- At the end of an array nothing more is taken. -/
theorem readItemsOf_close {tooShort : Nat → Mismatch} {fs : List Field} {read : Nat} {bs : List Char}
    (hbs : Blanks bs) {vs : Values fs} (h : readItemsOf tooShort fs read (bs ++ ']' :: cs) = .ok (vs, rest)) :
    rest = bs ++ ']' :: cs := by
  have hnone (first : Bool) : nextItem first (bs ++ ']' :: cs) = .ok none := by
    simp [nextItem, afterBlanks_of_append hbs (by decide : isBlank ']' = false)]
  induction fs generalizing read with
  | nil =>
      cases h
      rfl
  | cons f fs ih =>
      obtain ⟨next, hnext, h⟩ := bind_eq_ok.1 h
      rw [hnone] at hnext
      cases hnext
      dsimp only at h
      split at h
      · cases h
      · obtain ⟨⟨vs', rest'⟩, hread, hrest⟩ := bind_eq_ok.1 h
        cases hrest
        exact ih hread

include hfs in
theorem of_readItemsOf {tooShort : Nat → Mismatch} {read : Nat} {vs : Values fs}
    (h : readItemsOf tooShort fs read cs = .ok (vs, rest)) :
    ∃ items body, ItemsLeft (read == 0) items body ∧ cs = body ++ rest := by
  induction fs generalizing read cs with
  | nil =>
      cases h
      exact ⟨[], [], .none, rfl⟩
  | cons f fs ih =>
      obtain ⟨next, hnext, h⟩ := bind_eq_ok.1 h
      cases next with
      | none =>
          obtain ⟨bs, cs', hbs, rfl⟩ := of_nextItem_none hnext
          dsimp only at h
          split at h
          · cases h
          · obtain ⟨⟨vs', cs''⟩, hlater, hrest⟩ := bind_eq_ok.1 h
            cases hrest
            obtain rfl := readItemsOf_close hbs hlater
            exact ⟨[], [], .none, rfl⟩
      | some cs₁ =>
          obtain ⟨⟨a, cs₂⟩, hitem, h⟩ := bind_eq_ok.1 h
          obtain ⟨⟨vs', cs₃⟩, hlater, hrest⟩ := bind_eq_ok.1 h
          clear h
          cases hrest
          obtain ⟨items, body, hleft, rfl⟩ := ih (fun g hg => hfs g (List.mem_cons_of_mem f hg)) hlater
          obtain ⟨ds, v, hds, hv, rfl⟩ := hfs f List.mem_cons_self hitem
          obtain ⟨pre, es, hpre, hes, rfl⟩ := of_nextItem_some hnext
          exact ⟨_, _, hleft.cons hpre (hes.append hds) hv, by simp⟩

/-! ## Records -/

theorem of_closeObject (h : closeObject cs = .ok rest) : ∃ bs, Blanks bs ∧ cs = bs ++ '\x7d' :: rest := by
  unfold closeObject at h
  split at h
  · rename_i hclose
    cases h
    exact exists_blanks hclose
  · cases h
  · cases h
  · cases h

theorem of_closeArray (h : closeArray cs = .ok rest) : ∃ bs, Blanks bs ∧ cs = bs ++ ']' :: rest := by
  unfold closeArray at h
  split at h
  · rename_i hclose
    cases h
    exact exists_blanks hclose
  · cases h
  · split at h <;> cases h
  · cases h

theorem Holds.exists_text {sort : List Char → Prop} {t : String} (h : Holds sort t) : ∃ cs, sort cs := by
  obtain ⟨bs, cs, es, -, hcs, -⟩ := h
  exact ⟨cs, hcs⟩

theorem AreMembers.isValue_mem {ms : List Member} (h : AreMembers ms cs) : ∀ m ∈ ms, IsValue m.2 := by
  have hvalue {m : Member} {cs : List Char} (hm : IsMember m cs) : IsValue m.2 := by
    obtain ⟨-, -, -, -, hv⟩ := hm
    exact hv
  induction h with
  | last hm => exact List.forall_mem_singleton.2 (hvalue hm)
  | more hm _ _ ih => exact List.forall_mem_cons.2 ⟨hvalue hm, ih⟩

theorem IsObject.isValue_mem {ms : List Member} (h : IsObject ms cs) : ∀ m ∈ ms, IsValue m.2 := by
  cases h with
  | empty => exact fun m hm => nomatch hm
  | members hms => exact hms.isValue_mem

theorem AreItems.isValue_mem {vs : List (List Char)} (h : AreItems vs cs) : ∀ v ∈ vs, IsValue v := by
  induction h with
  | last _ hv => exact List.forall_mem_singleton.2 hv
  | more _ hv _ _ ih => exact List.forall_mem_cons.2 ⟨hv, ih⟩

theorem IsArray.isValue_mem {vs : List (List Char)} (h : IsArray vs cs) : ∀ v ∈ vs, IsValue v := by
  cases h with
  | empty => exact fun v hv => nomatch hv
  | items hvs => exact hvs.isValue_mem

theorem MembersLeft.isObject {ms : List Member} {bs : List Char} (h : MembersLeft true ms cs)
    (hbs : Blanks bs) : IsObject ms ('\x7b' :: (cs ++ (bs ++ ['\x7d']))) := by
  cases h with
  | none => exact .empty hbs
  | some hpre hms =>
      cases hpre with
      | first => exact .members hms hbs

theorem ItemsLeft.isArray {vs : List (List Char)} {bs : List Char} (h : ItemsLeft true vs cs)
    (hbs : Blanks bs) : IsArray vs ('[' :: (cs ++ (bs ++ [']']))) := by
  cases h with
  | none => exact .empty hbs
  | some hpre hvs =>
      cases hpre with
      | first => exact .items hvs hbs

theorem of_readFromObject {values : Values fs} (h : readFromObject fs cs = .ok (values, rest)) :
    ∃ slots, readMembersOf fs (cs.length + 1) true (Slots.empty fs) cs = .ok (slots, rest) := by
  obtain ⟨⟨slots, cs'⟩, hmembers, hfill⟩ := bind_eq_ok.1 h
  obtain ⟨filled, -, hrest⟩ := bind_eq_ok.1 hfill
  cases hrest
  exact ⟨slots, hmembers⟩

include hfs in
/-- A record is read from an object or from an array, and from nothing else. -/
theorem of_readValues {record : String} {values : Values fs}
    (h : readValues record fs cs = .ok (values, rest)) :
    ∃ bs body, Blanks bs ∧ cs = bs ++ (body ++ rest) ∧
      ((∃ ms, IsObject ms body) ∨ ∃ vs, IsArray vs body) := by
  unfold readValues at h
  split at h
  · rename_i hstart
    obtain ⟨bs, hbs, rfl⟩ := exists_blanks hstart
    obtain ⟨⟨values', cs'⟩, hread, h⟩ := bind_eq_ok.1 h
    obtain ⟨rest', hclose, hrest⟩ := bind_eq_ok.1 h
    cases hrest
    obtain ⟨slots, hmembers⟩ := of_readFromObject (mapError_eq_ok.1 hread)
    obtain ⟨ms, body, -, -, hleft, -, -, rfl⟩ := of_readMembersOf hfs hmembers
    obtain ⟨es, hes, rfl⟩ := of_closeObject hclose
    exact ⟨bs, _, hbs, by simp, .inl ⟨ms, hleft.isObject hes⟩⟩
  · rename_i hstart
    obtain ⟨bs, hbs, rfl⟩ := exists_blanks hstart
    obtain ⟨⟨values', cs'⟩, hread, h⟩ := bind_eq_ok.1 h
    obtain ⟨rest', hclose, hrest⟩ := bind_eq_ok.1 h
    cases hrest
    obtain ⟨vs, body, hleft, rfl⟩ := of_readItemsOf hfs (mapError_eq_ok.1 hread)
    obtain ⟨es, hes, rfl⟩ := of_closeArray hclose
    exact ⟨bs, _, hbs, by simp, .inr ⟨vs, hleft.isArray hes⟩⟩
  · cases h

/-! ## Behind the colon of a member -/

/-- What stands between the opening brace of an object and the value of the member of this name, if these
members come in front of it. -/
inductive LeadsTo (name : String) (front : List Member) : List Char → Prop
  | intro {body pre bs key as : List Char} : MembersLeft true front body → Leads front.isEmpty pre →
      Blanks bs → SpellsText key name.toList → Blanks as →
      LeadsTo name front (body ++ (pre ++ (bs ++ '"' :: (key ++ '"' :: (as ++ [':'])))))

/-- A text in which a member goes on with this value: behind it comes another member or the end of the
object. -/
def GoesOn (v cs : List Char) : Prop :=
  ∃ bs es c rest, Blanks bs ∧ Blanks es ∧ (c = ',' ∨ c = '\x7d') ∧ cs = bs ++ (v ++ (es ++ c :: rest))

theorem AreMembers.append {ms ms' : List Member} (h : AreMembers ms cs) (hleft : MembersLeft false ms' ds) :
    AreMembers (ms ++ ms') (cs ++ ds) := by
  induction h with
  | last hm =>
      cases hleft with
      | none => simpa using AreMembers.last hm
      | some hpre hms =>
          cases hpre with
          | later hes => simpa using AreMembers.more hm hes hms
  | more hm hes _ ih => simpa using AreMembers.more hm hes ih

theorem AreMembers.isEmpty {ms : List Member} (h : AreMembers ms cs) : ms.isEmpty = false := by
  cases h <;> rfl

theorem MembersLeft.append {front ms : List Member} (h : MembersLeft true front cs)
    (hleft : MembersLeft front.isEmpty ms ds) : MembersLeft true (front ++ ms) (cs ++ ds) := by
  cases h with
  | none => exact hleft
  | some hpre hms =>
      rw [List.append_assoc]
      exact .some hpre (hms.append (hms.isEmpty ▸ hleft))

theorem MembersLeft.goesOn {ms : List Member} (h : MembersLeft false ms cs) {bs v es : List Char}
    (hbs : Blanks bs) (hes : Blanks es) (rest : List Char) :
    GoesOn v (bs ++ (v ++ (cs ++ (es ++ '\x7d' :: rest)))) := by
  cases h with
  | none => exact ⟨bs, es, '\x7d', rest, hbs, hes, .inr rfl, rfl⟩
  | @some _ cs _ hpre _ =>
      cases hpre with
      | later hds => exact ⟨bs, _, ',', cs ++ (es ++ '\x7d' :: rest), hbs, hds, .inl rfl, by simp⟩

section Walk
variable (hjudges : ∀ f ∈ fs, Judges f.read) {steps : Nat} {first : Bool} {pre : List Char} {slots : Slots fs}
  {taken : Slots fs × List Char}

section Front
include hjudges

theorem IsMember.readMembersOf_later {m : Member} (hm : IsMember m cs) (hpre : Leads first pre)
    (hrest : Ends rest)
    (hread : Json.readMembersOf fs steps first slots (pre ++ (cs ++ rest)) = .ok taken) :
    ∃ steps' slots', Json.readMembersOf fs steps' false slots' rest = .ok taken := by
  cases steps with
  | zero => cases hread
  | succ steps =>
      rw [← forget_eq_ok, hm.readMembersOf hjudges hpre steps slots hrest] at hread
      obtain ⟨slots', -, hlater⟩ := bind_eq_ok.1 hread
      exact ⟨steps, slots', forget_eq_ok.1 hlater⟩

/-- If members are read that others stand in front of, they can be read by themselves, with some of the
fields taken. -/
theorem AreMembers.readMembersOf_later {ms : List Member} (h : AreMembers ms cs) (hpre : Leads first pre)
    (hrest : Ends rest)
    (hread : Json.readMembersOf fs steps first slots (pre ++ (cs ++ rest)) = .ok taken) :
    ∃ steps' slots', Json.readMembersOf fs steps' false slots' rest = .ok taken := by
  induction h generalizing first pre steps slots with
  | last hm => exact hm.readMembersOf_later hjudges hpre hrest hread
  | @more m ms cs es ds hm hes _ ih =>
      have hcomma : Ends (es ++ ',' :: (ds ++ rest)) := ends_append hes (.inr (.inl rfl))
      rw [List.append_assoc, List.append_assoc, List.cons_append] at hread
      obtain ⟨steps', slots', hlater⟩ := hm.readMembersOf_later hjudges hpre hcomma hread
      rw [← List.singleton_append, ← List.append_assoc] at hlater
      exact ih (.later hes) hlater

theorem MembersLeft.readMembersOf_later {front : List Member} (h : MembersLeft true front cs)
    (hrest : front.isEmpty = false → Ends rest)
    (hread : Json.readMembersOf fs steps true slots (cs ++ rest) = .ok taken) :
    ∃ steps' slots', Json.readMembersOf fs steps' front.isEmpty slots' rest = .ok taken := by
  cases h with
  | none => exact ⟨steps, slots, hread⟩
  | some hpre hms =>
      rw [List.append_assoc] at hread
      rw [hms.isEmpty]
      exact hms.readMembersOf_later hjudges hpre (hrest hms.isEmpty) hread

end Front

include hfs in
/-- Behind the colon a value is taken, whatever the name. -/
theorem taken_behind_key {bs key as s : List Char} (hpre : Leads first pre) (hbs : Blanks bs)
    (hkey : SpellsText key s) (has : Blanks as)
    (hread : readMembersOf fs steps first slots
      (pre ++ (bs ++ '"' :: (key ++ '"' :: (as ++ ':' :: cs)))) = .ok taken) :
    ∃ steps' slots' rest, Part.value.Taken cs rest ∧
      readMembersOf fs steps' false slots' rest = .ok taken := by
  cases steps with
  | zero => cases hread
  | succ steps =>
      obtain ⟨next, hnext, hread⟩ := bind_eq_ok.1 hread
      rw [hpre.nextKey hbs] at hnext
      cases hnext
      obtain ⟨⟨s', cs₁⟩, hstring, hread⟩ := bind_eq_ok.1 hread
      rw [hkey.readString] at hstring
      cases hstring
      obtain ⟨⟨slots', rest⟩, hmember, hlater⟩ := bind_eq_ok.1 hread
      obtain ⟨cs₂, hcolon, hvalue⟩ := of_readMember hfs hmember
      rw [afterColon_append has] at hcolon
      cases hcolon
      exact ⟨steps, slots', rest, hvalue, hlater⟩

include hfs hjudges in
theorem LeadsTo.of_readMembersOf {name : String} {front : List Member} (h : LeadsTo name front ds)
    {slots' : Slots fs} (hread : Json.readMembersOf fs steps true slots (ds ++ cs) = .ok (slots', rest)) :
    ∃ v ms body es rest', GoesOn v cs ∧ Blanks es ∧ MembersLeft true (front ++ (name, v) :: ms) body ∧
      rest = es ++ '\x7d' :: rest' ∧ ds ++ cs = body ++ rest := by
  obtain @⟨body, pre, bs, key, as, hfront, hpre, hbs, hkey, has⟩ := h
  have hends (h : front.isEmpty = false) :
      Ends (pre ++ (bs ++ '"' :: (key ++ '"' :: (as ++ ':' :: cs)))) := by
    cases h ▸ hpre with
    | @later es hes =>
        have hcomma : Ends (',' :: (bs ++ '"' :: (key ++ '"' :: (as ++ ':' :: cs)))) := .inr (.inl rfl)
        simpa using ends_append hes hcomma
  simp only [List.append_assoc, List.cons_append, List.nil_append] at hread ⊢
  obtain ⟨steps₁, slots₁, hown⟩ := hfront.readMembersOf_later hjudges hends hread
  obtain ⟨steps₂, slots₂, cs', ⟨ds, v, hds, hv, rfl⟩, hlater⟩ := taken_behind_key hfs hpre hbs hkey has hown
  obtain ⟨ms, later, es, rest', hleft, hes, rfl, rfl⟩ := of_readMembersOf hfs hlater
  have hm : IsMember (name, v) (bs ++ '"' :: (key ++ '"' :: (as ++ ':' :: (ds ++ v)))) :=
    .intro hbs hkey has hds hv
  exact ⟨v, ms, _, es, rest', hleft.goesOn hds hes rest', hes, hfront.append (hleft.cons hpre hm), rfl,
    by simp⟩

end Walk

include hfs in
theorem LeadsTo.of_readValues (hjudges : ∀ f ∈ fs, Judges f.read) {record name : String}
    {front : List Member} (h : LeadsTo name front ds) {values : Values fs}
    (hread : Json.readValues record fs ('\x7b' :: (ds ++ cs)) = .ok (values, rest)) :
    ∃ v ms body, GoesOn v cs ∧ IsObject (front ++ (name, v) :: ms) body ∧
      '\x7b' :: (ds ++ cs) = body ++ rest := by
  simp only [Json.readValues, afterBlanks_cons (by decide : isBlank '\x7b' = false)] at hread
  obtain ⟨⟨values', cs'⟩, hobject, hread⟩ := bind_eq_ok.1 hread
  obtain ⟨rest', hclose, hrest⟩ := bind_eq_ok.1 hread
  cases hrest
  obtain ⟨slots, hmembers⟩ := of_readFromObject (mapError_eq_ok.1 hobject)
  obtain ⟨v, ms, body, -, -, hgoesOn, -, hleft, -, htext⟩ := h.of_readMembersOf hfs hjudges hmembers
  obtain ⟨es, hes, rfl⟩ := of_closeObject hclose
  exact ⟨v, ms, _, hgoesOn, hleft.isObject hes, by simp [htext]⟩

end Fields

/-- What is left of a text that was read as one value is blank. -/
theorem of_decode {read : Reader α} {t : String} {a : α} (h : decode read t = .ok a) :
    ∃ es, Blanks es ∧ read t.toList = .ok (a, es) := by
  obtain ⟨⟨a', es⟩, hread, hend⟩ := bind_eq_ok.1 h
  dsimp only at hend
  split at hend
  · rename_i hnil
    cases hend
    obtain ⟨bs, hbs, rfl⟩ := exists_blanks hnil
    exact ⟨bs ++ [], (List.append_nil bs).symm ▸ hbs, hread⟩
  · cases hend

end Json

namespace Record

open Json

/-- A record whose fields are read from the texts of values. -/
class Strict (α : Type) [Record α] : Prop where
  fields : ∀ f ∈ fields α, TakesValues f.read

variable {α : Type} [Record α]

theorem exists_values_of_decode {t : String} {a : α} (h : Wire.decode α t = .ok a) :
    ∃ values es, Blanks es ∧ readValues (name α) (fields α) t.toList = .ok (values, es) := by
  obtain ⟨es, hes, hread⟩ := of_decode h
  obtain ⟨⟨values, rest⟩, hvalues, hrest⟩ := bind_eq_ok.1 hread
  cases hrest
  exact ⟨values, _, hes, hvalues⟩

variable [Strict α]

theorem holds_of_decode {t : String} {a : α} (h : Wire.decode α t = .ok a) :
    (∃ ms, Holds (IsObject ms) t) ∨ ∃ vs, Holds (IsArray vs) t := by
  obtain ⟨values, es, hes, hvalues⟩ := exists_values_of_decode h
  obtain ⟨bs, body, hbs, ht, ⟨ms, hobject⟩ | ⟨vs, harray⟩⟩ := of_readValues Strict.fields hvalues
  · exact .inl ⟨ms, bs, body, es, hbs, hobject, hes, ht⟩
  · exact .inr ⟨vs, bs, body, es, hbs, harray, hes, ht⟩

/-- Whatever stands behind the colon of a member, a text that is read as a record goes on with a value there,
and as an object. -/
theorem goesOn_of_decode [Judged α] {t : String} {a : α} (h : Wire.decode α t = .ok a) {name : String}
    {front : List Member} {bs opening cs : List Char} (hbs : Blanks bs)
    (hopening : LeadsTo name front opening) (ht : t.toList = bs ++ '\x7b' :: (opening ++ cs)) :
    ∃ v ms, GoesOn v cs ∧ Holds (IsObject (front ++ (name, v) :: ms)) t := by
  obtain ⟨values, es, hes, hvalues⟩ := exists_values_of_decode h
  rw [ht, readValues_blanks hbs] at hvalues
  obtain ⟨v, ms, body, hgoesOn, hobject, htext⟩ := hopening.of_readValues Strict.fields
    (fun f hf => (Judged.fields f hf).judges) hvalues
  exact ⟨v, ms, hgoesOn, bs, body, es, hbs, hobject, hes, by rw [ht, htext]⟩

end Record

/-! ## The vocabulary -/

namespace Json.Field

variable (name : String) {α : Type} [Wire α] [Json.Strict α]

@[simp] theorem takes_required : TakesValues (required name α).read :=
  (Json.Strict.takes : TakesValues (Wire.read : Reader α))

@[simp] theorem takes_optional : TakesValues (optional name α).read :=
  takes_readOption (takes_required name)

end Json.Field

instance : Record.Strict Entry := ⟨by simp [Record.fields]⟩
instance : Record.Strict Payment := ⟨by simp [Record.fields]⟩

end Purse
