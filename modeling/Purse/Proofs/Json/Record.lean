import Purse.Json.Record
import Purse.Proofs.Json.Value

/-!
# Records that are read back

If the fields of a record have different names and each of them gets its own value back, then the record
is read back from every object that spells its values, among them the one that is written for it. A field
that leaves an empty value out has to take what is missing for the same value.
-/
namespace Purse

variable {α : Type}

/-- Whether what is written for a value is read as that value. -/
def Wire.RoundTrips [Wire α] (a : α) : Prop := Json.ReadsBack Wire.read a (Wire.write a)

theorem Wire.RoundTrips.decode_encode [Wire α] {a : α} (h : Wire.RoundTrips a) :
    Wire.decode α (Wire.encode a) = .ok a :=
  Json.decode_render h

namespace Json

/-! ## Fields -/

namespace Field

/-- A field reads a value off the text of a member. -/
def Takes (f : Field) (v : f.Carrier) (json : Json) : Prop :=
  ∀ {rest : List Char}, Closes rest → f.read (json.chars ++ rest) = .ok (v, rest)

/-- A field gets a value back, be it written, left out or, where it may be left out, `null`. -/
structure Keeps (f : Field) (v : f.Carrier) : Prop where
  written {json : Json} : f.write v = some json → f.Takes v json
  missing : f.write v = none → f.missing = some v
  null : f.missing = some v → f.Takes v .null

variable [Wire α] (name : String)

theorem keeps_required {a : α} (h : Wire.RoundTrips a) : (required name α).Keeps a where
  written hwrite := by
    obtain rfl := Option.some.inj hwrite
    exact h.reads
  missing hwrite := by cases hwrite
  null hmissing := by cases hmissing

/-- An optional value is read from the text of the value, if there is one, and else from `null`. -/
theorem reads_option {a : Option α} (h : ∀ b, a = some b → Wire.RoundTrips b) {rest : List Char}
    (hrest : Closes rest) :
    readOption Wire.read ((ofOption Wire.write a).chars ++ rest) = .ok (a, rest) := by
  cases a with
  | none => exact readOption_null Wire.read rest
  | some b => exact readOption_of_readsBack (h b rfl) hrest

theorem keeps_optional {a : Option α} (h : ∀ b, a = some b → Wire.RoundTrips b) :
    (optional name α).Keeps a where
  written hwrite := by
    obtain rfl := Option.some.inj hwrite
    exact reads_option h
  missing hwrite := by cases hwrite
  null hmissing := by
    obtain rfl := Option.some.inj hmissing
    exact fun {rest} _ => readOption_null Wire.read rest

theorem keeps_omitted {a : Option α} (h : ∀ b, a = some b → Wire.RoundTrips b) :
    (omitted name α).Keeps a where
  written hwrite := by
    obtain ⟨b, rfl, rfl⟩ := Option.map_eq_some_iff.1 hwrite
    exact readOption_of_readsBack (h b rfl)
  missing hwrite := by
    obtain rfl := Option.map_eq_none_iff.1 hwrite
    rfl
  null hmissing := by
    obtain rfl := Option.some.inj hmissing
    exact fun {rest} _ => readOption_null Wire.read rest

theorem keeps_trailing {a : Option α} (h : ∀ b, a = some b → Wire.RoundTrips b) :
    (trailing name α).Keeps a where
  written := (keeps_omitted name h).written
  missing := (keeps_omitted name h).missing
  null := (keeps_omitted name h).null

end Field

/-- Whether each field gets its value back. -/
def KeepValues : (fs : List Field) → Values fs → Prop
  | [], _ => True
  | f :: fs, (v, vs) => f.Keeps v ∧ KeepValues fs vs

/-- Members that spell the values of the fields, in their order. A value is there as it is written; what a
field takes for missing may also be left out or be `null`. -/
inductive Spells : (fs : List Field) → Values fs → List (String × Json) → Prop where
  | nil : Spells [] () []
  | written {f : Field} {fs : List Field} {v : f.Carrier} {vs : Values fs}
      {members : List (String × Json)} {json : Json} (hwrite : f.write v = some json)
      (later : Spells fs vs members) : Spells (f :: fs) (v, vs) ((f.name, json) :: members)
  | missing {f : Field} {fs : List Field} {v : f.Carrier} {vs : Values fs}
      {members : List (String × Json)} (hmissing : f.missing = some v)
      (later : Spells fs vs members) : Spells (f :: fs) (v, vs) members
  | null {f : Field} {fs : List Field} {v : f.Carrier} {vs : Values fs}
      {members : List (String × Json)} (hmissing : f.missing = some v)
      (later : Spells fs vs members) : Spells (f :: fs) (v, vs) ((f.name, .null) :: members)

theorem spells_writeValues {fs : List Field} {vs : Values fs} (h : KeepValues fs vs) :
    Spells fs vs (writeValues fs vs) := by
  induction fs with
  | nil => exact .nil
  | cons f fs ih =>
      obtain ⟨v, vs⟩ := vs
      obtain ⟨hfirst, hlater⟩ := h
      cases hwrite : f.write v with
      | none =>
          simp only [writeValues, hwrite]
          exact .missing (hfirst.missing hwrite) (ih hlater)
      | some json =>
          simp only [writeValues, hwrite]
          exact .written hwrite (ih hlater)

/-! ## Members in any order -/

/-- Reading the members one after the other leads from some fields that are read to others. -/
inductive ReadsMembers (fs : List Field) : Slots fs → List (String × Json) → Slots fs → Prop where
  | nil {slots : Slots fs} : ReadsMembers fs slots [] slots
  | cons {key : String} {v : Json} {members : List (String × Json)} {before between after : Slots fs}
      (first : ∀ {rest : List Char}, Closes rest →
        readMember fs before key (':' :: (v.chars ++ rest)) = .ok (between, rest))
      (later : ReadsMembers fs between members after) :
      ReadsMembers fs before ((key, v) :: members) after

variable {fs : List Field}

/-- Members of other names pass by the first field. -/
theorem ReadsMembers.other {f : Field} {members : List (String × Json)} {before after : Slots fs}
    (h : ReadsMembers fs before members after) (hnames : ∀ m ∈ members, m.1 ≠ f.name)
    (slot : Option f.Carrier) :
    ReadsMembers (f :: fs) (slot, before) members (slot, after) := by
  induction h with
  | nil => exact .nil
  | @cons key v members before between after first later ih =>
      refine .cons (fun hrest => ?_) (ih fun m hm => hnames m (List.mem_cons_of_mem (key, v) hm))
      have hname : f.name ≠ key := (hnames (key, v) List.mem_cons_self).symm
      simp [readMember, hname, first hrest, bind, Except.bind]

theorem Spells.name_mem {vs : Values fs} {members : List (String × Json)} (h : Spells fs vs members)
    {m : String × Json} (hm : m ∈ members) : m.1 ∈ fs.map Field.name := by
  induction h with
  | nil => cases hm
  | written hwrite later ih =>
      rcases List.mem_cons.1 hm with rfl | hm
      · exact List.mem_cons_self
      · exact List.mem_cons_of_mem _ (ih hm)
  | missing hmissing later ih => exact List.mem_cons_of_mem _ (ih hm)
  | null hmissing later ih =>
      rcases List.mem_cons.1 hm with rfl | hm
      · exact List.mem_cons_self
      · exact List.mem_cons_of_mem _ (ih hm)

/-- Members of later fields are none of a field with a name of its own. -/
theorem Spells.name_ne {vs : Values fs} {members : List (String × Json)} (h : Spells fs vs members)
    {name : String} (hname : name ∉ fs.map Field.name) : ∀ m ∈ members, m.1 ≠ name := by
  rintro m hm rfl
  exact hname (h.name_mem hm)

/-- One more member: it is taken by its own field, and the later members pass by that field. -/
theorem ReadsMembers.member {f : Field} {v : f.Carrier} {json : Json} {members : List (String × Json)}
    {after : Slots fs} (htakes : f.Takes v json)
    (h : ReadsMembers fs (Slots.empty fs) members after) (hnames : ∀ m ∈ members, m.1 ≠ f.name) :
    ReadsMembers (f :: fs) (Slots.empty (f :: fs)) ((f.name, json) :: members) (some v, after) := by
  refine .cons (fun {rest} hrest => ?_) (h.other hnames (some v))
  simp [readMember, Slots.empty, afterColon_colon, htakes hrest, bind, Except.bind]

/-- Whatever members spell the values, after them every field is filled with its own. -/
theorem Spells.readsMembers {vs : Values fs} {members : List (String × Json)}
    (h : Spells fs vs members) (hnames : (fs.map Field.name).Nodup) (hkeeps : KeepValues fs vs) :
    ∃ after, ReadsMembers fs (Slots.empty fs) members after ∧ ∀ rest, fill rest fs after = .ok vs := by
  induction h with
  | nil => exact ⟨(), .nil, fun _ => rfl⟩
  | @written f fs v vs members json hwrite later ih =>
      obtain ⟨hname, hnames⟩ := List.nodup_cons.1 hnames
      obtain ⟨after, hreads, hfill⟩ := ih hnames hkeeps.2
      refine ⟨(some v, after), hreads.member (hkeeps.1.written hwrite) (later.name_ne hname), fun rest => ?_⟩
      simp [fill, hfill, bind, Except.bind]
  | @missing f fs v vs members hmissing later ih =>
      obtain ⟨hname, hnames⟩ := List.nodup_cons.1 hnames
      obtain ⟨after, hreads, hfill⟩ := ih hnames hkeeps.2
      refine ⟨(none, after), hreads.other (later.name_ne hname) none, fun rest => ?_⟩
      simp [fill, hmissing, hfill, bind, Except.bind]
  | @null f fs v vs members hmissing later ih =>
      obtain ⟨hname, hnames⟩ := List.nodup_cons.1 hnames
      obtain ⟨after, hreads, hfill⟩ := ih hnames hkeeps.2
      refine ⟨(some v, after), hreads.member (hkeeps.1.null hmissing) (later.name_ne hname), fun rest => ?_⟩
      simp [fill, hfill, bind, Except.bind]

/-! ## The text of an object -/

/-- The text of the members that follow the first one. -/
def laterMembers (members : List (String × Json)) : List Char :=
  members.flatMap fun m => ',' :: quoted m.1 ++ ':' :: m.2.chars

theorem memberChars_cons (key : String) (v : Json) (members : List (String × Json)) :
    memberChars ((key, v) :: members) = quoted key ++ ':' :: (v.chars ++ laterMembers members) := by
  induction members generalizing key v with
  | nil => simp [memberChars, laterMembers]
  | cons m members ih =>
      rw [memberChars, ih, laterMembers, laterMembers, List.flatMap_cons]
      simp

theorem laterMembers_cons (m : String × Json) (members : List (String × Json)) :
    laterMembers (m :: members) = ',' :: memberChars (m :: members) := by
  rw [memberChars_cons]
  simp [laterMembers]

theorem closes_laterMembers (members : List (String × Json)) (rest : List Char) :
    Closes (laterMembers members ++ '\x7d' :: rest) := by
  cases members with
  | nil => exact .inr (.inr rfl)
  | cons m members => exact .inl rfl

theorem length_le_memberChars (members : List (String × Json)) :
    members.length ≤ (memberChars members).length := by
  cases members with
  | nil => exact Nat.le_refl 0
  | cons m members =>
      have hlater : members.length ≤ (laterMembers members).length :=
        length_le_flatMap (fun _ => List.cons_ne_nil _ _) members
      rw [memberChars_cons]
      simp only [List.length_append, List.length_cons]
      omega

theorem nextKey_first (key : String) (cs : List Char) :
    nextKey true (quoted key ++ cs) = .ok (some (key.toList.flatMap escape ++ '"' :: cs)) := by
  simp [nextKey, quoted, afterBlanks_cons (by decide : isBlank '"' = false)]

theorem nextKey_later (key : String) (cs : List Char) :
    nextKey false (',' :: quoted key ++ cs) = .ok (some (key.toList.flatMap escape ++ '"' :: cs)) := by
  simp [nextKey, quoted, afterBlanks_cons (by decide : isBlank ',' = false),
    afterBlanks_cons (by decide : isBlank '"' = false)]

variable {members : List (String × Json)} {before after : Slots fs}

theorem ReadsMembers.readMembersOf_later (h : ReadsMembers fs before members after) {steps : Nat}
    (hsteps : members.length < steps) (rest : List Char) :
    readMembersOf fs steps false before (laterMembers members ++ '\x7d' :: rest) =
      .ok (after, '\x7d' :: rest) := by
  induction h generalizing steps with
  | nil =>
      cases steps with
      | zero => cases hsteps
      | succ steps => rfl
  | @cons key v members before between after first later ih =>
      cases steps with
      | zero => cases hsteps
      | succ steps =>
          have htext : laterMembers ((key, v) :: members) ++ '\x7d' :: rest =
              ',' :: quoted key ++ ':' :: (v.chars ++ (laterMembers members ++ '\x7d' :: rest)) := by
            rw [laterMembers_cons, memberChars_cons]
            simp
          rw [htext, Json.readMembersOf, nextKey_later]
          simp [readString_quoted, first (closes_laterMembers members rest),
            ih (Nat.lt_of_succ_lt_succ hsteps), bind, Except.bind]

theorem ReadsMembers.readMembersOf (h : ReadsMembers fs before members after) {steps : Nat}
    (hsteps : members.length < steps) (rest : List Char) :
    readMembersOf fs steps true before (memberChars members ++ '\x7d' :: rest) =
      .ok (after, '\x7d' :: rest) := by
  cases steps with
  | zero => cases hsteps
  | succ steps =>
      cases h with
      | nil => rfl
      | @cons key v members before between after first later =>
          have hlater := later.readMembersOf_later (Nat.lt_of_succ_lt_succ hsteps) rest
          rw [memberChars_cons, List.append_assoc, List.cons_append, List.append_assoc, Json.readMembersOf,
            nextKey_first]
          simp [readString_quoted, first (closes_laterMembers members rest), hlater, bind, Except.bind]

theorem Spells.readValues (record : String) {vs : Values fs} (h : Spells fs vs members)
    (hnames : (fs.map Field.name).Nodup) (hkeeps : KeepValues fs vs) (rest : List Char) :
    readValues record fs ((object members).chars ++ rest) = .ok (vs, rest) := by
  have htext : (object members).chars ++ rest = '\x7b' :: (memberChars members ++ '\x7d' :: rest) := by
    simp [chars]
  have hopen : afterBlanks ('\x7b' :: (memberChars members ++ '\x7d' :: rest)) =
      '\x7b' :: (memberChars members ++ '\x7d' :: rest) := afterBlanks_cons (by decide) _
  have hclose : closeObject ('\x7d' :: rest) = .ok rest := rfl
  have hsteps : members.length < (memberChars members ++ '\x7d' :: rest).length + 1 := by
    have hlength := length_le_memberChars members
    rw [List.length_append]
    omega
  obtain ⟨after, hreads, hfill⟩ := h.readsMembers hnames hkeeps
  have hmembers := hreads.readMembersOf hsteps rest
  rw [htext]
  simp only [Json.readValues, hopen, readFromObject, hmembers]
  simp [hfill, hclose, bind, Except.bind, Except.mapError]

end Json

namespace Record

/-- A record whose fields have different names and get their values back. -/
structure Kept [Record α] (a : α) : Prop where
  names : ((Record.fields α).map Json.Field.name).Nodup
  values : Json.KeepValues (Record.fields α) (Record.toValues a)

namespace Kept

variable [Record α] {a : α} (h : Kept a)
include h

theorem readsBack {members : List (String × Json)}
    (hspells : Json.Spells (Record.fields α) (Record.toValues a) members) :
    Json.ReadsBack Wire.read a (.object members) := by
  refine ⟨⟨'\x7b', _, rfl, by decide⟩, fun {rest} _ => ?_⟩
  have hread := hspells.readValues (Record.name α) h.names h.values rest
  simp [Wire.read, hread, bind, Except.bind, Record.ofValues_toValues]

theorem roundTrips : Wire.RoundTrips a := h.readsBack (Json.spells_writeValues h.values)

end Kept
end Record
end Purse
