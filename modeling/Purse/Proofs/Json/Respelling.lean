import Mathlib.Data.List.Forall2
import Purse.Proofs.Json.Presentation
import Purse.Proofs.Spelling

/-!
# Identifiers in bodies

Of an identifier in the body of a payment request only what it spells is looked at. Two bodies that spell
the same identifiers are read as the same request, or are refused for the same reason, and then a place is
named in each of them, which need not be the same one.
-/
namespace Purse

namespace Json

/-- The text of a value that spells an identifier. -/
def SpellsId (v : List Char) (u : Uuid) : Prop :=
  ∃ key s, v = '"' :: (key ++ ['"']) ∧ SpellsText key s ∧ Uuid.IsSpelling s u

/-- The same member, up to the spelling of an identifier that a payment request names. -/
def Member.Respells (m m' : Member) : Prop :=
  m.1 = m'.1 ∧
    (m.2 = m'.2 ∨ (m.1 = "user_id" ∨ m.1 = "booking_id") ∧ ∃ u, SpellsId m.2 u ∧ SpellsId m'.2 u)

/-- Bodies of payment requests that differ in the spelling of identifiers, and perhaps in layout. The items
of an array go by the fields in their order. -/
inductive Respells : String → String → Prop
  | object {ms ms' : List Member} {t t' : String} : List.Forall₂ Member.Respells ms ms' →
      Holds (IsObject ms) t → Holds (IsObject ms') t' → Respells t t'
  | array {vs vs' : List (List Char)} {t t' : String} : vs.length = vs'.length →
      List.Forall₂ Member.Respells ((Record.names PaymentRequest).zip vs)
        ((Record.names PaymentRequest).zip vs') →
      Holds (IsArray vs) t → Holds (IsArray vs') t' → Respells t t'

theorem SpellsId.readIdentifier {α : Type} {v : List Char} {u : Uuid} (h : SpellsId v u)
    {ofText? : String → Option α} {a : α}
    (ha : ∀ s, Uuid.IsSpelling s u → ofText? (String.ofList s) = some a) :
    Json.readIdentifier ofText? v = .ok (a, []) := by
  obtain ⟨key, s, rfl, hkey, hs⟩ := h
  have hread := hkey.readString [] []
  rw [List.reverse_nil, List.nil_append] at hread
  simp only [Json.readIdentifier, readSpelled, readTextFor,
    afterBlanks_cons (by decide : isBlank '"' = false), hread, Except.map, bind, Except.bind, ha s hs]

theorem SpellsId.verdict_user {v : List Char} {u : Uuid} (h : SpellsId v u) :
    (Field.required "user_id" UserId).verdict v = .ok ⟨u⟩ := by
  have hread : Json.readIdentifier UserId.ofText? v = .ok (⟨u⟩, []) := h.readIdentifier fun s hs => by
    rw [UserId.ofText?, Uuid.ofText?, String.toList_ofList, Uuid.ofChars?_eq_some.2 hs]
    rfl
  change (forget (Json.readIdentifier UserId.ofText? v)).map Prod.fst = _
  rw [hread]
  rfl

theorem SpellsId.verdict_booking {v : List Char} {u : Uuid} (h : SpellsId v u) :
    (Field.trailing "booking_id" BookingId).verdict v = .ok (some ⟨u⟩) := by
  have hread : Json.readIdentifier BookingId.ofText? v = .ok (⟨u⟩, []) := h.readIdentifier fun s hs => by
    rw [BookingId.ofText?, Uuid.ofText?, String.toList_ofList, Uuid.ofChars?_eq_some.2 hs]
    rfl
  have hoption : readOption (Json.readIdentifier BookingId.ofText?) v = .ok (some ⟨u⟩, []) := by
    obtain ⟨key, s, rfl, -⟩ := h
    simp [readOption, afterBlanks_cons (by decide : isBlank '"' = false), hread, bind, Except.bind]
  change (forget (readOption (Json.readIdentifier BookingId.ofText?) v)).map Prod.fst = _
  rw [hoption]
  rfl

/-- Every field of a payment request judges the two members alike. -/
theorem Member.Respells.verdict {m m' : Member} (h : m.Respells m') :
    ∀ f ∈ Record.fields PaymentRequest, f.name = m.1 → f.verdict m.2 = f.verdict m'.2 := by
  intro f hf hname
  obtain ⟨-, heq | ⟨hnames, u, h, h'⟩⟩ := h
  · rw [heq]
  · simp only [Record.fields, List.mem_cons, List.not_mem_nil, or_false] at hf
    rcases hf with rfl | rfl | rfl | rfl
    case inl => rw [h.verdict_user, h'.verdict_user]
    case inr.inr.inr => rw [h.verdict_booking, h'.verdict_booking]
    all_goals
      rw [← hname] at hnames
      simp [Field.required] at hnames

/-- Members that the fields judge alike are taken up alike. -/
theorem take_congr {fs : List Field} {m m' : Member} (hname : m.1 = m'.1)
    (h : ∀ f ∈ fs, f.name = m.1 → f.verdict m.2 = f.verdict m'.2) (slots : Slots fs) :
    take fs slots m = take fs slots m' := by
  induction fs with
  | nil => rfl
  | cons f fs ih =>
      obtain ⟨slot, slots⟩ := slots
      have hlater := ih (fun g hg => h g (List.mem_cons_of_mem f hg)) slots
      simp only [take, ← hname, hlater]
      split_ifs with hown
      · rw [h f List.mem_cons_self hown]
      · rfl

theorem takeAll_congr {fs : List Field} {ms ms' : List Member}
    (h : List.Forall₂
      (fun m m' => m.1 = m'.1 ∧ ∀ f ∈ fs, f.name = m.1 → f.verdict m.2 = f.verdict m'.2) ms ms')
    (slots : Slots fs) : takeAll fs slots ms = takeAll fs slots ms' := by
  induction h generalizing slots with
  | nil => rfl
  | cons hm _ ih =>
      simp only [takeAll, take_congr hm.1 hm.2]
      exact bind_congr ih

theorem judgeItems_congr {fs : List Field} {tooShort : Nat → Mismatch} {read : Nat}
    {vs vs' : List (List Char)} (hlength : vs.length = vs'.length)
    (h : List.Forall₂ (fun m m' : Member => ∀ f ∈ fs, f.name = m.1 → f.verdict m.2 = f.verdict m'.2)
      ((fs.map Field.name).zip vs) ((fs.map Field.name).zip vs')) :
    judgeItems tooShort fs read vs = judgeItems tooShort fs read vs' := by
  induction fs generalizing read vs vs' with
  | nil => cases vs <;> cases vs' <;> first | rfl | cases hlength
  | cons f fs ih =>
      cases vs with
      | nil =>
          obtain rfl := List.length_eq_zero_iff.1 hlength.symm
          rfl
      | cons v vs =>
          obtain ⟨v', vs', rfl⟩ := List.exists_cons_of_length_eq_add_one hlength.symm
          simp only [List.map_cons, List.zip_cons_cons, List.forall₂_cons] at h
          obtain ⟨hfirst, hlater⟩ := h
          rw [judgeItems, judgeItems, hfirst f List.mem_cons_self rfl, ih (by simpa using hlength)
            (hlater.imp fun m m' hm g hg => hm g (List.mem_cons_of_mem f hg))]

/-- A payment request is the same in any spelling, and so is what is wrong with it. -/
theorem Respells.decode {t t' : String} (h : Respells t t') :
    forget (Wire.decode PaymentRequest t) = forget (Wire.decode PaymentRequest t') := by
  cases h with
  | object hms ht ht' =>
      rw [Record.decode_object ht, Record.decode_object ht', judge, judge,
        takeAll_congr (hms.imp fun m m' hm => ⟨hm.1, hm.verdict⟩)]
  | array hlength hvs ht ht' =>
      rw [Record.decode_array ht, Record.decode_array ht',
        judgeItems_congr hlength (hvs.imp fun m m' hm => hm.verdict)]

/-! ## Places of flaws -/

/-- What is wrong, if anything is, has a place. -/
def Placed {α : Type} (x : Except Flaw α) : Prop :=
  ∀ flaw, x = .error flaw → ∃ left, flaw.place = .settled left

section Placed
variable {α β : Type}

theorem placed_ok (a : α) : Placed (.ok a) := nofun

theorem placed_within (cause : Malformation) (rest : List Char) :
    Placed (.error (.within cause rest) : Except Flaw α) := by
  rintro flaw ⟨⟩
  exact ⟨_, rfl⟩

theorem Placed.bind {x : Except Flaw α} {f : α → Except Flaw β} (hx : Placed x) (hf : ∀ a, Placed (f a)) :
    Placed (x >>= f) := by
  cases x with
  | ok a => exact hf a
  | error flaw =>
      rintro _ ⟨⟩
      exact hx flaw rfl

theorem placed_settle (readOn : List Char → List Char) (x : Except Flaw α) :
    Placed (x.mapError (.settle readOn)) := by
  cases x with
  | ok a => exact placed_ok a
  | error flaw =>
      rintro _ ⟨⟩
      obtain ⟨fault, left | rest⟩ := flaw <;> exact ⟨_, rfl⟩

theorem placed_closeObject (cs : List Char) : Placed (closeObject cs) := by
  unfold closeObject
  split
  · exact placed_ok _
  all_goals exact placed_within _ _

theorem placed_closeArray (cs : List Char) : Placed (closeArray cs) := by
  unfold closeArray
  split
  · exact placed_ok _
  · exact placed_within _ _
  · split <;> exact placed_within _ _
  · exact placed_within _ _

theorem placed_readValues (record : String) (fs : List Field) {cs : List Char}
    (h : ∃ rest, afterBlanks cs = '\x7b' :: rest ∨ afterBlanks cs = '[' :: rest) :
    Placed (readValues record fs cs) := by
  obtain ⟨rest, h | h⟩ := h
  · simp only [readValues, h]
    exact (placed_settle _ _).bind fun read => (placed_closeObject _).bind fun rest => placed_ok _
  · simp only [readValues, h]
    exact (placed_settle _ _).bind fun read => (placed_closeArray _).bind fun rest => placed_ok _

/-- What is wrong with an object or an array has a place. -/
theorem placed_decode [Record α] {t : String}
    (h : ∃ rest, afterBlanks t.toList = '\x7b' :: rest ∨ afterBlanks t.toList = '[' :: rest) :
    Placed (Wire.decode α t) := by
  refine Placed.bind ((placed_readValues _ _ h).bind fun read => placed_ok _) fun (a, rest) => ?_
  dsimp only
  split
  · exact placed_ok _
  · exact placed_within _ _

theorem IsObject.placed [Record α] {ms : List Member} {t : String} (h : Holds (IsObject ms) t) :
    Placed (Wire.decode α t) := by
  obtain ⟨bs, cs, es, hbs, hobject, -, ht⟩ := h
  obtain ⟨ds, rfl⟩ : ∃ ds, cs = '\x7b' :: ds := by cases hobject <;> exact ⟨_, rfl⟩
  refine placed_decode ⟨ds ++ es, .inl ?_⟩
  rw [ht, List.cons_append, afterBlanks_of_append hbs (by decide)]

theorem IsArray.placed [Record α] {vs : List (List Char)} {t : String} (h : Holds (IsArray vs) t) :
    Placed (Wire.decode α t) := by
  obtain ⟨bs, cs, es, hbs, harray, -, ht⟩ := h
  obtain ⟨ds, rfl⟩ : ∃ ds, cs = '[' :: ds := by cases harray <;> exact ⟨_, rfl⟩
  refine placed_decode ⟨ds ++ es, .inr ?_⟩
  rw [ht, List.cons_append, afterBlanks_of_append hbs (by decide)]

theorem Respells.placed [Record α] {t t' : String} (h : Respells t t') :
    Placed (Wire.decode α t) ∧ Placed (Wire.decode α t') := by
  cases h with
  | object _ ht ht' => exact ⟨IsObject.placed ht, IsObject.placed ht'⟩
  | array _ _ ht ht' => exact ⟨IsArray.placed ht, IsArray.placed ht'⟩

end Placed

end Json
end Purse
