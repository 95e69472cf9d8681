import Purse.Proofs.Json.Composite
import Purse.Proofs.Json.Presentation

/-!
# One field among others

What stands in a text for one field of a record decides about that field alone. If an object is read with some
text as the value of the field, then with any other text the other fields get the same values, and the field
gets what it makes of the text, unless it refuses it.
-/
namespace Purse
namespace Json

/-- The position of a field among others. -/
inductive Field.Among (f : Field) : List Field → Type 1
  | here {fs : List Field} : f.Among (f :: fs)
  | there {g : Field} {fs : List Field} : f.Among fs → f.Among (g :: fs)

namespace Field.Among

variable {f : Field}

/-- The value of the field. -/
def get : {fs : List Field} → f.Among fs → Values fs → f.Carrier
  | _, here, (v, _) => v
  | _, there place, (_, vs) => place.get vs

/-- The same values but for that of the field. -/
def put : {fs : List Field} → f.Among fs → f.Carrier → Values fs → Values fs
  | _, here, v, (_, vs) => (v, vs)
  | _, there place, v, (u, vs) => (u, place.put v vs)

variable {fs : List Field}

@[simp] theorem get_put (place : f.Among fs) (v : f.Carrier) (vs : Values fs) :
    place.get (place.put v vs) = v := by
  induction place with
  | here => rfl
  | there place ih => exact ih vs.2

theorem mem (place : f.Among fs) : f ∈ fs := by
  induction place with
  | here => exact List.mem_cons_self
  | there _ ih => exact List.mem_cons_of_mem _ ih

theorem name_mem (place : f.Among fs) : f.name ∈ fs.map Field.name := List.mem_map_of_mem place.mem

/-! ## Objects -/

section Objects
variable {before after : List Member} {v w : List Char} {values : Values fs}

/-- The other fields go by other members. -/
theorem slotsOf_swap (h : f.name ∉ fs.map Field.name) :
    slotsOf fs (before ++ (f.name, v) :: after) = slotsOf fs (before ++ (f.name, w) :: after) := by
  rw [slotsOf_insert_other h, slotsOf_insert_other h]

/-- By induction on the position: in front of the field and behind it the slots stay as they are. -/
theorem fill_swap (place : f.Among fs) (hnames : (fs.map Field.name).Nodup)
    (hbefore : f.name ∉ before.map Prod.fst) {x : f.Carrier} (hv : f.verdict v = .ok x)
    (hfill : fill [] fs (slotsOf fs (before ++ (f.name, w) :: after)) = .ok values) :
    fill [] fs (slotsOf fs (before ++ (f.name, v) :: after)) = .ok (place.put x values) := by
  induction place with
  | @here fs =>
      rw [List.map_cons, List.nodup_cons] at hnames
      have hown : f.given (before ++ (f.name, v) :: after) = some x := by
        rw [Field.given_insert_own rfl hbefore, hv]
        rfl
      simp only [slotsOf, fill] at hfill ⊢
      rw [hown, slotsOf_swap (w := w) hnames.1]
      split at hfill
      · cases hfill
      · obtain ⟨vs, hvs, hvalues⟩ := bind_eq_ok.1 hfill
        cases hvalues
        rw [hvs]
        rfl
  | @there g fs place ih =>
      rw [List.map_cons, List.nodup_cons] at hnames
      have hne : f.name ≠ g.name := fun heq => hnames.1 (heq ▸ place.name_mem)
      have hother (u : List Char) : g.given (before ++ (f.name, u) :: after) = g.given (before ++ after) :=
        Field.given_insert_other (m := (f.name, u)) hne before after
      simp only [slotsOf, fill, hother] at hfill ⊢
      split at hfill
      · cases hfill
      · obtain ⟨vs, hvs, hvalues⟩ := bind_eq_ok.1 hfill
        cases hvalues
        rw [ih hnames.2 hvs]
        rfl

/-- Only the field itself can refuse what stands for it. -/
theorem refusal?_eq (place : f.Among fs) (hnames : (fs.map Field.name).Nodup) :
    refusal? fs (f.name, v) =
      match f.verdict v with
      | .error fault => some fault
      | .ok _ => none := by
  induction place with
  | here => exact if_pos rfl
  | @there g fs place ih =>
      rw [List.map_cons, List.nodup_cons] at hnames
      have hne : g.name ≠ f.name := fun heq => hnames.1 (heq ▸ place.name_mem)
      rw [refusal?, if_neg hne, ih hnames.2]

/-- What an object is read as with another text for the field. -/
theorem judge_swap (place : f.Among fs) (hnames : (fs.map Field.name).Nodup)
    (h : judge fs (before ++ (f.name, w) :: after) = .ok values) :
    judge fs (before ++ (f.name, v) :: after) = (f.verdict v).map (place.put · values) := by
  have honce := givenOnce_of_judge hnames h
  have honce' : GivenOnce (fs.map Field.name) (before ++ (f.name, v) :: after) := by
    simpa [GivenOnce] using honce
  have hbefore : f.name ∉ before.map Prod.fst := by
    have := honce f.name place.name_mem
    simp only [List.map_append, List.map_cons, List.count_append, List.count_cons_self] at this
    rw [← List.count_eq_zero]
    omega
  obtain ⟨slots, htaken, hfill⟩ := bind_eq_ok.1 h
  obtain ⟨haccepted, rfl⟩ := takeAll_ok hnames honce htaken
  have hothers : before.findSome? (refusal? fs) = none ∧ after.findSome? (refusal? fs) = none := by
    constructor
    · exact List.findSome?_eq_none_iff.2 fun m hm => haccepted m (List.mem_append_left _ hm)
    · exact List.findSome?_eq_none_iff.2 fun m hm =>
        haccepted m (List.mem_append_right _ (List.mem_cons_of_mem _ hm))
  rw [judge_eq hnames honce', List.findSome?_append, hothers.1, Option.none_or, List.findSome?_cons,
    place.refusal?_eq hnames]
  cases hv : f.verdict v with
  | error fault => rfl
  | ok x =>
      simp only [hothers.2]
      rw [place.fill_swap hnames hbefore hv (forget_eq_ok.1 hfill)]
      rfl

/-- What an object gives to the field is what the field makes of its text there. -/
theorem verdict_of_judge (place : f.Among fs) (hnames : (fs.map Field.name).Nodup)
    (h : judge fs (before ++ (f.name, w) :: after) = .ok values) :
    f.verdict w = .ok (place.get values) := by
  have hself := place.judge_swap hnames h (v := w)
  rw [h] at hself
  obtain ⟨x, hx, hvalues⟩ := map_eq_ok.1 hself.symm
  rw [← hvalues, get_put, hx]

end Objects

/-! ## Arrays -/

/-- The item that stands in the place of the field. -/
theorem exists_item_of_judgeItems (place : f.Among fs) (hcut : f.cut = none) {tooShort : Nat → Mismatch}
    {read : Nat} {vs : List (List Char)} {values : Values fs}
    (h : judgeItems tooShort fs read vs = .ok values) :
    ∃ v, (f.name, v) ∈ (fs.map Field.name).zip vs ∧ f.verdict v = .ok (place.get values) := by
  induction place generalizing read vs with
  | here =>
      cases vs with
      | nil => simp [judgeItems, hcut] at h
      | cons v vs =>
          obtain ⟨a, ha, h⟩ := bind_eq_ok.1 h
          obtain ⟨values, -, rfl⟩ := map_eq_ok.1 h
          exact ⟨v, List.mem_cons_self, ha⟩
  | @there g fs place ih =>
      cases vs with
      | nil =>
          rw [judgeItems] at h
          split at h
          · cases h
          · obtain ⟨values, hvalues, rfl⟩ := map_eq_ok.1 h
            obtain ⟨v, hv, -⟩ := ih hvalues
            simp at hv
      | cons v vs =>
          obtain ⟨a, -, h⟩ := bind_eq_ok.1 h
          obtain ⟨values, hvalues, rfl⟩ := map_eq_ok.1 h
          obtain ⟨v, hv, hverdict⟩ := ih hvalues
          exact ⟨v, List.mem_cons_of_mem _ hv, hverdict⟩

end Field.Among

end Json

namespace Record

open Json

/-- A field of a record, with the record's own way to look at its value and to change it. -/
structure Accessor (α : Type) [Record α] (f : Field) where
  place : f.Among (fields α)
  get : α → f.Carrier
  put : f.Carrier → α → α
  get_ofValues : ∀ values, get (ofValues values) = place.get values
  put_ofValues : ∀ x values, put x (ofValues values) = ofValues (place.put x values)

namespace Accessor

variable {α : Type} [Record α] [Judged α] {f : Field} (accessor : Accessor α f) {t t' : String} {a : α}

/-- A record that is read from an object has what the field makes of its text there. -/
theorem verdict_of_decode {ms : List Member} (ht : Holds (IsObject ms) t) (h : Wire.decode α t = .ok a)
    {v : List Char} (hv : (f.name, v) ∈ ms) : f.verdict v = .ok (accessor.get a) := by
  obtain ⟨values, hvalues, rfl⟩ := exists_judge_of_decode ht h
  obtain ⟨before, after, rfl⟩ := List.append_of_mem hv
  rw [accessor.get_ofValues]
  exact accessor.place.verdict_of_judge Judged.names hvalues

/-- With another text for the field the record is read as well, unless the field refuses it, and it is the
same one but for the field. -/
theorem decode_swap {before after : List Member} {v w : List Char}
    (ht : Holds (IsObject (before ++ (f.name, w) :: after)) t) (h : Wire.decode α t = .ok a)
    (ht' : Holds (IsObject (before ++ (f.name, v) :: after)) t') :
    forget (Wire.decode α t') = (f.verdict v).map (accessor.put · a) := by
  obtain ⟨values, hvalues, rfl⟩ := exists_judge_of_decode ht h
  rw [decode_object ht', accessor.place.judge_swap Judged.names hvalues]
  cases f.verdict v with
  | error fault => rfl
  | ok x => exact congrArg Except.ok (accessor.put_ofValues x values).symm

theorem exists_item_of_decode (hcut : f.cut = none) {vs : List (List Char)} (ht : Holds (IsArray vs) t)
    (h : Wire.decode α t = .ok a) :
    ∃ v, (f.name, v) ∈ (names α).zip vs ∧ f.verdict v = .ok (accessor.get a) := by
  have hread := decode_array ht (α := α)
  rw [h, forget_ok] at hread
  obtain ⟨values, hvalues, rfl⟩ := map_eq_ok.1 hread.symm
  rw [accessor.get_ofValues]
  exact accessor.place.exists_item_of_judgeItems hcut hvalues

end Accessor
end Record
end Purse
