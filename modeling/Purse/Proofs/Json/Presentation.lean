import Purse.Proofs.Json.Faithful
import Purse.Proofs.Json.Members
import Mathlib.Data.List.Induction

/-!
# Records in any presentation

The members of an object that a record is read from may come in any order, among members of other names.
A member is refused if the field of its name refuses the text of its value. If no field is given twice, an
object is read as the values its members give to the fields, unless a member is refused: then the first
refused member, in the order of the text, decides what is wrong. So the order cannot matter to a record
that is read, and it matters to the complaint only where there are two to choose from.
-/
namespace Purse.Json

/-! ## Members and fields -/

/-- What is wrong with a member by itself. -/
def refusal? : List Field → Member → Option Fault
  | [], _ => none
  | f :: fs, m =>
    if f.name = m.1 then
      match f.verdict m.2 with
      | .error fault => some fault
      | .ok _ => none
    else refusal? fs m

/-- The members whose names are among these. -/
def known (names : List String) (ms : List Member) : List Member := ms.filter fun m => m.1 ∈ names

/-- Each of these names is the name of one member at most. -/
def GivenOnce (names : List String) (ms : List Member) : Prop :=
  ∀ name ∈ names, (ms.map Prod.fst).count name ≤ 1

instance (names : List String) (ms : List Member) : Decidable (GivenOnce names ms) :=
  inferInstanceAs (Decidable (∀ name ∈ names, _))

/-- All refused members are refused with one fault. -/
def OneFault (fs : List Field) (ms : List Member) : Prop :=
  ∀ m ∈ ms, ∀ m' ∈ ms, ∀ fault fault', refusal? fs m = some fault → refusal? fs m' = some fault' →
    fault = fault'

/-- The value that the first member of its name gives to a field. -/
def Field.given (f : Field) (ms : List Member) : Option f.Carrier :=
  (ms.find? fun m => m.1 = f.name).bind fun m => (f.verdict m.2).toOption

def slotsOf : (fs : List Field) → List Member → Slots fs
  | [], _ => ()
  | f :: fs, ms => (f.given ms, slotsOf fs ms)

theorem refusal?_of_unknown {fs : List Field} {m : Member} (h : m.1 ∉ fs.map Field.name) :
    refusal? fs m = none := by
  induction fs with
  | nil => rfl
  | cons f fs ih =>
      rw [List.map_cons, List.mem_cons, not_or] at h
      rw [refusal?, if_neg (Ne.symm h.1), ih h.2]

theorem find?_fresh {ms : List Member} {name : String} (h : name ∉ ms.map Prod.fst) :
    ms.find? (fun m => m.1 = name) = none := by
  rw [List.find?_eq_none]
  intro m hm hname
  exact h (List.mem_map.2 ⟨m, hm, of_decide_eq_true hname⟩)

theorem find?_of_count {ms : List Member} {name : String} (h : (ms.map Prod.fst).count name ≤ 1)
    {m : Member} : ms.find? (fun m => m.1 = name) = some m ↔ m ∈ ms ∧ m.1 = name := by
  constructor
  · intro hfind
    exact ⟨List.mem_of_find?_eq_some hfind, by simpa using List.find?_some hfind⟩
  · rintro ⟨hm, hname⟩
    obtain ⟨before, after, rfl⟩ := List.append_of_mem hm
    have hbefore : name ∉ before.map Prod.fst := by
      rw [← List.count_eq_zero]
      simp only [List.map_append, List.map_cons, List.count_append, List.count_cons, hname, beq_self_eq_true,
        if_true] at h
      omega
    rw [List.find?_append, find?_fresh hbefore, Option.none_or, List.find?_cons_of_pos (by simpa using hname)]

theorem Field.given_fresh {f : Field} {ms : List Member} (h : f.name ∉ ms.map Prod.fst) :
    f.given ms = none := by
  rw [Field.given, find?_fresh h]
  rfl

theorem Field.given_insert_other {f : Field} {m : Member} (h : m.1 ≠ f.name) (before after : List Member) :
    f.given (before ++ m :: after) = f.given (before ++ after) := by
  rw [Field.given, List.find?_append, List.find?_cons_of_neg (by simpa using h), ← List.find?_append]
  rfl

theorem Field.given_insert_own {f : Field} {m : Member} (h : f.name = m.1) {before : List Member}
    (hfresh : m.1 ∉ before.map Prod.fst) (after : List Member) :
    f.given (before ++ m :: after) = (f.verdict m.2).toOption := by
  rw [Field.given, List.find?_append, find?_fresh (h ▸ hfresh), Option.none_or,
    List.find?_cons_of_pos (by simpa using h.symm)]
  rfl

theorem slotsOf_insert_other {fs : List Field} {m : Member} (h : m.1 ∉ fs.map Field.name)
    (before after : List Member) : slotsOf fs (before ++ m :: after) = slotsOf fs (before ++ after) := by
  induction fs with
  | nil => rfl
  | cons f fs ih =>
      rw [List.map_cons, List.mem_cons, not_or] at h
      rw [slotsOf, slotsOf, Field.given_insert_other h.1, ih h.2]

theorem slotsOf_nil (fs : List Field) : slotsOf fs [] = .empty fs := by
  induction fs with
  | nil => rfl
  | cons f fs ih => rw [slotsOf, ih]; rfl

/-! ## Taking up members -/

/-- A member of a name that is new fills the slot of its field, unless it is refused. -/
theorem take_slotsOf {fs : List Field} (hnames : (fs.map Field.name).Nodup) {ms : List Member} {m : Member}
    (hfresh : m.1 ∈ fs.map Field.name → m.1 ∉ ms.map Prod.fst) :
    take fs (slotsOf fs ms) m =
      match refusal? fs m with
      | some fault => .error fault
      | none => .ok (slotsOf fs (ms ++ [m])) := by
  induction fs with
  | nil => rfl
  | cons f fs ih =>
      rw [List.map_cons, List.nodup_cons] at hnames
      by_cases hname : f.name = m.1
      · have hnew : m.1 ∉ ms.map Prod.fst := hfresh (by simp [hname])
        have hothers : slotsOf fs (ms ++ [m]) = slotsOf fs ms := by
          rw [slotsOf_insert_other (hname ▸ hnames.1), List.append_nil]
        have hslot : f.given ms = none := Field.given_fresh (hname ▸ hnew)
        have hown := Field.given_insert_own hname hnew []
        simp only [slotsOf, take, refusal?, if_pos hname, hslot, hown, hothers]
        cases f.verdict m.2 <;> rfl
      · have hlater := ih hnames.2 fun hm => hfresh (List.mem_cons_of_mem _ hm)
        have hslot : f.given (ms ++ [m]) = f.given ms := by
          rw [Field.given_insert_other (Ne.symm hname), List.append_nil]
        simp only [slotsOf, take, refusal?, if_neg hname, hlater, hslot]
        cases refusal? fs m <;> rfl

/-- A member whose field is taken is not taken up. -/
theorem fresh_of_take {fs : List Field} {ms : List Member} {m : Member} {slots : Slots fs}
    (hms : ∀ m' ∈ ms, m'.1 = m.1 → refusal? fs m' = none) (htake : take fs (slotsOf fs ms) m = .ok slots)
    (hm : m.1 ∈ fs.map Field.name) : m.1 ∉ ms.map Prod.fst := by
  induction fs with
  | nil => simp at hm
  | cons f fs ih =>
      by_cases hname : f.name = m.1
      · intro hmem
        obtain ⟨m', hfind⟩ : ∃ m', ms.find? (fun m => m.1 = f.name) = some m' := by
          rw [← Option.isSome_iff_exists, List.find?_isSome]
          obtain ⟨m', hm', heq⟩ := List.mem_map.1 hmem
          exact ⟨m', hm', by simp [heq, hname]⟩
        have hname' : f.name = m'.1 := Eq.symm (by simpa using List.find?_some hfind)
        have haccepted := hms m' (List.mem_of_find?_eq_some hfind) (hname'.symm.trans hname)
        simp only [refusal?, if_pos hname'] at haccepted
        simp only [slotsOf, take, if_pos hname, Field.given, hfind, Option.bind_some] at htake
        cases hverdict : f.verdict m'.2 with
        | error fault => simp [hverdict] at haccepted
        | ok v => simp [hverdict, Except.toOption] at htake
      · simp only [slotsOf, take, if_neg hname] at htake
        cases hrest : take fs (slotsOf fs ms) m with
        | error fault => simp [hrest, Except.map] at htake
        | ok taken =>
            refine ih (fun m' hm' heq => ?_) hrest (by simpa [Ne.symm hname] using hm)
            have haccepted := hms m' hm' heq
            rwa [refusal?, if_neg (heq ▸ hname)] at haccepted

theorem takeAll_append (fs : List Field) (slots : Slots fs) (ms : List Member) (m : Member) :
    takeAll fs slots (ms ++ [m]) = takeAll fs slots ms >>= fun slots => take fs slots m := by
  induction ms generalizing slots with
  | nil =>
      simp only [List.nil_append, takeAll, bind, Except.bind]
      cases take fs slots m <;> rfl
  | cons m' ms ih =>
      simp only [List.cons_append, takeAll]
      cases take fs slots m' with
      | error fault => rfl
      | ok slots => exact ih slots

theorem GivenOnce.init {names : List String} {ms : List Member} {m : Member}
    (h : GivenOnce names (ms ++ [m])) :
    GivenOnce names ms ∧ (m.1 ∈ names → m.1 ∉ ms.map Prod.fst) := by
  constructor
  · intro name hname
    have := h name hname
    rw [List.map_append, List.count_append] at this
    omega
  · intro hm
    have := h m.1 hm
    rw [List.map_append, List.count_append, List.map_singleton, List.count_singleton_self] at this
    rw [← List.count_eq_zero]
    omega

/-- By induction on the members from the last one on. -/
theorem takeAll_eq {fs : List Field} (hnames : (fs.map Field.name).Nodup) {ms : List Member}
    (honce : GivenOnce (fs.map Field.name) ms) :
    takeAll fs (.empty fs) ms =
      match ms.findSome? (refusal? fs) with
      | some fault => .error fault
      | none => .ok (slotsOf fs ms) := by
  induction ms using List.reverseRecOn with
  | nil => rw [takeAll, slotsOf_nil]; rfl
  | append_singleton ms m ih =>
      obtain ⟨hinit, hfresh⟩ := honce.init
      rw [takeAll_append, ih hinit, List.findSome?_append]
      cases ms.findSome? (refusal? fs) with
      | some fault => rfl
      | none =>
          change take fs (slotsOf fs ms) m = _
          rw [take_slotsOf hnames hfresh]
          cases hm : refusal? fs m <;> simp [List.findSome?, hm]

theorem takeAll_ok {fs : List Field} (hnames : (fs.map Field.name).Nodup) {ms : List Member}
    (honce : GivenOnce (fs.map Field.name) ms) {slots : Slots fs}
    (h : takeAll fs (.empty fs) ms = .ok slots) :
    (∀ m ∈ ms, refusal? fs m = none) ∧ slots = slotsOf fs ms := by
  rw [takeAll_eq hnames honce] at h
  cases hrefusal : ms.findSome? (refusal? fs) with
  | some fault => rw [hrefusal] at h; cases h
  | none =>
      rw [hrefusal] at h
      exact ⟨List.findSome?_eq_none_iff.1 hrefusal, (Except.ok.inj h).symm⟩

/-- What is taken up as a whole gives no field twice. -/
theorem givenOnce_of_takeAll {fs : List Field} (hnames : (fs.map Field.name).Nodup) {ms : List Member}
    {slots : Slots fs} (h : takeAll fs (.empty fs) ms = .ok slots) : GivenOnce (fs.map Field.name) ms := by
  induction ms using List.reverseRecOn generalizing slots with
  | nil => exact fun name _ => by simp
  | append_singleton ms m ih =>
      rw [takeAll_append] at h
      cases hinit : takeAll fs (.empty fs) ms with
      | error fault => rw [hinit] at h; cases h
      | ok taken =>
          have honce := ih hinit
          obtain ⟨hms, rfl⟩ := takeAll_ok hnames honce hinit
          rw [hinit] at h
          have hfresh := fresh_of_take (fun m' hm' _ => hms m' hm') h
          intro name hname
          rw [List.map_append, List.count_append, List.map_singleton, List.count_singleton]
          by_cases heq : m.1 = name
          · subst heq
            rw [List.count_eq_zero.2 (hfresh hname)]
            simp
          · simpa [heq] using honce name hname

/-- What the members of an object are, if no field is given twice. -/
theorem judge_eq {fs : List Field} (hnames : (fs.map Field.name).Nodup) {ms : List Member}
    (honce : GivenOnce (fs.map Field.name) ms) :
    judge fs ms =
      match ms.findSome? (refusal? fs) with
      | some fault => .error fault
      | none => forget (fill [] fs (slotsOf fs ms)) := by
  rw [judge, takeAll_eq hnames honce]
  cases ms.findSome? (refusal? fs) <;> rfl

theorem givenOnce_of_judge {fs : List Field} (hnames : (fs.map Field.name).Nodup) {ms : List Member}
    {values : Values fs} (h : judge fs ms = .ok values) : GivenOnce (fs.map Field.name) ms := by
  cases htaken : takeAll fs (.empty fs) ms with
  | error fault => rw [judge, htaken] at h; cases h
  | ok slots => exact givenOnce_of_takeAll hnames htaken

/-! ## Order and unknown members -/

section Known
variable {names : List String} {ms ms' : List Member} (hknown : (known names ms).Perm (known names ms'))

theorem count_known {name : String} (hname : name ∈ names) :
    ((known names ms).map Prod.fst).count name = (ms.map Prod.fst).count name := by
  have hmap : (known names ms).map Prod.fst = (ms.map Prod.fst).filter (· ∈ names) := by
    rw [known, List.filter_map]
    rfl
  rw [hmap, List.count_filter (by simpa using hname)]

theorem mem_known {m : Member} : m ∈ known names ms ↔ m ∈ ms ∧ m.1 ∈ names := by
  rw [known, List.mem_filter, decide_eq_true_iff]

include hknown

theorem GivenOnce.of_perm (h : GivenOnce names ms) : GivenOnce names ms' := fun name hname => by
  rw [← count_known hname, ← (hknown.map Prod.fst).count_eq, count_known hname]
  exact h name hname

theorem find?_of_perm (h : GivenOnce names ms) {name : String} (hname : name ∈ names) :
    ms.find? (fun m => m.1 = name) = ms'.find? (fun m => m.1 = name) := by
  ext m
  rw [find?_of_count (h name hname), find?_of_count (h.of_perm hknown name hname)]
  refine and_congr_left fun hm => ?_
  have hmem := hknown.mem_iff (a := m)
  rwa [mem_known, mem_known, hm, and_iff_left hname, and_iff_left hname] at hmem

theorem slotsOf_of_perm (h : GivenOnce names ms) {fs : List Field} (hfs : ∀ f ∈ fs, f.name ∈ names) :
    slotsOf fs ms = slotsOf fs ms' := by
  induction fs with
  | nil => rfl
  | cons f fs ih =>
      rw [slotsOf, slotsOf, Field.given, Field.given, find?_of_perm hknown h (hfs f List.mem_cons_self),
        ih fun g hg => hfs g (List.mem_cons_of_mem f hg)]

end Known

/-- Members are refused whatever stands around them. -/
theorem refused_of_perm {fs : List Field} {ms ms' : List Member}
    (hknown : (known (fs.map Field.name) ms).Perm (known (fs.map Field.name) ms'))
    {m : Member} {fault : Fault} (hm : m ∈ ms) (hrefusal : refusal? fs m = some fault) : m ∈ ms' := by
  have hname : m.1 ∈ fs.map Field.name := by
    by_contra hunknown
    rw [refusal?_of_unknown hunknown] at hrefusal
    cases hrefusal
  exact (mem_known.1 (hknown.mem_iff.1 (mem_known.2 ⟨hm, hname⟩))).1

theorem findSome?_refusal {fs : List Field} {ms : List Member} (hone : OneFault fs ms) {fault : Fault} :
    ms.findSome? (refusal? fs) = some fault ↔ ∃ m ∈ ms, refusal? fs m = some fault := by
  constructor
  · exact List.exists_of_findSome?_eq_some
  · rintro ⟨m, hm, hrefusal⟩
    cases hfirst : ms.findSome? (refusal? fs) with
    | none => rw [List.findSome?_eq_none_iff.1 hfirst m hm] at hrefusal; cases hrefusal
    | some fault' =>
        obtain ⟨m', hm', hrefusal'⟩ := List.exists_of_findSome?_eq_some hfirst
        rw [hone m hm m' hm' fault fault' hrefusal hrefusal']

section Order
variable {fs : List Field} (hnames : (fs.map Field.name).Nodup) {ms ms' : List Member}
  (hknown : (known (fs.map Field.name) ms).Perm (known (fs.map Field.name) ms'))
include hnames hknown

theorem judge_of_perm (honce : GivenOnce (fs.map Field.name) ms) (hone : OneFault fs ms) :
    judge fs ms = judge fs ms' := by
  have hone' : OneFault fs ms' := fun m hm m' hm' fault fault' h h' =>
    hone m (refused_of_perm hknown.symm hm h) m' (refused_of_perm hknown.symm hm' h') fault fault' h h'
  have hfirst : ms.findSome? (refusal? fs) = ms'.findSome? (refusal? fs) := by
    ext fault
    rw [findSome?_refusal hone, findSome?_refusal hone']
    constructor
    · rintro ⟨m, hm, h⟩
      exact ⟨m, refused_of_perm hknown hm h, h⟩
    · rintro ⟨m, hm, h⟩
      exact ⟨m, refused_of_perm hknown.symm hm h, h⟩
  rw [judge_eq hnames honce, judge_eq hnames (honce.of_perm hknown), hfirst,
    slotsOf_of_perm hknown honce fun f hf => List.mem_map_of_mem hf]

/-- What is read as a value is read as it in any order. -/
theorem judge_ok_of_perm {values : Values fs} (h : judge fs ms = .ok values) : judge fs ms' = .ok values := by
  have honce := givenOnce_of_judge hnames h
  have hnone : ∀ m ∈ ms, refusal? fs m = none := by
    rw [judge_eq hnames honce] at h
    cases hfirst : ms.findSome? (refusal? fs) with
    | none => exact List.findSome?_eq_none_iff.1 hfirst
    | some fault => rw [hfirst] at h; cases h
  have hone : OneFault fs ms := fun m hm _ _ _ _ h => by rw [hnone m hm] at h; cases h
  rw [← judge_of_perm hnames hknown honce hone, h]

end Order

/-! ## Fields left out -/

theorem refusal?_of_mem {fs : List Field} (hnames : (fs.map Field.name).Nodup) {f : Field} (hf : f ∈ fs)
    {m : Member} (hname : f.name = m.1) {a : f.Carrier} (hverdict : f.verdict m.2 = .ok a) :
    refusal? fs m = none := by
  induction fs with
  | nil => simp at hf
  | cons g fs ih =>
      rw [List.map_cons, List.nodup_cons] at hnames
      rcases List.mem_cons.1 hf with rfl | hf
      · simp only [refusal?, if_pos hname, hverdict]
      · have hother : g.name ≠ m.1 := fun heq => hnames.1 (List.mem_map.2 ⟨f, hf, hname.trans heq.symm⟩)
        rw [refusal?, if_neg hother, ih hnames.2 hf]

/-- A field that must be given. -/
theorem fill_of_missing {fs : List Field} {f : Field} (hf : f ∈ fs) (hmissing : f.missing = none)
    {ms : List Member} (hgiven : f.name ∉ ms.map Prod.fst) (rest : List Char) (values : Values fs) :
    fill rest fs (slotsOf fs ms) ≠ .ok values := by
  induction fs with
  | nil => simp at hf
  | cons g fs ih =>
      intro hfill
      simp only [slotsOf, fill] at hfill
      rcases List.mem_cons.1 hf with rfl | hf
      · rw [Field.given_fresh hgiven, hmissing] at hfill
        cases hfill
      · cases hslot : (g.given ms).or g.missing with
        | none => rw [hslot] at hfill; cases hfill
        | some v =>
            rw [hslot] at hfill
            obtain ⟨later, hlater, -⟩ := bind_eq_ok.1 hfill
            exact ih hf later hlater

theorem judge_of_missing {fs : List Field} (hnames : (fs.map Field.name).Nodup) {f : Field} (hf : f ∈ fs)
    (hmissing : f.missing = none) {ms : List Member} (hgiven : f.name ∉ ms.map Prod.fst)
    (values : Values fs) : judge fs ms ≠ .ok values := by
  intro h
  obtain ⟨slots, htaken, hfill⟩ := bind_eq_ok.1 h
  obtain ⟨-, rfl⟩ := takeAll_ok hnames (givenOnce_of_takeAll hnames htaken) htaken
  cases hvalues : fill [] fs (slotsOf fs ms) with
  | error flaw => rw [hvalues] at hfill; cases hfill
  | ok values' => exact fill_of_missing hf hmissing hgiven [] values' hvalues

section Null
variable {fs : List Field} (hnames : (fs.map Field.name).Nodup) (hfs : ∀ f ∈ fs, f.Judged) {name : String}
  (hmissing : ∀ f ∈ fs, f.name = name → f.missing.isSome) {before after : List Member}
include hfs hmissing

theorem fill_of_null (hfresh : name ∉ (before ++ after).map Prod.fst) :
    fill [] fs (slotsOf fs (before ++ (name, ['n', 'u', 'l', 'l']) :: after)) =
      fill [] fs (slotsOf fs (before ++ after)) := by
  induction fs with
  | nil => rfl
  | cons f fs ih =>
      have hlater := ih (fun g hg => hfs g (List.mem_cons_of_mem f hg))
        fun g hg => hmissing g (List.mem_cons_of_mem f hg)
      have hslot : (f.given (before ++ (name, ['n', 'u', 'l', 'l']) :: after)).or f.missing =
          (f.given (before ++ after)).or f.missing := by
        by_cases hname : f.name = name
        · obtain ⟨v, hv⟩ := Option.isSome_iff_exists.1 (hmissing f List.mem_cons_self hname)
          have hnull := (hfs f List.mem_cons_self).null v hv
          have hbefore : name ∉ before.map Prod.fst := fun h => hfresh (by simp [h])
          rw [Field.given_insert_own hname hbefore, Field.given_fresh (hname ▸ hfresh), hnull, hv]
          rfl
        · rw [Field.given_insert_other (Ne.symm hname)]
      simp only [slotsOf, fill, hslot, hlater]

include hnames in
theorem judge_of_null (hname : name ∈ fs.map Field.name)
    (honce : GivenOnce (fs.map Field.name) (before ++ (name, ['n', 'u', 'l', 'l']) :: after)) :
    judge fs (before ++ (name, ['n', 'u', 'l', 'l']) :: after) = judge fs (before ++ after) := by
  have hcount {other : String} :
      ((before ++ (name, ['n', 'u', 'l', 'l']) :: after).map Prod.fst).count other =
        ((before ++ after).map Prod.fst).count other + if name == other then 1 else 0 := by
    simp only [List.map_append, List.map_cons, List.count_append, List.count_cons, Nat.add_assoc]
  have hfresh : name ∉ (before ++ after).map Prod.fst := by
    have := honce name hname
    rw [hcount, beq_self_eq_true, if_pos rfl] at this
    rw [← List.count_eq_zero]
    omega
  have hless : GivenOnce (fs.map Field.name) (before ++ after) := fun other hother =>
    Nat.le_trans (hcount ▸ Nat.le_add_right _ _) (honce other hother)
  have hnull : refusal? fs (name, ['n', 'u', 'l', 'l']) = none := by
    obtain ⟨f, hf, heq⟩ := List.mem_map.1 hname
    obtain ⟨v, hv⟩ := Option.isSome_iff_exists.1 (hmissing f hf heq)
    exact refusal?_of_mem hnames hf heq ((hfs f hf).null v hv)
  rw [judge_eq hnames honce, judge_eq hnames hless, fill_of_null hfs hmissing hfresh, List.findSome?_append,
    List.findSome?_append, List.findSome?_cons, hnull]

end Null

/-! ## Arrays -/

theorem takeAll_other {f : Field} {fs : List Field} {ms : List Member} (h : f.name ∉ ms.map Prod.fst)
    (slot : Option f.Carrier) (slots : Slots fs) :
    takeAll (f :: fs) (slot, slots) ms = (takeAll fs slots ms).map fun slots => (slot, slots) := by
  induction ms generalizing slots with
  | nil => rfl
  | cons m ms ih =>
      rw [List.map_cons, List.mem_cons, not_or] at h
      simp only [takeAll, take, if_neg h.1]
      cases take fs slots m with
      | error fault => rfl
      | ok slots => exact ih h.2 slots

theorem judge_cons {f : Field} {fs : List Field} {v : List Char} {ms : List Member}
    (h : f.name ∉ ms.map Prod.fst) :
    judge (f :: fs) ((f.name, v) :: ms) =
      f.verdict v >>= fun a => (judge fs ms).map fun values => (a, values) := by
  simp only [judge, takeAll, Slots.empty, take, if_true]
  cases f.verdict v with
  | error fault => rfl
  | ok a =>
      simp only [Except.map, bind, Except.bind, takeAll_other h]
      cases takeAll fs (.empty fs) ms with
      | error fault => rfl
      | ok slots =>
          simp only [fill, Option.some_or, bind, Except.bind]
          cases fill [] fs slots <;> rfl

/-- An array is the object of its values in the order of the fields. -/
theorem judge_zip {fs : List Field} (hnames : (fs.map Field.name).Nodup) {vs : List (List Char)}
    (hcount : vs.length = fs.length) (tooShort : Nat → Mismatch) (read : Nat) :
    judge fs ((fs.map Field.name).zip vs) = judgeItems tooShort fs read vs := by
  induction fs generalizing vs read with
  | nil =>
      obtain rfl := List.length_eq_zero_iff.1 hcount
      rfl
  | cons f fs ih =>
      obtain ⟨v, vs, rfl⟩ := List.exists_cons_of_length_eq_add_one hcount
      rw [List.length_cons, List.length_cons, Nat.add_right_cancel_iff] at hcount
      rw [List.map_cons, List.nodup_cons] at hnames
      have hothers : f.name ∉ ((fs.map Field.name).zip vs).map Prod.fst := by
        rw [List.map_fst_zip (by rw [List.length_map, hcount])]
        exact hnames.1
      rw [List.map_cons, List.zip_cons_cons, judge_cons hothers, ih hnames.2 hcount (read + 1)]
      rfl

end Json

namespace Record

open Json

/-! ## What does not matter in a text -/

/-- What a record is read as goes by the members of an object alone, and hardly by their order. -/
structure Indifferent (α : Type) [Record α] : Prop where
  /-- Members of the same known names and values, in any order and among members of any other names, are
  read as the same record. -/
  value {ms ms' : List Member} {t t' : String} : Holds (IsObject ms) t → Holds (IsObject ms') t' →
    (known (names α) ms).Perm (known (names α) ms') → ∀ a, Wire.decode α t = .ok a ↔ Wire.decode α t' = .ok a
  /-- If no field is given twice and there is one fault only to be found in the members, it is found in any
  order. -/
  fault {ms ms' : List Member} {t t' : String} : Holds (IsObject ms) t → Holds (IsObject ms') t' →
    (known (names α) ms).Perm (known (names α) ms') → GivenOnce (names α) ms → OneFault (fields α) ms →
      forget (Wire.decode α t) = forget (Wire.decode α t')
  /-- If no field is given twice, the first member that is refused decides. -/
  first {ms : List Member} {t : String} {fault : Json.Fault} : Holds (IsObject ms) t →
    GivenOnce (names α) ms → ms.findSome? (refusal? (fields α)) = some fault →
      forget (Wire.decode α t) = .error fault
  /-- An array with a value for each field is the object of these values in the order of the fields. -/
  array {vs : List (List Char)} {t t' : String} : vs.length = (names α).length → Holds (IsArray vs) t →
    Holds (IsObject ((names α).zip vs)) t' → forget (Wire.decode α t) = forget (Wire.decode α t')
  /-- Leaving out a field that may be missing is giving it as `null`. -/
  omitted {f : Field} {before after : List Member} {t t' : String} : f ∈ fields α → f.missing.isSome →
    GivenOnce (names α) (before ++ (f.name, ['n', 'u', 'l', 'l']) :: after) →
    Holds (IsObject (before ++ (f.name, ['n', 'u', 'l', 'l']) :: after)) t →
    Holds (IsObject (before ++ after)) t' → forget (Wire.decode α t) = forget (Wire.decode α t')
  /-- No other field may be left out. -/
  missing {f : Field} {ms : List Member} {t : String} : f ∈ fields α → f.missing = none →
    f.name ∉ ms.map Prod.fst → Holds (IsObject ms) t → ∀ a, Wire.decode α t ≠ .ok a
  /-- No field may be given twice. -/
  repeated {ms : List Member} {t : String} {name : String} : name ∈ names α →
    2 ≤ (ms.map Prod.fst).count name → Holds (IsObject ms) t → ∀ a, Wire.decode α t ≠ .ok a

variable {α : Type} [Record α] [Judged α]

theorem exists_judge_of_decode {ms : List Member} {t : String} (ht : Holds (IsObject ms) t) {a : α}
    (h : Wire.decode α t = .ok a) : ∃ values, judge (fields α) ms = .ok values ∧ ofValues values = a := by
  have hread := decode_object ht (α := α)
  rw [h, forget_ok] at hread
  cases hjudge : judge (fields α) ms with
  | error fault => rw [hjudge] at hread; cases hread
  | ok values => rw [hjudge] at hread; exact ⟨values, rfl, (Except.ok.inj hread).symm⟩

theorem decode_of_perm {ms ms' : List Member} {t t' : String} (ht : Holds (IsObject ms) t)
    (ht' : Holds (IsObject ms') t') (hknown : (known (names α) ms).Perm (known (names α) ms')) {a : α}
    (h : Wire.decode α t = .ok a) : Wire.decode α t' = .ok a := by
  obtain ⟨values, hvalues, rfl⟩ := exists_judge_of_decode ht h
  rw [← forget_eq_ok, decode_object ht', judge_ok_of_perm Judged.names hknown hvalues]
  rfl

theorem indifferent : Indifferent α where
  value ht ht' hknown a := ⟨decode_of_perm ht ht' hknown, decode_of_perm ht' ht hknown.symm⟩
  fault ht ht' hknown honce hone := by
    rw [decode_object ht, decode_object ht', judge_of_perm Judged.names hknown honce hone]
  first ht honce hfirst := by
    rw [decode_object ht, judge_eq Judged.names honce, hfirst]
    rfl
  array {vs t t'} hcount ht ht' := by
    rw [names, List.length_map] at hcount
    rw [decode_array ht, decode_object ht', names, judge_zip Judged.names hcount]
  omitted {f before after t t'} hf hmissing honce ht ht' := by
    have hnull : ∀ g ∈ fields α, g.name = f.name → g.missing.isSome := fun g hg heq => by
      rwa [List.inj_on_of_nodup_map Judged.names hg hf heq]
    rw [decode_object ht, decode_object ht',
      judge_of_null Judged.names Judged.fields hnull (List.mem_map_of_mem hf) honce]
  missing hf hmissing hgiven ht a h := by
    obtain ⟨values, hvalues, -⟩ := exists_judge_of_decode ht h
    exact judge_of_missing Judged.names hf hmissing hgiven values hvalues
  repeated {ms t name} hname htwice ht a h := by
    obtain ⟨values, hvalues, -⟩ := exists_judge_of_decode ht h
    have := givenOnce_of_judge Judged.names hvalues name hname
    omega

end Record

/-! ## The vocabulary -/

namespace Json.Field

variable (name : String) {α : Type} [Wire α] [Json.Judged α]

@[simp] theorem judged_required : (required name α).Judged where
  judges := (Json.Judged.judges : Judges (Wire.read : Reader α))
  null _ h := nomatch h

@[simp] theorem judged_omitted : (omitted name α).Judged where
  judges := judges_readOption (Json.Judged.judges : Judges (Wire.read : Reader α))
  null _ h := by
    obtain rfl := Option.some.inj h
    rfl

@[simp] theorem judged_optional : (optional name α).Judged :=
  ⟨(judged_omitted name).judges, (judged_omitted name).null⟩

@[simp] theorem judged_trailing : (trailing name α).Judged :=
  ⟨(judged_omitted name).judges, (judged_omitted name).null⟩

end Json.Field

instance : Record.Judged Wallet := ⟨by decide, by simp [Record.fields]⟩
instance : Record.Judged Entry := ⟨by decide, by simp [Record.fields]⟩
instance : Record.Judged Payment := ⟨by decide, by simp [Record.fields]⟩
instance : Record.Judged Checkout := ⟨by decide, by simp [Record.fields]⟩
instance : Record.Judged DepositRequest := ⟨by decide, by simp [Record.fields]⟩
instance : Record.Judged WithdrawRequest := ⟨by decide, by simp [Record.fields]⟩
instance : Record.Judged PaymentRequest := ⟨by decide, by simp [Record.fields]⟩
instance : Record.Judged Verdict := ⟨by decide, by simp [Record.fields]⟩
instance : Record.Judged BalanceReport := ⟨by decide, by simp [Record.fields]⟩
instance : Record.Judged Acknowledgement := ⟨by decide, by simp [Record.fields]⟩
instance : Record.Judged PageQuery := ⟨by decide, by simp [Record.fields]⟩

/-- Whatever record a text is read as, the presentation of the members does not matter. -/
theorem vocabulary_indifferent :
    Record.Indifferent Wallet ∧
    Record.Indifferent Entry ∧
    Record.Indifferent Payment ∧
    Record.Indifferent Checkout ∧
    Record.Indifferent DepositRequest ∧
    Record.Indifferent WithdrawRequest ∧
    Record.Indifferent PaymentRequest ∧
    Record.Indifferent Verdict ∧
    Record.Indifferent BalanceReport ∧
    Record.Indifferent Acknowledgement ∧
    Record.Indifferent PageQuery :=
  ⟨Record.indifferent, Record.indifferent, Record.indifferent, Record.indifferent, Record.indifferent,
    Record.indifferent, Record.indifferent, Record.indifferent, Record.indifferent, Record.indifferent,
    Record.indifferent⟩

/-- All members but one are refused, and the first of them is another one in another order: a method that
is no name makes a text malformed, an identifier that is none does not. -/
theorem PaymentRequest.fault_of_order :
    let ms : List Json.Member := [("booking_id", ['n', 'u', 'l', 'l']), ("method", ['n', 'u', 'l', 'l']),
      ("amount", ['t', 'r', 'u', 'e']), ("user_id", ['t', 'r', 'u', 'e'])]
    Json.Holds (Json.IsObject ms) (Json.compact ms) ∧
      Json.Holds (Json.IsObject ms.reverse) (Json.compact ms.reverse) ∧
      ms.reverse.map Prod.fst = Record.names PaymentRequest ∧
      Json.forget (Wire.decode PaymentRequest (Json.compact ms)) = .error (.malformed .noValue) ∧
      Json.forget (Wire.decode PaymentRequest (Json.compact ms.reverse)) =
        .error (.mismatch (.kind (.truth true) "a formatted UUID string")) := by
  intro ms
  have hms : ∀ m ∈ ms, (∀ c ∈ m.1.toList, Json.IsBare c) ∧ Json.IsValue m.2 := by
    have hnull : Json.IsValue ['n', 'u', 'l', 'l'] := .wordNull
    have htrue : Json.IsValue ['t', 'r', 'u', 'e'] := .wordTrue
    simp only [ms, List.forall_mem_cons, hnull, htrue, and_true]
    exact ⟨Json.bare_of_all (by decide), Json.bare_of_all (by decide), Json.bare_of_all (by decide),
      Json.bare_of_all (by decide), fun _ h => nomatch h⟩
  have htext := Json.holds_compact hms
  have htext' : Json.Holds (Json.IsObject ms.reverse) (Json.compact ms.reverse) :=
    Json.holds_compact fun m hm => hms m (List.mem_reverse.1 hm)
  have honce : Json.GivenOnce (Record.names PaymentRequest) ms := by decide
  have honce' : Json.GivenOnce (Record.names PaymentRequest) ms.reverse := by decide
  exact ⟨htext, htext', rfl, Record.indifferent.first htext honce rfl,
    Record.indifferent.first htext' honce' rfl⟩

end Purse
